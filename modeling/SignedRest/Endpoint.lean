import SignedRest.Config
import SignedRest.Error

/-! An endpoint: its configuration and the URL that the template was last bound to. -/
namespace SignedRest

structure Endpoint where
  config : Config
  bound : Option String
  deriving DecidableEq, Repr

namespace Endpoint

def ofConfig (config : Config) : Endpoint := ⟨config, none⟩

def bindingRequired (e : Endpoint) : Bool :=
  e.config.bindingRequired || 0 < Template.placeCount e.config.template

/-- The template with one argument in each gap between its pieces. -/
def boundUrl (template : String) (args : List String) : Except Error String :=
  if Template.gapCount template = args.length then .ok (Template.fill template args)
  else .error (.binding (.wrongCount (Template.gapCount template) args.length))

/-- Fills the places of the template; an endpoint may be bound again. -/
def bind (e : Endpoint) (args : List String) : Except Error Endpoint :=
  (boundUrl e.config.template args).map fun url => { e with bound := some url }

def url (e : Endpoint) : Except Error String :=
  match e.bound with
  | some url => .ok url
  | none =>
    if e.bindingRequired then .error (.binding (.unbound e.config.template))
    else .ok e.config.template

end Endpoint
end SignedRest
