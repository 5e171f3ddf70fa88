import SignedRest.Action
import SignedRest.Endpoint
import SignedRest.Time.Instant

/-! What a call is going to ask for, as long as it may still be changed, and services: an endpoint,
and a hook that sees every call before it becomes a request. -/
namespace SignedRest

structure Draft where
  method : Method
  /-- The path below the endpoint's URL. -/
  function : Option String
  headers : Headers
  params : Params
  deriving DecidableEq, Repr

namespace Draft

def empty : Draft := ⟨.get, none, .empty, .empty⟩

def addHeader (d : Draft) (name value : String) : Draft :=
  { d with headers := d.headers.add name value }

def addText (d : Draft) (name value : String) : Draft :=
  { d with params := d.params.addText name value }

def resolveUrl (d : Draft) (e : Endpoint) : Except Error String :=
  e.url.map (joinPath · d.function)

end Draft

/-- What a call takes from outside while it is prepared: the time, and random texts. -/
structure Moment where
  now : Instant
  nonce : String
  boundary : String
  deriving DecidableEq, Repr

structure Hook where
  /-- Looks at the call, changes it or refuses it. -/
  prepare : Endpoint → Moment → Action Draft Unit
  /-- May give the call a body of its own. -/
  serialize : Endpoint → Moment → Action Draft (Option Payload)

/-- A hook that leaves the body to the parameters. -/
def Hook.ofPrepare (prepare : Endpoint → Moment → Action Draft Unit) : Hook :=
  ⟨prepare, fun _ _ => pure none⟩

structure Service where
  endpoint : Endpoint
  hook : Option Hook

end SignedRest
