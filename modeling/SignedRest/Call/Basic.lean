import SignedRest.Call.Hook

/-! Calls. A call is drafted, prepared once, sent once, and then final. -/
namespace SignedRest

/-- How far a call has come, with what it has by then. -/
inductive Stage
  | unprepared
  | prepared (request : Request)
  | inFlight (request : Request)
  | completed (request : Request) (response : Response)
  /-- The response has a status that is no success. -/
  | refused (request : Request) (response : Response)
  /-- Sending failed. -/
  | broken (request : Request)
  /-- Preparing failed. -/
  | rejected
  | cancelled (request : Request)
  deriving DecidableEq, Repr

namespace Stage

def state : Stage → CallState
  | unprepared => .unprepared
  | prepared _ => .prepared
  | inFlight _ => .inFlight
  | completed .. => .completed
  | refused .. | broken _ | rejected => .failed
  | cancelled _ => .cancelled

def request? : Stage → Option Request
  | unprepared | rejected => none
  | prepared r | inFlight r | completed r _ | refused r _ | broken r | cancelled r => some r

def response? : Stage → Option Response
  | completed _ r | refused _ r => some r
  | _ => none

end Stage

structure Call where
  draft : Draft
  stage : Stage
  deriving DecidableEq, Repr

namespace Call

def empty : Call := ⟨.empty, .unprepared⟩

def state (c : Call) : CallState := c.stage.state
def request? (c : Call) : Option Request := c.stage.request?
def response? (c : Call) : Option Response := c.stage.response?

def edit (f : Draft → Draft) (c : Call) : Call := { c with draft := f c.draft }

def contentType : String := "Content-Type"

/-- The payload decides the type of the body; its header comes last. -/
def requestHeaders (headers : Headers) (payload : Option Payload) : List (String × String) :=
  match payload with
  | some p => (headers.remove contentType).items ++ [(contentType, p.contentType)]
  | none => headers.items

def runHook (s : Service) (m : Moment) : Action Draft (Option Payload) :=
  match s.hook with
  | none => pure none
  | some hook => do
    Action.emit [.hookPrepared]
    hook.prepare s.endpoint m
    Action.emit [.hookSerialized]
    hook.serialize s.endpoint m

/-- The request that a draft makes, with the body that the hook gave or the parameters make. -/
def requestOf (e : Endpoint) (m : Moment) (custom : Option Payload) (d : Draft) :
    Except Error Request := do
  let base ← d.resolveUrl e
  let (url, payload) ← match custom with
    | some payload => pure (base, some payload)
    | none => encodeParams d.method base d.params m.boundary
  pure ⟨d.method, url, requestHeaders d.headers payload, payload⟩

def build (s : Service) (m : Moment) : Action Draft Request := do
  let custom ← runHook s m
  let d ← Action.get
  Action.ofExcept (requestOf s.endpoint m custom d)

/-- Makes the request, once: a prepared call keeps it, and a call that has been sent or refused
cannot be prepared again. -/
def prepare (s : Service) (m : Moment) : Action Call Request := fun c =>
  match c.stage with
  | .unprepared =>
    let o := build s m c.draft
    match o.result with
    | .ok r => ⟨⟨o.state, .prepared r⟩, o.events, .ok r⟩
    | .error e => ⟨⟨o.state, .rejected⟩, o.events, .error e⟩
  | .prepared r => ⟨c, [], .ok r⟩
  | _ => ⟨c, [.logged (.reused c.state)], .error .callReused⟩

end Call
end SignedRest
