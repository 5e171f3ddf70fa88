import SignedRest.Call.Invoke

/-! Calls field by field: state, request and response stand side by side and are set one after the
other. A hook is given the call itself, and may do to it whatever can be done to a call. -/
namespace SignedRest

structure CallFields where
  draft : Draft
  state : CallState
  request? : Option Request
  response? : Option Response
  deriving DecidableEq, Repr

structure CallHook where
  prepare : Endpoint → Moment → Action CallFields Unit
  serialize : Endpoint → Moment → Action CallFields (Option Payload)

structure CallService where
  endpoint : Endpoint
  hook : Option CallHook

namespace CallFields

def fresh (d : Draft) : CallFields := ⟨d, .unprepared, none, none⟩

def edit (f : Draft → Draft) (c : CallFields) : CallFields := { c with draft := f c.draft }

def setState (state : CallState) : Action CallFields Unit :=
  Action.modify fun c => { c with state := state }

def runHook (s : CallService) (m : Moment) : Action CallFields (Option Payload) :=
  match s.hook with
  | none => pure none
  | some hook => do
    Action.emit [.hookPrepared]
    hook.prepare s.endpoint m
    Action.emit [.hookSerialized]
    hook.serialize s.endpoint m

def build (s : CallService) (m : Moment) : Action CallFields Request := do
  let custom ← runHook s m
  let c ← Action.get
  Action.ofExcept (Call.requestOf s.endpoint m custom c.draft)

/-- Builds the request and keeps it. Whatever the hook has made of the state is overwritten. -/
def make (s : CallService) (m : Moment) : Action CallFields Request := fun c =>
  let o := build s m c
  match o.result with
  | .ok r => ⟨{ o.state with state := .prepared, request? := some r }, o.events, .ok r⟩
  | .error e => ⟨{ o.state with state := .failed }, o.events, .error e⟩

def prepare (s : CallService) (m : Moment) : Action CallFields Request := fun c =>
  match c.state with
  | .unprepared => make s m c
  | .prepared =>
    match c.request? with
    | some r => ⟨c, [], .ok r⟩
    | none => make s m c
  | state => ⟨c, [.logged (.reused state)], .error .callReused⟩

def begin (s : CallService) (m : Moment) : Action CallFields Request := do
  let r ← prepare s m
  setState .inFlight
  pure r

def finish (debug : DebugFlags) (r : Request) (result : Except Error Response) :
    Action CallFields Response := do
  Action.emit (if debug.calls then [.logged (Call.outcomeRecord r result)] else [])
  match result with
  | .ok response => do
    Action.modify fun c => { c with response? := some response }
    match response.checkStatus with
    | .ok () => do
      setState .completed
      pure response
    | .error e => do
      setState .failed
      Action.fail e
  | .error .cancelled => do
    setState .cancelled
    Action.fail .cancelled
  | .error e => do
    setState .failed
    Action.fail e

def invokeVia (s : CallService) (m : Moment) (mode : Http.Mode) (isCancelled : Bool)
    (transport : Transport) : Action CallFields (Option Response) := do
  let r ← begin s m
  let (events, ending) := Call.convey s.endpoint.config mode isCancelled transport r
  Action.emit events
  match ending with
  | some result => do
    let response ← finish s.endpoint.config.debug r result
    pure (some response)
  | none => pure none

end CallFields

def Action.onDraft {α : Type} (x : Action Draft α) : Action CallFields α := fun c =>
  ⟨{ c with draft := (x c.draft).state }, (x c.draft).events, (x c.draft).result⟩

def Hook.onCall (hook : Hook) : CallHook :=
  ⟨fun e m => (hook.prepare e m).onDraft, fun e m => (hook.serialize e m).onDraft⟩

def Service.onCall (s : Service) : CallService := ⟨s.endpoint, s.hook.map Hook.onCall⟩

/-- What can be seen of a call. -/
def Call.fields (c : Call) : CallFields := ⟨c.draft, c.state, c.request?, c.response?⟩

end SignedRest
