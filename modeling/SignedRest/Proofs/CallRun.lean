import SignedRest.Proofs.AnyTransport

/-! Calls as they are used: any number of edits, preparations and sendings, in any order, with
any transport behind them. The service of a call may be bound again, and its hook may change,
between any two of these. -/
namespace SignedRest

structure Session where
  service : Service
  call : Call

inductive Op
  /-- Any change of method, path, headers and parameters. -/
  | edit (change : Draft → Draft)
  /-- Binds the service's URL again. -/
  | bind (args : List String)
  /-- Installs another hook, or the same one in another state. -/
  | rehook (hook : Option Hook)
  | prepare (m : Moment)
  | invoke (m : Moment) (mode : Http.Mode) (isCancelled : Bool) (transport : Transport)

inductive Answer
  | done
  | request (r : Request)
  | response (r : Response)
  | dropped
  deriving DecidableEq, Repr

namespace Session

def start (service : Service) : Session := ⟨service, .empty⟩

def onCall {α : Type} (action : Service → Action Call α) (answer : α → Answer) :
    Action Session Answer := fun s =>
  let o := action s.service s.call
  ⟨{ s with call := o.state }, o.events, o.result.map answer⟩

def bind (args : List String) : Action Session Answer := fun s =>
  match s.service.endpoint.bind args with
  | .ok e => ⟨{ s with service := { s.service with endpoint := e } }, [], .ok .done⟩
  | .error e => ⟨s, [], .error e⟩

end Session

namespace Op

open Session

def ofResponse : Option Response → Answer
  | some r => .response r
  | none => .dropped

def perform : Op → Action Session Answer
  | .edit change => onCall (fun _ => Action.modify (Call.edit change)) fun _ => .done
  | .bind args => Session.bind args
  | .rehook hook => fun s => ⟨{ s with service := { s.service with hook := hook } }, [], .ok .done⟩
  | .prepare m => onCall (Call.prepare · m) .request
  | .invoke m mode isCancelled transport =>
    onCall (Call.invokeVia · m mode isCancelled transport) ofResponse

/-- Whether an operation needs a call that may still be prepared or sent. -/
def isGuarded : Op → Bool
  | .prepare _ | .invoke .. => true
  | _ => false

def isInvoke : Op → Bool
  | .invoke .. => true
  | _ => false

end Op

/-- Steps of any kind, each from where the one before it ended. -/
inductive Chained {σ τ : Type} (before after : τ → σ) : σ → List τ → Prop
  | nil (s : σ) : Chained before after s []
  | cons {x : τ} {rest : List τ} :
      Chained before after (after x) rest → Chained before after (before x) (x :: rest)

/-- What holds of the past at the start and is kept by each step holds before and after every
step. -/
theorem Chained.history {σ τ : Type} {before after : τ → σ} {holds : List τ → σ → Prop}
    (step : ∀ past x, holds past (before x) → holds (past ++ [x]) (after x)) {s : σ}
    (start : holds [] s) {past : List τ} {x : τ} {rest : List τ}
    (chain : Chained before after s (past ++ x :: rest)) :
    holds past (before x) ∧ holds (past ++ [x]) (after x) := by
  have from_ : ∀ (earlier : List τ) (s : σ) (past : List τ), holds earlier s →
      Chained before after s (past ++ x :: rest) → holds (earlier ++ past) (before x) := by
    intro earlier s past
    induction past generalizing earlier s with
    | nil =>
      intro h chain
      cases chain
      rwa [List.append_nil]
    | cons y past ih =>
      intro h chain
      cases chain with
      | cons more =>
        have next := ih (earlier ++ [y]) _ (step earlier y h) more
        rwa [List.append_assoc, List.singleton_append] at next
  have now := from_ [] s past start chain
  exact ⟨now, step past x now⟩

structure Step where
  before : Session
  op : Op

namespace Step

def outcome (x : Step) : Outcome Session Answer := x.op.perform x.before
def after (x : Step) : Session := x.outcome.state
def events (x : Step) : List Event := x.outcome.events
def result (x : Step) : Except Error Answer := x.outcome.result

end Step

/-- The steps of a run, each from where the one before it ended. -/
def trace : Session → List Op → List Step
  | _, [] => []
  | s, op :: ops => ⟨s, op⟩ :: trace (Step.after ⟨s, op⟩) ops

theorem chained_trace (s : Session) (ops : List Op) :
    Chained Step.before Step.after s (trace s ops) := by
  induction ops generalizing s with
  | nil => exact .nil s
  | cons op ops ih => exact .cons (x := ⟨s, op⟩) (ih _)

def traceEvents (steps : List Step) : List Event := steps.flatMap Step.events

@[simp] theorem traceEvents_nil : traceEvents [] = [] := rfl

@[simp] theorem traceEvents_cons (x : Step) (rest : List Step) :
    traceEvents (x :: rest) = x.events ++ traceEvents rest := rfl

namespace Step

/-- The operation was told that the call is used up, and did nothing. -/
structure Refused (x : Step) : Prop where
  result : x.result = .error .callReused
  after : x.after = x.before
  events : x.events = [.logged (.reused x.before.call.state)]

def moment? (x : Step) : Option Moment :=
  match x.op with
  | .prepare m | .invoke m _ _ _ => some m
  | _ => none

/-- Preparing the call of this step, as if it had not been prepared. -/
def built (x : Step) (m : Moment) : Outcome Draft Request :=
  Call.build x.before.service m x.before.call.draft

/-- The call was to be prepared for the first time, and was not. -/
def FailsToPrepare (x : Step) : Prop :=
  x.before.call.stage = .unprepared ∧
    ∃ m e, x.moment? = some m ∧ (x.built m).result = .error e

/-- Everything that a step can do to the stage of its call. -/
inductive Effect (x : Step) : Prop
  /-- An edit, or a change of the service. -/
  | idle (unguarded : x.op.isGuarded = false) (events : x.events = [])
      (stage : x.after.call.stage = x.before.call.stage)
      (answer : ∀ r, x.result ≠ .ok (.request r))
  | refused (closed : x.before.call.stage.isClosed = true) (guarded : x.op.isGuarded = true)
      (refused : x.Refused)
  /-- Preparing again. -/
  | kept (m : Moment) (r : Request) (op : x.op = .prepare m)
      (before : x.before.call.stage = .prepared r) (events : x.events = [])
      (after : x.after = x.before) (result : x.result = .ok (.request r))
  | prepared (m : Moment) (r : Request) (op : x.op = .prepare m)
      (before : x.before.call.stage = .unprepared) (built : (x.built m).result = .ok r)
      (events : x.events = (x.built m).events) (after : x.after.call.stage = .prepared r)
      (result : x.result = .ok (.request r))
  | rejected (m : Moment) (e : Error) (moment : x.moment? = some m)
      (before : x.before.call.stage = .unprepared) (built : (x.built m).result = .error e)
      (events : x.events = (x.built m).events) (after : x.after.call.stage = .rejected)
      (result : x.result = .error e)
  | sent (m : Moment) (r : Request) (events₀ : List Event) (mode : Http.Mode)
      (isCancelled : Bool) (transport : Transport)
      (op : x.op = .invoke m mode isCancelled transport)
      (before : x.before.call.stage = .prepared r ∧ events₀ = [] ∨
        x.before.call.stage = .unprepared ∧ (x.built m).result = .ok r ∧
          events₀ = (x.built m).events)
      (events : x.events = events₀ ++
        (Call.convey x.before.service.endpoint.config mode isCancelled transport r).1 ++
        Call.endRecord x.before.service.endpoint.config.debug r
          (Call.convey x.before.service.endpoint.config mode isCancelled transport r).2)
      (after : x.after.call.stage = Call.sentStage r
        (Call.convey x.before.service.endpoint.config mode isCancelled transport r).2)
      (result : x.result = (Call.told r
        (Call.convey x.before.service.endpoint.config mode isCancelled transport r).2).map
          Op.ofResponse)

theorem effect_prepare (s : Session) (m : Moment) : Effect ⟨s, .prepare m⟩ := by
  obtain ⟨service, call⟩ := s
  rcases call.stage.cases_closed with h | ⟨r, h⟩ | h
  · have done := Call.prepare_of_unprepared (s := service) (m := m) h
    cases hb : (Call.build service m call.draft).result with
    | ok r =>
      rw [hb] at done
      refine .prepared m r rfl h hb ?_ ?_ ?_ <;>
        simp [events, after, result, outcome, Op.perform, Session.onCall, done, built, Except.map]
    | error e =>
      rw [hb] at done
      refine .rejected m e rfl h hb ?_ ?_ ?_ <;>
        simp [events, after, result, outcome, Op.perform, Session.onCall, done, built, Except.map]
  · have done := Call.prepare_of_prepared (s := service) (m := m) h
    refine .kept m r rfl h ?_ ?_ ?_ <;>
      simp [events, after, result, outcome, Op.perform, Session.onCall, done, Except.map]
  · have done := Call.prepare_of_closed (s := service) (m := m) h
    refine .refused h rfl ⟨?_, ?_, ?_⟩ <;>
      simp [events, after, result, outcome, Op.perform, Session.onCall, done, Except.map]

theorem effect_invoke (s : Session) (m : Moment) (mode : Http.Mode) (isCancelled : Bool)
    (transport : Transport) : Effect ⟨s, .invoke m mode isCancelled transport⟩ := by
  obtain ⟨service, call⟩ := s
  rcases call.stage.cases_closed with h | ⟨r, h⟩ | h
  · have done := Call.prepare_of_unprepared (s := service) (m := m) h
    cases hb : (Call.build service m call.draft).result with
    | ok r =>
      rw [hb] at done
      have ok : (Call.prepare service m call).result = .ok r := by rw [done]
      have sent := Call.invokeVia_of_ok mode isCancelled transport ok
      rw [done] at sent
      refine .sent m r (Call.build service m call.draft).events mode isCancelled transport rfl
        (.inr ⟨h, hb, rfl⟩) ?_ ?_ ?_ <;>
        simp [events, after, result, outcome, Op.perform, Session.onCall, sent]
    | error e =>
      rw [hb] at done
      have failed : (Call.prepare service m call).result = .error e := by rw [done]
      have stop := Call.invokeVia_of_error mode isCancelled transport failed
      rw [done] at stop
      refine .rejected m e rfl h hb ?_ ?_ ?_ <;>
        simp [events, after, result, outcome, Op.perform, Session.onCall, stop, built, Except.map]
  · have done := Call.prepare_of_prepared (s := service) (m := m) h
    have ok : (Call.prepare service m call).result = .ok r := by rw [done]
    have sent := Call.invokeVia_of_ok mode isCancelled transport ok
    rw [done] at sent
    refine .sent m r [] mode isCancelled transport rfl (.inl ⟨h, rfl⟩) ?_ ?_ ?_ <;>
      simp [events, after, result, outcome, Op.perform, Session.onCall, sent]
  · have done := Call.prepare_of_closed (s := service) (m := m) h
    have failed : (Call.prepare service m call).result = .error .callReused := by rw [done]
    have stop := Call.invokeVia_of_error mode isCancelled transport failed
    rw [done] at stop
    refine .refused h rfl ⟨?_, ?_, ?_⟩ <;>
      simp [events, after, result, outcome, Op.perform, Session.onCall, stop, Except.map]

theorem effect (x : Step) : x.Effect := by
  obtain ⟨s, op⟩ := x
  cases op with
  | edit change => exact .idle rfl rfl rfl fun r h => nomatch Except.ok.inj h
  | rehook hook => exact .idle rfl rfl rfl fun r h => nomatch Except.ok.inj h
  | prepare m => exact effect_prepare s m
  | invoke m mode isCancelled transport => exact effect_invoke s m mode isCancelled transport
  | bind args =>
    cases h : s.service.endpoint.bind args with
    | ok e =>
      refine .idle rfl ?_ ?_ ?_ <;>
        simp [events, after, result, outcome, Op.perform, Session.bind, h]
    | error e =>
      refine .idle rfl ?_ ?_ ?_ <;>
        simp [events, after, result, outcome, Op.perform, Session.bind, h]

end Step

end SignedRest
