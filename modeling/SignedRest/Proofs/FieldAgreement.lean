import Mathlib.Logic.Relation
import SignedRest.Call.Fields
import SignedRest.Proofs.CallRun

/-! What a call says about itself is true at every moment: its state, its request, its response
and the last thing its sender was told never contradict each other, as long as its hooks leave the
sending to others. -/
namespace SignedRest

open Relation (ReflTransGen)

/-- A call that can still be prepared or sent. -/
structure CallFields.IsOpen (c : CallFields) : Prop where
  request : c.state = .unprepared ∧ c.request? = none ∨
    c.state = .prepared ∧ ∃ r, c.request? = some r
  response : c.response? = none

/-- A hook that neither sends the call that it is given nor uses it up. -/
structure CallHook.LeavesOpen (hook : CallHook) : Prop where
  prepare : ∀ e m (c : CallFields), c.IsOpen → (hook.prepare e m c).state.IsOpen
  serialize : ∀ e m (c : CallFields), c.IsOpen → (hook.serialize e m c).state.IsOpen

def CallService.LeavesOpen (s : CallService) : Prop := ∀ hook, s.hook = some hook → hook.LeavesOpen

namespace CallFields

section
variable {s : CallService} {m : Moment} {c : CallFields}

theorem state_bind {α β : Type} (x : Action CallFields α) (f : α → Action CallFields β) :
    ((x >>= f) c).state =
      match (x c).result with
      | .ok a => (f a (x c).state).state
      | .error _ => (x c).state := by
  cases h : (x c).result with
  | ok a => rw [Action.bind_of_ok h]
  | error e => rw [Action.bind_of_error h]

theorem isOpen_runHook (leaves : s.LeavesOpen) (h : c.IsOpen) : (runHook s m c).state.IsOpen := by
  cases hs : s.hook with
  | none => simpa [runHook, hs] using h
  | some hook =>
    have own := leaves hook hs
    have first := own.prepare s.endpoint m c h
    simp only [runHook, hs, state_bind, Action.emit]
    cases (hook.prepare s.endpoint m c).result with
    | error e => exact first
    | ok _ => exact own.serialize s.endpoint m _ first

theorem isOpen_build (hook : (runHook s m c).state.IsOpen) : (build s m c).state.IsOpen := by
  rw [build, state_bind]
  cases (runHook s m c).result with
  | error e => exact hook
  | ok custom =>
    simp only [state_bind, Action.get, Action.ofExcept_apply]
    exact hook

theorem prepare_of_unprepared (h : c.state = .unprepared) : prepare s m c = make s m c := by
  rw [prepare, h]

theorem prepare_of_prepared {r : Request} (h : c.state = .prepared) (kept : c.request? = some r) :
    prepare s m c = ⟨c, [], .ok r⟩ := by
  simp only [prepare, h, kept]

theorem prepare_of_spent (unprepared : c.state ≠ .unprepared) (prepared : c.state ≠ .prepared) :
    prepare s m c = ⟨c, [.logged (.reused c.state)], .error .callReused⟩ := by
  cases h : c.state <;> simp_all [prepare]

theorem make_of_ok {r : Request} (h : (build s m c).result = .ok r) :
    make s m c = ⟨{ (build s m c).state with state := .prepared, request? := some r },
      (build s m c).events, .ok r⟩ := by
  simp only [make, h]

theorem make_of_error {e : Error} (h : (build s m c).result = .error e) :
    make s m c = ⟨{ (build s m c).state with state := .failed }, (build s m c).events,
      .error e⟩ := by
  simp only [make, h]

theorem begin_of_error {e : Error} (h : (prepare s m c).result = .error e) :
    begin s m c = ⟨(prepare s m c).state, (prepare s m c).events, .error e⟩ := by
  rw [begin, Action.bind_of_error h]

theorem begin_of_ok {r : Request} (h : (prepare s m c).result = .ok r) :
    begin s m c = ⟨{ (prepare s m c).state with state := .inFlight }, (prepare s m c).events,
      .ok r⟩ := by
  rw [begin, Action.bind_of_ok h]
  simp [setState, Action.modify, bind, Action.andThen]

/-- The fields that are set when a call ends are those of its last stage. -/
theorem finish_eq (debug : DebugFlags) (r : Request) (result : Except Error Response)
    (c : CallFields) :
    finish debug r result c =
      ⟨{ c with
          state := (Call.settle r result).1.state
          response? := (Call.settle r result).1.response?.or c.response? },
        Call.endRecord debug r (some result), (Call.settle r result).2⟩ := by
  cases result with
  | ok response =>
    cases h : response.checkStatus <;>
      simp [finish, h, Call.settle, Call.endRecord, Stage.state, Stage.response?, setState,
        Action.emit, Action.modify, Action.fail, bind, Action.andThen]
  | error e =>
    cases e <;>
      simp [finish, Call.settle, Call.endRecord, Stage.state, Stage.response?, setState,
        Action.emit, Action.modify, Action.fail, bind, Action.andThen]

theorem invokeVia_of_error {e : Error} (mode : Http.Mode) (isCancelled : Bool)
    (transport : Transport) (h : (prepare s m c).result = .error e) :
    invokeVia s m mode isCancelled transport c =
      ⟨(prepare s m c).state, (prepare s m c).events, .error e⟩ := by
  have begun := begin_of_error h
  rw [invokeVia, Action.bind_of_error (congrArg Outcome.result begun), begun]

theorem invokeVia_of_ok {r : Request} (mode : Http.Mode) (isCancelled : Bool)
    (transport : Transport) (h : (prepare s m c).result = .ok r) :
    invokeVia s m mode isCancelled transport c =
      let sent := Call.convey s.endpoint.config mode isCancelled transport r
      let stage := Call.sentStage r sent.2
      ⟨{ (prepare s m c).state with
          state := stage.state
          response? := stage.response?.or (prepare s m c).state.response? },
        (prepare s m c).events ++ sent.1 ++ Call.endRecord s.endpoint.config.debug r sent.2,
        Call.told r sent.2⟩ := by
  have begun := begin_of_ok h
  rw [invokeVia, Action.bind_of_ok (congrArg Outcome.result begun), begun]
  cases hs : Call.convey s.endpoint.config mode isCancelled transport r with
  | mk events ending =>
    cases ending with
    | none =>
      simp [bind, Action.andThen, Action.emit, Call.sentStage, Call.told, Call.endRecord,
        Stage.state, Stage.response?]
    | some result =>
      cases ht : (Call.settle r result).2 <;>
        simp [bind, Action.andThen, Action.emit, finish_eq, Call.sentStage, Call.told, ht,
          Except.map]

end

/-- What a state promises of request and response. -/
structure Agrees (c : CallFields) : Prop where
  unprepared : c.state = .unprepared → c.request? = none ∧ c.response? = none
  underway : c.state = .prepared ∨ c.state = .inFlight ∨ c.state = .cancelled →
    c.request?.isSome = true ∧ c.response? = none
  completed : c.state = .completed → c.request?.isSome = true ∧
    ∃ response, c.response? = some response ∧ 200 ≤ response.status ∧ response.status < 300
  failed : c.state = .failed → ∀ response, c.response? = some response →
    c.request?.isSome = true ∧ ¬(200 ≤ response.status ∧ response.status < 300)

theorem agrees_fresh (d : Draft) : (fresh d).Agrees := by
  constructor <;> simp [fresh]

theorem Agrees.isOpen {c : CallFields} (h : c.Agrees)
    (state : c.state = .unprepared ∨ c.state = .prepared) : c.IsOpen := by
  rcases state with state | state
  · obtain ⟨request, response⟩ := h.unprepared state
    exact ⟨.inl ⟨state, request⟩, response⟩
  · obtain ⟨request, response⟩ := h.underway (.inl state)
    exact ⟨.inr ⟨state, Option.isSome_iff_exists.mp request⟩, response⟩

theorem IsOpen.agrees {c : CallFields} (h : c.IsOpen) : c.Agrees := by
  obtain ⟨⟨state, request⟩ | ⟨state, r, request⟩, response⟩ := h
  · constructor <;> simp [state, request, response]
  · constructor <;> simp [state, request, response]

/-- Where a call stands whose request was sent. -/
structure Sent (r : Request) (ending : Option (Except Error Response)) (c : CallFields) : Prop where
  state : c.state = (Call.sentStage r ending).state
  request : c.request? = some r
  response : c.response? = (Call.sentStage r ending).response?

theorem Sent.agrees {r : Request} {ending : Option (Except Error Response)} {c : CallFields}
    (h : c.Sent r ending) : c.Agrees := by
  obtain ⟨state, request, response⟩ := h
  cases ending with
  | none =>
    constructor <;> simp_all [Call.sentStage, Stage.state, Stage.response?]
  | some result =>
    rcases Call.settle_cases r result with ⟨got, -, success, ends⟩ | ⟨got, -, noSuccess, ends⟩ |
      ⟨-, ends⟩ | ⟨e, -, -, ends⟩ <;>
      simp only [Call.sentStage, ends, Stage.state, Stage.response?] at state response
    · have range := got.isSuccess_iff.mp success
      constructor <;> simp [state, request, response, range]
    · have range : ¬(200 ≤ got.status ∧ got.status < 300) := by
        rw [← got.isSuccess_iff, noSuccess]
        simp
      constructor <;> simp_all
    · constructor <;> simp [state, request, response]
    · constructor <;> simp [state, response]

end CallFields

/-- What can be done to a call, each time with the service as it then is. -/
inductive CallOp
  | edit (change : Draft → Draft)
  | prepare (s : CallService) (m : Moment)
  | invoke (s : CallService) (m : Moment) (mode : Http.Mode) (isCancelled : Bool)
      (transport : Transport)

namespace CallOp

def perform : CallOp → Action CallFields Answer
  | edit change => fun c => ⟨c.edit change, [], .ok .done⟩
  | prepare s m => fun c =>
    let o := CallFields.prepare s m c
    ⟨o.state, o.events, o.result.map .request⟩
  | invoke s m mode isCancelled transport => fun c =>
    let o := CallFields.invokeVia s m mode isCancelled transport c
    ⟨o.state, o.events, o.result.map Op.ofResponse⟩

def preparing? : CallOp → Option (CallService × Moment)
  | prepare s m | invoke s m _ _ _ => some (s, m)
  | edit _ => none

def isInvoke : CallOp → Bool
  | invoke .. => true
  | _ => false

def LeavesOpen (op : CallOp) : Prop := ∀ s m, op.preparing? = some (s, m) → s.LeavesOpen

end CallOp

structure CallStep where
  before : CallFields
  op : CallOp

namespace CallStep

def outcome (x : CallStep) : Outcome CallFields Answer := x.op.perform x.before
def after (x : CallStep) : CallFields := x.outcome.state
def result (x : CallStep) : Except Error Answer := x.outcome.result

/-- The call was to be prepared for the first time, and was not. -/
def FailsToPrepare (x : CallStep) : Prop :=
  x.before.state = .unprepared ∧ ∃ s m e, x.op.preparing? = some (s, m) ∧
    (CallFields.build s m x.before).result = .error e

end CallStep

def callTrace : CallFields → List CallOp → List CallStep
  | _, [] => []
  | c, op :: ops => ⟨c, op⟩ :: callTrace (CallStep.after ⟨c, op⟩) ops

theorem chained_callTrace (c : CallFields) (ops : List CallOp) :
    Chained CallStep.before CallStep.after c (callTrace c ops) := by
  induction ops generalizing c with
  | nil => exact .nil c
  | cons op ops ih => exact .cons (x := ⟨c, op⟩) (ih _)

namespace CallStep

/-- The hook, if it is asked for an open call, leaves it open. -/
def LeavesOpen (x : CallStep) : Prop :=
  ∀ s m, x.op.preparing? = some (s, m) → x.before.state = .unprepared → x.before.IsOpen →
    (CallFields.runHook s m x.before).state.IsOpen

theorem leavesOpen_of_op {x : CallStep} (h : x.op.LeavesOpen) : x.LeavesOpen :=
  fun s m op _ opened => CallFields.isOpen_runHook (h s m op) opened

/-- Everything that a step can do to the fields of a call that agree. -/
inductive Effect (x : CallStep) : Prop
  | edited (op : x.op.preparing? = none) (state : x.after.state = x.before.state)
      (request : x.after.request? = x.before.request?)
      (response : x.after.response? = x.before.response?)
  | refused (unprepared : x.before.state ≠ .unprepared) (prepared : x.before.state ≠ .prepared)
      (after : x.after = x.before) (result : x.result = .error .callReused)
  /-- Preparing again. -/
  | kept (op : x.op.isInvoke = false) (before : x.before.state = .prepared)
      (after : x.after = x.before)
  | prepared (r : Request) (op : x.op.isInvoke = false) (before : x.before.state = .unprepared)
      (prepares : ¬ x.FailsToPrepare) (state : x.after.state = .prepared)
      (request : x.after.request? = some r) (response : x.after.response? = none)
  | rejected (e : Error) (fails : x.FailsToPrepare) (state : x.after.state = .failed)
      (response : x.after.response? = none) (result : x.result = .error e)
  | sent (r : Request) (ending : Option (Except Error Response))
      (before : x.before.state = .unprepared ∨ x.before.state = .prepared)
      (prepares : ¬ x.FailsToPrepare) (interrupted : ∀ e, ending = some (.error e) →
        ∃ i : Interruption, e = i.error)
      (after : x.after.Sent r ending) (result : x.result = (Call.told r ending).map Op.ofResponse)

theorem not_failsToPrepare_of_prepared {x : CallStep} (h : x.before.state = .prepared) :
    ¬ x.FailsToPrepare := by
  rintro ⟨unprepared, -⟩
  rw [h] at unprepared
  cases unprepared

theorem not_failsToPrepare_of_ok {x : CallStep} {s : CallService} {m : Moment} {r : Request}
    (op : x.op.preparing? = some (s, m)) (h : (CallFields.build s m x.before).result = .ok r) :
    ¬ x.FailsToPrepare := by
  rintro ⟨-, s', m', e, op', failed⟩
  rw [op] at op'
  obtain ⟨rfl, rfl⟩ := Prod.mk.inj (Option.some.inj op')
  rw [h] at failed
  cases failed

theorem effect_prepare {c : CallFields} (agrees : c.Agrees) {s : CallService} {m : Moment}
    (leaves : LeavesOpen ⟨c, .prepare s m⟩) : Effect ⟨c, .prepare s m⟩ := by
  by_cases unprepared : c.state = .unprepared
  · have built := CallFields.isOpen_build
      (leaves s m rfl unprepared (agrees.isOpen (.inl unprepared)))
    cases hb : (CallFields.build s m c).result with
    | ok r =>
      refine .prepared r rfl unprepared (not_failsToPrepare_of_ok rfl hb) ?_ ?_ ?_ <;>
        simp [after, outcome, CallOp.perform, CallFields.prepare_of_unprepared unprepared,
          CallFields.make_of_ok hb, built.response]
    | error e =>
      refine .rejected e ⟨unprepared, s, m, e, rfl, hb⟩ ?_ ?_ ?_ <;>
        simp [after, result, outcome, CallOp.perform, CallFields.prepare_of_unprepared unprepared,
          CallFields.make_of_error hb, built.response, Except.map]
  · by_cases prepared : c.state = .prepared
    · obtain ⟨r, kept⟩ := Option.isSome_iff_exists.mp (agrees.underway (.inl prepared)).1
      refine .kept rfl prepared ?_
      simp [after, outcome, CallOp.perform, CallFields.prepare_of_prepared prepared kept]
    · refine .refused unprepared prepared ?_ ?_ <;>
        simp [after, result, outcome, CallOp.perform,
          CallFields.prepare_of_spent unprepared prepared, Except.map]

/-- A call that could be prepared is sent, whatever it was before. -/
theorem effect_send {c : CallFields} {s : CallService} {m : Moment} {mode : Http.Mode}
    {isCancelled : Bool} {transport : Transport} {r : Request}
    (before : c.state = .unprepared ∨ c.state = .prepared)
    (prepares : ¬ FailsToPrepare ⟨c, .invoke s m mode isCancelled transport⟩)
    (ok : (CallFields.prepare s m c).result = .ok r)
    (request : (CallFields.prepare s m c).state.request? = some r)
    (response : (CallFields.prepare s m c).state.response? = none) :
    Effect ⟨c, .invoke s m mode isCancelled transport⟩ := by
  have sent := CallFields.invokeVia_of_ok mode isCancelled transport ok
  refine .sent r (Call.convey s.endpoint.config mode isCancelled transport r).2 before prepares
    (fun e => Call.interrupted_of_convey) ⟨?_, ?_, ?_⟩ ?_ <;>
    simp [after, result, outcome, CallOp.perform, sent, request, response]

theorem effect_invoke {c : CallFields} (agrees : c.Agrees) {s : CallService} {m : Moment}
    {mode : Http.Mode} {isCancelled : Bool} {transport : Transport}
    (leaves : LeavesOpen ⟨c, .invoke s m mode isCancelled transport⟩) :
    Effect ⟨c, .invoke s m mode isCancelled transport⟩ := by
  by_cases unprepared : c.state = .unprepared
  · have built := CallFields.isOpen_build
      (leaves s m rfl unprepared (agrees.isOpen (.inl unprepared)))
    have prepare := CallFields.prepare_of_unprepared (s := s) (m := m) unprepared
    cases hb : (CallFields.build s m c).result with
    | ok r =>
      rw [CallFields.make_of_ok hb] at prepare
      refine effect_send (.inl unprepared) (not_failsToPrepare_of_ok rfl hb)
        (congrArg Outcome.result prepare) ?_ ?_ <;>
        simp [prepare, built.response]
    | error e =>
      rw [CallFields.make_of_error hb] at prepare
      have stop := CallFields.invokeVia_of_error mode isCancelled transport
        (congrArg Outcome.result prepare)
      rw [prepare] at stop
      refine .rejected e ⟨unprepared, s, m, e, rfl, hb⟩ ?_ ?_ ?_ <;>
        simp [after, result, outcome, CallOp.perform, stop, built.response, Except.map]
  · by_cases prepared : c.state = .prepared
    · obtain ⟨request, response⟩ := agrees.underway (.inl prepared)
      obtain ⟨r, kept⟩ := Option.isSome_iff_exists.mp request
      have prepare := CallFields.prepare_of_prepared (s := s) (m := m) prepared kept
      refine effect_send (.inr prepared) (not_failsToPrepare_of_prepared prepared)
        (congrArg Outcome.result prepare) ?_ ?_ <;>
        simp [prepare, kept, response]
    · have prepare := CallFields.prepare_of_spent (s := s) (m := m) unprepared prepared
      have stop := CallFields.invokeVia_of_error mode isCancelled transport
        (congrArg Outcome.result prepare)
      rw [prepare] at stop
      refine .refused unprepared prepared ?_ ?_ <;>
        simp [after, result, outcome, CallOp.perform, stop, Except.map]

theorem effect {x : CallStep} (agrees : x.before.Agrees) (leaves : x.LeavesOpen) :
    x.Effect := by
  obtain ⟨c, op⟩ := x
  cases op with
  | edit change => exact .edited rfl rfl rfl rfl
  | prepare s m => exact effect_prepare agrees leaves
  | invoke s m mode isCancelled transport => exact effect_invoke agrees leaves

/-- The moves of a call that can be prepared. -/
inductive Forward : CallState → CallState → Prop
  | prepare : Forward .unprepared .prepared
  | send : Forward .prepared .inFlight
  | complete : Forward .inFlight .completed
  | fail : Forward .inFlight .failed
  | cancel : Forward .inFlight .cancelled

theorem forward_sentStage (r : Request) (ending : Option (Except Error Response)) :
    ReflTransGen Forward .inFlight (Call.sentStage r ending).state := by
  cases ending with
  | none => exact .refl
  | some result =>
    rcases Call.settle_cases r result with ⟨_, -, -, ends⟩ | ⟨_, -, -, ends⟩ | ⟨-, ends⟩ |
      ⟨_, -, -, ends⟩ <;> rw [Call.sentStage, ends]
    · exact .single .complete
    · exact .single .fail
    · exact .single .cancel
    · exact .single .fail

/-- How a step moves a call on: forward, or from a failed preparation to the end. A call that has
ended stays as it is, and tells so to whoever would prepare or send it. -/
structure MovesOn (x : CallStep) : Prop where
  forward : ¬ x.FailsToPrepare → ReflTransGen Forward x.before.state x.after.state
  fails : x.FailsToPrepare → x.after.state = .failed ∧ x.after.response? = none
  final : x.before.state.isFinal = true → x.after.state = x.before.state ∧
    x.after.request? = x.before.request? ∧ x.after.response? = x.before.response? ∧
    (x.op.preparing?.isSome = true → x.result = .error .callReused)

theorem Effect.agrees {x : CallStep} (h : x.Effect) (before : x.before.Agrees) :
    x.after.Agrees := by
  cases h with
  | edited op state request response =>
    obtain ⟨unprepared, underway, completed, failed⟩ := before
    constructor <;> rw [state, request, response] <;> assumption
  | refused unprepared prepared after result => rwa [after]
  | kept op state after => rwa [after]
  | prepared r op state prepares state' request response =>
    constructor <;> simp [state', request, response]
  | rejected e fails state response result => constructor <;> simp [state, response]
  | sent r ending state prepares interrupted after result => exact after.agrees

theorem Effect.movesOn {x : CallStep} (h : x.Effect) : x.MovesOn := by
  have final : ∀ {state}, x.before.state = state → state.isFinal = false →
      ¬ x.before.state.isFinal = true := by
    rintro state rfl unfinished
    simp [unfinished]
  cases h with
  | edited op state request response =>
    have prepares : ¬ x.FailsToPrepare := by
      rintro ⟨-, s, m, e, op', -⟩
      rw [op] at op'
      cases op'
    exact ⟨fun _ => by rw [state], fun fails => absurd fails prepares,
      fun _ => ⟨state, request, response, by simp [op]⟩⟩
  | refused unprepared prepared after result =>
    exact ⟨fun _ => by rw [after], fun fails => absurd fails.1 unprepared,
      fun _ => ⟨by rw [after], by rw [after], by rw [after], fun _ => result⟩⟩
  | kept op state after =>
    exact ⟨fun _ => by rw [after],
      fun fails => absurd fails (not_failsToPrepare_of_prepared state),
      fun ended => absurd ended (final state rfl)⟩
  | prepared r op state prepares state' request response =>
    refine ⟨fun _ => ?_, fun fails => absurd fails prepares,
      fun ended => absurd ended (final state rfl)⟩
    rw [state, state']
    exact .single .prepare
  | rejected e fails state response result =>
    exact ⟨fun prepares => absurd fails prepares, fun _ => ⟨state, response⟩,
      fun ended => absurd ended (final fails.1 rfl)⟩
  | sent r ending state prepares interrupted after result =>
    have underway := forward_sentStage r ending
    rw [← after.state] at underway
    rcases state with state | state
    · refine ⟨fun _ => ?_, fun fails => absurd fails prepares,
        fun ended => absurd ended (final state rfl)⟩
      rw [state]
      exact .head .prepare (.head .send underway)
    · refine ⟨fun _ => ?_, fun fails => absurd fails prepares,
        fun ended => absurd ended (final state rfl)⟩
      rw [state]
      exact .head .send underway

end CallStep

/-- What a run keeps for as long as its hooks leave the call open. -/
def KeptOpen (past : List CallStep) (c : CallFields) : Prop :=
  (∀ y ∈ past, y.LeavesOpen) → c.Agrees

theorem keptOpen_step (past : List CallStep) (x : CallStep) (h : KeptOpen past x.before) :
    KeptOpen (past ++ [x]) x.after := by
  intro leaves
  have before := h fun y hy => leaves y (List.mem_append_left _ hy)
  exact (CallStep.effect before (leaves x (by simp))).agrees before

/-- A hook that sends the call itself, and is not asked again while it does. -/
def sendingHook (mode : Http.Mode) (transport : Transport) : CallHook :=
  ⟨fun e m => do
    let _ ← CallFields.invokeVia ⟨e, none⟩ m mode false transport
    pure (),
    fun _ _ => pure none⟩

namespace CallFields

variable {e : Endpoint} {m : Moment} {d : Draft} {r : Request} {mode : Http.Mode}
  {transport : Transport} {response : Response}

theorem build_of_no_hook {c : CallFields} (made : Call.requestOf e m none c.draft = .ok r) :
    build ⟨e, none⟩ m c = ⟨c, [], .ok r⟩ := by
  simp [build, runHook, made, Action.get, bind, Action.andThen]

section
variable (client : Call.clientFault e.config = none) (made : Call.requestOf e m none d = .ok r)
  (answered : (transport mode r).ending = some (.ok response))
  (success : response.isSuccess = true)
include client made answered success

theorem invokeVia_fresh :
    (invokeVia ⟨e, none⟩ m mode false transport (fresh d)).state =
        ⟨d, .completed, some r, some response⟩ ∧
      (invokeVia ⟨e, none⟩ m mode false transport (fresh d)).result = .ok (some response) := by
  have prepared : prepare ⟨e, none⟩ m (fresh d) =
      ⟨⟨d, .prepared, some r, none⟩, [], .ok r⟩ := by
    rw [prepare_of_unprepared rfl, make_of_ok (by rw [build_of_no_hook made]),
      build_of_no_hook made]
    rfl
  have conveyed : (Call.convey e.config mode false transport r).2 = some (.ok response) := by
    simp [Call.convey, client, answered, mapError_ok]
  have settled : Call.settle r (.ok response) = (.completed r response, .ok response) := by
    simp [Call.settle, Response.checkStatus, success]
  have sent := invokeVia_of_ok mode false transport (congrArg Outcome.result prepared)
  simp only [prepared, conveyed, Call.sentStage, Call.told, settled] at sent
  rw [sent]
  exact ⟨rfl, rfl⟩

theorem build_sendingHook :
    (build ⟨e, some (sendingHook mode transport)⟩ m (fresh d)).state =
        ⟨d, .completed, some r, some response⟩ ∧
      (build ⟨e, some (sendingHook mode transport)⟩ m (fresh d)).result = .ok r := by
  obtain ⟨state, result⟩ := invokeVia_fresh client made answered success
  have asked : (runHook ⟨e, some (sendingHook mode transport)⟩ m (fresh d)).state =
        ⟨d, .completed, some r, some response⟩ ∧
      (runHook ⟨e, some (sendingHook mode transport)⟩ m (fresh d)).result = .ok none := by
    simp only [runHook, sendingHook, bind, Action.andThen, Action.emit, state, result]
    exact ⟨rfl, rfl⟩
  rw [build, Action.bind_of_ok asked.2, asked.1, Action.bind_of_ok rfl]
  simp [Action.get, made]

/-- A call that its own hook has sent is prepared again, with its response still in it. -/
theorem prepare_sendingHook :
    let c := (prepare ⟨e, some (sendingHook mode transport)⟩ m (fresh d)).state
    c = ⟨d, .prepared, some r, some response⟩ ∧ ¬ c.Agrees := by
  obtain ⟨state, result⟩ := build_sendingHook client made answered success
  intro c
  have prepared : c = ⟨d, .prepared, some r, some response⟩ := by
    simp only [c, prepare_of_unprepared (show (fresh d).state = .unprepared from rfl),
      make_of_ok result, state]
  refine ⟨prepared, fun agree => ?_⟩
  have none_ := (agree.underway (.inl (by rw [prepared]))).2
  rw [prepared] at none_
  cases none_

end

end CallFields

end SignedRest
