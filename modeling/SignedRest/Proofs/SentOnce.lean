import SignedRest.OAuth1.Signing
import SignedRest.Proofs.CallRun

/-! However a call is used, its hook runs once, it goes out once, and what goes out is what was
prepared. After that, and after a preparation that failed, it is used up. -/
namespace SignedRest

namespace Event

/-- The events that tell of the preparation and the handing over of a call. -/
def isMark : Event → Bool
  | .hookPrepared | .hookSerialized | .handedOver .. => true
  | _ => false

def isHandedOver : Event → Bool
  | .handedOver .. => true
  | _ => false

end Event

def marks (events : List Event) : List Event := events.filter Event.isMark

@[simp] theorem marks_nil : marks [] = [] := rfl

@[simp] theorem marks_append (a b : List Event) : marks (a ++ b) = marks a ++ marks b :=
  List.filter_append ..

theorem mem_marks {event : Event} {events : List Event} (h : event.isMark = true) :
    event ∈ marks events ↔ event ∈ events := by
  simp [marks, h]

/-- A hook that neither prepares nor sends the call that it is given. -/
structure Hook.Quiet (hook : Hook) : Prop where
  prepare : ∀ e m d, marks (hook.prepare e m d).events = []
  serialize : ∀ e m d, marks (hook.serialize e m d).events = []

def Service.Quiet (s : Service) : Prop := ∀ hook, s.hook = some hook → hook.Quiet

/-- Hooks may change on the way, but only to quiet ones. -/
def Op.Quiet : Op → Prop
  | .rehook hook => ∀ h, hook = some h → h.Quiet
  | _ => True

theorem Step.quiet_after {x : Step} (h : x.before.service.Quiet) (quiet : x.op.Quiet) :
    x.after.service.Quiet := by
  obtain ⟨⟨service, call⟩, op⟩ := x
  cases op with
  | edit change => exact h
  | rehook hook => exact quiet
  | prepare m => exact h
  | invoke m mode isCancelled transport => exact h
  | bind args =>
    cases hb : service.endpoint.bind args with
    | ok e =>
      have same : (Step.after ⟨⟨service, call⟩, .bind args⟩).service =
          { service with endpoint := e } := by
        simp [Step.after, Step.outcome, Op.perform, Session.bind, hb]
      rw [same]
      exact h
    | error e =>
      have same : (Step.after ⟨⟨service, call⟩, .bind args⟩).service = service := by
        simp [Step.after, Step.outcome, Op.perform, Session.bind, hb]
      rw [same]
      exact h

theorem Action.events_bind {σ α β : Type} (x : Action σ α) (f : α → Action σ β) (s : σ) :
    ((x >>= f) s).events = (x s).events ++
      match (x s).result with
      | .ok a => (f a (x s).state).events
      | .error _ => [] := by
  cases h : (x s).result with
  | ok a => rw [bind_of_ok h]
  | error e => simp [bind_of_error h]

namespace Call

theorem marks_runHook {s : Service} (quiet : s.Quiet) (m : Moment) (d : Draft) :
    (marks (runHook s m d).events).Sublist [.hookPrepared, .hookSerialized] := by
  cases hs : s.hook with
  | none => simp [runHook, hs]
  | some hook =>
    have own := quiet hook hs
    have first : marks [Event.hookPrepared] = [.hookPrepared] := rfl
    have second : ∀ rest, marks (.hookSerialized :: rest) = .hookSerialized :: marks rest :=
      fun _ => rfl
    simp only [runHook, hs, Action.events_bind, Action.emit, marks_append, first]
    cases (hook.prepare s.endpoint m d).result with
    | error e => simp [own.prepare]
    | ok _ => simp [own.prepare, own.serialize, second]

/-- What happens while a call is built happens in its hook. -/
theorem events_build (s : Service) (m : Moment) (d : Draft) :
    (build s m d).events = (runHook s m d).events := by
  rw [build, Action.events_bind]
  cases (runHook s m d).result with
  | error e => exact List.append_nil _
  | ok custom => simp [bind, Action.andThen, Action.get, Action.ofExcept_apply]

theorem marks_build {s : Service} (quiet : s.Quiet) (m : Moment) (d : Draft) :
    (marks (build s m d).events).Sublist [.hookPrepared, .hookSerialized] := by
  rw [events_build]
  exact marks_runHook quiet m d

theorem marks_convey (config : Config) (mode : Http.Mode) (isCancelled : Bool)
    (transport : Transport) (r : Request) :
    (marks (convey config mode isCancelled transport r).1).Sublist [.handedOver mode r] := by
  have way : ∀ happenings : List Http.Happening, marks (happenings.map .http) = [] := by
    intro happenings
    simp [marks, Event.isMark]
  have first : ∀ rest, marks (.handedOver mode r :: rest) = .handedOver mode r :: marks rest :=
    fun _ => rfl
  cases hc : clientFault config with
  | some e => simp [convey, hc]
  | none =>
    by_cases cancelled : (isCancelled && mode ≠ .blocking) = true
    · simp only [convey, hc, if_pos cancelled]
      exact List.nil_sublist _
    · simp only [convey, hc, if_neg cancelled, first, way]
      exact .refl _

theorem marks_endRecord (debug : DebugFlags) (r : Request)
    (ending : Option (Except Error Response)) : marks (endRecord debug r ending) = [] := by
  cases ending with
  | none => rfl
  | some result => cases h : debug.calls <;> simp [endRecord, h, marks, Event.isMark]

theorem told_ne_request (r r' : Request) (ending : Option (Except Error Response)) :
    (told r ending).map Op.ofResponse ≠ .ok (.request r') := by
  cases ending with
  | none => simp [told, Except.map, Op.ofResponse]
  | some result => cases h : (settle r result).2 <;> simp [told, h, Except.map, Op.ofResponse]

theorem not_handedOver_of_marks {events : List Event} {mode : Http.Mode} {r : Request}
    (h : (marks events).Sublist [.hookPrepared, .hookSerialized]) :
    .handedOver mode r ∉ events := by
  intro mem
  have marked := h.subset ((mem_marks rfl).mpr mem)
  simp at marked

theorem not_handedOver_of_none {events : List Event} {mode : Http.Mode} {r : Request}
    (h : marks events = []) : .handedOver mode r ∉ events :=
  not_handedOver_of_marks (by simp [h])

theorem handedOver_of_convey {config : Config} {mode mode' : Http.Mode} {isCancelled : Bool}
    {transport : Transport} {r r' : Request} {before after : List Event}
    (hb : (marks before).Sublist [.hookPrepared, .hookSerialized]) (ha : marks after = [])
    (mem : .handedOver mode' r' ∈
      before ++ (convey config mode isCancelled transport r).1 ++ after) :
    mode' = mode ∧ r' = r := by
  rcases List.mem_append.mp mem with mem | mem
  · rcases List.mem_append.mp mem with mem | mem
    · exact absurd mem (not_handedOver_of_marks hb)
    · have marked := (marks_convey config mode isCancelled transport r).subset
        ((mem_marks rfl).mpr mem)
      simpa using marked
  · exact absurd mem (not_handedOver_of_none ha)

section
variable {s : Service} {m : Moment} {c : Call} {r : Request}

theorem marks_prepare (quiet : s.Quiet) (m : Moment) (c : Call) :
    (marks (prepare s m c).events).Sublist [.hookPrepared, .hookSerialized] := by
  rcases c.stage.cases_closed with fresh | ⟨own, kept⟩ | closed
  · rw [prepare_of_unprepared fresh]
    exact marks_build quiet m c.draft
  · rw [prepare_of_prepared kept]
    exact List.nil_sublist _
  · rw [prepare_of_closed closed]
    exact List.nil_sublist _

/-- The request of a call is the one that was made before, or is made now. -/
theorem request_of_prepare (h : (prepare s m c).result = .ok r) :
    c.stage = .prepared r ∨
      c.stage = .unprepared ∧ (build s m c.draft).result = .ok r := by
  rcases c.stage.cases_closed with fresh | ⟨own, kept⟩ | closed
  · rw [prepare_of_unprepared fresh] at h
    exact .inr ⟨fresh, h⟩
  · rw [prepare_of_prepared kept] at h
    exact .inl (Except.ok.inj h ▸ kept)
  · rw [prepare_of_closed closed] at h
    cases h

theorem handedOver_of_invokeVia (quiet : s.Quiet) {mode mode' : Http.Mode} {isCancelled : Bool}
    {transport : Transport}
    (mem : .handedOver mode' r ∈ (invokeVia s m mode isCancelled transport c).events) :
    mode' = mode ∧ (c.stage = .prepared r ∨
      c.stage = .unprepared ∧ (build s m c.draft).result = .ok r) := by
  have hooks := marks_prepare quiet m c
  cases prepared : (prepare s m c).result with
  | error e =>
    rw [invokeVia_of_error mode isCancelled transport prepared] at mem
    exact absurd mem (not_handedOver_of_marks hooks)
  | ok own =>
    rw [invokeVia_of_ok mode isCancelled transport prepared] at mem
    obtain ⟨rfl, rfl⟩ := handedOver_of_convey hooks (marks_endRecord ..) mem
    exact ⟨rfl, request_of_prepare prepared⟩

end

end Call

theorem marks_bind {σ α β : Type} {x : Action σ α} {f : α → Action σ β} {s : σ}
    (hx : marks (x s).events = []) (hf : ∀ a, marks (f a (x s).state).events = []) :
    marks ((x >>= f) s).events = [] := by
  rw [Action.events_bind, marks_append, hx]
  cases (x s).result with
  | error e => rfl
  | ok a => exact hf a

theorem marks_ofExcept {σ α : Type} (x : Except Error α) (s : σ) :
    marks ((Action.ofExcept x : Action σ α) s).events = [] := by
  cases x <;> rfl

/-- Signing a call is not sending it. -/
theorem OAuth1.Signer.hook_quiet (signer : OAuth1.Signer) : signer.hook.Quiet := by
  refine ⟨fun e m d => ?_, fun _ _ _ => rfl⟩
  change marks (signer.signCall e m d).events = []
  by_cases secret : signer.credentials.consumerSecret = ""
  · rw [OAuth1.Signer.signCall, if_pos secret, Action.bind_of_error rfl]
    rfl
  · rw [OAuth1.Signer.signCall, if_neg secret]
    refine marks_bind rfl fun _ => marks_bind rfl fun _ => marks_bind (marks_ofExcept ..) fun _ =>
      marks_bind (marks_ofExcept ..) fun _ => marks_bind (marks_ofExcept ..) fun _ => ?_
    cases signer.debug <;> rfl

/-- The steps after which a call is used up: any sending, and a preparation that failed. -/
def Step.Spends (x : Step) : Prop :=
  x.op.isInvoke = true ∨ x.op.isGuarded = true ∧ ∃ e, x.result = .error e

namespace Step

theorem marks_refused {x : Step} (h : x.Refused) : marks x.events = [] := by
  simp [h.events, marks, Event.isMark]

/-- What is left to a step when its call is used up. -/
structure Idles (x : Step) : Prop where
  stage : x.after.call.stage = x.before.call.stage
  marks : marks x.events = []
  answer : ∀ r, x.result ≠ .ok (.request r)
  refused : x.op.isGuarded = true → x.Refused

theorem idles_of_closed {x : Step} (closed : x.before.call.stage.isClosed = true) : x.Idles := by
  cases x.effect with
  | idle unguarded events stage answer =>
    exact ⟨stage, by simp [events], answer, by simp [unguarded]⟩
  | refused _ guarded refused =>
    exact ⟨by rw [refused.after], marks_refused refused, by simp [refused.result], fun _ => refused⟩
  | kept m r op before => simp [before, Stage.isClosed] at closed
  | prepared m r op before => simp [before, Stage.isClosed] at closed
  | rejected m e moment before => simp [before, Stage.isClosed] at closed
  | sent m r events₀ mode isCancelled transport op before =>
    rcases before with ⟨before, -⟩ | ⟨before, -⟩ <;> simp [before, Stage.isClosed] at closed

theorem closed_of_spends {x : Step} (h : x.Spends) : x.after.call.stage.isClosed = true := by
  cases x.effect with
  | idle unguarded events stage answer =>
    rcases h with h | ⟨h, -⟩ <;> cases hop : x.op <;>
      simp_all [Op.isInvoke, Op.isGuarded]
  | refused closed guarded refused =>
    rw [refused.after]
    exact closed
  | kept m r op before events after result =>
    rcases h with h | ⟨-, e, h⟩
    · simp [op, Op.isInvoke] at h
    · simp [result] at h
  | prepared m r op before built events after result =>
    rcases h with h | ⟨-, e, h⟩
    · simp [op, Op.isInvoke] at h
    · simp [result] at h
  | rejected m e moment before built events after result =>
    rw [after]
    rfl
  | sent m r events₀ mode isCancelled transport op before events after result =>
    rw [after]
    exact Call.isClosed_sentStage r _

end Step

theorem idles_of_mem_trace {s : Session} (closed : s.call.stage.isClosed = true) {ops : List Op}
    {x : Step} (hx : x ∈ trace s ops) :
    x.Idles ∧ x.after.call.stage = s.call.stage := by
  induction ops generalizing s with
  | nil => cases hx
  | cons op ops ih =>
    have head : Step.Idles ⟨s, op⟩ := Step.idles_of_closed closed
    rcases List.mem_cons.mp hx with rfl | hx
    · exact ⟨head, head.stage⟩
    · have rest := ih (by rw [head.stage]; exact closed) hx
      exact ⟨rest.1, rest.2.trans head.stage⟩

theorem marks_traceEvents {steps : List Step} (h : ∀ x ∈ steps, marks x.events = []) :
    marks (traceEvents steps) = [] := by
  induction steps with
  | nil => rfl
  | cons x rest ih =>
    rw [traceEvents_cons, marks_append, h x (by simp), ih fun y hy => h y (by simp [hy])]
    rfl

theorem marks_trace_of_closed {s : Session} (closed : s.call.stage.isClosed = true)
    (ops : List Op) : marks (traceEvents (trace s ops)) = [] :=
  marks_traceEvents fun _ hx => (idles_of_mem_trace closed hx).1.marks

/-- Once a call is used up, whatever is tried with it is refused. -/
theorem trace_refused (s : Session) (ops : List Op) :
    (trace s ops).Pairwise fun x y => x.Spends → y.op.isGuarded = true → y.Refused := by
  induction ops generalizing s with
  | nil => exact .nil
  | cons op ops ih =>
    refine .cons ?_ (ih _)
    intro y hy spends
    exact (idles_of_mem_trace (Step.closed_of_spends spends) hy).1.refused

/-- A run that prepares and sends one request at most; `first` are the marks that may come
before it goes out. -/
structure SpeaksOf (r : Request) (first : List Event) (steps : List Step) : Prop where
  inOrder : ∃ mode, (marks (traceEvents steps)).Sublist (first ++ [.handedOver mode r])
  answers : ∀ x ∈ steps, ∀ r', x.result = .ok (.request r') → r' = r
  stored : ∀ x ∈ steps, ∀ r', x.after.call.request? = some r' → r' = r

theorem SpeaksOf.cons {r : Request} {first first' : List Event} {x : Step} {rest : List Step}
    (h : SpeaksOf r first' rest) (hm : (marks x.events).Sublist first)
    (answer : ∀ r', x.result = .ok (.request r') → r' = r)
    (stored : ∀ r', x.after.call.request? = some r' → r' = r) :
    SpeaksOf r (first ++ first') (x :: rest) := by
  obtain ⟨mode, more⟩ := h.inOrder
  refine ⟨⟨mode, ?_⟩, List.forall_mem_cons.mpr ⟨answer, h.answers⟩,
    List.forall_mem_cons.mpr ⟨stored, h.stored⟩⟩
  rw [traceEvents_cons, marks_append, List.append_assoc]
  exact hm.append more

theorem SpeaksOf.cons_unmarked {r : Request} {first : List Event} {x : Step} {rest : List Step}
    (h : SpeaksOf r first rest) (hm : marks x.events = [])
    (answer : ∀ r', x.result = .ok (.request r') → r' = r)
    (stored : ∀ r', x.after.call.request? = some r' → r' = r) : SpeaksOf r first (x :: rest) := by
  have none_ : (marks x.events).Sublist [] := by simp [hm]
  exact h.cons none_ answer stored

theorem SpeaksOf.cons_marked {r : Request} {first : List Event} {x : Step} {rest : List Step}
    (h : SpeaksOf r [] rest) (hm : (marks x.events).Sublist first)
    (answer : ∀ r', x.result = .ok (.request r') → r' = r)
    (stored : ∀ r', x.after.call.request? = some r' → r' = r) : SpeaksOf r first (x :: rest) := by
  have both := h.cons hm answer stored
  rwa [List.append_nil] at both

theorem speaksOf_closed {s : Session} (closed : s.call.stage.isClosed = true) {r : Request}
    (stored : ∀ r', s.call.request? = some r' → r' = r) (ops : List Op) :
    SpeaksOf r [] (trace s ops) := by
  refine ⟨⟨.blocking, ?_⟩, ?_, ?_⟩
  · rw [marks_trace_of_closed closed]
    exact List.nil_sublist _
  · intro x hx r' h
    exact absurd h ((idles_of_mem_trace closed hx).1.answer r')
  · intro x hx r' h
    apply stored
    rwa [Call.request?, (idles_of_mem_trace closed hx).2] at h

/-- The step that sends, with nothing but refusals behind it. -/
theorem speaksOf_sent {x : Step} {ops : List Op} {r : Request} {first : List Event}
    (mode : Http.Mode) (hm : (marks x.events).Sublist (first ++ [.handedOver mode r]))
    {ending : Option (Except Error Response)} (after : x.after.call.stage = Call.sentStage r ending)
    (answer : ∀ r', x.result ≠ .ok (.request r')) :
    SpeaksOf r first (x :: trace x.after ops) := by
  have closed : x.after.call.stage.isClosed = true := by
    rw [after]
    exact Call.isClosed_sentStage r ending
  have stored : ∀ r', x.after.call.request? = some r' → r' = r := by
    intro r' h
    rw [Call.request?, after, Call.request?_sentStage] at h
    exact (Option.some.inj h).symm
  have rest := speaksOf_closed closed stored ops
  refine ⟨⟨mode, ?_⟩, List.forall_mem_cons.mpr ⟨fun r' h => absurd h (answer r'), rest.answers⟩,
    List.forall_mem_cons.mpr ⟨stored, rest.stored⟩⟩
  rw [traceEvents_cons, marks_append, marks_trace_of_closed closed, List.append_nil]
  exact hm

theorem speaksOf_prepared {s : Session} {r : Request} (h : s.call.stage = .prepared r)
    (ops : List Op) : SpeaksOf r [] (trace s ops) := by
  -- up to the sending the call keeps this very request; behind it there are only refusals
  induction ops generalizing s with
  | nil => exact ⟨⟨.blocking, by simp [trace]⟩, by simp [trace], by simp [trace]⟩
  | cons op ops ih =>
    have stored : s.call.request? = some r := by rw [Call.request?, h]; rfl
    cases Step.effect ⟨s, op⟩ with
    | idle unguarded events stage answer =>
      have same : (Step.after ⟨s, op⟩).call.stage = .prepared r := stage.trans h
      refine (ih same).cons_unmarked (by simp [events]) (fun r' h' => absurd h' (answer r')) ?_
      intro r' h'
      rw [Call.request?, same] at h'
      exact (Option.some.inj h').symm
    | refused closed guarded refused => simp [h, Stage.isClosed] at closed
    | kept m r' _ before events after result =>
      have own : r' = r := by
        rw [h] at before
        exact (Stage.prepared.inj before).symm
      have same : (Step.after ⟨s, op⟩).call.stage = .prepared r := by rw [after]; exact h
      refine (ih same).cons_unmarked (by simp [events]) ?_ ?_
      · intro r'' h'
        rw [result] at h'
        exact (Answer.request.inj (Except.ok.inj h')).symm.trans own
      · intro r'' h'
        rw [Call.request?, same] at h'
        exact (Option.some.inj h').symm
    | prepared m r' _ before => simp [h] at before
    | rejected m e moment before => simp [h] at before
    | sent m r' events₀ mode isCancelled transport _ before events after result =>
      rcases before with ⟨before, rfl⟩ | ⟨before, -⟩
      · have own : r' = r := by
          rw [h] at before
          exact (Stage.prepared.inj before).symm
        subst own
        refine speaksOf_sent mode ?_ after ?_
        · rw [events, List.nil_append, marks_append, Call.marks_endRecord, List.append_nil]
          exact Call.marks_convey ..
        · intro r'' h'
          rw [result] at h'
          exact Call.told_ne_request _ _ _ h'
      · simp [h] at before

/-- The marks of a call that has not been prepared yet, in their order. -/
theorem speaksOf_unprepared {s : Session} (h : s.call.stage = .unprepared)
    (quiet : s.service.Quiet) {ops : List Op} (quietOps : ∀ op ∈ ops, op.Quiet) :
    ∃ r, SpeaksOf r [.hookPrepared, .hookSerialized] (trace s ops) := by
  -- up to the first step that builds the request: the hook is asked there and never again
  induction ops generalizing s with
  | nil =>
    exact ⟨⟨.get, "", [], none⟩, ⟨.blocking, by simp [trace]⟩, by simp [trace], by simp [trace]⟩
  | cons op ops ih =>
    have hooks : ∀ m, (marks ((Step.built ⟨s, op⟩ m).events)).Sublist
        [.hookPrepared, .hookSerialized] := fun m => Call.marks_build quiet m s.call.draft
    cases Step.effect ⟨s, op⟩ with
    | idle unguarded events stage answer =>
      have same : (Step.after ⟨s, op⟩).call.stage = .unprepared := stage.trans h
      obtain ⟨r, rest⟩ := ih same (Step.quiet_after quiet (quietOps op (by simp)))
        fun op' hop => quietOps op' (by simp [hop])
      refine ⟨r, rest.cons_unmarked (by simp [events]) (fun r' h' => absurd h' (answer r')) ?_⟩
      intro r' h'
      rw [Call.request?, same] at h'
      cases h'
    | refused closed guarded refused => simp [h, Stage.isClosed] at closed
    | kept m r _ before => simp [h] at before
    | prepared m r _ before built events after result =>
      refine ⟨r, (speaksOf_prepared after ops).cons_marked ?_ ?_ ?_⟩
      · rw [events]
        exact hooks m
      · intro r' h'
        rw [result] at h'
        exact (Answer.request.inj (Except.ok.inj h')).symm
      · intro r' h'
        rw [Call.request?, after] at h'
        exact (Option.some.inj h').symm
    | rejected m e moment before built events after result =>
      have closed : (Step.after ⟨s, op⟩).call.stage.isClosed = true := by rw [after]; rfl
      have nothing : (Step.after ⟨s, op⟩).call.request? = none := by rw [Call.request?, after]; rfl
      refine ⟨⟨.get, "", [], none⟩, (speaksOf_closed closed ?_ ops).cons_marked ?_ ?_ ?_⟩
      · simp [nothing]
      · rw [events]
        exact hooks m
      · simp [result]
      · simp [nothing]
    | sent m r events₀ mode isCancelled transport _ before events after result =>
      rcases before with ⟨before, -⟩ | ⟨-, -, rfl⟩
      · simp [h] at before
      · refine ⟨r, speaksOf_sent mode ?_ after ?_⟩
        · rw [events, marks_append, marks_append, Call.marks_endRecord, List.append_nil]
          exact (hooks m).append (Call.marks_convey ..)
        · intro r' h'
          rw [result] at h'
          exact Call.told_ne_request _ _ _ h'

theorem trace_eq_append {s : Session} {ops : List Op} {a : List Step} {x : Step}
    {rest : List Step} (h : trace s ops = a ++ x :: rest) : ∃ ops', rest = trace x.after ops' := by
  induction a generalizing s ops with
  | nil =>
    cases ops with
    | nil => cases h
    | cons op ops =>
      obtain ⟨rfl, rfl⟩ := List.cons_eq_cons.mp h
      exact ⟨ops, rfl⟩
  | cons y a ih =>
    cases ops with
    | nil => cases h
    | cons op ops => exact ih (List.cons_eq_cons.mp h).2

theorem prepared_after {x : Step} {r : Request} (h : x.before.call.stage = .prepared r)
    (waits : x.op.isInvoke = false) : x.after.call.stage = .prepared r := by
  cases x.effect with
  | idle unguarded events stage answer => exact stage.trans h
  | refused closed guarded refused => simp [h, Stage.isClosed] at closed
  | kept m r' op before events after result =>
    rw [after]
    exact h
  | prepared m r' op before => simp [h] at before
  | rejected m e moment before => simp [h] at before
  | sent m r' events₀ mode isCancelled transport op =>
    rw [op] at waits
    cases waits

theorem prepared_of_result {x : Step} {r : Request} (h : x.result = .ok (.request r)) :
    x.after.call.stage = .prepared r := by
  cases x.effect with
  | idle unguarded events stage answer => exact absurd h (answer r)
  | refused closed guarded refused => simp [refused.result] at h
  | kept m r' op before events after result =>
    rw [result] at h
    rw [after, before, Answer.request.inj (Except.ok.inj h)]
  | prepared m r' op before built events after result =>
    rw [result] at h
    rw [after, Answer.request.inj (Except.ok.inj h)]
  | rejected m e moment before built events after result =>
    rw [result] at h
    cases h
  | sent m r' events₀ mode isCancelled transport op before events after result =>
    rw [result] at h
    exact absurd h (Call.told_ne_request _ _ _)

theorem prepared_of_waiting {s : Session} {ops : List Op} {b c : List Step} {y : Step}
    {r : Request} (h : s.call.stage = .prepared r) (waits : ∀ z ∈ b, z.op.isInvoke = false)
    (split : trace s ops = b ++ y :: c) : y.before.call.stage = .prepared r := by
  induction b generalizing s ops with
  | nil =>
    cases ops with
    | nil => cases split
    | cons op ops =>
      obtain ⟨rfl, -⟩ := List.cons_eq_cons.mp split
      exact h
  | cons z b ih =>
    cases ops with
    | nil => cases split
    | cons op ops =>
      obtain ⟨rfl, tail⟩ := List.cons_eq_cons.mp split
      exact ih (prepared_after h (waits _ (by simp))) (fun w hw => waits w (by simp [hw])) tail

/-- A prepared call that is not sent in between gives the same request when it is prepared
again, and nothing else happens. -/
theorem trace_repeats {s : Session} {ops : List Op} {a b c : List Step} {x y : Step} {r : Request}
    (split : trace s ops = a ++ x :: (b ++ y :: c)) (first : x.result = .ok (.request r))
    (waits : ∀ z ∈ b, z.op.isInvoke = false) {m : Moment} (again : y.op = .prepare m) :
    y.result = .ok (.request r) ∧ y.after = y.before ∧ y.events = [] := by
  obtain ⟨ops', rest⟩ := trace_eq_append split
  have before := prepared_of_waiting (prepared_of_result first) waits rest.symm
  cases y.effect with
  | kept m' r' op before' events after result =>
    rw [before] at before'
    rw [Stage.prepared.inj before']
    exact ⟨result, after, events⟩
  | idle unguarded events stage answer => simp [again, Op.isGuarded] at unguarded
  | refused closed guarded refused => simp [before, Stage.isClosed] at closed
  | prepared m' r' op before' => simp [before] at before'
  | rejected m' e moment before' => simp [before] at before'
  | sent m' r' events₀ mode isCancelled transport op =>
    rw [again] at op
    cases op

namespace Step

/-- A call that is not prepared after a step was not prepared before, and nothing happened. -/
theorem idle_of_unprepared_after {x : Step} (h : x.after.call.stage = .unprepared) :
    x.before.call.stage = .unprepared ∧ x.events = [] := by
  cases x.effect with
  | idle unguarded events stage answer => exact ⟨stage.symm.trans h, events⟩
  | refused closed guarded refused => simp [← refused.after, h, Stage.isClosed] at closed
  | kept m r op before events after result =>
    rw [after, before] at h
    cases h
  | prepared m r op before built events after result =>
    rw [after] at h
    cases h
  | rejected m e moment before built events after result =>
    rw [after] at h
    cases h
  | sent m r events₀ mode isCancelled transport op before events after result =>
    have closed := Call.isClosed_sentStage r
      (Call.convey x.before.service.endpoint.config mode isCancelled transport r).2
    rw [← after, h] at closed
    cases closed

theorem rejected_of_failsToPrepare {x : Step} (h : x.FailsToPrepare) :
    x.after.call.stage = .rejected ∧ ∃ m, x.events = (x.built m).events := by
  obtain ⟨unprepared, m, e, moment, failed⟩ := h
  cases x.effect with
  | idle unguarded events stage answer =>
    cases hop : x.op <;> simp_all [moment?, Op.isGuarded]
  | refused closed guarded refused => simp [unprepared, Stage.isClosed] at closed
  | kept m r op before events after result => simp [unprepared] at before
  | prepared m' r op before built events after result =>
    simp only [moment?, op, Option.some.injEq] at moment
    subst moment
    rw [built] at failed
    cases failed
  | rejected m' e moment before built events after result => exact ⟨after, m', events⟩
  | sent m' r events₀ mode isCancelled transport op before events after result =>
    simp only [moment?, op, Option.some.injEq] at moment
    subst moment
    rcases before with ⟨before, -⟩ | ⟨-, built, -⟩
    · simp [unprepared] at before
    · rw [built] at failed
      cases failed

end Step

theorem unprepared_of_mem_trace {s : Session} {ops : List Op} {x : Step} (hx : x ∈ trace s ops)
    (h : x.before.call.stage = .unprepared) : s.call.stage = .unprepared := by
  induction ops generalizing s with
  | nil => cases hx
  | cons op ops ih =>
    rcases List.mem_cons.mp hx with rfl | hx
    · exact h
    · exact (Step.idle_of_unprepared_after (ih hx)).1

/-- Nothing goes out of a run in which the preparation fails. -/
theorem marks_of_failsToPrepare {s : Session} (quiet : s.service.Quiet) {ops : List Op}
    (quietOps : ∀ op ∈ ops, op.Quiet) {x : Step} (hx : x ∈ trace s ops) (h : x.FailsToPrepare) :
    (marks (traceEvents (trace s ops))).Sublist [.hookPrepared, .hookSerialized] := by
  induction ops generalizing s with
  | nil => cases hx
  | cons op ops ih =>
    rw [trace, traceEvents_cons, marks_append]
    rcases List.mem_cons.mp hx with rfl | hx
    · obtain ⟨after, m, events⟩ := Step.rejected_of_failsToPrepare h
      have closed : (Step.after ⟨s, op⟩).call.stage.isClosed = true := by rw [after]; rfl
      rw [marks_trace_of_closed closed, List.append_nil, events]
      exact Call.marks_build quiet m s.call.draft
    · obtain ⟨-, events⟩ := Step.idle_of_unprepared_after (unprepared_of_mem_trace hx h.1)
      rw [events]
      exact ih (Step.quiet_after quiet (quietOps op (by simp)))
        (fun op' hop => quietOps op' (by simp [hop])) hx

theorem count_marks {event : Event} (h : event.isMark = true) (events : List Event) :
    (marks events).count event = events.count event :=
  List.count_filter h

theorem countP_marks (events : List Event) :
    (marks events).countP Event.isHandedOver = events.countP Event.isHandedOver := by
  have mark : ∀ event : Event, event.isHandedOver = true → event.isMark = true := by
    intro event h
    cases event <;> simp_all [Event.isMark, Event.isHandedOver]
  rw [marks, List.countP_filter]
  apply List.countP_congr
  intro event _
  by_cases h : event.isHandedOver = true
  · simp [h, mark event h]
  · simp [h]

/-- In every run of a new call the hook is asked once at most for each of its two parts, and one
request goes out at most, none if it could not be prepared; all requests that are returned, kept
or sent are one and the same, which preparing again returns as long as nothing is sent; and after
a sending or a failed preparation, everything that would prepare or send is refused and changes
nothing. -/
theorem run_sentOnce {service : Service} (quiet : service.Quiet) {ops : List Op}
    (quietOps : ∀ op ∈ ops, op.Quiet) :
    let steps := trace (.start service) ops
    let events := traceEvents steps
    (events.count .hookPrepared ≤ 1 ∧ events.count .hookSerialized ≤ 1 ∧
      events.countP Event.isHandedOver ≤ 1) ∧
    ((∃ x ∈ steps, x.FailsToPrepare) → events.countP Event.isHandedOver = 0) ∧
    (∃ r, (∀ x ∈ steps, ∀ r', x.result = .ok (.request r') → r' = r) ∧
      (∀ x ∈ steps, ∀ r', x.after.call.request? = some r' → r' = r) ∧
      ∀ mode r', .handedOver mode r' ∈ events → r' = r) ∧
    (∀ a x b y c r m, steps = a ++ x :: (b ++ y :: c) → x.result = .ok (.request r) →
      (∀ z ∈ b, z.op.isInvoke = false) → y.op = .prepare m →
      y.result = .ok (.request r) ∧ y.after = y.before ∧ y.events = []) ∧
    steps.Pairwise fun x y => x.Spends → y.op.isGuarded = true → y.Refused := by
  intro steps events
  obtain ⟨r, speaks⟩ := speaksOf_unprepared (s := .start service) rfl quiet quietOps
  obtain ⟨mode, order⟩ := speaks.inOrder
  refine ⟨⟨?_, ?_, ?_⟩, ?_, ⟨r, speaks.answers, speaks.stored, ?_⟩, ?_,
    trace_refused _ ops⟩
  · rw [← count_marks rfl]
    exact Nat.le_trans (order.count_le _) (by simp)
  · rw [← count_marks rfl]
    exact Nat.le_trans (order.count_le _) (by simp)
  · rw [← countP_marks]
    exact Nat.le_trans order.countP_le (by simp [Event.isHandedOver])
  · rintro ⟨x, hx, fails⟩
    have none_ := marks_of_failsToPrepare (s := .start service) quiet quietOps hx fails
    rw [← countP_marks]
    exact Nat.le_zero.mp (Nat.le_trans none_.countP_le (by simp [Event.isHandedOver]))
  · intro mode' r' h
    have mem := order.subset ((mem_marks rfl).mpr h)
    simp only [List.cons_append, List.nil_append, List.mem_cons, reduceCtorEq, List.not_mem_nil,
      or_false, false_or] at mem
    exact (Event.handedOver.inj mem).2
  · intro a x b y c r' m split first waits again
    exact trace_repeats split first waits again

def photosService : Service :=
  ⟨.ofConfig (.ofTemplate "http://photos.example.net/"),
    some (OAuth1.Signer.ofCredentials
      ⟨"dpf43f3p2l4k3l03", "kd94hf93k423kf44", none, none, .plaintext⟩).hook⟩

/-- A call that is prepared twice, and sent twice after a change that comes too late. -/
def photosOps : List Op :=
  let m : Moment := ⟨⟨1191242096, 0⟩, "kllo9940pd9333jh", "boundary"⟩
  let answering : Transport := fun _ _ => ⟨[], some (.ok ⟨200, "OK", [], []⟩)⟩
  [.edit (·.addText "size" "original"), .prepare m, .edit (·.addText "size" "large"), .prepare m,
    .invoke m .awaited false answering, .invoke m .blocking false answering]

theorem photos_sentOnce :
    photosService.Quiet ∧ (∀ op ∈ photosOps, op.Quiet) ∧
      (traceEvents (trace (.start photosService) photosOps)).countP Event.isHandedOver = 1 := by
  have quiet : photosService.Quiet := by
    intro hook h
    obtain rfl := Option.some.inj h
    exact OAuth1.Signer.hook_quiet _
  have quietOps : ∀ op ∈ photosOps, op.Quiet := by simp [photosOps, Op.Quiet]
  have once := (run_sentOnce quiet quietOps).1.2.2
  exact ⟨quiet, quietOps, Nat.le_antisymm once (by decide +kernel)⟩

end SignedRest
