import Mathlib.Data.List.Induction
import SignedRest.Proofs.SentOnce
import SignedRest.Call.Task

/-! Calls sent in the background, and who wins the race for them: the callback runs once at most,
and what it is given was decided when the task got to run, by what had been signalled until then.
A cancellation that comes while the call is prepared is one that came before, as nothing looks at
it in between. -/
namespace SignedRest

/-- A result and the call that it comes with say the same. -/
structure Delivery.Matches (d : Delivery) : Prop where
  completed : d.result = .ok () ↔ d.call.state = .completed
  cancelled : d.result = .error .cancelled ↔ d.call.state = .cancelled
  noResponse : d.call.state = .cancelled → d.call.response? = none
  failed : (∃ e, d.result = .error e ∧ e ≠ .cancelled) ↔ d.call.state = .failed

def Delivery.ofEnding (c : Call) (r : Request) (result : Except Error Response) : Delivery :=
  ⟨{ c with stage := (Call.settle r result).1 }, (Call.settle r result).2.map fun _ => ()⟩

theorem Delivery.matches_ofEnding (c : Call) (r : Request) (result : Except Error Response) :
    (ofEnding c r result).Matches := by
  rcases Call.settle_cases r result with ⟨response, -, -, h⟩ | ⟨response, -, -, h⟩ | ⟨-, h⟩ |
    ⟨e, -, other, h⟩
  · constructor <;> simp [ofEnding, h, Except.map, Call.state, Stage.state]
  · constructor <;> simp [ofEnding, h, Except.map, Call.state, Stage.state]
  · constructor <;> simp [ofEnding, h, Except.map, Call.state, Call.response?, Stage.state,
      Stage.response?]
  · constructor <;> simp [ofEnding, h, Except.map, Call.state, Stage.state, other]

/-- Who cannot be prepared has failed, or was used up before and stays as it was. -/
theorem Call.refusal_of_prepare {s : Service} {m : Moment} {c : Call} {e : Error}
    (h : (prepare s m c).result = .error e) :
    c.stage = .unprepared ∧ (prepare s m c).state.state = .failed ∨
      c.stage.isClosed = true ∧ (prepare s m c).state = c ∧ e = .callReused := by
  rcases c.stage.cases_closed with fresh | ⟨r, kept⟩ | closed
  · rw [prepare_of_unprepared fresh] at h ⊢
    have failed : (build s m c.draft).result = .error e := h
    exact .inl ⟨fresh, by simp [failed, state, Stage.state]⟩
  · rw [prepare_of_prepared kept] at h
    cases h
  · rw [prepare_of_closed closed] at h ⊢
    exact .inr ⟨closed, rfl, (Except.error.inj h).symm⟩

namespace Task

def Signal.isPoll : Signal → Bool
  | poll _ => true
  | _ => false

def Signal.isCancel : Signal → Bool
  | cancelHandle | cancelOwner => true
  | _ => false

def Signal.arrival? : Signal → Option (List Event × Except Error Response)
  | arrive events result => some (events, result)
  | _ => none

section
variable (s : Service)

@[simp] theorem run_nil (t : Task) : t.run s [] = t := rfl

@[simp] theorem run_cons (t : Task) (signal : Signal) (rest : List Signal) :
    t.run s (signal :: rest) = (t.step s signal).run s rest := rfl

theorem run_append (t : Task) (a b : List Signal) : t.run s (a ++ b) = (t.run s a).run s b :=
  List.foldl_append

/-- Ends the task with what came of its request. -/
def conclude (t : Task) (r : Request) (result : Except Error Response) : Task :=
  t.deliver (Call.finish s.endpoint.config.debug r result t.call)

/-- The task after its call was prepared and put in flight. -/
def launched (t : Task) (m : Moment) (r : Request) : Task :=
  { t with
    call := ⟨(Call.prepare s m t.call).state.draft, .inFlight r⟩
    events := t.events ++ (Call.prepare s m t.call).events }

def handOver (t : Task) (r : Request) : Task :=
  { t with phase := .sending r, events := t.events ++ [.handedOver .awaited r] }

@[simp] theorem deliveries_conclude (t : Task) (r : Request) (result : Except Error Response) :
    (t.conclude s r result).deliveries = t.deliveries ++ [.ofEnding t.call r result] := rfl

@[simp] theorem phase_conclude (t : Task) (r : Request) (result : Except Error Response) :
    (t.conclude s r result).phase = .finished := rfl

theorem start_of_error {t : Task} {m : Moment} {e : Error}
    (h : (Call.prepare s m t.call).result = .error e) :
    t.start s m = t.deliver
      ⟨(Call.prepare s m t.call).state, (Call.prepare s m t.call).events, .error e⟩ := by
  simp only [start, Call.begin_of_error h]

theorem start_of_ok {t : Task} {m : Moment} {r : Request}
    (h : (Call.prepare s m t.call).result = .ok r) :
    t.start s m =
      match Call.clientFault s.endpoint.config with
      | some e => (t.launched s m r).conclude s r (.error e)
      | none =>
        if t.isCancelled then (t.launched s m r).conclude s r (.error .cancelled)
        else (t.launched s m r).handOver r := by
  simp only [start, Call.begin_of_ok h]
  rfl

theorem resume_of_cancelled {t : Task} (h : t.isCancelled = true) (r : Request) :
    t.resume s r = t.conclude s r (.error .cancelled) := if_pos h

theorem resume_of_arrived {t : Task} (waits : t.isCancelled = false) {events : List Event}
    {result : Except Error Response} (h : t.arrived = some (events, result)) (r : Request) :
    t.resume s r = { t with events := t.events ++ events }.conclude s r result := by
  simp only [resume, waits, h]
  rfl

theorem resume_of_waiting {t : Task} (waits : t.isCancelled = false) (h : t.arrived = none)
    (r : Request) : t.resume s r = t := by
  simp [resume, waits, h]

theorem step_arrive {t : Task} {r : Request} (h : t.phase = .sending r) (events : List Event)
    (result : Except Error Response) :
    t.step s (.arrive events result) =
      { t with arrived := t.arrived <|> some (events, result) } := by
  simp only [step, h]

/-- Nothing that matters changes any more. -/
structure Same (t t' : Task) : Prop where
  call : t'.call = t.call
  phase : t'.phase = t.phase
  deliveries : t'.deliveries = t.deliveries
  events : t'.events = t.events

theorem step_finished {t : Task} (h : t.phase = .finished) (signal : Signal) :
    t.Same (t.step s signal) := by
  cases signal <;> constructor <;> simp [step, h]

theorem run_finished {t : Task} (h : t.phase = .finished) (signals : List Signal) :
    t.Same (t.run s signals) := by
  induction signals generalizing t with
  | nil => exact ⟨rfl, rfl, rfl, rfl⟩
  | cons signal rest ih =>
    have first := step_finished s h signal
    have more := ih (first.phase.trans h)
    exact ⟨more.call.trans first.call, more.phase.trans first.phase,
      more.deliveries.trans first.deliveries, more.events.trans first.events⟩

/-- A task that has ended has delivered its call, and no other has delivered anything. -/
def Tidy (t : Task) : Prop :=
  match t.phase with
  | .finished => ∃ result, t.deliveries = [⟨t.call, result⟩]
  | _ => t.deliveries = []

theorem tidy_deliver {t : Task} (h : t.deliveries = []) (o : Outcome Call Response) :
    (t.deliver o).Tidy := by
  simp [Tidy, deliver, h]

theorem tidy_start {t : Task} (h : t.deliveries = []) (m : Moment) : (t.start s m).Tidy := by
  cases prepared : (Call.prepare s m t.call).result with
  | error e =>
    rw [start_of_error s prepared]
    exact tidy_deliver h _
  | ok r =>
    rw [start_of_ok s prepared]
    cases Call.clientFault s.endpoint.config with
    | some e => exact tidy_deliver h _
    | none =>
      cases t.isCancelled with
      | true => exact tidy_deliver h _
      | false => exact h

theorem tidy_resume {t : Task} {r : Request} (phase : t.phase = .sending r)
    (h : t.deliveries = []) : (t.resume s r).Tidy := by
  cases cancelled : t.isCancelled with
  | true =>
    rw [resume_of_cancelled s cancelled]
    exact tidy_deliver h _
  | false =>
    cases arrived : t.arrived with
    | none =>
      rw [resume_of_waiting s cancelled arrived]
      simpa only [Tidy, phase] using h
    | some answer =>
      rw [resume_of_arrived s cancelled arrived]
      exact tidy_deliver h _

theorem tidy_step {t : Task} (h : t.Tidy) (signal : Signal) : (t.step s signal).Tidy := by
  cases phase : t.phase with
  | finished =>
    have same := step_finished s phase signal
    simpa only [Tidy, same.phase, same.deliveries, same.call, phase] using h
  | waiting =>
    have none_ : t.deliveries = [] := by simpa only [Tidy, phase] using h
    cases signal with
    | poll m => simpa only [step, phase] using tidy_start s none_ m
    | cancelHandle => simpa only [step, Tidy, phase] using none_
    | cancelOwner => simpa only [step, Tidy, phase] using none_
    | arrive events result => simpa only [step, Tidy, phase] using none_
  | sending r =>
    have none_ : t.deliveries = [] := by simpa only [Tidy, phase] using h
    cases signal with
    | poll m => simpa only [step, phase] using tidy_resume s phase none_
    | cancelHandle => simpa only [step, Tidy, phase] using none_
    | cancelOwner => simpa only [step, Tidy, phase] using none_
    | arrive events result => simpa only [step, Tidy, phase] using none_

theorem tidy_run {t : Task} (h : t.Tidy) (signals : List Signal) : (t.run s signals).Tidy := by
  induction signals generalizing t with
  | nil => exact h
  | cons signal rest ih => exact ih (tidy_step s h signal)

theorem tidy_spawn (c : Call) : (spawn c).Tidy := rfl

theorem matches_conclude {t : Task} (h : ∀ d ∈ t.deliveries, d.Matches) (r : Request)
    (result : Except Error Response) :
    (t.conclude s r result).phase ≠ .waiting ∧
      ∀ d ∈ (t.conclude s r result).deliveries, d.Matches := by
  refine ⟨by simp, fun d hd => ?_⟩
  rw [deliveries_conclude] at hd
  rcases List.mem_append.mp hd with hd | hd
  · exact h d hd
  · rw [List.mem_singleton.mp hd]
    exact Delivery.matches_ofEnding ..

/-- What a task with a request of its own delivers is the ending of that request. -/
theorem matches_step {t : Task} (begun : t.phase ≠ .waiting) (h : ∀ d ∈ t.deliveries, d.Matches)
    (signal : Signal) :
    (t.step s signal).phase ≠ .waiting ∧ ∀ d ∈ (t.step s signal).deliveries, d.Matches := by
  cases phase : t.phase with
  | waiting => exact absurd phase begun
  | finished =>
    have same := step_finished s phase signal
    rw [same.phase, same.deliveries]
    exact ⟨begun, h⟩
  | sending r =>
    cases signal with
    | cancelHandle => exact ⟨begun, h⟩
    | cancelOwner => exact ⟨begun, h⟩
    | arrive events result =>
      rw [step_arrive s phase]
      exact ⟨begun, h⟩
    | poll m =>
      simp only [step, phase]
      cases cancelled : t.isCancelled with
      | true =>
        rw [resume_of_cancelled s cancelled]
        exact matches_conclude s h r _
      | false =>
        cases arrived : t.arrived with
        | none =>
          rw [resume_of_waiting s cancelled arrived]
          exact ⟨begun, h⟩
        | some answer =>
          rw [resume_of_arrived s cancelled arrived]
          exact matches_conclude s h r _

theorem matches_run {t : Task} (begun : t.phase ≠ .waiting) (h : ∀ d ∈ t.deliveries, d.Matches)
    (signals : List Signal) : ∀ d ∈ (t.run s signals).deliveries, d.Matches := by
  induction signals generalizing t with
  | nil => exact h
  | cons signal rest ih =>
    obtain ⟨begun', h'⟩ := matches_step s begun h signal
    exact ih begun' h'

theorem matches_start {t : Task} (h : t.deliveries = []) {m : Moment} {r : Request}
    (prepared : (Call.prepare s m t.call).result = .ok r) :
    (t.start s m).phase ≠ .waiting ∧ ∀ d ∈ (t.start s m).deliveries, d.Matches := by
  have unsent : ∀ d ∈ (t.launched s m r).deliveries, d.Matches := by simp [launched, h]
  rw [start_of_ok s prepared]
  cases Call.clientFault s.endpoint.config with
  | some e => exact matches_conclude s unsent r _
  | none =>
    cases t.isCancelled with
    | true => exact matches_conclude s unsent r _
    | false => exact ⟨by simp [handOver], by simp [handOver, launched, h]⟩

/-- A task that has not run, and what was signalled to it. -/
structure Idle (c : Call) (signals : List Signal) (t : Task) : Prop where
  call : t.call = c
  phase : t.phase = .waiting
  isCancelled : t.isCancelled = signals.any Signal.isCancel
  arrived : t.arrived = none
  deliveries : t.deliveries = []
  events : t.events = []

theorem idle_run (c : Call) {signals : List Signal} (h : ∀ x ∈ signals, x.isPoll = false) :
    Idle c signals ((spawn c).run s signals) := by
  induction signals using List.reverseRecOn with
  | nil => exact ⟨rfl, rfl, rfl, rfl, rfl, rfl⟩
  | append_singleton past signal ih =>
    have before := ih fun x hx => h x (List.mem_append_left _ hx)
    have phase := before.phase
    have flag := before.isCancelled
    rw [run_append, run_cons, run_nil]
    cases signal with
    | poll m => exact nomatch h (.poll m) (by simp)
    | cancelHandle =>
      exact ⟨before.call, phase, by simp [step, Task.isCancelled, Signal.isCancel], before.arrived,
        before.deliveries, before.events⟩
    | cancelOwner =>
      exact ⟨before.call, phase, by simp [step, Task.isCancelled, Signal.isCancel], before.arrived,
        before.deliveries, before.events⟩
    | arrive events result =>
      simp only [step, phase]
      exact ⟨before.call, phase, by simpa [Signal.isCancel] using flag, before.arrived,
        before.deliveries, before.events⟩

/-- A task that waits for the answer to its request, and what was signalled since. -/
structure Underway (sent : Task) (r : Request) (signals : List Signal) (t : Task) : Prop where
  call : t.call = sent.call
  phase : t.phase = .sending r
  isCancelled : t.isCancelled = signals.any Signal.isCancel
  arrived : t.arrived = signals.findSome? Signal.arrival?
  deliveries : t.deliveries = []

theorem underway_step {sent t : Task} {r : Request} {past : List Signal}
    (h : Underway sent r past t) (signal : Signal) :
    (t.step s signal).phase = .finished ∨ Underway sent r (past ++ [signal]) (t.step s signal) := by
  obtain ⟨call, phase, flag, arrived, deliveries⟩ := h
  cases signal with
  | cancelHandle =>
    refine .inr ⟨call, phase, ?_, ?_, deliveries⟩
    · simp [step, Task.isCancelled, Signal.isCancel]
    · simpa [step, Signal.arrival?] using arrived
  | cancelOwner =>
    refine .inr ⟨call, phase, ?_, ?_, deliveries⟩
    · simp [step, Task.isCancelled, Signal.isCancel]
    · simpa [step, Signal.arrival?] using arrived
  | arrive events result =>
    rw [step_arrive s phase]
    refine .inr ⟨call, phase, ?_, ?_, deliveries⟩
    · show t.isCancelled = _
      simpa [Signal.isCancel] using flag
    · show (t.arrived <|> some (events, result)) = _
      rw [List.findSome?_append, arrived]
      cases past.findSome? Signal.arrival? <;> rfl
  | poll m =>
    simp only [step, phase]
    cases cancelled : t.isCancelled with
    | true =>
      rw [resume_of_cancelled s cancelled]
      exact .inl rfl
    | false =>
      cases answer : t.arrived with
      | some both =>
        rw [resume_of_arrived s cancelled answer]
        exact .inl rfl
      | none =>
        rw [resume_of_waiting s cancelled answer]
        refine .inr ⟨call, phase, ?_, ?_, deliveries⟩
        · simpa [Signal.isCancel] using flag
        · simpa [Signal.arrival?] using arrived

/-- A request stays in flight until the task runs with something to decide it. -/
theorem underway_run {sent : Task} {r : Request} (h : Underway sent r [] sent)
    (signals : List Signal) :
    (sent.run s signals).phase = .finished ∨ Underway sent r signals (sent.run s signals) := by
  -- by the last signal, since what was signalled is asked for from the first one on
  induction signals using List.reverseRecOn with
  | nil => exact .inr h
  | append_singleton past signal ih =>
    rw [run_append, run_cons, run_nil]
    rcases ih with ended | before
    · exact .inl ((step_finished s ended signal).phase.trans ended)
    · exact underway_step s before signal

/-- A task that first runs when `before` has been signalled. -/
def raced (c : Call) (before : List Signal) (m : Moment) (after : List Signal) : Task :=
  (spawn c).run s (before ++ .poll m :: after)

/-- What was decided for a task when it first ran, and whenever it ran again. -/
structure Decided (c : Call) (before : List Signal) (m : Moment) (after : List Signal) : Prop where
  /-- A call that cannot be prepared says so, cancelled or not. -/
  refused (e : Error) (h : (Call.prepare s m c).result = .error e) :
    (raced s c before m after).deliveries = [⟨(Call.prepare s m c).state, .error e⟩] ∧
      (raced s c before m after).events = (Call.prepare s m c).events ∧
      (c.stage = .unprepared ∧ (Call.prepare s m c).state.state = .failed ∨
        c.stage.isClosed = true ∧ (Call.prepare s m c).state = c ∧ e = .callReused)
  truthful (r : Request) (h : (Call.prepare s m c).result = .ok r) :
    ∀ d ∈ (raced s c before m after).deliveries, d.Matches
  clientless (r : Request) (h : (Call.prepare s m c).result = .ok r) (e : Error)
    (client : Call.clientFault s.endpoint.config = some e) :
    (raced s c before m after).deliveries = [.ofEnding (Call.prepare s m c).state r (.error e)]
  /-- A cancellation that comes before the sending leaves nothing to send. -/
  early (r : Request) (h : (Call.prepare s m c).result = .ok r)
    (client : Call.clientFault s.endpoint.config = none)
    (cancelled : before.any Signal.isCancel = true) :
    (raced s c before m after).deliveries =
        [.ofEnding (Call.prepare s m c).state r (.error .cancelled)] ∧
      (raced s c before m after).events = (Call.prepare s m c).events ++
        Call.endRecord s.endpoint.config.debug r (some (.error .cancelled))
  sent (r : Request) (h : (Call.prepare s m c).result = .ok r)
    (client : Call.clientFault s.endpoint.config = none)
    (waits : before.any Signal.isCancel = false) :
    (raced s c before m []).phase = .sending r ∧
      (raced s c before m []).events = (Call.prepare s m c).events ++ [.handedOver .awaited r]
  /-- Whenever it runs while the request is in flight, a cancellation counts before an answer,
  and of the answers the first. -/
  late (r : Request) (mid : List Signal) (m' : Moment) (rest : List Signal)
    (split : after = mid ++ .poll m' :: rest)
    (sending : (raced s c before m mid).phase = .sending r) :
    (mid.any Signal.isCancel = true →
      (raced s c before m after).deliveries =
        [.ofEnding (Call.prepare s m c).state r (.error .cancelled)]) ∧
    (mid.any Signal.isCancel = false → ∀ answer, mid.findSome? Signal.arrival? = some answer →
      (raced s c before m after).deliveries =
        [.ofEnding (Call.prepare s m c).state r answer.2])

theorem run_conclude (t : Task) (r : Request) (result : Except Error Response)
    (rest : List Signal) :
    ((t.conclude s r result).run s rest).deliveries = t.deliveries ++ [.ofEnding t.call r result] ∧
      ((t.conclude s r result).run s rest).events =
        t.events ++ Call.endRecord s.endpoint.config.debug r (some result) := by
  have same := run_finished s (phase_conclude s t r result) rest
  exact ⟨same.deliveries, same.events⟩

theorem Idle.raced {c : Call} {before : List Signal}
    (h : Idle c before ((spawn c).run s before)) (m : Moment) (after : List Signal) :
    raced s c before m after = (((spawn c).run s before).start s m).run s after := by
  rw [Task.raced, run_append, run_cons, step, h.phase]

section Idle

variable {c : Call} {before : List Signal} (idle : Idle c before ((spawn c).run s before))
  {m : Moment} {r : Request}
include idle

theorem Idle.refused {e : Error} (h : (Call.prepare s m c).result = .error e)
    (after : List Signal) :
    (Task.raced s c before m after).deliveries = [⟨(Call.prepare s m c).state, .error e⟩] ∧
      (Task.raced s c before m after).events = (Call.prepare s m c).events := by
  rw [← idle.call] at h
  rw [idle.raced, start_of_error s h, idle.call]
  have same := run_finished s (t := ((spawn c).run s before).deliver
    ⟨(Call.prepare s m c).state, (Call.prepare s m c).events, .error e⟩) rfl after
  refine ⟨same.deliveries.trans ?_, same.events.trans ?_⟩
  · simp [deliver, idle.deliveries, Except.map]
  · simp [deliver, idle.events]

/-- A call that ends before it is sent. -/
theorem Idle.ended {result : Except Error Response} (after : List Signal)
    (h : ((spawn c).run s before).start s m =
      (((spawn c).run s before).launched s m r).conclude s r result) :
    (Task.raced s c before m after).deliveries =
        [.ofEnding (Call.prepare s m c).state r result] ∧
      (Task.raced s c before m after).events = (Call.prepare s m c).events ++
        Call.endRecord s.endpoint.config.debug r (some result) := by
  obtain ⟨deliveries, events⟩ := run_conclude s (((spawn c).run s before).launched s m r) r result
    after
  rw [idle.raced, h, deliveries, events]
  constructor
  · simp [launched, idle.call, idle.deliveries, Delivery.ofEnding]
  · simp [launched, idle.call, idle.events]

/-- A call that was prepared, has a client and was not cancelled is handed over. -/
theorem Idle.start_sent (h : (Call.prepare s m c).result = .ok r)
    (client : Call.clientFault s.endpoint.config = none)
    (waits : before.any Signal.isCancel = false) :
    ((spawn c).run s before).start s m = (((spawn c).run s before).launched s m r).handOver r := by
  rw [← idle.call] at h
  rw [start_of_ok s h, client, if_neg]
  simp [idle.isCancelled, waits]

theorem Idle.start_cancelled (h : (Call.prepare s m c).result = .ok r)
    (client : Call.clientFault s.endpoint.config = none)
    (cancelled : before.any Signal.isCancel = true) :
    ((spawn c).run s before).start s m =
      (((spawn c).run s before).launched s m r).conclude s r (.error .cancelled) := by
  rw [← idle.call] at h
  rw [start_of_ok s h, client, if_pos (idle.isCancelled.trans cancelled)]

theorem Idle.start_clientless (h : (Call.prepare s m c).result = .ok r) {e : Error}
    (client : Call.clientFault s.endpoint.config = some e) :
    ((spawn c).run s before).start s m =
      (((spawn c).run s before).launched s m r).conclude s r (.error e) := by
  rw [← idle.call] at h
  rw [start_of_ok s h, client]

/-- A request in flight is the one that was handed over. -/
theorem Idle.underway {mid : List Signal}
    (sending : (Task.raced s c before m mid).phase = .sending r) :
    Underway ((((spawn c).run s before).launched s m r).handOver r) r mid
      (Task.raced s c before m mid) := by
  have unended : ∀ {t : Task}, t.phase = .finished →
      ((spawn c).run s before).start s m ≠ t := by
    intro t ended start
    have same := run_finished s ended mid
    rw [idle.raced, start, same.phase, ended] at sending
    cases sending
  cases prepared : (Call.prepare s m c).result with
  | error e =>
    rw [← idle.call] at prepared
    exact absurd (start_of_error s prepared) (unended rfl)
  | ok r₀ =>
    cases client : Call.clientFault s.endpoint.config with
    | some e => exact absurd (idle.start_clientless s prepared client) (unended rfl)
    | none =>
      cases waits : before.any Signal.isCancel with
      | true => exact absurd (idle.start_cancelled s prepared client waits) (unended rfl)
      | false =>
        have start := idle.start_sent s prepared client waits
        have handed : Underway ((((spawn c).run s before).launched s m r₀).handOver r₀) r₀ []
            ((((spawn c).run s before).launched s m r₀).handOver r₀) :=
          ⟨rfl, rfl, idle.isCancelled.trans waits, idle.arrived, idle.deliveries⟩
        rw [idle.raced, start] at sending ⊢
        rcases underway_run s handed mid with ended | underway
        · rw [ended] at sending
          cases sending
        · have same := underway.phase.symm.trans sending
          cases same
          exact underway

theorem Idle.late {mid : List Signal} (sending : (Task.raced s c before m mid).phase = .sending r)
    (m' : Moment) (rest : List Signal) :
    (mid.any Signal.isCancel = true →
      (Task.raced s c before m (mid ++ .poll m' :: rest)).deliveries =
        [.ofEnding (Call.prepare s m c).state r (.error .cancelled)]) ∧
    (mid.any Signal.isCancel = false → ∀ answer, mid.findSome? Signal.arrival? = some answer →
      (Task.raced s c before m (mid ++ .poll m' :: rest)).deliveries =
        [.ofEnding (Call.prepare s m c).state r answer.2]) := by
  have underway := idle.underway s sending
  have more : Task.raced s c before m (mid ++ .poll m' :: rest) =
      ((Task.raced s c before m mid).resume s r).run s rest := by
    rw [idle.raced, run_append, run_cons, ← idle.raced, step, sending]
  have delivered : ∀ result, Delivery.ofEnding (Task.raced s c before m mid).call r result =
      .ofEnding (Call.prepare s m c).state r result := by
    intro result
    rw [underway.call]
    simp [handOver, launched, idle.call, Delivery.ofEnding]
  rw [more]
  constructor
  · intro cancelled
    rw [resume_of_cancelled s (underway.isCancelled.trans cancelled), (run_conclude ..).1,
      underway.deliveries, delivered, List.nil_append]
  · intro waits answer first
    rw [resume_of_arrived s (underway.isCancelled.trans waits) (underway.arrived.trans first),
      (run_conclude ..).1]
    show (Task.raced s c before m mid).deliveries ++ [.ofEnding (Task.raced s c before m mid).call
      r answer.2] = _
    rw [underway.deliveries, delivered, List.nil_append]

end Idle

theorem decided {c : Call} {before : List Signal} (unpolled : ∀ x ∈ before, x.isPoll = false)
    (m : Moment) (after : List Signal) : Decided s c before m after := by
  have idle := idle_run s c unpolled
  constructor
  case refused =>
    intro e h
    obtain ⟨deliveries, events⟩ := idle.refused s h after
    exact ⟨deliveries, events, Call.refusal_of_prepare h⟩
  case truthful =>
    intro r h
    rw [← idle.call] at h
    obtain ⟨begun, delivered⟩ := matches_start s idle.deliveries h
    rw [idle.raced]
    exact matches_run s begun delivered after
  case clientless =>
    intro r h e client
    exact (idle.ended s after (idle.start_clientless s h client)).1
  case early =>
    intro r h client cancelled
    exact idle.ended s after (idle.start_cancelled s h client cancelled)
  case sent =>
    intro r h client waits
    rw [idle.raced, idle.start_sent s h client waits]
    refine ⟨rfl, ?_⟩
    simp [handOver, launched, idle.call, idle.events]
  case late =>
    rintro r mid m' rest rfl sending
    exact idle.late s sending m' rest

/-- Whatever is signalled to a task and whenever it runs: its callback runs once at most, and once
when the task ends, with the call as it then is; a task that never ran has done nothing; what is
delivered was decided when it ran; and after the end, nothing changes. -/
theorem race_decided (c : Call) (signals : List Signal) :
    let t := (spawn c).run s signals
    (t.deliveries.length ≤ 1 ∧ (t.phase = .finished ↔ t.deliveries.length = 1) ∧
      ∀ d ∈ t.deliveries, d.call = t.call) ∧
    ((∀ x ∈ signals, x.isPoll = false) → t.call = c ∧ t.deliveries = [] ∧ t.events = []) ∧
    (∀ before m after, signals = before ++ .poll m :: after → (∀ x ∈ before, x.isPoll = false) →
      Decided s c before m after) ∧
    ∀ past rest, signals = past ++ rest → ((spawn c).run s past).phase = .finished →
      ((spawn c).run s past).Same t := by
  intro t
  have tidy : t.Tidy := tidy_run s (tidy_spawn c) signals
  refine ⟨?_, ?_, ?_, ?_⟩
  · cases phase : t.phase with
    | finished =>
      simp only [Tidy, phase] at tidy
      obtain ⟨result, delivered⟩ := tidy
      simp [delivered]
    | waiting =>
      simp only [Tidy, phase] at tidy
      simp [tidy]
    | sending r =>
      simp only [Tidy, phase] at tidy
      simp [tidy]
  · intro unpolled
    have idle := idle_run s c unpolled
    exact ⟨idle.call, idle.deliveries, idle.events⟩
  · intro before m after _ unpolled
    exact decided s unpolled m after
  · rintro past rest rfl ended
    show Same _ ((spawn c).run s (past ++ rest))
    rw [run_append]
    exact run_finished s ended rest

end

def plainService : Service := ⟨.ofConfig (.ofTemplate "http://api.example.com"), none⟩

def plainMoment : Moment := ⟨⟨1191242096, 0⟩, "nonce", "boundary"⟩

def cancelledTask : Task := (spawn .empty).run plainService [.cancelHandle, .poll plainMoment]

/-- A cancelled call that is spawned again is given back as it was, with an error that does not go
with its state. -/
theorem reuse_unmatched :
    cancelledTask.call.state = .cancelled ∧
      ∃ d, ((spawn cancelledTask.call).run plainService [.poll plainMoment]).deliveries = [d] ∧
        d.result = .error .callReused ∧ d.call.state = .cancelled ∧ ¬ d.Matches := by
  have state : cancelledTask.call.state = .cancelled := by decide +kernel
  have closed : cancelledTask.call.stage.isClosed = true := by decide +kernel
  have refused := Call.prepare_of_closed (s := plainService) (m := plainMoment) closed
  have idle : Idle cancelledTask.call [] ((spawn cancelledTask.call).run plainService []) :=
    idle_run plainService _ (by simp)
  have delivered := idle.refused plainService (congrArg Outcome.result refused) []
  refine ⟨state, ⟨_, .error .callReused⟩, delivered.1, rfl, ?_, ?_⟩
  · simpa [refused] using state
  · intro agree
    have failed := agree.failed.mp ⟨.callReused, rfl, by simp⟩
    simp [refused, state] at failed

end Task

end SignedRest
