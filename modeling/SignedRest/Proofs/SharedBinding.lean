import SignedRest.Proofs.Preparing
import SignedRest.Proofs.Registry

/-! What the clones of a service read of its binding: its URL is the template filled with what was
last bound by any of them. A call reads that when it is prepared, and only then. -/
namespace SignedRest

/-- Something has to be bound, and nothing has been. -/
def Unbound (config : Config) (last : Option (List String)) : Prop :=
  last = none ∧ (config.bindingRequired = true ∨ 0 < Template.placeCount config.template)

/-- The URL is the template filled with what was last bound, or the template. -/
def Reads (config : Config) (last : Option (List String)) (url : String) : Prop :=
  match last with
  | some args => Template.Filled config.template.toList args url.toList
  | none => url = config.template

namespace Endpoint

/-- The endpoint is bound to these arguments, or to none yet. -/
def IsBound (e : Endpoint) (last : Option (List String)) : Prop :=
  match last with
  | some args => ∃ url, e.bound = some url ∧
      Template.Filled e.config.template.toList args url.toList
  | none => e.bound = none

theorem url_of_isBound {e : Endpoint} {last : Option (List String)} (h : e.IsBound last) :
    Unbound e.config last ∧ e.url = .error (.binding (.unbound e.config.template)) ∨
      ¬ Unbound e.config last ∧ ∃ url, e.url = .ok url ∧ Reads e.config last url := by
  cases last with
  | some args =>
    obtain ⟨text, bound, filled⟩ := h
    exact .inr ⟨fun unbound => (nomatch unbound.1), text, by rw [url, bound], filled⟩
  | none =>
    have bound : e.bound = none := h
    have required : e.bindingRequired = true ↔
        e.config.bindingRequired = true ∨ 0 < Template.placeCount e.config.template := by
      simp [bindingRequired]
    by_cases need : e.bindingRequired = true
    · exact .inl ⟨⟨rfl, required.mp need⟩, by rw [url, bound, if_pos need]⟩
    · refine .inr ⟨fun unbound => need (required.mpr unbound.2), e.config.template, ?_, rfl⟩
      rw [url, bound, if_neg need]

theorem isBound_fill {e : Endpoint} {args : List String}
    (h : args.length = Template.placeCount e.config.template) :
    ({ e with bound := some (Template.fill e.config.template args) } : Endpoint).IsBound
      (some args) :=
  ⟨_, rfl, Template.filled_fill h⟩

end Endpoint

namespace Entry

theorem bound?_of_quiet {x : Entry} (h : x.binding? = none) (place : Nat) :
    x.bound? place = none := by
  rw [bound?, h]

theorem bound?_of_ok {x : Entry} {own : Nat} {args : List String} {a : RegistryAnswer}
    (h : x.binding? = some (own, args)) (ok : x.result = .ok a) (place : Nat) :
    x.bound? place = if own = place then some args else none := by
  rw [bound?, h, ok]

theorem bound?_of_error {x : Entry} {e : Error} (failed : x.result = .error e) (place : Nat) :
    x.bound? place = none := by
  cases h : x.binding? <;> simp [bound?, h, failed]

end Entry

structure Tracks (past : List Entry) (w : Registry) : Prop where
  formed : w.WellFormed
  bound : ∀ (place : Nat) (e : Endpoint), w.endpoints[place]? = some e →
    e.IsBound (lastBound place past)
  free : ∀ place, w.services.length ≤ place → lastBound place past = none

theorem lastBound_of_quiet {past : List Entry} {x : Entry}
    (quiet : ∀ place, x.bound? place = none) (place : Nat) :
    lastBound place (past ++ [x]) = lastBound place past := by
  rw [lastBound_concat, quiet, Option.none_or]

namespace Tracks

variable {past : List Entry} {x : Entry}

theorem of_quiet (h : Tracks past x.before) (quiet : ∀ place, x.bound? place = none)
    (endpoints : x.after.endpoints = x.before.endpoints)
    (places : x.after.places ⊆ x.before.places) : Tracks (past ++ [x]) x.after := by
  have count : x.after.services.length = x.before.services.length := by
    rw [← Registry.length_endpoints, endpoints, Registry.length_endpoints]
  refine ⟨fun place mem => count ▸ h.formed place (places mem), ?_, ?_⟩
  · intro place e found
    rw [lastBound_of_quiet quiet]
    exact h.bound place e (endpoints ▸ found)
  · intro place outside
    rw [lastBound_of_quiet quiet]
    exact h.free place (count ▸ outside)

theorem of_created (h : Tracks past x.before) (quiet : ∀ place, x.bound? place = none)
    {config : Config} (endpoints : x.after.endpoints = x.before.endpoints ++ [.ofConfig config])
    (places : x.after.places ⊆ x.before.services.length :: x.before.places) :
    Tracks (past ++ [x]) x.after := by
  have count : x.after.services.length = x.before.services.length + 1 := by
    rw [← Registry.length_endpoints, endpoints, List.length_append, Registry.length_endpoints]
    rfl
  refine ⟨fun place mem => ?_, ?_, ?_⟩
  · rcases List.mem_cons.mp (places mem) with rfl | old
    · omega
    · have := h.formed place old
      omega
  · intro place e found
    rw [lastBound_of_quiet quiet]
    rw [endpoints, List.getElem?_append, Registry.length_endpoints] at found
    split at found
    · exact h.bound place e found
    · -- nothing refers to the new place yet, so nothing can have been bound there
      rename_i outside
      rw [List.getElem?_singleton] at found
      split at found
      · obtain rfl := Option.some.inj found
        rw [h.free place (Nat.le_of_not_lt outside)]
        exact rfl
      · cases found
  · intro place outside
    rw [lastBound_of_quiet quiet]
    exact h.free place (by omega)

theorem of_bound (h : Tracks past x.before) {own : Nat} {args : List String} {e : Endpoint}
    {a : RegistryAnswer} (binding : x.binding? = some (own, args)) (ok : x.result = .ok a)
    (found : x.before.endpoints[own]? = some e)
    (count : args.length = Template.placeCount e.config.template)
    (endpoints : x.after.endpoints = x.before.endpoints.set own
      { e with bound := some (Template.fill e.config.template args) })
    (places : x.after.places = x.before.places) : Tracks (past ++ [x]) x.after := by
  have inside : own < x.before.services.length :=
    Registry.length_endpoints _ ▸ (List.getElem?_eq_some_iff.mp found).1
  have length : x.after.services.length = x.before.services.length := by
    rw [← Registry.length_endpoints, endpoints, List.length_set, Registry.length_endpoints]
  refine ⟨fun place mem => ?_, ?_, ?_⟩
  · rw [places] at mem
    exact length ▸ h.formed place mem
  · intro place e' found'
    rw [lastBound_concat, Entry.bound?_of_ok binding ok]
    rw [endpoints, List.getElem?_set, Registry.length_endpoints, if_pos inside] at found'
    split at found'
    · rename_i eq
      obtain rfl := Option.some.inj found'
      rw [if_pos eq, Option.some_or]
      exact Endpoint.isBound_fill count
    · rename_i other
      rw [if_neg other, Option.none_or]
      exact h.bound place e' found'
  · intro place outside
    have other : own ≠ place := by omega
    rw [lastBound_concat, Entry.bound?_of_ok binding ok, if_neg other, Option.none_or]
    exact h.free place (length ▸ outside)

end Tracks

theorem tracks_step (past : List Entry) (x : Entry) (h : Tracks past x.before) :
    Tracks (past ++ [x]) x.after := by
  cases Entry.effect h.formed with
  | quiet binding endpoints places =>
    exact h.of_quiet (Entry.bound?_of_quiet binding) endpoints places
  | created config binding endpoints places =>
    exact h.of_created (Entry.bound?_of_quiet binding) endpoints places
  | bound own args e binding found count endpoints places calls result =>
    obtain ⟨a, ok⟩ := result
    exact h.of_bound binding ok found count endpoints places
  | miscounted own args e binding found count after events result =>
    refine h.of_quiet (Entry.bound?_of_error result) (by rw [after]) ?_
    rw [after]
    exact fun _ => id

theorem tracks_start : Tracks [] .empty :=
  ⟨fun _ mem => (nomatch mem), fun _ _ found => (nomatch found), fun _ _ => rfl⟩

/-- A call keeps its request, whatever else is done with it and with its service. -/
theorem Step.request_after {x : Step} {r : Request}
    (h : x.before.call.stage.request? = some r) : x.after.call.stage.request? = some r := by
  cases x.effect with
  | idle unguarded events stage answer => rwa [stage]
  | refused closed guarded refused => rwa [refused.after]
  | kept m r' op before events after result => rwa [after]
  | prepared m r' op before => simp [before, Stage.request?] at h
  | rejected m e moment before => simp [before, Stage.request?] at h
  | sent m r' events₀ mode isCancelled transport op before events after result =>
    rcases before with ⟨before, -⟩ | ⟨before, -⟩
    · rw [before] at h
      rw [after, Call.request?_sentStage]
      exact h
    · simp [before, Stage.request?] at h

def Registry.HasRequest (w : Registry) (i : Nat) (r : Request) : Prop :=
  ∃ held, w.calls[i]? = some held ∧ held.2.stage.request? = some r

namespace Entry

theorem hasRequest_after {x : Entry} {i : Nat} {r : Request} (h : x.before.HasRequest i r) :
    x.after.HasRequest i r := by
  obtain ⟨w, op⟩ := x
  obtain ⟨held, found, request⟩ := h
  have same {w' : Registry} (calls : w'.calls = w.calls) : w'.HasRequest i r :=
    ⟨held, calls ▸ found, request⟩
  cases op with
  | create config hook => exact same rfl
  | clone h => exact same rfl
  | cloneOf j => exact same rfl
  | bind h args =>
    refine same ?_
    simp only [after, outcome, RegistryOp.perform, Registry.bind]
    split
    · split <;> rfl
    · rfl
  | url h =>
    refine same ?_
    simp only [after, outcome, RegistryOp.perform, Registry.url]
    split <;> rfl
  | newCall h =>
    have inside := (List.getElem?_eq_some_iff.mp found).1
    exact ⟨held, (List.getElem?_append_left inside).trans found, request⟩
  | onCall j op =>
    cases session : w.session? j with
    | none =>
      refine same ?_
      simp only [after, outcome, RegistryOp.perform, Registry.onCall, session]
    | some own =>
      obtain ⟨place, session_⟩ := own
      obtain ⟨handle, service⟩ := Registry.session?_eq_some session
      rw [after, outcome_onCall handle service op]
      by_cases other : j = i
      · subst other
        obtain rfl := Option.some.inj (handle.symm.trans found)
        have inside := (List.getElem?_eq_some_iff.mp handle).1
        exact ⟨_, List.getElem?_set_self inside, Step.request_after (x := ⟨session_, op⟩) request⟩
      · exact ⟨held, (List.getElem?_set_ne other).trans found, request⟩

theorem result_onCall {w : Registry} {i : Nat} {op : Op} {answer : Answer}
    (h : result ⟨w, .onCall i op⟩ = .ok (.ofCall answer)) :
    ∃ place session, w.session? i = some (place, session) ∧
      (op.perform session).result = .ok answer := by
  cases session : w.session? i with
  | none =>
    simp only [result, outcome, RegistryOp.perform, Registry.onCall, session] at h
    cases h
  | some own =>
    obtain ⟨place, session_⟩ := own
    refine ⟨place, session_, rfl, ?_⟩
    simp only [result, outcome, RegistryOp.perform, Registry.onCall, session] at h
    cases answered : (op.perform session_).result with
    | error e => simp [answered, Except.map] at h
    | ok a => simpa [answered, Except.map] using h

theorem hasRequest_of_prepare {x : Entry} {i : Nat} {m : Moment} {r : Request}
    (op : x.op = .onCall i (.prepare m)) (h : x.result = .ok (.ofCall (.request r))) :
    x.after.HasRequest i r := by
  obtain ⟨w, op_⟩ := x
  subst op
  obtain ⟨place, session, eq, answered⟩ := result_onCall h
  obtain ⟨handle, service⟩ := Registry.session?_eq_some eq
  have inside := (List.getElem?_eq_some_iff.mp handle).1
  have stage := prepared_of_result (x := ⟨session, .prepare m⟩) answered
  rw [after, outcome_onCall handle service]
  refine ⟨_, List.getElem?_set_self inside, ?_⟩
  exact (congrArg Stage.request? stage).trans rfl

end Entry

/-- What has been prepared still has the request that was made then. -/
def KeepsRequests (past : List Entry) (w : Registry) : Prop :=
  ∀ y ∈ past, ∀ i m r, y.op = .onCall i (.prepare m) → y.result = .ok (.ofCall (.request r)) →
    w.HasRequest i r

theorem keepsRequests_step (past : List Entry) (x : Entry) (h : KeepsRequests past x.before) :
    KeepsRequests (past ++ [x]) x.after := by
  intro y hy i m r op result
  rcases List.mem_append.mp hy with hy | hy
  · exact Entry.hasRequest_after (h y hy i m r op result)
  · obtain rfl := List.mem_singleton.mp hy
    exact Entry.hasRequest_of_prepare op result

/-- The URL is a base with the path of a call, and perhaps parameters behind it. -/
def StandsOn (base : String) (function : Option String) (url : String) : Prop :=
  url = joinPath base function ∨ ∃ query, url = appendQuery (joinPath base function) query

/-- How what is bound is shared and read. -/
structure SharesBinding (past : List Entry) (x : Entry) : Prop where
  served : ∀ place ∈ x.before.places, ∃ s, x.before.services[place]? = some s
  config : ∀ (place : Nat) (e : Endpoint), x.before.endpoints[place]? = some e →
    ∃ e', x.after.endpoints[place]? = some e' ∧ e'.config = e.config
  bind : ∀ place args s, x.binding? = some (place, args) → x.before.services[place]? = some s →
    ((∃ a, x.result = .ok a) ↔ args.length = Template.placeCount s.endpoint.config.template)
  miscounted : ∀ place args s, x.binding? = some (place, args) →
    x.before.services[place]? = some s →
    args.length ≠ Template.placeCount s.endpoint.config.template →
      x.after = x.before ∧ x.events = [] ∧ x.result = .error (.binding
        (.wrongCount (Template.placeCount s.endpoint.config.template) args.length))
  /-- Binding touches no call. -/
  calls : ∀ b, x.binding? = some b → x.after.calls = x.before.calls
  url : ∀ h place s, x.op = .url h → x.before.handles[h]? = some place →
    x.before.services[place]? = some s →
      Unbound s.endpoint.config (lastBound place past) ∧
        x.result = .error (.binding (.unbound s.endpoint.config.template)) ∨
      ¬ Unbound s.endpoint.config (lastBound place past) ∧
        ∃ url, x.result = .ok (.url url) ∧ Reads s.endpoint.config (lastBound place past) url
  /-- The hook is asked first. -/
  refused : ∀ i m place call s e, x.op = .onCall i (.prepare m) →
    x.before.calls[i]? = some (place, call) → x.before.services[place]? = some s →
    call.stage = .unprepared → (Call.runHook s m call.draft).result = .error e →
      x.result = .error e
  prepare : ∀ i m place call s custom, x.op = .onCall i (.prepare m) →
    x.before.calls[i]? = some (place, call) → x.before.services[place]? = some s →
    call.stage = .unprepared → (Call.runHook s m call.draft).result = .ok custom →
      Unbound s.endpoint.config (lastBound place past) ∧
        x.result = .error (.binding (.unbound s.endpoint.config.template)) ∨
      ¬ Unbound s.endpoint.config (lastBound place past) ∧
        (∀ fault, x.result ≠ .error (.binding fault)) ∧
        ∃ base, Reads s.endpoint.config (lastBound place past) base ∧
          ∀ r, x.result = .ok (.ofCall (.request r)) →
            StandsOn base (Call.runHook s m call.draft).state.function r.url
  kept : ∀ y ∈ past, ∀ i m r, y.op = .onCall i (.prepare m) →
    y.result = .ok (.ofCall (.request r)) →
      x.after.HasRequest i r ∧ ∀ m', x.op = .onCall i (.prepare m') →
        x.result = .ok (.ofCall (.request r)) ∨ x.result = .error .callReused
  used : ∀ i m place call, x.op = .onCall i (.prepare m) →
    x.before.calls[i]? = some (place, call) → call.stage.isClosed = true →
      x.result = .error .callReused

namespace Call

theorem standsOn_of_requestOf {e : Endpoint} {m : Moment} {custom : Option Payload} {d : Draft}
    {base : String} (url : e.url = .ok base) {r : Request}
    (h : requestOf e m custom d = .ok r) : StandsOn base d.function r.url := by
  have resolved : d.resolveUrl e = .ok (joinPath base d.function) := by
    rw [Draft.resolveUrl, url]
    rfl
  cases custom with
  | some payload =>
    simp only [requestOf, resolved, bind, Except.bind, pure, Except.pure, Except.ok.injEq] at h
    exact .inl (h ▸ rfl)
  | none =>
    obtain ⟨url', own, carried, -, -⟩ := requestOf_eq_ok h
    obtain rfl := Except.ok.inj (resolved.symm.trans own)
    rcases encodeParams_eq_ok carried with ⟨-, -, eq, -⟩ | ⟨-, -, eq, -⟩ | ⟨-, -, eq, -⟩
    · exact .inr ⟨_, eq⟩
    · exact .inl eq
    · exact .inl eq

theorem requestOf_of_url_error {e : Endpoint} (m : Moment) (custom : Option Payload) (d : Draft)
    {fault : Error} (url : e.url = .error fault) : requestOf e m custom d = .error fault := by
  simp only [requestOf, Draft.resolveUrl, url, Except.map, bind, Except.bind]

end Call

namespace Entry

section
variable {x : Entry} {i place : Nat} {m : Moment} {call : Call} {s : Service}
  (op : x.op = .onCall i (.prepare m)) (handle : x.before.calls[i]? = some (place, call))
  (found : x.before.services[place]? = some s)
include op handle found

theorem result_prepare :
    x.result = (Call.prepare s m call).result.map fun r => .ofCall (.request r) := by
  obtain ⟨w, op_⟩ := x
  subst op
  rw [result, outcome_onCall handle found]
  simp only [Op.perform, Session.onCall]
  cases (Call.prepare s m call).result <;> rfl

theorem result_of_closed (closed : call.stage.isClosed = true) : x.result = .error .callReused := by
  rw [result_prepare op handle found, Call.prepare_of_closed closed]
  rfl

theorem result_of_prepared {r : Request} (prepared : call.stage = .prepared r) :
    x.result = .ok (.ofCall (.request r)) := by
  rw [result_prepare op handle found, Call.prepare_of_prepared prepared]
  rfl

variable (fresh : call.stage = .unprepared)
include fresh

theorem result_of_hook_error {e : Error}
    (refused : (Call.runHook s m call.draft).result = .error e) : x.result = .error e := by
  rw [result_prepare op handle found, Call.prepare_of_unprepared fresh, Call.build,
    Action.bind_of_error refused]
  rfl

theorem result_of_hook_ok {custom : Option Payload}
    (agreed : (Call.runHook s m call.draft).result = .ok custom) :
    x.result = (Call.requestOf s.endpoint m custom (Call.runHook s m call.draft).state).map
      fun r => .ofCall (.request r) := by
  rw [result_prepare op handle found, Call.prepare_of_unprepared fresh,
    (Call.build_of_hook_ok agreed).2]

theorem prepare_of_isBound {custom : Option Payload}
    (agreed : (Call.runHook s m call.draft).result = .ok custom) {last : Option (List String)}
    (bound : s.endpoint.IsBound last) :
    Unbound s.endpoint.config last ∧
        x.result = .error (.binding (.unbound s.endpoint.config.template)) ∨
      ¬ Unbound s.endpoint.config last ∧ (∀ fault, x.result ≠ .error (.binding fault)) ∧
        ∃ base, Reads s.endpoint.config last base ∧
          ∀ r, x.result = .ok (.ofCall (.request r)) →
            StandsOn base (Call.runHook s m call.draft).state.function r.url := by
  have made := result_of_hook_ok op handle found fresh agreed
  rcases Endpoint.url_of_isBound bound with ⟨unbound, url⟩ | ⟨held, base, url, reads⟩
  · rw [Call.requestOf_of_url_error m custom _ url] at made
    exact .inl ⟨unbound, made⟩
  · refine .inr ⟨held, fun fault failed => ?_, base, reads, fun r ok => ?_⟩
    · rw [made] at failed
      cases own : Call.requestOf s.endpoint m custom (Call.runHook s m call.draft).state with
      | ok r => simp [own, Except.map] at failed
      | error e =>
        simp only [own, Except.map, Except.error.injEq] at failed
        subst failed
        rcases Call.requestOf_eq_error own with none_ | other
        · rw [url] at none_
          cases none_
        · cases other
    · rw [made] at ok
      cases own : Call.requestOf s.endpoint m custom (Call.runHook s m call.draft).state with
      | error e => simp [own, Except.map] at ok
      | ok r' =>
        simp only [own, Except.map, Except.ok.injEq, RegistryAnswer.ofCall.injEq,
          Answer.request.injEq] at ok
        exact Call.standsOn_of_requestOf url (ok ▸ own)

end

theorem url_of_isBound {x : Entry} {h place : Nat} {s : Service} (op : x.op = .url h)
    (handle : x.before.handles[h]? = some place) (found : x.before.services[place]? = some s)
    {last : Option (List String)} (bound : s.endpoint.IsBound last) :
    Unbound s.endpoint.config last ∧
        x.result = .error (.binding (.unbound s.endpoint.config.template)) ∨
      ¬ Unbound s.endpoint.config last ∧
        ∃ url, x.result = .ok (.url url) ∧ Reads s.endpoint.config last url := by
  have told : x.result = s.endpoint.url.map .url := by
    rw [result, outcome, op, RegistryOp.perform, Registry.url]
    simp only [Registry.service?_of_handle handle found]
  rcases Endpoint.url_of_isBound bound with ⟨unbound, url⟩ | ⟨held, base, url, reads⟩
  · exact .inl ⟨unbound, by rw [told, url]; rfl⟩
  · exact .inr ⟨held, base, by rw [told, url]; rfl, reads⟩

/-- What is set up stays as it was set up. -/
theorem config_after {x : Entry} (formed : x.before.WellFormed) {place : Nat} {e : Endpoint}
    (found : x.before.endpoints[place]? = some e) :
    ∃ e', x.after.endpoints[place]? = some e' ∧ e'.config = e.config := by
  have inside := (List.getElem?_eq_some_iff.mp found).1
  cases Entry.effect formed with
  | quiet binding endpoints => exact ⟨e, endpoints ▸ found, rfl⟩
  | created config binding endpoints =>
    exact ⟨e, by rw [endpoints, List.getElem?_append_left inside, found], rfl⟩
  | bound own args e' binding found' count endpoints =>
    by_cases same : own = place
    · subst same
      obtain rfl := Option.some.inj (found'.symm.trans found)
      rw [endpoints]
      exact ⟨_, List.getElem?_set_self inside, rfl⟩
    · exact ⟨e, by rw [endpoints, List.getElem?_set_ne same, found], rfl⟩
  | miscounted own args e' binding found' count after => exact ⟨e, after ▸ found, rfl⟩

theorem binding_cases {x : Entry} (formed : x.before.WellFormed) {place : Nat}
    {args : List String} {s : Service} (binding : x.binding? = some (place, args))
    (found : x.before.services[place]? = some s) :
    let count := Template.placeCount s.endpoint.config.template
    (args.length = count ∧ (∃ a, x.result = .ok a) ∧ x.after.calls = x.before.calls) ∨
      (args.length ≠ count ∧ x.after = x.before ∧ x.events = [] ∧
        x.result = .error (.binding (.wrongCount count args.length))) := by
  have own : x.before.endpoints[place]? = some s.endpoint := by
    rw [Registry.getElem?_endpoints, found, Option.map_some]
  cases Entry.effect formed with
  | quiet none_ => simp [none_] at binding
  | created config none_ => simp [none_] at binding
  | bound place' args' e binding' found' count endpoints places calls result =>
    obtain ⟨rfl, rfl⟩ := Prod.mk.inj (Option.some.inj (binding'.symm.trans binding))
    obtain rfl := Option.some.inj (found'.symm.trans own)
    exact .inl ⟨count, result, calls⟩
  | miscounted place' args' e binding' found' count after events result =>
    obtain ⟨rfl, rfl⟩ := Prod.mk.inj (Option.some.inj (binding'.symm.trans binding))
    obtain rfl := Option.some.inj (found'.symm.trans own)
    exact .inr ⟨count, after, events, result⟩

/-- Where a request is, the call is prepared or used up. -/
theorem kept_of_hasRequest {x : Entry} {i : Nat} {m : Moment} {r : Request}
    (formed : x.before.WellFormed) (h : x.before.HasRequest i r)
    (op : x.op = .onCall i (.prepare m)) :
    x.result = .ok (.ofCall (.request r)) ∨ x.result = .error .callReused := by
  obtain ⟨⟨place, call⟩, handle, request⟩ := h
  obtain ⟨s, found⟩ := formed.exists_service (Registry.mem_places_of_call handle)
  rcases call.stage.cases_closed with fresh | ⟨r', kept⟩ | closed
  · simp [fresh, Stage.request?] at request
  · simp only [kept, Stage.request?, Option.some.injEq] at request
    exact .inl (result_of_prepared op handle found (request ▸ kept))
  · exact .inr (result_of_closed op handle found closed)

end Entry

/-- In every run, the clones of a service share one binding, which calls read when they are
prepared for the first time, and what is prepared stays as it is. -/
theorem binding_shared (ops : List RegistryOp) (past : List Entry) (x : Entry) (rest : List Entry)
    (run : entries .empty ops = past ++ x :: rest) : SharesBinding past x := by
  have chain : Chained Entry.before Entry.after .empty (past ++ x :: rest) :=
    run ▸ chained_entries .empty ops
  obtain ⟨tracks, -⟩ := Chained.history tracks_step tracks_start chain
  obtain ⟨keeps, keeps_after⟩ := Chained.history keepsRequests_step
    (fun _ mem => (nomatch mem)) chain
  have bound {place : Nat} {s : Service} (found : x.before.services[place]? = some s) :
      s.endpoint.IsBound (lastBound place past) := by
    refine tracks.bound place s.endpoint ?_
    rw [Registry.getElem?_endpoints, found, Option.map_some]
  constructor
  case served => exact fun place mem => tracks.formed.exists_service mem
  case config => exact fun place e found => Entry.config_after tracks.formed found
  case bind =>
    intro place args s binding found
    rcases Entry.binding_cases tracks.formed binding found with ⟨count, ok, -⟩ |
      ⟨count, -, -, failed⟩
    · exact iff_of_true ok count
    · exact iff_of_false (by simp [failed]) count
  case miscounted =>
    intro place args s binding found other
    rcases Entry.binding_cases tracks.formed binding found with ⟨count, -⟩ | ⟨-, failed⟩
    · exact absurd count other
    · exact failed
  case calls =>
    intro b binding
    cases Entry.effect tracks.formed with
    | quiet none_ => simp [none_] at binding
    | created config none_ => simp [none_] at binding
    | bound place args e _ found count endpoints places calls result => exact calls
    | miscounted place args e _ found count after => rw [after]
  case url =>
    exact fun h place s op handle found => Entry.url_of_isBound op handle found (bound found)
  case refused =>
    exact fun i m place call s e op handle found fresh refused =>
      Entry.result_of_hook_error op handle found fresh refused
  case prepare =>
    exact fun i m place call s custom op handle found fresh agreed =>
      Entry.prepare_of_isBound op handle found fresh agreed (bound found)
  case kept =>
    intro y hy i m r op result
    refine ⟨keeps_after y (List.mem_append_left _ hy) i m r op result, fun m' again => ?_⟩
    exact Entry.kept_of_hasRequest tracks.formed (keeps y hy i m r op result) again
  case used =>
    intro i m place call op handle closed
    obtain ⟨s, found⟩ := tracks.formed.exists_service (Registry.mem_places_of_call handle)
    exact Entry.result_of_closed op handle found closed

def reboundOps : List RegistryOp :=
  let m : Moment := ⟨⟨1191242096, 0⟩, "kllo9940pd9333jh", "boundary"⟩
  [.create (.ofTemplate "http://%s/") none, .clone 0, .newCall 0, .bind 1 ["photos.example.net"],
    .onCall 0 (.prepare m), .bind 0 ["%s"], .onCall 0 (.prepare m)]

theorem reboundOps_shared :
    ∃ past x, entries .empty reboundOps = past ++ [x] ∧ SharesBinding past x ∧
      x.result = .ok (.ofCall (.request ⟨.get, "http://photos.example.net/", [], none⟩)) := by
  have run := (List.dropLast_concat_getLast
    (List.cons_ne_nil _ _ : entries .empty reboundOps ≠ [])).symm
  exact ⟨_, _, run, binding_shared reboundOps _ _ [] run, rfl⟩

/-- Preparing the calls of a kind is refused for want of a binding exactly when there is none. -/
def RefusesUnbound (kind : Call → Prop) : Prop :=
  ∀ (ops : List RegistryOp) (past : List Entry) (x : Entry) (rest : List Entry) (i place : Nat)
    (m : Moment) (call : Call) (s : Service), entries .empty ops = past ++ x :: rest →
    x.op = .onCall i (.prepare m) → x.before.calls[i]? = some (place, call) →
    x.before.services[place]? = some s → kind call →
      (x.result = .error (.binding (.unbound s.endpoint.config.template)) ↔
        Unbound s.endpoint.config (lastBound place past))

/-- Not all calls are: a hook may refuse a call before the binding is looked at, and a call that was
refused for want of a binding is used up. -/
theorem refused_otherwise :
    ¬ RefusesUnbound (fun _ => True) ∧ ¬ RefusesUnbound (·.stage = .unprepared) ∧
      ¬ RefusesUnbound (·.stage = .rejected) := by
  let m : Moment := ⟨⟨1191242096, 0⟩, "kllo9940pd9333jh", "boundary"⟩
  let refusing : Hook := .ofPrepare fun _ _ => Action.fail (.requestBuild (.refused "no"))
  let hookedOps : List RegistryOp :=
    [.create (.ofTemplate "http://%s/") (some refusing), .newCall 0, .onCall 0 (.prepare m)]
  let againOps : List RegistryOp :=
    [.create (.ofTemplate "http://%s/") none, .newCall 0, .onCall 0 (.prepare m),
      .onCall 0 (.prepare m)]
  have hooked : ¬ RefusesUnbound (·.stage = .unprepared) := by
    intro always
    have run := (List.dropLast_concat_getLast
      (List.cons_ne_nil _ _ : entries .empty hookedOps ≠ [])).symm
    have first := always hookedOps _ _ [] 0 0 m .empty
      ⟨.ofConfig (.ofTemplate "http://%s/"), some refusing⟩ run rfl rfl rfl rfl
    have unbound := first.mpr ⟨rfl, .inr (by decide)⟩
    cases unbound
  refine ⟨fun always => hooked fun ops past x rest i place m call s run op handle found _ =>
    always ops past x rest i place m call s run op handle found trivial, hooked, fun always => ?_⟩
  have run := (List.dropLast_concat_getLast
    (List.cons_ne_nil _ _ : entries .empty againOps ≠ [])).symm
  have again := always againOps _ _ [] 0 0 m ⟨.empty, .rejected⟩
    ⟨.ofConfig (.ofTemplate "http://%s/"), none⟩ run rfl rfl rfl rfl
  have unbound := again.mpr ⟨rfl, .inr (by decide)⟩
  cases unbound

end SignedRest
