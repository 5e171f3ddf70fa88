import SignedRest.Proofs.CallRun
import SignedRest.Proofs.HeaderLookup
import SignedRest.Proofs.InsertionOrder
import SignedRest.Proofs.Preparing

/-! Headers over the life of a call. A name is there once in whatever letters it is written, and
what is found under it is what was last added and has not been removed since, no matter whether
the caller or the hook did so. The request has the headers that the call has when its hook is
through, except that a body brings its own type. -/
namespace SignedRest
namespace Headers

inductive Edit
  | add (name value : String)
  | remove (name : String)
  deriving DecidableEq, Repr

namespace Edit

def perform : Edit → Headers → Headers
  | add name value, hs => hs.add name value
  | remove name, hs => hs.remove name

def added? : Edit → Option (String × String)
  | add name value => some (name, value)
  | remove _ => none

def name : Edit → String
  | add name _ | remove name => name

/-- The edit replaces the header or takes it out, if it is there. -/
def Ends (x : Edit) (h : String × String) : Prop := Ascii.sameLetters h.1 x.name = true

end Edit

def run (edits : List Edit) (hs : Headers) : Headers := edits.foldl (fun hs x => x.perform hs) hs

theorem run_append (first second : List Edit) (hs : Headers) :
    run (first ++ second) hs = run second (run first hs) := List.foldl_append ..

theorem eq_of_sameLetters {items : List (String × String)} {h h' : String × String}
    (distinct : (items.map (Ascii.lower ·.1)).Nodup) (mem : h ∈ items) (mem' : h' ∈ items)
    (same : Ascii.sameLetters h.1 h'.1 = true) : h = h' :=
  List.inj_on_of_nodup_map distinct mem mem' (Ascii.sameLetters_iff.mp same)

theorem mem_place_self (name value : String) (items : List (String × String)) :
    (name, value) ∈ place name value items := by
  induction items with
  | nil => simp [place]
  | cons q rest ih =>
    rw [place]
    split
    · exact List.mem_cons_self ..
    · exact List.mem_cons_of_mem _ ih

/-- An edit leaves what it does not end, and what it adds. -/
theorem mem_perform {x : Edit} {hs : Headers} {h : String × String} :
    h ∈ (x.perform hs).items ↔ x.added? = some h ∨ h ∈ hs.items ∧ ¬ x.Ends h := by
  cases x with
  | remove name => simp [Edit.perform, Edit.added?, Edit.Ends, Edit.name, remove]
  | add name value =>
    simp only [Edit.perform, Edit.added?, Option.some.injEq, Edit.Ends, Edit.name]
    by_cases same : Ascii.sameLetters h.1 name = true
    -- names are distinct afterwards, so the header of these letters is the one that was added
    · simp only [same, not_true_eq_false, and_false, or_false]
      refine ⟨fun mem => ?_, ?_⟩
      · have own : (name, value) ∈ (hs.add name value).items := mem_place_self ..
        exact (eq_of_sameLetters (hs.add name value).distinct mem own same).symm
      · rintro rfl
        exact mem_place_self ..
    · have others := congrArg (h ∈ ·) (filter_add hs name value)
      simp only [List.mem_filter, same, Bool.not_false, and_true, eq_iff_iff] at others
      have new : (name, value) ≠ h := by
        rintro rfl
        exact same (Ascii.sameLetters_iff.mpr rfl)
      rw [others]
      simp [new, same]

/-- The headers that a history leaves are those that it added last. -/
theorem mem_run {edits : List Edit} {h : String × String} :
    h ∈ (run edits empty).items ↔ Latest Edit.added? Edit.Ends edits h :=
  foldl_iff_latest (fun hs x => x.perform hs) (fun hs q => q ∈ hs.items)
    (fun _ _ _ => mem_perform) (fun _ => List.not_mem_nil) edits h

theorem get?_eq_some_iff {hs : Headers} {name value : String} :
    hs.get? name = some value ↔
      ∃ spelled, (spelled, value) ∈ hs.items ∧ Ascii.sameLetters spelled name = true := by
  rw [get?, lookup?, Option.map_eq_some_iff]
  constructor
  · rintro ⟨⟨spelled, _⟩, found, rfl⟩
    have same := List.find?_some found
    exact ⟨spelled, List.mem_of_find?_eq_some found, same⟩
  · rintro ⟨spelled, mem, same⟩
    cases found : hs.items.find? fun h => Ascii.sameLetters h.1 name with
    | none =>
      have other := List.find?_eq_none.mp found (spelled, value) mem
      exact absurd same other
    | some h =>
      have same' := List.find?_some found
      simp only [Ascii.sameLetters_iff] at same same'
      refine ⟨h, rfl, ?_⟩
      rw [eq_of_sameLetters hs.distinct (List.mem_of_find?_eq_some found) mem
        (Ascii.sameLetters_iff.mpr (same'.trans same.symm))]

/-- What is found under a name is what was last added under it, in any letters. -/
theorem get?_run_iff {edits : List Edit} {name value : String} :
    (run edits empty).get? name = some value ↔
      ∃ spelled, Ascii.sameLetters spelled name = true ∧
        Latest Edit.added? Edit.Ends edits (spelled, value) := by
  simp only [get?_eq_some_iff, mem_run, and_comm]

theorem mem_of_mem_run_remove {names : List String} {hs : Headers} {h : String × String}
    (mem : h ∈ (run (names.map .remove) hs).items) :
    h ∈ hs.items ∧ ∀ name ∈ names, ¬ Ascii.sameLetters h.1 name = true := by
  induction names generalizing hs with
  | nil => exact ⟨mem, by simp⟩
  | cons name names ih =>
    obtain ⟨left, others⟩ := ih mem
    obtain ⟨left, other⟩ := List.mem_filter.mp left
    exact ⟨left, List.forall_mem_cons.mpr ⟨by simpa using other, others⟩⟩

theorem ext_items {a b : Headers} (h : a.items = b.items) : a = b := by
  cases a
  cases b
  cases h
  rfl

theorem run_remove_names (hs : Headers) :
    run ((hs.items.map (·.1)).map .remove) hs = empty := by
  refine ext_items (List.eq_nil_iff_forall_not_mem.mpr fun h mem => ?_)
  obtain ⟨there, gone⟩ := mem_of_mem_run_remove mem
  exact gone h.1 (List.mem_map_of_mem there) (Ascii.sameLetters_iff.mpr rfl)

theorem place_of_absent {name value : String} {items : List (String × String)}
    (absent : Ascii.lower name ∉ items.map (Ascii.lower ·.1)) :
    place name value items = items ++ [(name, value)] := by
  induction items with
  | nil => rfl
  | cons h rest ih =>
    simp only [List.map_cons, List.mem_cons, not_or] at absent
    rw [place, if_neg (Ne.symm absent.1), ih absent.2, List.cons_append]

theorem items_run_add {more : List (String × String)} {hs : Headers}
    (distinct : ((hs.items ++ more).map (Ascii.lower ·.1)).Nodup) :
    (run (more.map fun h => .add h.1 h.2) hs).items = hs.items ++ more := by
  induction more generalizing hs with
  | nil => exact (List.append_nil _).symm
  | cons h more ih =>
    have absent : Ascii.lower h.1 ∉ hs.items.map (Ascii.lower ·.1) := fun mem => by
      rw [List.map_append, List.map_cons] at distinct
      exact (List.nodup_append.mp distinct).2.2 _ mem _ (List.mem_cons_self ..) rfl
    have added : (hs.add h.1 h.2).items = hs.items ++ [h] := place_of_absent absent
    have next := @ih (hs.add h.1 h.2) (by rwa [added, List.append_assoc])
    rw [added, List.append_assoc] at next
    exact next

/-- Whatever is done to headers could have been done by adding and removing. -/
theorem exists_run (a b : Headers) : ∃ edits, run edits a = b := by
  have again : run (b.items.map fun h => .add h.1 h.2)
      (run ((a.items.map (·.1)).map .remove) a) = b := by
    rw [run_remove_names]
    exact ext_items (items_run_add b.distinct)
  exact ⟨_, (run_append ..).trans again⟩

end Headers

/-- The headers of a request that is made of these: the same, but the type of a body is its own. -/
structure SentHeaders (hs : Headers) (r : Request) : Prop where
  distinct : (r.headers.map (Ascii.lower ·.1)).Nodup
  typed : ∀ p, r.payload = some p →
    r.headers.filter (Ascii.sameLetters ·.1 Call.contentType) =
        [(Call.contentType, p.contentType)] ∧
      r.headers.filter (!Ascii.sameLetters ·.1 Call.contentType) =
        hs.items.filter (!Ascii.sameLetters ·.1 Call.contentType)
  plain : r.payload = none → r.headers = hs.items

namespace Call

variable {s : Service} {m : Moment}

/-- With or without a body of the hook's, the headers are those of the draft. -/
theorem headers_of_requestOf {e : Endpoint} {custom : Option Payload} {d : Draft} {r : Request}
    (h : requestOf e m custom d = .ok r) : r.headers = requestHeaders d.headers r.payload := by
  cases custom with
  | none =>
    obtain ⟨-, -, -, -, headers⟩ := requestOf_eq_ok h
    exact headers
  | some p =>
    cases resolved : d.resolveUrl e with
    | error e =>
      simp only [requestOf, resolved, bind, Except.bind] at h
      cases h
    | ok url =>
      simp only [requestOf, resolved, bind, Except.bind, pure, Except.pure, Except.ok.injEq] at h
      subst h
      rfl

theorem sentHeaders_of_eq {hs : Headers} {r : Request}
    (h : r.headers = requestHeaders hs r.payload) : SentHeaders hs r := by
  have own : Ascii.sameLetters contentType contentType = true := Ascii.sameLetters_iff.mpr rfl
  obtain ⟨method, url, headers, payload⟩ := r
  simp only at h
  subst h
  cases payload with
  | none => exact ⟨hs.distinct, (nofun), fun _ => rfl⟩
  | some p =>
    refine ⟨?_, ?_, (nofun)⟩
    · have gone : Ascii.lower contentType ∉
          (hs.remove contentType).items.map (Ascii.lower ·.1) := by
        simp [Headers.remove, Ascii.sameLetters]
      simp only [requestHeaders, List.map_append, List.map_singleton]
      refine List.nodup_append.mpr ⟨(hs.remove contentType).distinct, List.nodup_singleton _, ?_⟩
      rintro name mem _ last rfl
      exact gone (List.mem_singleton.mp last ▸ mem)
    · rintro q some_
      obtain rfl := Option.some.inj some_
      simp [requestHeaders, Headers.remove, own, List.filter_filter]

theorem state_build (s : Service) (m : Moment) (d : Draft) :
    (build s m d).state = (runHook s m d).state := by
  cases hooked : (runHook s m d).result with
  | error e => rw [build, Action.bind_of_error hooked]
  | ok custom => exact (build_of_hook_ok hooked).1

theorem headers_of_build {d : Draft} {r : Request} (h : (build s m d).result = .ok r) :
    r.headers = requestHeaders (runHook s m d).state.headers r.payload := by
  obtain ⟨custom, hooked, -, -⟩ := Action.bind_eq_ok h
  exact headers_of_requestOf ((build_of_hook_ok hooked).2.symm.trans h)

theorem draft_prepare (s : Service) (m : Moment) (c : Call) :
    (prepare s m c).state.draft =
      if c.stage = .unprepared then (runHook s m c.draft).state else c.draft := by
  rcases c.stage.cases_closed with fresh | ⟨r, kept⟩ | closed
  · rw [prepare_of_unprepared fresh, if_pos fresh, state_build]
  · rw [prepare_of_prepared kept, if_neg (by simp [kept])]
  · rw [prepare_of_closed closed, if_neg]
    intro fresh
    simp [fresh, Stage.isClosed] at closed

/-- Sending does nothing to the call's own headers that preparing does not do. -/
theorem draft_invokeVia (s : Service) (m : Moment) (mode : Http.Mode) (isCancelled : Bool)
    (transport : Transport) (c : Call) :
    (invokeVia s m mode isCancelled transport c).state.draft = (prepare s m c).state.draft := by
  cases prepared : (prepare s m c).result with
  | error e => rw [invokeVia_of_error mode isCancelled transport prepared]
  | ok r => rw [invokeVia_of_ok mode isCancelled transport prepared]

end Call

namespace Step

def Writes (x : Step) (edits : List Headers.Edit) : Prop :=
  x.after.call.draft.headers = Headers.run edits x.before.call.draft.headers

theorem exists_writes (x : Step) : ∃ edits, x.Writes edits :=
  (Headers.exists_run ..).imp fun _ => Eq.symm

theorem exists_written (steps : List Step) :
    ∃ written, List.Forall₂ Writes steps written := by
  induction steps with
  | nil => exact ⟨[], .nil⟩
  | cons x steps ih =>
    obtain ⟨edits, now⟩ := x.exists_writes
    obtain ⟨written, others⟩ := ih
    exact ⟨edits :: written, .cons now others⟩

def hooked (x : Step) (m : Moment) : Draft :=
  (Call.runHook x.before.service m x.before.call.draft).state

theorem draft_of_moment {x : Step} {m : Moment} (h : x.moment? = some m) :
    x.after.call.draft =
      if x.before.call.stage = .unprepared then x.hooked m else x.before.call.draft := by
  obtain ⟨s, op⟩ := x
  cases op with
  | prepare =>
    obtain rfl := Option.some.inj h
    exact Call.draft_prepare ..
  | invoke _ mode isCancelled transport =>
    obtain rfl := Option.some.inj h
    exact (Call.draft_invokeVia ..).trans (Call.draft_prepare ..)
  | edit => cases h
  | bind => cases h
  | rehook => cases h

/-- The request was made at this step, of the headers that the hook left. -/
def Makes (x : Step) (r : Request) : Prop :=
  x.before.call.stage = .unprepared ∧ ∃ m, x.moment? = some m ∧ SentHeaders (x.hooked m).headers r

theorem makes_of_built {x : Step} {m : Moment} {r : Request}
    (fresh : x.before.call.stage = .unprepared) (moment : x.moment? = some m)
    (built : (x.built m).result = .ok r) : x.Makes r :=
  ⟨fresh, m, moment, Call.sentHeaders_of_eq (Call.headers_of_build built)⟩

/-- A step has the request that there was, or makes one. -/
theorem request_cases {x : Step} {r : Request} (h : x.after.call.request? = some r) :
    x.before.call.request? = some r ∨ x.Makes r := by
  cases x.effect with
  | idle unguarded events stage answer =>
    rw [Call.request?, stage] at h
    exact .inl h
  | refused closed guarded refused =>
    rw [refused.after] at h
    exact .inl h
  | kept m r' op before events after result =>
    rw [after] at h
    exact .inl h
  | prepared m r' op before built events after result =>
    rw [Call.request?, after] at h
    obtain rfl := Option.some.inj h
    exact .inr (makes_of_built before (by rw [moment?, op]) built)
  | rejected m e moment before built events after result =>
    rw [Call.request?, after] at h
    cases h
  | sent m r' events₀ mode isCancelled transport op before events after result =>
    rw [Call.request?, after, Call.request?_sentStage] at h
    obtain rfl := Option.some.inj h
    rcases before with ⟨kept, -⟩ | ⟨fresh, built, -⟩
    · exact .inl (by rw [Call.request?, kept]; rfl)
    · exact .inr (makes_of_built fresh (by rw [moment?, op]) built)

end Step

section
variable {past rest : List Step} {x : Step}

theorem headers_after {s : Session} {ops : List Op} {written : List (List Headers.Edit)}
    (split : trace s ops = past ++ x :: rest)
    (writes : List.Forall₂ Step.Writes (past ++ [x]) written) :
    x.after.call.draft.headers = Headers.run written.flatten s.call.draft.headers := by
  -- from the start of the run: each step hands its headers on to the rest
  induction past generalizing s ops written with
  | nil =>
    obtain _ | ⟨op, ops⟩ := ops
    · cases split
    obtain ⟨rfl, -⟩ := List.cons.inj split
    obtain _ | ⟨now, none_⟩ := writes
    cases none_
    rw [List.flatten_singleton]
    exact now
  | cons y past ih =>
    obtain _ | ⟨op, ops⟩ := ops
    · cases split
    obtain ⟨rfl, later⟩ := List.cons.inj split
    obtain _ | ⟨now, others⟩ := writes
    rw [ih later others, now, List.flatten_cons, Headers.run_append]

/-- The request of the call, if it has one, was made at one of these steps. -/
def MadeIn (steps : List Step) (s : Session) : Prop :=
  ∀ r, s.call.request? = some r → ∃ y ∈ steps, y.Makes r

theorem MadeIn.step (h : MadeIn past x.before) : MadeIn (past ++ [x]) x.after := by
  intro r has
  rcases Step.request_cases has with had | makes
  · obtain ⟨y, hy, makes⟩ := h r had
    exact ⟨y, List.mem_append_left _ hy, makes⟩
  · exact ⟨x, by simp, makes⟩

theorem madeIn_after {service : Service} {ops : List Op}
    (split : trace (.start service) ops = past ++ x :: rest) : MadeIn (past ++ [x]) x.after :=
  have start : MadeIn [] (.start service) := (nofun)
  (Chained.history (fun _ _ h => h.step) start (split ▸ chained_trace (.start service) ops)).2

/-- Headers after a step, with everything that was ever written to them. -/
structure HeadersKept (steps : List Step) (history : List Headers.Edit) (x : Step) : Prop where
  distinct : (x.after.call.draft.headers.items.map (Ascii.lower ·.1)).Nodup
  found : ∀ name value, x.after.call.draft.headers.get? name = some value ↔
    ∃ spelled, Ascii.sameLetters spelled name = true ∧
      Latest Headers.Edit.added? Headers.Edit.Ends history (spelled, value)
  draft : ∀ m, x.moment? = some m → x.after.call.draft =
    if x.before.call.stage = .unprepared then x.hooked m else x.before.call.draft
  request : MadeIn steps x.after

/-- Whatever is written to the headers of a call, by its caller or its hooks, each name is there
once with the value that it was given last, and every request that the call has was made of the
headers that the hook left. -/
theorem run_headersKept (service : Service) (ops : List Op)
    (split : trace (.start service) ops = past ++ x :: rest) :
    (∃ written, List.Forall₂ Step.Writes (past ++ [x]) written) ∧
      ∀ written, List.Forall₂ Step.Writes (past ++ [x]) written →
        HeadersKept (past ++ [x]) written.flatten x := by
  refine ⟨Step.exists_written _, fun written writes => ?_⟩
  constructor
  case distinct => exact x.after.call.draft.headers.distinct
  case found =>
    intro name value
    rw [headers_after split writes]
    exact Headers.get?_run_iff
  case draft => exact fun m => Step.draft_of_moment
  case request => exact madeIn_after split

end

def plainService : Service :=
  ⟨.ofConfig (.ofTemplate "http://photos.example.net/"),
    some (.ofPrepare fun _ _ => Action.modify fun d =>
      let typed := d.addHeader "content-TYPE" "text/plain"
      { typed with headers := typed.headers.remove "ACCEPT" })⟩

/-- A form is sent; its headers were written in several spellings. -/
def spelledOps : List Op :=
  [.edit (·.addHeader "X-Trace" "1"), .edit (·.addHeader "Accept" "text/html"),
    .edit (·.addHeader "x-trace" "2"),
    .edit fun d => { d.addText "size" "large" with method := .post },
    .prepare ⟨⟨1191242096, 0⟩, "kllo9940pd9333jh", "boundary"⟩]

theorem spelled_headersKept :
    ∃ past x, trace (.start plainService) spelledOps = past ++ [x] ∧
      HeadersKept (past ++ [x]) [.add "X-Trace" "1", .add "Accept" "text/html",
        .add "x-trace" "2", .add "content-TYPE" "text/plain", .remove "ACCEPT"] x ∧
      x.after.call.draft.headers.items = [("x-trace", "2"), ("content-TYPE", "text/plain")] ∧
      x.after.call.request?.map (·.headers) =
        some [("x-trace", "2"), ("Content-Type", "application/x-www-form-urlencoded")] := by
  refine ⟨[_, _, _, _], _, rfl, ?_, by decide +kernel, by decide +kernel⟩
  refine (run_headersKept plainService spelledOps rfl).2 [[.add "X-Trace" "1"],
    [.add "Accept" "text/html"], [.add "x-trace" "2"], [],
    [.add "content-TYPE" "text/plain", .remove "ACCEPT"]] ?_
  simp only [List.cons_append, List.nil_append, List.forall₂_cons, List.forall₂_nil_left_iff,
    Step.Writes, and_true]
  decide +kernel

end SignedRest
