import SignedRest.Proofs.SentOnce
import SignedRest.Proofs.Templates

/-! Services that are held by many. Clones of a service share what its URL is bound to, and so do
the calls that are made on any of them. -/
namespace SignedRest

/-- Services by their places. A handle is the place of its service, and a call keeps such a handle
of its own. -/
structure Registry where
  services : List Service
  handles : List Nat
  calls : List (Nat × Call)

inductive RegistryOp
  | create (config : Config) (hook : Option Hook)
  | clone (h : Nat)
  /-- Another clone of the service that a call is made on. -/
  | cloneOf (i : Nat)
  | bind (h : Nat) (args : List String)
  | url (h : Nat)
  | newCall (h : Nat)
  /-- Anything that is done with a call and its own handle. A hook that binds while it looks at a
  call is one that was replaced, after the binding, by a hook that sees the old one. -/
  | onCall (i : Nat) (op : Op)

inductive RegistryAnswer
  | done
  | url (text : String)
  | ofCall (answer : Answer)
  deriving DecidableEq, Repr

namespace Registry

def empty : Registry := ⟨[], [], []⟩

def create (config : Config) (hook : Option Hook) : Action Registry RegistryAnswer := fun w =>
  ⟨{ w with services := w.services ++ [⟨.ofConfig config, hook⟩]
            handles := w.handles ++ [w.services.length] }, [], .ok .done⟩

def addHandle (place : Option Nat) : Action Registry RegistryAnswer := fun w =>
  ⟨{ w with handles := w.handles ++ place.toList }, [], .ok .done⟩

def newCall (h : Nat) : Action Registry RegistryAnswer := fun w =>
  ⟨{ w with calls := w.calls ++ (w.handles[h]?.map (·, Call.empty)).toList }, [], .ok .done⟩

def service? (w : Registry) (h : Nat) : Option (Nat × Service) :=
  w.handles[h]?.bind fun place => w.services[place]?.map (place, ·)

def bind (h : Nat) (args : List String) : Action Registry RegistryAnswer := fun w =>
  match w.service? h with
  | some (place, s) =>
    match s.endpoint.bind args with
    | .ok e => ⟨{ w with services := w.services.set place { s with endpoint := e } }, [],
        .ok .done⟩
    | .error e => ⟨w, [], .error e⟩
  | none => ⟨w, [], .ok .done⟩

def url (h : Nat) : Action Registry RegistryAnswer := fun w =>
  match w.service? h with
  | some (_, s) => ⟨w, [], s.endpoint.url.map .url⟩
  | none => ⟨w, [], .ok .done⟩

def session? (w : Registry) (i : Nat) : Option (Nat × Session) :=
  w.calls[i]?.bind fun (place, call) => w.services[place]?.map fun s => (place, ⟨s, call⟩)

def onCall (i : Nat) (op : Op) : Action Registry RegistryAnswer := fun w =>
  match w.session? i with
  | some (place, session) =>
    let o := op.perform session
    ⟨{ w with services := w.services.set place o.state.service
              calls := w.calls.set i (place, o.state.call) }, o.events, o.result.map .ofCall⟩
  | none => ⟨w, [], .ok .done⟩

end Registry

def RegistryOp.perform : RegistryOp → Action Registry RegistryAnswer
  | create config hook => Registry.create config hook
  | clone h => fun w => Registry.addHandle w.handles[h]? w
  | cloneOf i => fun w => Registry.addHandle (w.calls[i]?.map (·.1)) w
  | bind h args => Registry.bind h args
  | url h => Registry.url h
  | newCall h => Registry.newCall h
  | onCall i op => Registry.onCall i op

/-- One operation of a run. -/
structure Entry where
  before : Registry
  op : RegistryOp

namespace Entry

def outcome (x : Entry) : Outcome Registry RegistryAnswer := x.op.perform x.before
def after (x : Entry) : Registry := x.outcome.state
def events (x : Entry) : List Event := x.outcome.events
def result (x : Entry) : Except Error RegistryAnswer := x.outcome.result

/-- What the operation binds, and to what arguments; it may fail to. -/
def binding? (x : Entry) : Option (Nat × List String) :=
  match x.op with
  | .bind h args => x.before.handles[h]?.map (·, args)
  | .onCall i (.bind args) => x.before.calls[i]?.map (·.1, args)
  | _ => none

def bound? (place : Nat) (x : Entry) : Option (List String) :=
  match x.binding?, x.result with
  | some (own, args), .ok _ => if own = place then some args else none
  | _, _ => none

end Entry

/-- The entries of a run, each from where the one before it ended. -/
def entries : Registry → List RegistryOp → List Entry
  | _, [] => []
  | w, op :: ops => ⟨w, op⟩ :: entries (Entry.after ⟨w, op⟩) ops

theorem chained_entries (w : Registry) (ops : List RegistryOp) :
    Chained Entry.before Entry.after w (entries w ops) := by
  induction ops generalizing w with
  | nil => exact .nil w
  | cons op ops ih => exact .cons (x := ⟨w, op⟩) (ih _)

/-- The arguments that the service at a place was last bound to, by any of its clones. -/
def lastBound (place : Nat) (past : List Entry) : Option (List String) :=
  (past.filterMap (Entry.bound? place)).getLast?

theorem lastBound_concat (place : Nat) (past : List Entry) (x : Entry) :
    lastBound place (past ++ [x]) = (x.bound? place).or (lastBound place past) := by
  cases h : x.bound? place <;> simp [lastBound, List.filterMap_append, h]

namespace Registry

def endpoints (w : Registry) : List Endpoint := w.services.map (·.endpoint)

def places (w : Registry) : List Nat := w.handles ++ w.calls.map (·.1)

def WellFormed (w : Registry) : Prop := ∀ place ∈ w.places, place < w.services.length

section
variable {w : Registry} {place : Nat}

theorem getElem?_endpoints (w : Registry) (place : Nat) :
    w.endpoints[place]? = w.services[place]?.map (·.endpoint) := List.getElem?_map ..

theorem length_endpoints (w : Registry) : w.endpoints.length = w.services.length :=
  List.length_map _

theorem mem_places_of_handle {h : Nat} (found : w.handles[h]? = some place) : place ∈ w.places :=
  List.mem_append_left _ (List.mem_of_getElem? found)

theorem mem_places_of_call {i : Nat} {call : Call} (found : w.calls[i]? = some (place, call)) :
    place ∈ w.places :=
  List.mem_append_right _ (List.mem_map_of_mem (List.mem_of_getElem? found))

theorem WellFormed.exists_service (h : w.WellFormed) (mem : place ∈ w.places) :
    ∃ s, w.services[place]? = some s := ⟨_, List.getElem?_eq_getElem (h place mem)⟩

theorem service?_of_handle {h : Nat} {s : Service} (handle : w.handles[h]? = some place)
    (found : w.services[place]? = some s) : w.service? h = some (place, s) := by
  rw [service?, handle, Option.bind_some, found, Option.map_some]

theorem session?_of_call {i : Nat} {call : Call} {s : Service}
    (handle : w.calls[i]? = some (place, call)) (found : w.services[place]? = some s) :
    w.session? i = some (place, ⟨s, call⟩) := by
  simp [session?, handle, found]

theorem session?_eq_some {i : Nat} {session : Session}
    (h : w.session? i = some (place, session)) :
    w.calls[i]? = some (place, session.call) ∧ w.services[place]? = some session.service := by
  obtain ⟨⟨own, call⟩, handle, h⟩ := Option.bind_eq_some_iff.mp h
  obtain ⟨s, found, eq⟩ := Option.map_eq_some_iff.mp h
  obtain ⟨rfl, rfl⟩ := Prod.mk.inj eq
  exact ⟨handle, found⟩

theorem places_addHandle {known : Option Nat} (h : ∀ place, known = some place → place ∈ w.places) :
    (addHandle known w).state.places ⊆ w.places := by
  intro place mem
  simp only [addHandle, places, List.mem_append, or_assoc] at mem
  rcases mem with old | new | call
  · exact List.mem_append_left _ old
  · exact h place (Option.mem_toList.mp new)
  · exact List.mem_append_right _ call

theorem places_newCall (h : Nat) : (newCall h w).state.places ⊆ w.places := by
  intro place mem
  simp only [newCall, places, List.map_append, List.mem_append] at mem
  rcases mem with handle | call | new
  · exact List.mem_append_left _ handle
  · exact List.mem_append_right _ call
  · obtain ⟨held, found, rfl⟩ := List.mem_map.mp new
    obtain ⟨own, handle, rfl⟩ := Option.map_eq_some_iff.mp (Option.mem_toList.mp found)
    exact mem_places_of_handle handle

theorem set_of_getElem? {α : Type} {l : List α} {i : Nat} {a : α} (h : l[i]? = some a) :
    l.set i a = l := by
  obtain ⟨inside, rfl⟩ := List.getElem?_eq_some_iff.mp h
  exact List.set_getElem_self inside

end
end Registry

theorem Op.endpoint_perform {op : Op} (unbinding : ∀ args, op ≠ .bind args) (s : Session) :
    (op.perform s).state.service.endpoint = s.service.endpoint := by
  cases op with
  | bind args => exact absurd rfl (unbinding args)
  | _ => rfl

namespace Entry

/-- Everything that an operation does to what its services are bound to. -/
inductive Effect (x : Entry) : Prop
  | quiet (binding : x.binding? = none) (endpoints : x.after.endpoints = x.before.endpoints)
      (places : x.after.places ⊆ x.before.places)
  | created (config : Config) (binding : x.binding? = none)
      (endpoints : x.after.endpoints = x.before.endpoints ++ [.ofConfig config])
      (places : x.after.places ⊆ x.before.services.length :: x.before.places)
  | bound (place : Nat) (args : List String) (e : Endpoint)
      (binding : x.binding? = some (place, args)) (found : x.before.endpoints[place]? = some e)
      (count : args.length = Template.placeCount e.config.template)
      (endpoints : x.after.endpoints = x.before.endpoints.set place
        { e with bound := some (Template.fill e.config.template args) })
      (places : x.after.places = x.before.places) (calls : x.after.calls = x.before.calls)
      (result : ∃ a, x.result = .ok a)
  | miscounted (place : Nat) (args : List String) (e : Endpoint)
      (binding : x.binding? = some (place, args)) (found : x.before.endpoints[place]? = some e)
      (count : args.length ≠ Template.placeCount e.config.template) (after : x.after = x.before)
      (events : x.events = [])
      (result : x.result = .error (.binding
        (.wrongCount (Template.placeCount e.config.template) args.length)))

theorem effect_bind {w : Registry} (formed : w.WellFormed) (h : Nat) (args : List String) :
    Effect ⟨w, .bind h args⟩ := by
  cases handle : w.handles[h]? with
  | none =>
    have done : (RegistryOp.bind h args).perform w = ⟨w, [], .ok .done⟩ := by
      simp [RegistryOp.perform, Registry.bind, Registry.service?, handle]
    refine .quiet (by simp [binding?, handle]) ?_ ?_ <;> simp [after, outcome, done]
  | some place =>
    obtain ⟨s, found⟩ := formed.exists_service (Registry.mem_places_of_handle handle)
    have service := Registry.service?_of_handle handle found
    have own : w.endpoints[place]? = some s.endpoint := by
      rw [Registry.getElem?_endpoints, found, Option.map_some]
    have binding : binding? ⟨w, .bind h args⟩ = some (place, args) := by
      simp [binding?, handle]
    by_cases count : args.length = Template.placeCount s.endpoint.config.template
    · have bound := Endpoint.bind_of_count count
      refine .bound place args s.endpoint binding own count ?_ ?_ ?_ ?_ <;>
        simp [after, result, outcome, RegistryOp.perform, Registry.bind, service, bound,
          Registry.endpoints, Registry.places, List.map_set]
    · have bound := Endpoint.bind_of_miscount count
      refine .miscounted place args s.endpoint binding own count ?_ ?_ ?_ <;>
        simp [after, Entry.events, result, outcome, RegistryOp.perform, Registry.bind, service,
          bound]

theorem outcome_onCall {w : Registry} {i place : Nat} {call : Call} {s : Service}
    (handle : w.calls[i]? = some (place, call)) (found : w.services[place]? = some s) (op : Op) :
    outcome ⟨w, .onCall i op⟩ =
      let o := op.perform ⟨s, call⟩
      ⟨{ w with services := w.services.set place o.state.service
                calls := w.calls.set i (place, o.state.call) }, o.events,
        o.result.map .ofCall⟩ := by
  simp only [outcome, RegistryOp.perform, Registry.onCall, Registry.session?_of_call handle found]

theorem places_set {w : Registry} {i place : Nat} {call call' : Call}
    (handle : w.calls[i]? = some (place, call)) :
    (w.calls.set i (place, call')).map (·.1) = w.calls.map (·.1) := by
  have same : (w.calls.map (·.1))[i]? = some place := by simp [handle]
  rw [List.map_set, Registry.set_of_getElem? same]

theorem effect_onCall {w : Registry} (formed : w.WellFormed) (i : Nat) (op : Op) :
    Effect ⟨w, .onCall i op⟩ := by
  cases handle : w.calls[i]? with
  | none =>
    have done : outcome ⟨w, .onCall i op⟩ = ⟨w, [], .ok .done⟩ := by
      simp [outcome, RegistryOp.perform, Registry.onCall, Registry.session?, handle]
    refine .quiet (by cases op <;> simp [binding?, handle]) ?_ ?_ <;> simp [after, done]
  | some held =>
    obtain ⟨place, call⟩ := held
    obtain ⟨s, found⟩ := formed.exists_service (Registry.mem_places_of_call handle)
    have performed := outcome_onCall handle found op
    have own : w.endpoints[place]? = some s.endpoint := by
      rw [Registry.getElem?_endpoints, found, Option.map_some]
    by_cases binds : ∃ args, op = .bind args
    · obtain ⟨args, rfl⟩ := binds
      have binding : binding? ⟨w, .onCall i (.bind args)⟩ = some (place, args) := by
        simp [binding?, handle]
      by_cases count : args.length = Template.placeCount s.endpoint.config.template
      · have bound := Endpoint.bind_of_count count
        simp only [Op.perform, Session.bind, bound, Registry.set_of_getElem? handle] at performed
        refine .bound place args s.endpoint binding own count ?_ ?_ ?_ ?_ <;>
          simp [after, result, performed, Registry.endpoints, Registry.places, List.map_set,
            Except.map]
      · have bound := Endpoint.bind_of_miscount count
        simp only [Op.perform, Session.bind, bound, Registry.set_of_getElem? handle,
          Registry.set_of_getElem? found] at performed
        refine .miscounted place args s.endpoint binding own count ?_ ?_ ?_ <;>
          simp [after, Entry.events, result, performed, Except.map]
    · have unbinding : ∀ args, op ≠ .bind args := fun args eq => binds ⟨args, eq⟩
      have endpoint := Op.endpoint_perform unbinding ⟨s, call⟩
      refine .quiet ?_ ?_ ?_
      · cases op with
        | bind args => exact absurd rfl (unbinding args)
        | _ => rfl
      · rw [after, performed]
        simp only [Registry.endpoints, List.map_set, endpoint]
        exact Registry.set_of_getElem? own
      · simp [after, performed, Registry.places, places_set handle]

theorem effect {x : Entry} (formed : x.before.WellFormed) : x.Effect := by
  obtain ⟨w, op⟩ := x
  cases op with
  | create config hook =>
    refine .created config rfl ?_ ?_
    · simp [after, outcome, RegistryOp.perform, Registry.create, Registry.endpoints]
    · intro place
      simp only [after, outcome, RegistryOp.perform, Registry.create, Registry.places]
      simp only [List.mem_append, List.mem_cons, List.not_mem_nil, or_false, or_assoc]
      exact or_left_comm.mp
  | clone h =>
    refine .quiet rfl rfl (Registry.places_addHandle fun place found => ?_)
    exact Registry.mem_places_of_handle found
  | cloneOf i =>
    refine .quiet rfl rfl (Registry.places_addHandle fun place found => ?_)
    obtain ⟨held, call, rfl⟩ := Option.map_eq_some_iff.mp found
    exact Registry.mem_places_of_call call
  | bind h args => exact effect_bind formed h args
  | url h =>
    refine .quiet rfl ?_ ?_ <;>
      cases service : w.service? h <;>
      simp [after, outcome, RegistryOp.perform, Registry.url, service]
  | newCall h => exact .quiet rfl rfl (Registry.places_newCall h)
  | onCall i op => exact effect_onCall formed i op

end Entry
end SignedRest
