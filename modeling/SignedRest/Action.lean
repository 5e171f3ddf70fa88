import SignedRest.Http.Sending
import SignedRest.Log

/-! Actions on a state. An action that fails keeps what it did to the state before, and always
tells what happened on the way. -/
namespace SignedRest

inductive Event
  | logged (r : Record)
  /-- The hook was asked to look at a call. -/
  | hookPrepared
  /-- The hook was asked for a body. -/
  | hookSerialized
  /-- A request was handed over for sending. -/
  | handedOver (mode : Http.Mode) (r : Request)
  | http (h : Http.Happening)
  deriving DecidableEq, Repr

structure Outcome (σ α : Type) where
  state : σ
  events : List Event
  result : Except Error α

def Action (σ α : Type) : Type := σ → Outcome σ α

namespace Action

variable {σ τ α β : Type}

def andThen (x : Action σ α) (f : α → Action σ β) : Action σ β := fun s =>
  match (x s).result with
  | .ok a =>
    let next := f a (x s).state
    ⟨next.state, (x s).events ++ next.events, next.result⟩
  | .error e => ⟨(x s).state, (x s).events, .error e⟩

instance : Monad (Action σ) where
  pure a := fun s => ⟨s, [], .ok a⟩
  bind := andThen

@[simp] theorem pure_apply (a : α) (s : σ) : (pure a : Action σ α) s = ⟨s, [], .ok a⟩ := rfl

theorem bind_of_ok {x : Action σ α} {f : α → Action σ β} {s : σ} {a : α}
    (h : (x s).result = .ok a) :
    (x >>= f) s = ⟨(f a (x s).state).state, (x s).events ++ (f a (x s).state).events,
      (f a (x s).state).result⟩ := by
  simp [bind, andThen, h]

theorem bind_of_error {x : Action σ α} {f : α → Action σ β} {s : σ} {e : Error}
    (h : (x s).result = .error e) : (x >>= f) s = ⟨(x s).state, (x s).events, .error e⟩ := by
  simp [bind, andThen, h]

/-- A sequence that succeeds has two parts that do. -/
theorem bind_eq_ok {x : Action σ α} {f : α → Action σ β} {s : σ} {b : β}
    (h : ((x >>= f) s).result = .ok b) :
    ∃ a, (x s).result = .ok a ∧ (f a (x s).state).result = .ok b ∧
      ((x >>= f) s).state = (f a (x s).state).state := by
  cases hx : (x s).result with
  | error e =>
    rw [bind_of_error hx] at h
    cases h
  | ok a =>
    rw [bind_of_ok hx] at h ⊢
    exact ⟨a, rfl, h, rfl⟩

theorem result_bind (x : Action σ α) (f : α → Action σ β) (s : σ) :
    ((x >>= f) s).result = (x s).result.bind fun a => (f a (x s).state).result := by
  cases h : (x s).result with
  | error e => rw [bind_of_error h]; rfl
  | ok a => rw [bind_of_ok h]; rfl

def fail (e : Error) : Action σ α := fun s => ⟨s, [], .error e⟩

def get : Action σ σ := fun s => ⟨s, [], .ok s⟩

def modify (f : σ → σ) : Action σ Unit := fun s => ⟨f s, [], .ok ()⟩

def emit (events : List Event) : Action σ Unit := fun s => ⟨s, events, .ok ()⟩

def log (r : Record) : Action σ Unit := emit [.logged r]

/-- Another action's events and result, without its state. -/
def apart (f : σ → Outcome τ α) : Action σ α := fun s => ⟨s, (f s).events, (f s).result⟩

def ofExcept : Except Error α → Action σ α
  | .ok a => pure a
  | .error e => fail e

@[simp] theorem ofExcept_ok (a : α) : (ofExcept (.ok a) : Action σ α) = pure a := rfl
@[simp] theorem ofExcept_error (e : Error) : (ofExcept (.error e) : Action σ α) = fail e := rfl

theorem ofExcept_apply (x : Except Error α) (s : σ) :
    (ofExcept x : Action σ α) s = ⟨s, [], x⟩ := by cases x <;> rfl

theorem ofExcept_eq_ok {x : Except Error α} {s : σ} {a : α}
    (h : ((ofExcept x : Action σ α) s).result = .ok a) :
    x = .ok a ∧ ((ofExcept x : Action σ α) s).state = s := by
  cases x with
  | error e => cases h
  | ok b => exact ⟨h, rfl⟩

end Action
end SignedRest
