import SignedRest.Proofs.GrantHalves

/-! A client of an OAuth 2 service as it is used: its tokens are set, grants are asked for and
answered, and calls are made, in any order. Replies to grants come when they come, so that much
may happen between a grant's request and its reply. -/
namespace SignedRest.OAuth2

inductive Change
  | access (token : Option String)
  | refresh (token : Option String)
  | expiration (date : Option Instant)
  deriving DecidableEq, Repr

def Change.apply (t : TokenState) : Change → TokenState
  | access token => { t with accessToken := token }
  | refresh token => { t with refreshToken := token }
  | expiration date => { t with expiration := date }

/-- A client, its calls, and its grants; a grant that has ended leaves its place empty. -/
structure World where
  client : Client
  calls : List Call
  pending : List (Option Pending)

inductive ClientOp
  | change (c : Change)
  | bind (args : List String)
  | ask (kind : GrantKind) (m : Moment) (mode : Http.Mode)
  | answer (i : Nat) (now : Instant) (happenings : List Http.Happening)
      (reply : Except Interruption Response)
  /-- Whoever waits for a grant stops waiting. -/
  | drop (i : Nat)
  | newCall
  | edit (i : Nat) (f : Draft → Draft)
  | prepare (i : Nat) (m : Moment)
  | invoke (i : Nat) (m : Moment) (mode : Http.Mode) (isCancelled : Bool) (transport : Transport)

inductive ClientAnswer
  | done
  | asked (i : Nat)
  | tokens (t : TokenState)
  | request (r : Request)
  | response (r : Option Response)
  deriving DecidableEq, Repr

def ClientAnswer.isOfGrant : ClientAnswer → Bool
  | asked _ | tokens _ => true
  | _ => false

namespace World

def start (c : Client) : World := ⟨c, [], []⟩

def change (c : Change) : Action World ClientAnswer := fun w =>
  ⟨{ w with client := { w.client with tokens := c.apply w.client.tokens } }, [], .ok .done⟩

def bind (args : List String) : Action World ClientAnswer := fun w =>
  match w.client.endpoint.bind args with
  | .ok e => ⟨{ w with client := { w.client with endpoint := e } }, [], .ok .done⟩
  | .error e => ⟨w, [], .error e⟩

def ask (kind : GrantKind) (m : Moment) (mode : Http.Mode) : Action World ClientAnswer := fun w =>
  let o := Client.ask kind m mode w.client
  match o.result with
  | .ok p => ⟨{ w with client := o.state, pending := w.pending ++ [some p] }, o.events,
      .ok (.asked w.pending.length)⟩
  | .error e => ⟨{ w with client := o.state }, o.events, .error e⟩

def answer (i : Nat) (now : Instant) (happenings : List Http.Happening)
    (reply : Except Interruption Response) : Action World ClientAnswer := fun w =>
  match w.pending[i]? with
  | some (some p) =>
    let o := Client.answer p now happenings (reply.mapError Interruption.error) w.client
    ⟨{ w with client := o.state, pending := w.pending.set i none }, o.events,
      o.result.map .tokens⟩
  | _ => ⟨w, [], .ok .done⟩

def drop (i : Nat) : Action World ClientAnswer := fun w =>
  ⟨{ w with pending := w.pending.set i none }, [], .ok .done⟩

def newCall : Action World ClientAnswer := fun w =>
  ⟨{ w with calls := w.calls ++ [.empty] }, [], .ok .done⟩

def onCall {α : Type} (i : Nat) (action : Service → Action Call α) (answer : α → ClientAnswer) :
    Action World ClientAnswer := fun w =>
  match w.calls[i]? with
  | some call =>
    let o := action w.client.service call
    ⟨{ w with calls := w.calls.set i o.state }, o.events, o.result.map answer⟩
  | none => ⟨w, [], .ok .done⟩

end World

def ClientOp.perform : ClientOp → Action World ClientAnswer
  | change c => World.change c
  | bind args => World.bind args
  | ask kind m mode => World.ask kind m mode
  | answer i now happenings reply => World.answer i now happenings reply
  | drop i => World.drop i
  | newCall => World.newCall
  | edit i f => World.onCall i (fun _ => Action.modify (Call.edit f)) fun _ => .done
  | prepare i m => World.onCall i (Call.prepare · m) .request
  | invoke i m mode isCancelled transport =>
    World.onCall i (Call.invokeVia · m mode isCancelled transport) .response

/-- One operation of a run. -/
structure Turn where
  before : World
  op : ClientOp

namespace Turn

def outcome (x : Turn) : Outcome World ClientAnswer := x.op.perform x.before
def after (x : Turn) : World := x.outcome.state
def events (x : Turn) : List Event := x.outcome.events
def result (x : Turn) : Except Error ClientAnswer := x.outcome.result

end Turn

/-- The turns of a run, each from where the one before it ended. -/
def turns : World → List ClientOp → List Turn
  | _, [] => []
  | w, op :: ops => ⟨w, op⟩ :: turns (Turn.after ⟨w, op⟩) ops

theorem turns_ne_nil {ops : List ClientOp} (h : ops ≠ []) (w : World) : turns w ops ≠ [] := by
  cases ops with
  | nil => exact absurd rfl h
  | cons op ops => exact List.cons_ne_nil _ _

theorem chained_turns (w : World) (ops : List ClientOp) :
    Chained Turn.before Turn.after w (turns w ops) := by
  induction ops generalizing w with
  | nil => exact .nil w
  | cons op ops ih => exact .cons (x := ⟨w, op⟩) (ih _)

/-- What holds of the past at the start and is kept by each turn holds before and after every
turn. -/
theorem turns_history {holds : List Turn → World → Prop}
    (step : ∀ past x, holds past x.before → holds (past ++ [x]) x.after) {w : World}
    (start : holds [] w) {ops : List ClientOp} {past : List Turn} {x : Turn} {rest : List Turn}
    (run : turns w ops = past ++ x :: rest) :
    holds past x.before ∧ holds (past ++ [x]) x.after :=
  Chained.history step start (run ▸ chained_turns w ops)

namespace Turn

theorem perform_ask_of_ok {w : World} {kind : GrantKind} {m : Moment} {mode : Http.Mode}
    {events : List Event} {p : Pending}
    (h : Client.ask kind m mode w.client = ⟨w.client, events, .ok p⟩) :
    (ClientOp.ask kind m mode).perform w =
      ⟨{ w with pending := w.pending ++ [some p] }, events, .ok (.asked w.pending.length)⟩ := by
  simp [ClientOp.perform, World.ask, h]

theorem perform_ask_of_error {w : World} {kind : GrantKind} {m : Moment} {mode : Http.Mode}
    {events : List Event} {e : Error}
    (h : Client.ask kind m mode w.client = ⟨w.client, events, .error e⟩) :
    (ClientOp.ask kind m mode).perform w = ⟨w, events, .error e⟩ := by
  simp [ClientOp.perform, World.ask, h]

inductive Effect (x : Turn) : Prop
  | kept (unchanged : ∀ c, x.op ≠ .change c)
      (tokens : x.after.client.tokens = x.before.client.tokens)
      (places : x.after.pending.length = x.before.pending.length)
      (pending : ∀ (i : Nat) (p : Pending), x.after.pending[i]? = some (some p) →
        x.before.pending[i]? = some (some p))
      (result : ∀ a, x.result = .ok a → a.isOfGrant = false)
  | changed (c : Change) (op : x.op = .change c)
      (tokens : x.after.client.tokens = c.apply x.before.client.tokens)
      (pending : x.after.pending = x.before.pending) (result : x.result = .ok .done)
  | asked (kind : GrantKind) (m : Moment) (mode : Http.Mode) (g : Client.Grant) (r : Request)
      (op : x.op = .ask kind m mode) (start : kind.start x.before.client = .ok g)
      (made : Call.requestOf x.before.client.tokenEndpoint m none g.call.draft = .ok r)
      (events : x.events = [.handedOver mode r]) (client : x.after.client = x.before.client)
      (pending : x.after.pending =
        x.before.pending ++ [some ⟨g, ⟨g.call.draft, .inFlight r⟩, r⟩])
      (result : x.result = .ok (.asked x.before.pending.length))
  | granted (i : Nat) (now : Instant) (happenings : List Http.Happening) (response : Response)
      (p : Pending) (t : TokenState) (op : x.op = .answer i now happenings (.ok response))
      (waiting : x.before.pending[i]? = some (some p)) (success : response.isSuccess = true)
      (read : p.grant.tokens response.payload now = .ok t)
      (tokens : x.after.client.tokens = t)
      (pending : x.after.pending = x.before.pending.set i none)
      (result : x.result = .ok (.tokens t))

theorem pending_of_set {w : World} {i j : Nat} {p : Pending}
    (h : (w.pending.set i none)[j]? = some (some p)) : w.pending[j]? = some (some p) := by
  rw [List.getElem?_set] at h
  split at h
  · split at h <;> simp at h
  · exact h

theorem perform_onCall {α : Type} {w : World} {i : Nat} {call : Call}
    (found : w.calls[i]? = some call) (action : Service → Action Call α)
    (told : α → ClientAnswer) :
    World.onCall i action told w =
      let o := action w.client.service call
      ⟨{ w with calls := w.calls.set i o.state }, o.events, o.result.map told⟩ := by
  simp only [World.onCall, found]

theorem perform_onCall_of_none {α : Type} {w : World} {i : Nat} (none_ : w.calls[i]? = none)
    (action : Service → Action Call α) (told : α → ClientAnswer) :
    World.onCall i action told w = ⟨w, [], .ok .done⟩ := by
  simp only [World.onCall, none_]

theorem client_onCall {α : Type} (i : Nat) (action : Service → Action Call α)
    (told : α → ClientAnswer) (w : World) :
    (World.onCall i action told w).state.client = w.client ∧
      (World.onCall i action told w).state.pending = w.pending := by
  cases h : w.calls[i]? <;> simp [World.onCall, h]

theorem result_onCall {α : Type} (i : Nat) (action : Service → Action Call α)
    {told : α → ClientAnswer} (answer : ∀ a, (told a).isOfGrant = false) (w : World)
    {a : ClientAnswer} (h : (World.onCall i action told w).result = .ok a) :
    a.isOfGrant = false := by
  cases found : w.calls[i]? with
  | none =>
    simp only [World.onCall, found, Except.ok.injEq] at h
    subst h
    rfl
  | some call =>
    cases done : (action w.client.service call).result with
    | error e => simp [World.onCall, found, done, Except.map] at h
    | ok b =>
      simp only [World.onCall, found, done, Except.map, Except.ok.injEq] at h
      subst h
      exact answer b

theorem effect_onCall {α : Type} {x : Turn} {i : Nat} {action : Service → Action Call α}
    {told : α → ClientAnswer} (op : x.op.perform = World.onCall i action told)
    (unchanged : ∀ c, x.op ≠ .change c) (answer : ∀ a, (told a).isOfGrant = false) : x.Effect := by
  obtain ⟨client, pending⟩ := client_onCall i action told x.before
  rw [← op] at client pending
  refine .kept unchanged (congrArg Client.tokens client) (congrArg List.length pending) ?_ ?_
  · intro j p h
    rw [← pending]
    exact h
  · intro a h
    refine result_onCall i action answer x.before ?_
    rw [← op]
    exact h

theorem perform_answer {w : World} {i : Nat} {p : Pending} (now : Instant)
    (happenings : List Http.Happening) (reply : Except Interruption Response)
    (waiting : w.pending[i]? = some (some p)) :
    (ClientOp.answer i now happenings reply).perform w =
      let o := Client.answer p now happenings (reply.mapError Interruption.error) w.client
      ⟨{ w with client := o.state, pending := w.pending.set i none }, o.events,
        o.result.map .tokens⟩ := by
  simp only [ClientOp.perform, World.answer, waiting]

/-- An answer to a grant that does not wait is lost. -/
theorem perform_answer_of_none {w : World} {i : Nat} (now : Instant)
    (happenings : List Http.Happening) (reply : Except Interruption Response)
    (none_ : ∀ p, w.pending[i]? ≠ some (some p)) :
    (ClientOp.answer i now happenings reply).perform w = ⟨w, [], .ok .done⟩ := by
  cases found : w.pending[i]? with
  | none => simp only [ClientOp.perform, World.answer, found]
  | some slot =>
    cases slot with
    | none => simp only [ClientOp.perform, World.answer, found]
    | some p => exact absurd found (none_ p)

theorem effect_answer (w : World) (i : Nat) (now : Instant) (happenings : List Http.Happening)
    (reply : Except Interruption Response) : Effect ⟨w, .answer i now happenings reply⟩ := by
  by_cases waiting : ∃ p, w.pending[i]? = some (some p)
  · obtain ⟨p, waiting⟩ := waiting
    have performed := perform_answer now happenings reply waiting
    rcases Client.answer_cases p now happenings (reply.mapError Interruption.error) w.client with
      ⟨e, events, -, -, answered⟩ | ⟨t, events, taken, -, answered⟩
    · rw [answered] at performed
      refine .kept (by simp) ?_ ?_ ?_ ?_
      · simp [after, outcome, performed]
      · simp [after, outcome, performed]
      · intro j q h
        simp only [after, outcome, performed] at h
        exact pending_of_set h
      · simp [result, outcome, performed, Except.map]
    · obtain ⟨response, rfl, success, read⟩ := Client.taken_iff.mp taken
      rw [answered] at performed
      refine .granted i now happenings response p t rfl waiting success read ?_ ?_ ?_ <;>
        simp [after, result, outcome, performed, Except.map]
  · have performed := perform_answer_of_none now happenings reply (not_exists.mp waiting)
    refine .kept (by simp) ?_ ?_ ?_ ?_ <;>
      simp [after, result, outcome, performed, ClientAnswer.isOfGrant]

/-- A grant that is answered before anything else happens is one of the client's own. -/
theorem grant_in_turns (w : World) (kind : GrantKind) (m : Moment) (mode : Http.Mode)
    (network : Http.Network) :
    ∃ happenings reply,
      let asked : Turn := ⟨w, .ask kind m mode⟩
      let answered : Turn := ⟨asked.after, .answer w.pending.length m.now happenings reply⟩
      let granted := Client.grantTokens kind m mode network w.client
      answered.after.client = granted.state ∧ asked.events ++ answered.events = granted.events ∧
        ∀ t, answered.result = .ok (.tokens t) ↔ granted.result = .ok t := by
  rcases Client.ask_cases kind m mode w.client with ⟨e, marked, asked, -⟩ | ⟨g, r, -, -, asked⟩
  · have none_ : ∀ p, w.pending[w.pending.length]? ≠ some (some p) := by simp
    have first := perform_ask_of_error asked
    have second := perform_answer_of_none m.now [] (.error .cancelled) none_
    refine ⟨[], .error .cancelled, ?_⟩
    simp [after, Turn.events, result, outcome, first, second, Client.grantTokens_of_error asked]
  · have first := perform_ask_of_ok asked
    cases sent : Http.sendBy w.client.tokenEndpoint.config
        (network.clients w.client.tokenEndpoint.config) mode r with
    | mk happenings reply =>
      have whole : Client.grantTokens kind m mode network w.client =
          (Client.ask kind m mode >>= fun p =>
            Client.answer p m.now happenings (reply.mapError Interruption.error)) w.client := by
        rw [Client.grantTokens, Action.bind_of_ok (by rw [asked]),
          Action.bind_of_ok (by rw [asked]), asked]
        simp only [sent]
      have waiting : (w.pending ++ [some ⟨g, ⟨g.call.draft, .inFlight r⟩, r⟩])[w.pending.length]? =
          some (some ⟨g, ⟨g.call.draft, .inFlight r⟩, r⟩) := by simp
      have second := perform_answer m.now happenings reply
        (w := { w with pending := w.pending ++ [some ⟨g, ⟨g.call.draft, .inFlight r⟩, r⟩] }) waiting
      refine ⟨happenings, reply, ?_⟩
      have told : ∀ (x : Except Error TokenState) t,
          x.map ClientAnswer.tokens = .ok (.tokens t) ↔ x = .ok t := by
        intro x t
        cases x <;> simp [Except.map]
      rw [whole, Action.bind_of_ok (by rw [asked]), asked]
      simp [after, Turn.events, result, outcome, first, second, told]

theorem effect (x : Turn) : x.Effect := by
  obtain ⟨w, op⟩ := x
  cases op with
  | change c => exact .changed c rfl rfl rfl rfl
  | newCall =>
    refine .kept (by simp) rfl rfl (fun _ _ h => h) ?_
    rintro a ⟨⟩
    rfl
  | drop i =>
    refine .kept (by simp) rfl (by simp [after, outcome, ClientOp.perform, World.drop])
      (fun _ _ h => pending_of_set h) ?_
    rintro a ⟨⟩
    rfl
  | bind args =>
    cases h : w.client.endpoint.bind args with
    | ok e =>
      refine .kept (by simp) ?_ ?_ ?_ ?_ <;>
        simp [after, result, outcome, ClientOp.perform, World.bind, h, ClientAnswer.isOfGrant]
    | error e =>
      refine .kept (by simp) ?_ ?_ ?_ ?_ <;>
        simp [after, result, outcome, ClientOp.perform, World.bind, h]
  | ask kind m mode =>
    rcases Client.ask_cases kind m mode w.client with ⟨e, events, h, -⟩ | ⟨g, r, start, made, h⟩
    · refine .kept (by simp) ?_ ?_ ?_ ?_ <;>
        simp [after, result, outcome, ClientOp.perform, World.ask, h]
    · refine .asked kind m mode g r rfl start made ?_ ?_ ?_ ?_ <;>
        simp [Turn.events, after, result, outcome, ClientOp.perform, World.ask, h]
  | answer i now happenings reply => exact effect_answer ..
  | edit i f =>
    have op : (ClientOp.edit i f).perform =
        World.onCall i (fun _ => Action.modify (Call.edit f)) fun _ => .done := rfl
    exact effect_onCall op (by simp) fun _ => rfl
  | prepare i m =>
    have op : (ClientOp.prepare i m).perform = World.onCall i (Call.prepare · m) .request := rfl
    exact effect_onCall op (by simp) fun _ => rfl
  | invoke i m mode isCancelled transport =>
    have op : (ClientOp.invoke i m mode isCancelled transport).perform =
        World.onCall i (Call.invokeVia · m mode isCancelled transport) .response := rfl
    exact effect_onCall op (by simp) fun _ => rfl

end Turn
end SignedRest.OAuth2
