import SignedRest.Proofs.ClientRun

/-! When a client looks at the expiry of its tokens: as it prepares a call, and never again. A
call that is prepared as it is sent goes out with tokens that are accepted. One that was prepared
earlier goes out with the access token of that time, whatever has become of it. -/
namespace SignedRest.OAuth2

/-- A request with the access token, if there is one. -/
def Bears (tokens : TokenState) (r : Request) : Prop :=
  ∀ token, tokens.accessToken = some token → r.header? "Authorization" = some ("Bearer " ++ token)

section
variable {tokens : TokenState} {e : Endpoint} {m : Moment} {d : Draft}

theorem bearer_of_expired (h : tokens.isExpiredAt m.now = true) :
    bearer tokens e m d = ⟨d, [], .error .accessTokenExpired⟩ := by
  rw [bearer, if_pos h]
  rfl

theorem bearer_of_valid (h : tokens.isExpiredAt m.now = false) :
    bearer tokens e m d =
      ⟨match tokens.accessToken with
        | some token => d.addHeader "Authorization" ("Bearer " ++ token)
        | none => d, [], .ok ()⟩ := by
  rw [bearer, if_neg (by simp [h])]
  cases tokens.accessToken <;> rfl

theorem marks_bearer (tokens : TokenState) (e : Endpoint) (m : Moment) (d : Draft) :
    marks (bearer tokens e m d).events = [] := by
  cases h : tokens.isExpiredAt m.now with
  | true => rw [bearer_of_expired h]; rfl
  | false => rw [bearer_of_valid h]; rfl

end

namespace Client

theorem service_quiet (c : Client) : c.service.Quiet := by
  rintro hook ⟨⟩
  exact ⟨marks_bearer c.tokens, fun e m d => rfl⟩

theorem build_of_expired {c : Client} {m : Moment} (h : c.tokens.isExpiredAt m.now = true)
    (d : Draft) : (Call.build c.service m d).result = .error .accessTokenExpired := by
  have hooked : (Call.runHook c.service m d).result = .error .accessTokenExpired := by
    simp [Call.runHook, service, Hook.ofPrepare, Action.result_bind, Action.emit,
      bearer_of_expired h, Except.bind]
  rw [Call.build, Action.result_bind, hooked]
  rfl

/-- What is built is built with valid tokens, and bears them. -/
theorem valid_of_build {c : Client} {m : Moment} {d : Draft} {r : Request}
    (h : (Call.build c.service m d).result = .ok r) :
    c.tokens.isExpiredAt m.now = false ∧ Bears c.tokens r := by
  have valid : c.tokens.isExpiredAt m.now = false := by
    cases expired : c.tokens.isExpiredAt m.now with
    | false => rfl
    | true =>
      rw [build_of_expired expired] at h
      cases h
  refine ⟨valid, fun token held => ?_⟩
  obtain ⟨custom, hooked, h, -⟩ := Action.bind_eq_ok h
  obtain ⟨d', got, h, -⟩ := Action.bind_eq_ok h
  obtain rfl := Except.ok.inj got
  obtain ⟨made, -⟩ := Action.ofExcept_eq_ok h
  obtain ⟨rfl, -, state⟩ := Call.runHook_ofPrepare hooked
  have headers := header_of_requestOf made
  have added : (bearer c.tokens c.endpoint m d).state =
      d.addHeader "Authorization" ("Bearer " ++ token) := by
    rw [bearer_of_valid valid, held]
  have left : (Call.runHook c.service m d).state =
      d.addHeader "Authorization" ("Bearer " ++ token) := state.trans added
  rw [headers, left]
  exact Headers.get?_add ..

end Client

namespace Turn

/-- The turn makes the request of a call: the tokens are valid at that time, and the request has
the access token. -/
structure Makes (x : Turn) (i : Nat) (m : Moment) (r : Request) : Prop where
  drafted : ∃ call, x.before.calls[i]? = some call ∧ call.stage = .unprepared
  valid : x.before.client.tokens.isExpiredAt m.now = false
  bears : Bears x.before.client.tokens r

theorem makes_of_build {x : Turn} {i : Nat} {m : Moment} {call : Call} {r : Request}
    (found : x.before.calls[i]? = some call) (fresh : call.stage = .unprepared)
    (built : (Call.build x.before.client.service m call.draft).result = .ok r) :
    x.Makes i m r := by
  obtain ⟨valid, bears⟩ := Client.valid_of_build built
  exact ⟨⟨call, found, fresh⟩, valid, bears⟩

theorem call_of_onCall {α : Type} {w : World} {i j : Nat} {action : Service → Action Call α}
    {told : α → ClientAnswer} {call : Call}
    (h : (World.onCall i action told w).state.calls[j]? = some call) :
    w.calls[j]? = some call ∨
      j = i ∧ ∃ old, w.calls[i]? = some old ∧ call = (action w.client.service old).state := by
  cases found : w.calls[i]? with
  | none =>
    rw [perform_onCall_of_none found] at h
    exact .inl h
  | some old =>
    rw [perform_onCall found] at h
    simp only [List.getElem?_set] at h
    split at h
    · rename_i same
      split at h
      · exact .inr ⟨same.symm, old, rfl, (Option.some.inj h).symm⟩
      · cases h
    · exact .inl h

theorem calls_of_ask (w : World) (kind : GrantKind) (m : Moment) (mode : Http.Mode) :
    ((ClientOp.ask kind m mode).perform w).state.calls = w.calls := by
  rcases Client.ask_cases kind m mode w.client with ⟨e, events, asked, -⟩ | ⟨g, r, -, -, asked⟩
  · rw [perform_ask_of_error asked]
  · rw [perform_ask_of_ok asked]

theorem calls_of_answer (w : World) (i : Nat) (now : Instant) (happenings : List Http.Happening)
    (reply : Except Interruption Response) :
    ((ClientOp.answer i now happenings reply).perform w).state.calls = w.calls := by
  by_cases waiting : ∃ p, w.pending[i]? = some (some p)
  · obtain ⟨p, waiting⟩ := waiting
    rw [perform_answer now happenings reply waiting]
  · rw [perform_answer_of_none now happenings reply (not_exists.mp waiting)]

theorem calls_of_bind (w : World) (args : List String) :
    ((ClientOp.bind args).perform w).state.calls = w.calls := by
  cases bound : w.client.endpoint.bind args <;> simp [ClientOp.perform, World.bind, bound]

/-- A call that is prepared after a turn was prepared before it, or by it. -/
theorem prepared_after {x : Turn} {i : Nat} {call : Call} {r : Request}
    (h : x.after.calls[i]? = some call) (stage : call.stage = .prepared r) :
    (∃ old, x.before.calls[i]? = some old ∧ old.stage = .prepared r) ∨
      ∃ m, x.op = .prepare i m ∧ x.result = .ok (.request r) ∧ x.Makes i m r := by
  obtain ⟨w, op⟩ := x
  cases op with
  | change c => exact .inl ⟨call, h, stage⟩
  | drop j => exact .inl ⟨call, h, stage⟩
  | bind args =>
    have same := calls_of_bind w args
    exact .inl ⟨call, same ▸ h, stage⟩
  | ask kind m mode =>
    have same := calls_of_ask w kind m mode
    exact .inl ⟨call, same ▸ h, stage⟩
  | answer j now happenings reply =>
    have same := calls_of_answer w j now happenings reply
    exact .inl ⟨call, same ▸ h, stage⟩
  | newCall =>
    -- the new call itself has no request yet
    have added : (w.calls ++ [Call.empty])[i]? = some call := h
    rw [List.getElem?_append] at added
    split at added
    · exact .inl ⟨call, added, stage⟩
    · rw [List.getElem?_singleton] at added
      split at added
      · obtain rfl := Option.some.inj added
        cases stage
      · cases added
  | edit j f =>
    rcases call_of_onCall h with old | ⟨rfl, old, found, rfl⟩
    · exact .inl ⟨call, old, stage⟩
    · exact .inl ⟨old, found, stage⟩
  | prepare j m =>
    rcases call_of_onCall h with old | ⟨rfl, old, found, rfl⟩
    · exact .inl ⟨call, old, stage⟩
    · rcases old.stage.cases_closed with fresh | ⟨r', kept⟩ | closed
      · have done := Call.prepare_of_unprepared (s := w.client.service) (m := m) fresh
        cases built : (Call.build w.client.service m old.draft).result with
        | error e =>
          rw [done, built] at stage
          cases stage
        | ok own =>
          rw [done, built] at stage
          obtain rfl := Stage.prepared.inj stage
          refine .inr ⟨m, rfl, ?_, makes_of_build found fresh built⟩
          have performed := perform_onCall found (Call.prepare · m) ClientAnswer.request
          simp only [done, built] at performed
          exact congrArg Outcome.result performed
      · rw [Call.prepare_of_prepared kept] at stage
        exact .inl ⟨old, found, stage⟩
      · rw [Call.prepare_of_closed closed] at stage
        exact .inl ⟨old, found, stage⟩
  | invoke j m mode isCancelled transport =>
    rcases call_of_onCall h with old | ⟨rfl, old, found, rfl⟩
    · exact .inl ⟨call, old, stage⟩
    · have closed := Call.isClosed_invokeVia w.client.service m mode isCancelled transport old
      rw [stage] at closed
      cases closed

/-- Only grants, which carry no token, and calls that are sent hand anything over. -/
theorem handedOver_cases {x : Turn} {mode : Http.Mode} {r : Request}
    (mem : .handedOver mode r ∈ x.events) :
    (∃ kind m, x.op = .ask kind m mode ∧ r.header? "Authorization" = none) ∨
      ∃ i m isCancelled transport call, x.op = .invoke i m mode isCancelled transport ∧
        x.before.calls[i]? = some call ∧
        (call.stage = .prepared r ∨ call.stage = .unprepared ∧
          (Call.build x.before.client.service m call.draft).result = .ok r) := by
  obtain ⟨w, op⟩ := x
  cases op with
  | change c => simp [events, outcome, ClientOp.perform, World.change] at mem
  | drop j => simp [events, outcome, ClientOp.perform, World.drop] at mem
  | newCall => simp [events, outcome, ClientOp.perform, World.newCall] at mem
  | bind args =>
    cases bound : w.client.endpoint.bind args <;>
      simp [events, outcome, ClientOp.perform, World.bind, bound] at mem
  | ask kind m own =>
    rcases Client.ask_cases kind m own w.client with ⟨e, marked, asked, quiet⟩ |
      ⟨g, r', -, made, asked⟩
    · have performed := perform_ask_of_error asked
      simp only [events, outcome, performed] at mem
      exact absurd mem (Call.not_handedOver_of_none quiet)
    · have performed := perform_ask_of_ok asked
      simp only [events, outcome, performed, List.mem_singleton, Event.handedOver.injEq] at mem
      obtain ⟨rfl, rfl⟩ := mem
      exact .inl ⟨kind, m, rfl, header_of_grant made⟩
  | answer j now happenings reply =>
    by_cases waiting : ∃ p, w.pending[j]? = some (some p)
    · obtain ⟨p, waiting⟩ := waiting
      have performed := perform_answer now happenings reply waiting
      have quiet : marks (Client.answer p now happenings (reply.mapError Interruption.error)
          w.client).events = [] := by
        rcases Client.answer_cases p now happenings (reply.mapError Interruption.error)
          w.client with ⟨e, marked, -, quiet, answered⟩ | ⟨t, marked, -, quiet, answered⟩ <;>
          rwa [answered]
      simp only [events, outcome, performed] at mem
      exact absurd mem (Call.not_handedOver_of_none quiet)
    · have performed := perform_answer_of_none now happenings reply (not_exists.mp waiting)
      simp [events, outcome, performed] at mem
  | edit j f =>
    cases found : w.calls[j]? <;>
      simp [events, outcome, ClientOp.perform, World.onCall, found, Action.modify] at mem
  | prepare j m =>
    cases found : w.calls[j]? with
    | none => simp [events, outcome, ClientOp.perform, World.onCall, found] at mem
    | some call =>
      simp only [events, outcome, ClientOp.perform, perform_onCall found] at mem
      have marks := Call.marks_prepare w.client.service_quiet m call
      exact absurd mem (Call.not_handedOver_of_marks marks)
  | invoke j m own isCancelled transport =>
    cases found : w.calls[j]? with
    | none => simp [events, outcome, ClientOp.perform, World.onCall, found] at mem
    | some call =>
      simp only [events, outcome, ClientOp.perform, perform_onCall found] at mem
      obtain ⟨rfl, cases_⟩ := Call.handedOver_of_invokeVia w.client.service_quiet mem
      exact .inr ⟨j, m, isCancelled, transport, call, rfl, found, cases_⟩

/-- How expiry decides whether a call goes out. -/
structure ChecksExpiry (past : List Turn) (x : Turn) : Prop where
  handedOver : ∀ mode r, .handedOver mode r ∈ x.events →
    (∃ kind m, x.op = .ask kind m mode ∧ r.header? "Authorization" = none) ∨
      ∃ i m isCancelled transport, x.op = .invoke i m mode isCancelled transport ∧
        (x.Makes i m r ∨ ∃ y ∈ past, ∃ m', y.op = .prepare i m' ∧
          y.result = .ok (.request r) ∧ y.Makes i m' r)
  expired : ∀ i m mode isCancelled transport call,
    x.op = .invoke i m mode isCancelled transport → x.before.calls[i]? = some call →
    call.stage = .unprepared → x.before.client.tokens.isExpiredAt m.now = true →
      x.result = .error .accessTokenExpired ∧ ∀ mode r, .handedOver mode r ∉ x.events
  /-- Nothing is asked of the tokens here. -/
  prepared : ∀ i m mode isCancelled transport call r,
    x.op = .invoke i m mode isCancelled transport → x.before.calls[i]? = some call →
    call.stage = .prepared r → Call.clientFault x.before.client.endpoint.config = none →
    (isCancelled && mode ≠ .blocking) = false → .handedOver mode r ∈ x.events
  used : ∀ i m mode isCancelled transport call,
    x.op = .invoke i m mode isCancelled transport → x.before.calls[i]? = some call →
    call.stage.isClosed = true →
      x.result = .error .callReused ∧ ∀ mode r, .handedOver mode r ∉ x.events

end Turn

/-- Every call that is prepared was prepared by a turn with valid tokens. -/
def PreparedValid (past : List Turn) (w : World) : Prop :=
  ∀ (i : Nat) (call : Call) (r : Request), w.calls[i]? = some call → call.stage = .prepared r →
    ∃ y ∈ past, ∃ m, y.op = .prepare i m ∧ y.result = .ok (.request r) ∧ y.Makes i m r

theorem preparedValid_step (past : List Turn) (x : Turn) (h : PreparedValid past x.before) :
    PreparedValid (past ++ [x]) x.after := by
  intro i call r found stage
  rcases Turn.prepared_after found stage with ⟨old, before, kept⟩ | ⟨m, op, result, makes⟩
  · obtain ⟨y, hy, rest⟩ := h i old r before kept
    exact ⟨y, List.mem_append_left _ hy, rest⟩
  · exact ⟨x, by simp, m, op, result, makes⟩

section
variable {past : List Turn} {x : Turn} {i : Nat} {m : Moment} {mode : Http.Mode}
  {isCancelled : Bool} {transport : Transport} {call : Call}
  (op : x.op = .invoke i m mode isCancelled transport)
  (found : x.before.calls[i]? = some call)
include op found

theorem Turn.outcome_invoke :
    x.outcome =
      let o := Call.invokeVia x.before.client.service m mode isCancelled transport call
      ⟨{ x.before with calls := x.before.calls.set i o.state }, o.events,
        o.result.map .response⟩ := by
  rw [Turn.outcome, op, ClientOp.perform]
  exact Turn.perform_onCall found ..

theorem Turn.refused_of_error {e : Error}
    (failed : (Call.prepare x.before.client.service m call).result = .error e) :
    x.result = .error e ∧ ∀ mode r, .handedOver mode r ∉ x.events := by
  have outcome := Turn.outcome_invoke op found
  rw [Call.invokeVia_of_error mode isCancelled transport failed] at outcome
  refine ⟨by rw [Turn.result, outcome]; rfl, fun mode r => ?_⟩
  rw [Turn.events, outcome]
  exact Call.not_handedOver_of_marks (Call.marks_prepare x.before.client.service_quiet m call)

theorem Turn.refused_of_expired (fresh : call.stage = .unprepared)
    (expired : x.before.client.tokens.isExpiredAt m.now = true) :
    x.result = .error .accessTokenExpired ∧ ∀ mode r, .handedOver mode r ∉ x.events := by
  refine Turn.refused_of_error op found ?_
  rw [Call.prepare_of_unprepared fresh]
  exact Client.build_of_expired expired call.draft

theorem Turn.refused_of_closed (closed : call.stage.isClosed = true) :
    x.result = .error .callReused ∧ ∀ mode r, .handedOver mode r ∉ x.events := by
  refine Turn.refused_of_error op found ?_
  rw [Call.prepare_of_closed closed]

theorem Turn.handedOver_of_prepared {r : Request} (kept : call.stage = .prepared r)
    (usable : Call.clientFault x.before.client.endpoint.config = none)
    (waited : (isCancelled && mode ≠ .blocking) = false) : .handedOver mode r ∈ x.events := by
  have outcome := Turn.outcome_invoke op found
  have prepared : (Call.prepare x.before.client.service m call).result = .ok r := by
    rw [Call.prepare_of_prepared kept]
  have leaves : .handedOver mode r ∈
      (Call.convey x.before.client.endpoint.config mode isCancelled transport r).1 := by
    simp only [Call.convey, usable, waited, Bool.false_eq_true, if_false]
    exact List.mem_cons_self
  rw [Call.invokeVia_of_ok mode isCancelled transport prepared] at outcome
  rw [Turn.events, outcome]
  exact List.mem_append_left _ (List.mem_append_right _ leaves)

end

/-- In every run of a client, a call goes out only with a request that was made while the tokens
were valid: now, or when it was prepared. In the second case it goes out whatever the tokens have
become. -/
theorem expiry_checked (client : Client) (ops : List ClientOp) (past : List Turn) (x : Turn)
    (rest : List Turn) (run : turns (.start client) ops = past ++ x :: rest) :
    x.ChecksExpiry past := by
  have start : PreparedValid [] (.start client) := by
    intro i call r found
    simp [World.start] at found
  obtain ⟨before, -⟩ := turns_history preparedValid_step start run
  refine ⟨fun mode r mem => ?_, ?_, ?_, ?_⟩
  · rcases Turn.handedOver_cases mem with grant |
      ⟨i, m, isCancelled, transport, call, op, found, kept | ⟨fresh, built⟩⟩
    · exact .inl grant
    · exact .inr ⟨i, m, isCancelled, transport, op, .inr (before i call r found kept)⟩
    · exact .inr ⟨i, m, isCancelled, transport, op, .inl (Turn.makes_of_build found fresh built)⟩
  · intro i m mode isCancelled transport call op found fresh expired
    exact Turn.refused_of_expired op found fresh expired
  · intro i m mode isCancelled transport call r op found kept usable waited
    exact Turn.handedOver_of_prepared op found kept usable waited
  · intro i m mode isCancelled transport call op found closed
    exact Turn.refused_of_closed op found closed

/-- A call that is prepared in time and sent too late. -/
def lateOps : List ClientOp :=
  let m : Moment := ⟨⟨1191242096, 0⟩, "kllo9940pd9333jh", "boundary"⟩
  [.newCall, .prepare 0 m, .change (.expiration (some ⟨1000000000, 0⟩)),
    .invoke 0 m .blocking false fun _ _ => ⟨[], some (.error (.fault .connect))⟩]

def bearingClient : Client :=
  .create (.ofTemplate "http://api.example.com")
    ⟨"https://auth.example.com/authorize", "http://auth.example.com/token",
      "https://app.example.com/cb", "client", "secret"⟩ ⟨some "a1", none, none⟩

theorem lateOps_checked :
    ∃ past x, turns (.start bearingClient) lateOps = past ++ [x] ∧ x.ChecksExpiry past ∧
      x.before.client.tokens.isExpiredAt ⟨1191242096, 0⟩ = true ∧
      x.events = [.handedOver .blocking
        ⟨.get, "http://api.example.com", [("Authorization", "Bearer a1")], none⟩] := by
  have run := (List.dropLast_concat_getLast
    (turns_ne_nil (List.cons_ne_nil _ _) (.start bearingClient) : turns _ lateOps ≠ [])).symm
  exact ⟨_, _, run, expiry_checked bearingClient lateOps _ _ [] run, by decide +kernel,
    by decide +kernel⟩

end SignedRest.OAuth2
