import SignedRest.Call.Invoke

/-! Sending over anything that answers a request or fails to. The four ways of sending with a
client are such transports; what is shown of all transports holds for them. -/
namespace SignedRest

/-- A call that can be neither prepared nor sent any more. -/
def Stage.isClosed : Stage → Bool
  | .unprepared | .prepared _ => false
  | _ => true

theorem Stage.cases_closed (stage : Stage) :
    stage = .unprepared ∨ (∃ r, stage = .prepared r) ∨ stage.isClosed = true := by
  cases stage <;> simp [isClosed]

theorem Response.isSuccess_iff (response : Response) :
    response.isSuccess = true ↔ 200 ≤ response.status ∧ response.status < 300 := by
  simp [isSuccess, Http.isSuccess]

namespace Call

section
variable {s : Service} {m : Moment} {c : Call} {r : Request}

theorem prepare_of_prepared (h : c.stage = .prepared r) : prepare s m c = ⟨c, [], .ok r⟩ := by
  simp [prepare, h]

theorem prepare_of_closed (h : c.stage.isClosed = true) :
    prepare s m c = ⟨c, [.logged (.reused c.state)], .error .callReused⟩ := by
  cases hs : c.stage <;> simp_all [prepare, Stage.isClosed]

theorem prepare_of_unprepared (h : c.stage = .unprepared) :
    prepare s m c = ⟨⟨(build s m c.draft).state,
      match (build s m c.draft).result with
      | .ok r => .prepared r
      | .error _ => .rejected⟩, (build s m c.draft).events, (build s m c.draft).result⟩ := by
  cases hb : (build s m c.draft).result <;> simp [prepare, h, hb]

theorem begin_of_error {e : Error} (h : (prepare s m c).result = .error e) :
    begin s m c = ⟨(prepare s m c).state, (prepare s m c).events, .error e⟩ := by
  rw [begin, Action.bind_of_error h]

/-- A call that could be prepared is in flight, whatever it was before. -/
theorem begin_of_ok (h : (prepare s m c).result = .ok r) :
    begin s m c =
      ⟨⟨(prepare s m c).state.draft, .inFlight r⟩, (prepare s m c).events, .ok r⟩ := by
  rw [begin, Action.bind_of_ok h]
  simp [Action.modify, bind, Action.andThen]

theorem invokeVia_of_error {e : Error} (mode : Http.Mode) (isCancelled : Bool)
    (transport : Transport) (h : (prepare s m c).result = .error e) :
    invokeVia s m mode isCancelled transport c =
      ⟨(prepare s m c).state, (prepare s m c).events, .error e⟩ := by
  have begun := begin_of_error h
  rw [invokeVia, Action.bind_of_error (congrArg Outcome.result begun), begun]

/-- The four ways in which a call ends. -/
theorem settle_cases (r : Request) (result : Except Error Response) :
    (∃ response, result = .ok response ∧ response.isSuccess = true ∧
      settle r result = (.completed r response, .ok response)) ∨
    (∃ response, result = .ok response ∧ response.isSuccess = false ∧
      settle r result = (.refused r response,
        .error (.http response.status response.reason response.text))) ∨
    (result = .error .cancelled ∧ settle r result = (.cancelled r, .error .cancelled)) ∨
    ∃ e, result = .error e ∧ e ≠ .cancelled ∧ settle r result = (.broken r, .error e) := by
  cases result with
  | ok response =>
    by_cases success : response.isSuccess = true
    · exact .inl ⟨response, rfl, success, by simp [settle, Response.checkStatus, success]⟩
    · exact .inr (.inl ⟨response, rfl, by simpa using success,
        by simp [settle, Response.checkStatus, success]⟩)
  | error e =>
    by_cases cancelled : e = .cancelled
    · subst cancelled
      exact .inr (.inr (.inl ⟨rfl, rfl⟩))
    · refine .inr (.inr (.inr ⟨e, rfl, cancelled, ?_⟩))
      cases e <;> first | rfl | exact absurd rfl cancelled

theorem settle_eq_ok {r : Request} {result : Except Error Response} {response : Response}
    (h : (settle r result).2 = .ok response) :
    result = .ok response ∧ response.isSuccess = true := by
  rcases settle_cases r result with ⟨got, rfl, success, ends⟩ | ⟨got, rfl, -, ends⟩ | ⟨rfl, ends⟩ |
    ⟨e, rfl, -, ends⟩ <;> rw [ends] at h
  · obtain rfl := Except.ok.inj h
    exact ⟨rfl, success⟩
  all_goals cases h

/-- Where a call stands when its sending has ended, or was dropped. -/
def sentStage (r : Request) : Option (Except Error Response) → Stage
  | some result => (settle r result).1
  | none => .inFlight r

theorem isClosed_sentStage (r : Request) (ending : Option (Except Error Response)) :
    (sentStage r ending).isClosed = true := by
  cases ending with
  | none => rfl
  | some result =>
    rcases settle_cases r result with ⟨_, -, -, h⟩ | ⟨_, -, -, h⟩ | ⟨-, h⟩ | ⟨_, -, -, h⟩ <;>
      rw [sentStage, h] <;> rfl

theorem request?_sentStage (r : Request) (ending : Option (Except Error Response)) :
    (sentStage r ending).request? = some r := by
  cases ending with
  | none => rfl
  | some result =>
    rcases settle_cases r result with ⟨_, -, -, h⟩ | ⟨_, -, -, h⟩ | ⟨-, h⟩ | ⟨_, -, -, h⟩ <;>
      rw [sentStage, h] <;> rfl

/-- What the sender is told. -/
def told (r : Request) : Option (Except Error Response) → Except Error (Option Response)
  | some result => (settle r result).2.map some
  | none => .ok none

def endRecord (debug : DebugFlags) (r : Request) : Option (Except Error Response) → List Event
  | some result => if debug.calls then [.logged (outcomeRecord r result)] else []
  | none => []

theorem invokeVia_of_ok (mode : Http.Mode) (isCancelled : Bool) (transport : Transport)
    (h : (prepare s m c).result = .ok r) :
    invokeVia s m mode isCancelled transport c =
      let sent := convey s.endpoint.config mode isCancelled transport r
      ⟨⟨(prepare s m c).state.draft, sentStage r sent.2⟩,
        (prepare s m c).events ++ sent.1 ++ endRecord s.endpoint.config.debug r sent.2,
        told r sent.2⟩ := by
  have begun := begin_of_ok h
  rw [invokeVia, Action.bind_of_ok (congrArg Outcome.result begun), begun]
  cases hs : convey s.endpoint.config mode isCancelled transport r with
  | mk events ending =>
    cases ending with
    | none => simp [bind, Action.andThen, Action.emit, sentStage, told, endRecord]
    | some result =>
      cases ht : (settle r result).2 <;>
        simp [bind, Action.andThen, Action.emit, finish, sentStage, told, endRecord, ht, Except.map]

/-- What the four attempts have in common. -/
theorem attemptBy_eq (config : Config) (mode : Http.Mode) (isCancelled : Bool)
    (clients : Http.Clients) (r : Request) :
    attemptBy config mode isCancelled clients r =
      match clientFault config with
      | some e => ([], .error e)
      | none =>
        if isCancelled && mode ≠ .blocking then ([], .error .cancelled)
        else handOver mode r (Http.sendBy config clients mode r) := by
  cases h : clientFault config with
  | some e =>
    cases mode <;>
      simp only [attemptBy, attemptBlocking, attemptAwaited, attemptStreamed, attemptUpload, h]
  | none =>
    cases mode with
    | blocking => simp [attemptBy, attemptBlocking, h, Http.sendBy]
    | awaited => simp [attemptBy, attemptAwaited, h, Http.sendBy]
    | streamed => simp [attemptBy, attemptStreamed, h, Http.sendBy]
    | upload => simp [attemptBy, attemptUpload, h, Http.sendBy]

/-- What the four ways of sending a call have in common. -/
theorem invokeBy_eq (s : Service) (m : Moment) (mode : Http.Mode) (isCancelled : Bool)
    (clients : Http.Clients) :
    invokeBy s m mode isCancelled clients = (do
      let r ← begin s m
      let sent := attemptBy s.endpoint.config mode isCancelled clients r
      Action.emit sent.1
      finish s.endpoint.config.debug r sent.2) := by
  cases mode <;> rfl

theorem invokeBy_of_error {e : Error} (mode : Http.Mode) (isCancelled : Bool)
    (clients : Http.Clients) (h : (prepare s m c).result = .error e) :
    invokeBy s m mode isCancelled clients c =
      ⟨(prepare s m c).state, (prepare s m c).events, .error e⟩ := by
  have begun := begin_of_error h
  rw [invokeBy_eq, Action.bind_of_error (congrArg Outcome.result begun), begun]

theorem invokeBy_of_ok (mode : Http.Mode) (isCancelled : Bool) (clients : Http.Clients)
    (h : (prepare s m c).result = .ok r) :
    invokeBy s m mode isCancelled clients c =
      let sent := attemptBy s.endpoint.config mode isCancelled clients r
      ⟨⟨(prepare s m c).state.draft, (settle r sent.2).1⟩,
        (prepare s m c).events ++ sent.1 ++ endRecord s.endpoint.config.debug r (some sent.2),
        (settle r sent.2).2⟩ := by
  have begun := begin_of_ok h
  rw [invokeBy_eq, Action.bind_of_ok (congrArg Outcome.result begun), begun]
  simp [Action.emit, bind, Action.andThen, finish, endRecord]

theorem result_invoke (s : Service) (m : Moment) (mode : Http.Mode) (isCancelled : Bool)
    (network : Http.Network) (c : Call) :
    (invoke s m mode isCancelled network c).result =
      (prepare s m c).result.bind fun r =>
        (settle r (attempt s.endpoint.config mode isCancelled network r).2).2 := by
  cases prepared : (prepare s m c).result with
  | error e => rw [invoke, invokeBy_of_error mode isCancelled _ prepared]; rfl
  | ok r => rw [invoke, invokeBy_of_ok mode isCancelled _ prepared]; rfl

theorem stage_of_prepare (h : (prepare s m c).result = .ok r) :
    (prepare s m c).state.stage = .prepared r := by
  rcases c.stage.cases_closed with fresh | ⟨r', kept⟩ | closed
  · rw [prepare_of_unprepared fresh] at h ⊢
    have built : (build s m c.draft).result = .ok r := h
    rw [built]
  · rw [prepare_of_prepared kept] at h ⊢
    rw [kept, Except.ok.inj h]
  · rw [prepare_of_closed closed] at h
    cases h

theorem isClosed_of_prepare_error {e : Error} (h : (prepare s m c).result = .error e) :
    (prepare s m c).state.stage.isClosed = true := by
  rcases c.stage.cases_closed with fresh | ⟨r, kept⟩ | closed
  · rw [prepare_of_unprepared fresh] at h ⊢
    have failed : (build s m c.draft).result = .error e := h
    rw [failed]
    rfl
  · rw [prepare_of_prepared kept] at h
    cases h
  · rw [prepare_of_closed closed]
    exact closed

/-- A call that was sent fails by what befell its request. -/
theorem interrupted_of_convey {config : Config} {mode : Http.Mode} {isCancelled : Bool}
    {transport : Transport} {r : Request} {e : Error}
    (h : (convey config mode isCancelled transport r).2 = some (.error e)) :
    ∃ i : Interruption, e = i.error := by
  unfold convey at h
  cases hc : clientFault config with
  | some fault =>
    simp only [hc, Option.some.injEq, Except.error.injEq] at h
    subst h
    unfold clientFault at hc
    split at hc
    · split at hc
      · cases hc
      · exact ⟨.fault .other, (Option.some.inj hc).symm⟩
    · cases hc
  | none =>
    simp only [hc] at h
    split at h
    · exact ⟨.cancelled, (Except.error.inj (Option.some.inj h)).symm⟩
    · obtain ⟨ending, -, eq⟩ := Option.map_eq_some_iff.mp h
      cases ending with
      | ok response => cases eq
      | error i => exact ⟨i, (Except.error.inj eq).symm⟩

theorem isClosed_invokeVia (s : Service) (m : Moment) (mode : Http.Mode) (isCancelled : Bool)
    (transport : Transport) (c : Call) :
    (invokeVia s m mode isCancelled transport c).state.stage.isClosed = true := by
  cases h : (prepare s m c).result with
  | ok r =>
    rw [invokeVia_of_ok mode isCancelled transport h]
    exact isClosed_sentStage ..
  | error e =>
    rw [invokeVia_of_error mode isCancelled transport h]
    exact isClosed_of_prepare_error h

end

theorem convey_ofClients (config : Config) (mode : Http.Mode) (isCancelled : Bool)
    (clients : Http.Clients) (r : Request) :
    convey config mode isCancelled (.ofClients config clients) r =
      ((attemptBy config mode isCancelled clients r).1,
        some (attemptBy config mode isCancelled clients r).2) := by
  rw [attemptBy_eq]
  cases hc : clientFault config with
  | some e => simp only [convey, hc]
  | none =>
    by_cases cancelled : (isCancelled && mode ≠ .blocking) = true
    · simp only [convey, hc, cancelled, if_true]
    · simp only [convey, hc, if_neg cancelled, Transport.ofClients, handOver, Option.map_some]

/-- Each way of sending with a client is sending with one of the transports. -/
theorem invokeVia_ofClients (s : Service) (m : Moment) (mode : Http.Mode) (isCancelled : Bool)
    (clients : Http.Clients) (c : Call) :
    invokeVia s m mode isCancelled (.ofClients s.endpoint.config clients) c =
      let o := invokeBy s m mode isCancelled clients c
      ⟨o.state, o.events, o.result.map some⟩ := by
  cases h : (prepare s m c).result with
  | error e =>
    rw [invokeVia_of_error mode isCancelled _ h, invokeBy_of_error mode isCancelled clients h]
    rfl
  | ok r =>
    rw [invokeVia_of_ok mode isCancelled _ h, invokeBy_of_ok mode isCancelled clients h,
      convey_ofClients]
    rfl

end Call

end SignedRest
