import SignedRest.Proofs.ClientRun

/-! The tokens of a client in use are those it began with or those of one reply, but for later
changes to single ones. A grant that fails leaves them alone, whatever became of them since it
was asked for. -/
namespace SignedRest.OAuth2

/-- The fields that a grant sends, and the refresh token to keep when the reply has none. -/
inductive GrantKind.Sends (c : Client) :
    GrantKind → List (String × String) → Option String → Prop
  | fetch (code verifier : String) :
      Sends c (.fetch code verifier)
        [("client_id", c.settings.clientId), ("client_secret", c.settings.clientSecret),
          ("grant_type", "authorization_code"), ("code", code),
          ("redirect_uri", c.settings.redirectUri), ("code_verifier", verifier)] none
  | refresh (token : String) (held : c.tokens.refreshToken = some token) :
      Sends c .refresh
        [("client_id", c.settings.clientId), ("refresh_token", token),
          ("redirect_uri", c.settings.redirectUri), ("grant_type", "refresh_token")] (some token)

section
variable {c : Client} {kind : GrantKind} {g : Client.Grant} {fields : List (String × String)}
  {keep : Option String}

theorem sends_of_start (h : kind.start c = .ok g) : kind.Sends c g.fields g.keep := by
  cases kind with
  | fetch code verifier =>
    obtain rfl := Except.ok.inj h
    exact .fetch code verifier
  | refresh =>
    cases held : c.tokens.refreshToken with
    | none => simp [GrantKind.start, Client.refreshGrant, held] at h
    | some token =>
      simp only [GrantKind.start, Client.refreshGrant, held, Except.ok.injEq] at h
      subst h
      exact .refresh token held

theorem GrantKind.Sends.nodup (h : kind.Sends c fields keep) : (fields.map (·.1)).Nodup := by
  cases h with
  | fetch code verifier => simp
  | refresh token held => simp

end

namespace Turn

/-- The turn has put in the tokens of a reply. -/
def Grants (x : Turn) : Prop := ∃ t, x.result = .ok (.tokens t)

def change? (x : Turn) : Option Change :=
  match x.op with
  | .change c => some c
  | _ => none

/-- The turn that asked for the grant of a place, and what it sent. -/
structure Asks (x : Turn) (i : Nat) (kind : GrantKind) (fields : List (String × String))
    (keep : Option String) : Prop where
  op : ∃ m mode, x.op = .ask kind m mode
  result : x.result = .ok (.asked i)
  sends : kind.Sends x.before.client fields keep
  sent : ∃ mode r, x.events = [.handedOver mode r] ∧ Form.decode r.body = fields

end Turn

/-- The tokens after changes to single ones. -/
def changed (t : TokenState) (steps : List Turn) : TokenState :=
  (steps.filterMap Turn.change?).foldl Change.apply t

/-- The turn answers a grant that one earlier turn asked for, with success, and a reply that is
read as `read`. -/
inductive Granted (past : List Turn) (x : Turn) :
    (kind : GrantKind) → (read t : TokenState) → Prop
  | intro {i : Nat} {now : Instant} {happenings : List Http.Happening} {response : Response}
      {kind : GrantKind} {fields : List (String × String)} {keep : Option String} {y : Turn}
      {read : TokenState} (op : x.op = .answer i now happenings (.ok response))
      (success : response.isSuccess = true) (payload : readTokens response.payload now = .ok read)
      (earlier : y ∈ past) (asks : y.Asks i kind fields keep)
      (only : ∀ z ∈ past, z.result = .ok (.asked i) → z = y) :
      Granted past x kind read { read with refreshToken := read.refreshToken <|> keep }

/-- Tokens are the first ones or those of one grant, but for later changes to single ones. -/
inductive Held (first : TokenState) : List Turn → TokenState → Prop
  | first {past : List Turn} (none_ : ∀ y ∈ past, ¬ y.Grants) :
      Held first past (changed first past)
  | granted {before : List Turn} {y : Turn} {later : List Turn} {kind : GrantKind}
      {read t : TokenState} (grants : Granted before y kind read t)
      (result : y.result = .ok (.tokens t)) (last : ∀ z ∈ later, ¬ z.Grants) :
      Held first (before ++ y :: later) (changed t later)

theorem changed_append (t : TokenState) (steps : List Turn) (x : Turn) :
    changed t (steps ++ [x]) = changed (changed t steps) [x] := by
  simp [changed, List.filterMap_append]

theorem changed_of_change {x : Turn} {c : Change} (h : x.op = .change c) (t : TokenState) :
    changed t [x] = c.apply t := by
  simp [changed, Turn.change?, h]

theorem changed_of_ne {x : Turn} (h : ∀ c, x.op ≠ .change c) (t : TokenState) :
    changed t [x] = t := by
  have none_ : x.change? = none := by
    unfold Turn.change?
    split
    · exact absurd ‹_› (h _)
    · rfl
  simp [changed, none_]

theorem Held.append {first t : TokenState} {past : List Turn} {x : Turn} (h : Held first past t)
    (idle : ¬ x.Grants) : Held first (past ++ [x]) (changed t [x]) := by
  have last : ∀ {steps : List Turn}, (∀ y ∈ steps, ¬ y.Grants) →
      ∀ y ∈ steps ++ [x], ¬ y.Grants := by
    intro steps none_ y hy
    rcases List.mem_append.mp hy with hy | hy
    · exact none_ y hy
    · rwa [List.mem_singleton.mp hy]
  cases h with
  | first none_ =>
    rw [← changed_append]
    exact .first (last none_)
  | granted grants result none_ =>
    rw [← changed_append, List.append_assoc, List.cons_append]
    exact .granted grants result (last none_)

/-- What a run keeps: where its tokens come from, and what was sent for each grant that is not
answered yet. -/
structure Accounted (first : TokenState) (past : List Turn) (w : World) : Prop where
  held : Held first past w.client.tokens
  places : ∀ y ∈ past, ∀ i, y.result = .ok (.asked i) → i < w.pending.length
  asked : ∀ (i : Nat) (p : Pending), w.pending[i]? = some (some p) →
    ∃ y ∈ past, ∃ kind, y.Asks i kind p.grant.fields p.grant.keep ∧
      ∀ z ∈ past, z.result = .ok (.asked i) → z = y

section
variable {first : TokenState} {past : List Turn} {x : Turn}

/-- Turns that ask for nothing leave all grants accounted for. -/
theorem Accounted.of_quiet (h : Accounted first past x.before)
    (held : Held first (past ++ [x]) x.after.client.tokens)
    (quiet : ∀ i, x.result ≠ .ok (.asked i))
    (places : x.after.pending.length = x.before.pending.length)
    (pending : ∀ (i : Nat) (p : Pending), x.after.pending[i]? = some (some p) →
      x.before.pending[i]? = some (some p)) : Accounted first (past ++ [x]) x.after := by
  refine ⟨held, fun y hy i asked => ?_, fun i p waiting => ?_⟩
  · rw [places]
    rcases List.mem_append.mp hy with hy | hy
    · exact h.places y hy i asked
    · rw [List.mem_singleton.mp hy] at asked
      exact absurd asked (quiet i)
  · obtain ⟨y, hy, kind, asks, only⟩ := h.asked i p (pending i p waiting)
    refine ⟨y, List.mem_append_left _ hy, kind, asks, fun z hz asked => ?_⟩
    rcases List.mem_append.mp hz with hz | hz
    · exact only z hz asked
    · rw [List.mem_singleton.mp hz] at asked
      exact absurd asked (quiet i)

/-- A turn that asks gets a place that no other turn has had. -/
theorem Accounted.of_asks (h : Accounted first past x.before)
    (held : Held first (past ++ [x]) x.after.client.tokens) {kind : GrantKind} {p : Pending}
    (asks : x.Asks x.before.pending.length kind p.grant.fields p.grant.keep)
    (pending : x.after.pending = x.before.pending ++ [some p]) :
    Accounted first (past ++ [x]) x.after := by
  have own : ∀ i, x.result = .ok (.asked i) → i = x.before.pending.length := by
    intro i asked
    rw [asks.result] at asked
    exact (ClientAnswer.asked.inj (Except.ok.inj asked)).symm
  refine ⟨held, fun y hy i asked => ?_, fun i q waiting => ?_⟩
  · rw [pending, List.length_append]
    rcases List.mem_append.mp hy with hy | hy
    · exact Nat.lt_add_right _ (h.places y hy i asked)
    · rw [List.mem_singleton.mp hy] at asked
      simp [own i asked]
  · rw [pending] at waiting
    by_cases old : i < x.before.pending.length
    · rw [List.getElem?_append_left old] at waiting
      obtain ⟨y, hy, kind, asks, only⟩ := h.asked i q waiting
      refine ⟨y, List.mem_append_left _ hy, kind, asks, fun z hz asked => ?_⟩
      rcases List.mem_append.mp hz with hz | hz
      · exact only z hz asked
      · rw [List.mem_singleton.mp hz] at asked
        exact absurd (own i asked) (Nat.ne_of_lt old)
    · rw [List.getElem?_append_right (Nat.le_of_not_lt old), List.getElem?_singleton] at waiting
      split at waiting
      · have place : i = x.before.pending.length := by omega
        obtain rfl := Option.some.inj (Option.some.inj waiting)
        rw [place]
        refine ⟨x, by simp, kind, asks, fun z hz asked => ?_⟩
        rcases List.mem_append.mp hz with hz | hz
        · exact absurd (h.places z hz _ asked) (Nat.lt_irrefl _)
        · exact List.mem_singleton.mp hz
      · cases waiting

theorem Accounted.granted (h : Accounted first past x.before) {i : Nat} {now : Instant}
    {happenings : List Http.Happening} {response : Response} {p : Pending} {t : TokenState}
    (op : x.op = .answer i now happenings (.ok response))
    (waiting : x.before.pending[i]? = some (some p)) (success : response.isSuccess = true)
    (read : p.grant.tokens response.payload now = .ok t) :
    ∃ kind read, Granted past x kind read t := by
  obtain ⟨y, hy, kind, asks, only⟩ := h.asked i p waiting
  cases payload : readTokens response.payload now with
  | error e => simp [Client.Grant.tokens, payload, Except.map] at read
  | ok own =>
    simp only [Client.Grant.tokens, payload, Except.map, Except.ok.injEq] at read
    subst read
    exact ⟨kind, own, .intro op success payload hy asks only⟩

theorem accounted_step (past : List Turn) (x : Turn) (h : Accounted first past x.before) :
    Accounted first (past ++ [x]) x.after := by
  cases x.effect with
  | kept unchanged tokens places pending result =>
    have idle : ¬ x.Grants := fun ⟨t, granted⟩ => nomatch result _ granted
    have held := h.held.append idle
    rw [changed_of_ne unchanged, ← tokens] at held
    exact h.of_quiet held (fun i asked => nomatch result _ asked) places pending
  | changed c op tokens pending result =>
    have idle : ¬ x.Grants := by
      rintro ⟨t, granted⟩
      rw [result] at granted
      cases granted
    have held := h.held.append idle
    rw [changed_of_change op, ← tokens] at held
    refine h.of_quiet held (fun i asked => ?_) (by rw [pending]) fun i p => by
      rw [pending]
      exact id
    rw [result] at asked
    cases asked
  | asked kind m mode g r op start made events client pending result =>
    have idle : ¬ x.Grants := by
      rintro ⟨t, granted⟩
      rw [result] at granted
      cases granted
    have unchanged : ∀ c, x.op ≠ .change c := fun c => by rw [op]; exact nofun
    have held := h.held.append idle
    rw [changed_of_ne unchanged, ← client] at held
    have sends := sends_of_start start
    -- the grant waits in a new place, with what was read of the tokens when it was asked for
    have asks : x.Asks x.before.pending.length kind g.fields g.keep :=
      ⟨⟨m, mode, op⟩, result, sends, mode, r, events, decode_body_of_grant sends.nodup made⟩
    exact h.of_asks held (p := ⟨g, ⟨g.call.draft, .inFlight r⟩, r⟩) asks pending
  | granted i now happenings response p t op waiting success read tokens pending result =>
    -- its reply takes the place of all tokens, whatever was put in since it was asked for
    obtain ⟨kind, own, grants⟩ := h.granted op waiting success read
    have held : Held first (past ++ [x]) (changed t []) := .granted grants result (by simp)
    have same : changed t [] = t := rfl
    rw [same, ← tokens] at held
    refine h.of_quiet held (fun j asked => ?_) (by rw [pending, List.length_set]) fun j q => ?_
    · rw [result] at asked
      cases asked
    · rw [pending]
      exact Turn.pending_of_set

end

namespace Turn

/-- Whatever fails leaves the client as it was. -/
theorem client_of_error {x : Turn} {e : Error} (h : x.result = .error e) :
    x.after.client = x.before.client := by
  obtain ⟨w, op⟩ := x
  cases op with
  | change c => cases h
  | drop i => cases h
  | newCall => cases h
  | bind args =>
    cases bound : w.client.endpoint.bind args <;>
      simp_all [after, result, outcome, ClientOp.perform, World.bind]
  | ask kind m mode =>
    rcases Client.ask_cases kind m mode w.client with
      ⟨e, events, asked, -⟩ | ⟨g, r, -, -, asked⟩ <;>
      simp [after, outcome, ClientOp.perform, World.ask, asked]
  | answer i now happenings reply =>
    by_cases waiting : ∃ p, w.pending[i]? = some (some p)
    · obtain ⟨p, waiting⟩ := waiting
      have performed := perform_answer now happenings reply waiting
      rcases Client.answer_cases p now happenings (reply.mapError Interruption.error) w.client with
        ⟨e, events, -, -, answered⟩ | ⟨t, events, -, -, answered⟩
      · simp [after, outcome, performed, answered]
      · simp [result, outcome, performed, answered, Except.map] at h
    · have performed := perform_answer_of_none now happenings reply (not_exists.mp waiting)
      simp [after, outcome, performed]
  | edit i f => exact (client_onCall i _ _ w).1
  | prepare i m => exact (client_onCall i _ _ w).1
  | invoke i m mode isCancelled transport => exact (client_onCall i _ _ w).1

theorem refused_of_noToken {x : Turn} {m : Moment} {mode : Http.Mode}
    (op : x.op = .ask .refresh m mode) (none_ : x.before.client.tokens.refreshToken = none) :
    x.result = .error .noRefreshToken ∧ x.events = [] ∧ x.after = x.before := by
  obtain ⟨w, _⟩ := x
  cases op
  have start : GrantKind.refresh.start w.client = .error .noRefreshToken := by
    have own : w.client.tokens.refreshToken = none := none_
    simp [GrantKind.start, Client.refreshGrant, own]
  have asked : Client.ask .refresh m mode w.client = _ := Client.ask_of_start_error start
  simp [result, events, after, outcome, ClientOp.perform, World.ask, asked]

/-- A grant that is waiting is given by a successful and readable reply, and by no other. -/
theorem grants_iff {x : Turn} {i : Nat} {now : Instant} {happenings : List Http.Happening}
    {reply : Except Interruption Response} {p : Pending}
    (op : x.op = .answer i now happenings reply)
    (waiting : x.before.pending[i]? = some (some p)) :
    x.Grants ↔ ∃ response read, reply = .ok response ∧ response.isSuccess = true ∧
      readTokens response.payload now = .ok read := by
  obtain ⟨w, _⟩ := x
  cases op
  have performed := perform_answer now happenings reply waiting
  have read : ∀ payload, (∃ t, p.grant.tokens payload now = .ok t) ↔
      ∃ read, readTokens payload now = .ok read := by
    intro payload
    cases own : readTokens payload now <;> simp [Client.Grant.tokens, own, Except.map]
  have taken : Grants ⟨w, .answer i now happenings reply⟩ ↔
      ∃ t, p.taken now (reply.mapError Interruption.error) = .ok t := by
    rcases Client.answer_cases p now happenings (reply.mapError Interruption.error) w.client with
      ⟨e, events, taken, -, answered⟩ | ⟨t, events, taken, -, answered⟩ <;>
      simp [Grants, result, outcome, performed, answered, taken, Except.map]
  rw [taken]
  constructor
  · rintro ⟨t, taken⟩
    obtain ⟨response, replied, success, own⟩ := Client.taken_iff.mp taken
    obtain ⟨own, found⟩ := (read response.payload).mp ⟨t, own⟩
    exact ⟨response, own, replied, success, found⟩
  · rintro ⟨response, own, replied, success, found⟩
    obtain ⟨t, own⟩ := (read response.payload).mpr ⟨own, found⟩
    exact ⟨t, Client.taken_iff.mpr ⟨response, replied, success, own⟩⟩

/-- What becomes of the tokens in one turn of a run that began with `first`. -/
structure Swaps (first : TokenState) (past : List Turn) (x : Turn) : Prop where
  before : Held first past x.before.client.tokens
  after : Held first (past ++ [x]) x.after.client.tokens
  granted : ∀ t, x.result = .ok (.tokens t) →
    x.after.client.tokens = t ∧ ∃ kind read, Granted past x kind read t
  refreshed : ∀ read t, Granted past x .refresh read t → t.refreshToken.isSome = true
  fetched : ∀ code verifier read t, Granted past x (.fetch code verifier) read t →
    t.refreshToken = read.refreshToken
  failed : ∀ e, x.result = .error e → x.after.client = x.before.client
  refused : ∀ m mode, x.op = .ask .refresh m mode → x.before.client.tokens.refreshToken = none →
    x.result = .error .noRefreshToken ∧ x.events = [] ∧ x.after = x.before
  answered : ∀ i now happenings reply p, x.op = .answer i now happenings reply →
    x.before.pending[i]? = some (some p) →
      (x.Grants ↔ ∃ response read, reply = .ok response ∧ response.isSuccess = true ∧
        readTokens response.payload now = .ok read)

end Turn

theorem Granted.refreshToken {past : List Turn} {x : Turn} {kind : GrantKind}
    {read t : TokenState} (h : Granted past x kind read t) :
    (kind = .refresh → t.refreshToken.isSome = true) ∧
      ∀ code verifier, kind = .fetch code verifier → t.refreshToken = read.refreshToken := by
  obtain @⟨i, now, happenings, response, kind, fields, keep, y, read, op, success, payload, earlier,
    asks, only⟩ := h
  have sends := asks.sends
  refine ⟨?_, ?_⟩
  · rintro rfl
    obtain ⟨token, held⟩ : ∃ token, keep = some token := by
      cases sends with
      | refresh token held => exact ⟨token, rfl⟩
    cases read.refreshToken <;> simp [held]
  · rintro code verifier rfl
    have none_ : keep = none := by
      cases sends with
      | fetch code verifier => rfl
    cases read.refreshToken <;> simp [none_]

theorem granted_of_tokens {first : TokenState} {past : List Turn} {x : Turn}
    (h : Accounted first past x.before) {t : TokenState} (result : x.result = .ok (.tokens t)) :
    x.after.client.tokens = t ∧ ∃ kind read, Granted past x kind read t := by
  cases x.effect with
  | kept unchanged tokens places pending other => exact nomatch other _ result
  | changed c op tokens pending done =>
    rw [done] at result
    cases result
  | asked kind m mode g r op start made events client pending done =>
    rw [done] at result
    cases result
  | granted i now happenings response p own op waiting success read tokens pending done =>
    rw [done] at result
    obtain rfl := ClientAnswer.tokens.inj (Except.ok.inj result)
    exact ⟨tokens, h.granted op waiting success read⟩

/-- In every run of a client, with any number of grants under way whose replies come in any
order, tokens are swapped as a whole, and by success alone. -/
theorem tokens_swapped (client : Client) (ops : List ClientOp) (past : List Turn) (x : Turn)
    (rest : List Turn) (run : turns (.start client) ops = past ++ x :: rest) :
    x.Swaps client.tokens past := by
  have start : Accounted client.tokens [] (.start client) := by
    refine ⟨.first (by simp), by simp, fun i p waiting => ?_⟩
    simp [World.start] at waiting
  obtain ⟨before, after⟩ := turns_history accounted_step start run
  exact {
    before := before.held
    after := after.held
    granted := fun t result => granted_of_tokens before result
    refreshed := fun read t grants => grants.refreshToken.1 rfl
    fetched := fun code verifier read t grants => grants.refreshToken.2 code verifier rfl
    failed := fun e result => Turn.client_of_error result
    refused := fun m mode op none_ => Turn.refused_of_noToken op none_
    answered := fun i now happenings reply p op waiting => Turn.grants_iff op waiting }

def refreshingClient : Client :=
  .create (.ofTemplate "http://api.example.com")
    ⟨"https://auth.example.com/authorize", "http://auth.example.com/token",
      "https://app.example.com/cb", "client", "secret"⟩ ⟨some "a1", some "r1", none⟩

/-- Two grants asked for with one refresh token, and answered in the other order. -/
def crossedOps : List ClientOp :=
  let m : Moment := ⟨⟨1191242096, 0⟩, "kllo9940pd9333jh", "boundary"⟩
  let reply (body : String) : Except Interruption Response := .ok ⟨200, "OK", [], Utf8.encode body⟩
  [.ask .refresh m .awaited, .ask .refresh m .awaited, .change (.refresh none),
    .answer 1 m.now [] (reply "\x7b\"access_token\":\"a2\",\"refresh_token\":\"r2\"\x7d"),
    .answer 0 m.now [] (reply "\x7b\"access_token\":\"a3\"\x7d")]

theorem crossedOps_swapped :
    ∃ past x, turns (.start refreshingClient) crossedOps = past ++ [x] ∧
      x.before.client.tokens = ⟨some "a2", some "r2", none⟩ ∧
      x.after.client.tokens = ⟨some "a3", some "r1", none⟩ ∧
      x.Swaps refreshingClient.tokens past := by
  have run := (List.dropLast_concat_getLast
    (turns_ne_nil (List.cons_ne_nil _ _) (.start refreshingClient) : turns _ crossedOps ≠ [])).symm
  exact ⟨_, _, run, by decide +kernel, by decide +kernel,
    tokens_swapped refreshingClient crossedOps _ _ [] run⟩

end SignedRest.OAuth2
