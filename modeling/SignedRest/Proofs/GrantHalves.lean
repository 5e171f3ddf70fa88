import SignedRest.OAuth2.Client
import SignedRest.Proofs.FormPairs
import SignedRest.Proofs.HeaderLookup
import SignedRest.Proofs.Parameters
import SignedRest.Proofs.Preparing
import SignedRest.Proofs.SentOnce

/-! Grants in two halves: a request that is made of the tokens of one moment and handed over, and
a reply that is taken in at a later one. One after the other they are the grants of a client. -/
namespace SignedRest.OAuth2

theorem pairs_of_fields {fields : List (String × String)} {d : Draft}
    (nodup : (fields.map (·.1)).Nodup) (absent : ∀ f ∈ fields, d.params.get? f.1 = none) :
    (fields.foldl (fun d f => d.addText f.1 f.2) d).params.pairs = d.params.pairs ++ fields := by
  induction fields generalizing d with
  | nil => simp
  | cons f fields ih =>
    obtain ⟨fresh, nodup⟩ := List.nodup_cons.mp nodup
    have others : ∀ f' ∈ fields, (d.addText f.1 f.2).params.get? f'.1 = none := by
      intro f' hf'
      have differ : f.1 ≠ f'.1 := fun e => fresh (List.mem_map.mpr ⟨f', hf', e.symm⟩)
      rw [Draft.addText, Params.get?_addText_of_ne differ]
      exact absent f' (by simp [hf'])
    rw [List.foldl_cons, ih nodup others, Draft.addText,
      Params.pairs_addText_of_absent (absent f (by simp)), List.append_assoc]
    rfl

theorem texts_of_fields {fields : List (String × String)} {d : Draft}
    (texts : d.params.areTexts = true) :
    (fields.foldl (fun d f => d.addText f.1 f.2) d).params.areTexts = true := by
  induction fields generalizing d with
  | nil => exact texts
  | cons f fields ih => exact ih (Params.areTexts_addText texts f.1 f.2)

theorem method_of_fields (fields : List (String × String)) (d : Draft) :
    (fields.foldl (fun d f => d.addText f.1 f.2) d).method = d.method := by
  induction fields generalizing d with
  | nil => rfl
  | cons f fields ih => exact ih (d.addText f.1 f.2)

theorem headers_of_fields (fields : List (String × String)) (d : Draft) :
    (fields.foldl (fun d f => d.addText f.1 f.2) d).headers = d.headers := by
  induction fields generalizing d with
  | nil => rfl
  | cons f fields ih => exact ih (d.addText f.1 f.2)

/-- Whoever gets the request of a grant reads its fields in the body. -/
theorem decode_body_of_grant {e : Endpoint} {m : Moment} {g : Client.Grant} {r : Request}
    (nodup : (g.fields.map (·.1)).Nodup)
    (made : Call.requestOf e m none g.call.draft = .ok r) : Form.decode r.body = g.fields := by
  have texts : g.call.draft.params.areTexts = true := texts_of_fields rfl
  have pairs : g.call.draft.params.pairs = g.fields := pairs_of_fields nodup fun _ _ => rfl
  have body : g.call.draft.method.hasBody = true := by
    have method : g.call.draft.method = .post := method_of_fields ..
    rw [method]
    rfl
  obtain ⟨url, -, encoded, -, -⟩ := Call.requestOf_eq_ok made
  rcases encodeParams_eq_ok encoded with ⟨-, bodiless, -⟩ | ⟨-, -, -, payload⟩ | ⟨mixed, -⟩
  · rw [body] at bodiless
    cases bodiless
  · have read := Form.decodeString_encode g.fields
    rw [Request.body, payload, formText, pairs]
    exact read
  · rw [texts] at mixed
    cases mixed

theorem header_of_requestOf {e : Endpoint} {m : Moment} {d : Draft} {r : Request}
    (made : Call.requestOf e m none d = .ok r) :
    r.header? "Authorization" = d.headers.get? "Authorization" := by
  have other : ¬ Ascii.sameLetters "Authorization" Call.contentType = true := by decide
  obtain ⟨url, -, -, -, headers⟩ := Call.requestOf_eq_ok made
  rw [Request.header?, headers, Call.lookup?_requestHeaders other]

theorem header_of_grant {e : Endpoint} {m : Moment} {g : Client.Grant} {r : Request}
    (made : Call.requestOf e m none g.call.draft = .ok r) : r.header? "Authorization" = none := by
  have none_ : g.call.draft.headers = Headers.empty := headers_of_fields ..
  rw [header_of_requestOf made, none_]
  rfl

def Pending.taken (p : Pending) (now : Instant) (result : Except Error Response) :
    Except Error TokenState :=
  (Call.settle p.request result).2.bind fun response => p.grant.tokens response.payload now

namespace Client

variable {c : Client} {kind : GrantKind} {m : Moment} {mode : Http.Mode} {g : Grant}

theorem begin_grant (c : Client) (g : Grant) (m : Moment) :
    Call.begin c.tokenService m g.call =
      match Call.requestOf c.tokenEndpoint m none g.call.draft with
      | .ok r => ⟨⟨g.call.draft, .inFlight r⟩, [], .ok r⟩
      | .error e => ⟨⟨g.call.draft, .rejected⟩, [], .error e⟩ := by
  have fresh : g.call.stage = .unprepared := rfl
  have built : Call.build c.tokenService m g.call.draft =
      ⟨g.call.draft, [], Call.requestOf c.tokenEndpoint m none g.call.draft⟩ := by
    simp only [Call.build, Call.runHook, tokenService, Action.get, bind, Action.andThen,
      Action.ofExcept_apply, Action.pure_apply, List.append_nil]
  have done := Call.prepare_of_unprepared (s := c.tokenService) (m := m) fresh
  rw [built] at done
  cases made : Call.requestOf c.tokenEndpoint m none g.call.draft with
  | ok r => simp [Call.begin, done, made, Action.modify, bind, Action.andThen]
  | error e => simp [Call.begin, done, made, bind, Action.andThen]

theorem ask_of_start_error {e : Error} (h : kind.start c = .error e) :
    ask kind m mode c = ⟨c, [], .error e⟩ := by
  rw [ask, Action.bind_of_ok (a := c) rfl, h]
  rfl

theorem ask_of_request_error {e : Error} (h : kind.start c = .ok g)
    (failed : Call.requestOf c.tokenEndpoint m none g.call.draft = .error e) :
    ask kind m mode c = ⟨c, [], .error e⟩ := by
  have begun := begin_grant c g m
  rw [failed] at begun
  rw [ask, Action.bind_of_ok (a := c) rfl, h]
  simp [begun, Action.get, Action.emit, bind, Action.andThen, Action.fail]

theorem ask_of_fault {e : Error} {r : Request} (h : kind.start c = .ok g)
    (made : Call.requestOf c.tokenEndpoint m none g.call.draft = .ok r)
    (fault : Call.clientFault c.tokenEndpoint.config = some e) :
    ask kind m mode c =
      ⟨c, Call.endRecord c.tokenEndpoint.config.debug r (some (.error e)), .error e⟩ := by
  have begun := begin_grant c g m
  rw [made] at begun
  have ended : (Call.settle r (.error e)).2 = .error e := by cases e <;> rfl
  rw [ask, Action.bind_of_ok (a := c) rfl, h]
  simp [begun, fault, ended, Action.get, Action.emit, Action.apart, Call.finish, Call.endRecord,
    bind, Action.andThen]

theorem ask_of_ok {r : Request} (h : kind.start c = .ok g)
    (made : Call.requestOf c.tokenEndpoint m none g.call.draft = .ok r)
    (usable : Call.clientFault c.tokenEndpoint.config = none) :
    ask kind m mode c =
      ⟨c, [.handedOver mode r], .ok ⟨g, ⟨g.call.draft, .inFlight r⟩, r⟩⟩ := by
  have begun := begin_grant c g m
  rw [made] at begun
  rw [ask, Action.bind_of_ok (a := c) rfl, h]
  simp [begun, usable, Action.get, Action.emit, bind, Action.andThen]

theorem ask_cases (kind : GrantKind) (m : Moment) (mode : Http.Mode) (c : Client) :
    (∃ e events, ask kind m mode c = ⟨c, events, .error e⟩ ∧ marks events = []) ∨
      ∃ g r, kind.start c = .ok g ∧
        Call.requestOf c.tokenEndpoint m none g.call.draft = .ok r ∧
        ask kind m mode c =
          ⟨c, [.handedOver mode r], .ok ⟨g, ⟨g.call.draft, .inFlight r⟩, r⟩⟩ := by
  cases h : kind.start c with
  | error e => exact .inl ⟨e, [], ask_of_start_error h, rfl⟩
  | ok g =>
    cases made : Call.requestOf c.tokenEndpoint m none g.call.draft with
    | error e => exact .inl ⟨e, [], ask_of_request_error h made, rfl⟩
    | ok r =>
      cases fault : Call.clientFault c.tokenEndpoint.config with
      | some e => exact .inl ⟨e, _, ask_of_fault h made fault, Call.marks_endRecord ..⟩
      | none => exact .inr ⟨g, r, rfl, made, ask_of_ok h made fault⟩

theorem applyReply_of_error {payload : Bytes} {now : Instant} {e : Error}
    (h : g.tokens payload now = .error e) : applyReply g payload now c = ⟨c, [], .error e⟩ := by
  rw [applyReply, h]
  rfl

theorem applyReply_of_ok {payload : Bytes} {now : Instant} {t : TokenState}
    (h : g.tokens payload now = .ok t) :
    applyReply g payload now c =
      ⟨{ c with tokens := t },
        if c.endpoint.config.debug.oauth
          then [.logged (.storedTokens t.expiration t.refreshToken.isSome)] else [], .ok t⟩ := by
  rw [applyReply, h]
  cases debug : c.endpoint.config.debug.oauth <;>
    simp [debug, Action.get, Action.modify, Action.log, Action.emit, bind, Action.andThen]

section
variable (p : Pending) (now : Instant) (happenings : List Http.Happening)
  (result : Except Error Response) (c : Client)

theorem answer_eq :
    answer p now happenings result c =
      let events := happenings.map .http ++
        Call.endRecord c.tokenEndpoint.config.debug p.request (some result)
      match p.taken now result with
      | .ok t =>
        ⟨{ c with tokens := t }, events ++ (if c.endpoint.config.debug.oauth
            then [.logged (.storedTokens t.expiration t.refreshToken.isSome)] else []), .ok t⟩
      | .error e => ⟨c, events, .error e⟩ := by
  have received : ∀ c : Client, Action.apart (fun c : Client =>
      Call.finish c.tokenEndpoint.config.debug p.request result p.call) c =
        ⟨c, Call.endRecord c.tokenEndpoint.config.debug p.request (some result),
          (Call.settle p.request result).2⟩ := fun c => rfl
  cases told : (Call.settle p.request result).2 with
  | error e =>
    simp [answer, received, told, Pending.taken, Action.emit, bind, Action.andThen, Except.bind]
  | ok response =>
    cases read : p.grant.tokens response.payload now with
    | error e =>
      simp [answer, received, told, read, Pending.taken, applyReply_of_error read, Action.emit,
        bind, Action.andThen, Except.bind]
    | ok t =>
      simp [answer, received, told, read, Pending.taken, applyReply_of_ok read, Action.emit,
        bind, Action.andThen, Except.bind]

theorem answer_cases :
    (∃ e events, p.taken now result = .error e ∧ marks events = [] ∧
      answer p now happenings result c = ⟨c, events, .error e⟩) ∨
    ∃ t events, p.taken now result = .ok t ∧ marks events = [] ∧
      answer p now happenings result c = ⟨{ c with tokens := t }, events, .ok t⟩ := by
  have way : marks (happenings.map .http) = [] := by simp [marks, Event.isMark]
  have answered := answer_eq p now happenings result c
  cases taken : p.taken now result with
  | error e =>
    simp only [taken] at answered
    refine .inl ⟨e, _, rfl, ?_, answered⟩
    rw [marks_append, way, Call.marks_endRecord, List.append_nil]
  | ok t =>
    simp only [taken] at answered
    refine .inr ⟨t, _, rfl, ?_, answered⟩
    rw [marks_append, marks_append, way, Call.marks_endRecord]
    cases c.endpoint.config.debug.oauth <;> rfl

end

theorem taken_iff {p : Pending} {now : Instant} {reply : Except Interruption Response}
    {t : TokenState} :
    p.taken now (reply.mapError Interruption.error) = .ok t ↔
      ∃ response, reply = .ok response ∧ response.isSuccess = true ∧
        p.grant.tokens response.payload now = .ok t := by
  constructor
  · intro taken
    obtain ⟨response, told, read⟩ := exceptBind_eq_ok taken
    obtain ⟨replied, success⟩ := Call.settle_eq_ok told
    exact ⟨response, mapError_eq_ok replied, success, read⟩
  · rintro ⟨response, rfl, success, read⟩
    simpa [Pending.taken, mapError_ok, Call.settle, Response.checkStatus, success, Except.bind]
      using read

theorem grantTokens_of_error {events : List Event} {e : Error}
    (h : ask kind m mode c = ⟨c, events, .error e⟩) (network : Http.Network) :
    grantTokens kind m mode network c = ⟨c, events, .error e⟩ := by
  rw [grantTokens, Action.bind_of_error (by rw [h]), h]

theorem sendGrant_of_request_error {e : Error}
    (failed : Call.requestOf c.tokenEndpoint m none g.call.draft = .error e)
    (network : Http.Network) : sendGrant m mode network g c = ⟨c, [], .error e⟩ := by
  have begun := begin_grant c g m
  rw [failed] at begun
  rw [sendGrant, Action.apart, Call.invoke, Call.invokeBy_eq,
    Action.bind_of_error (by rw [begun]), begun]

theorem sendGrant_of_request {r : Request}
    (made : Call.requestOf c.tokenEndpoint m none g.call.draft = .ok r) (network : Http.Network)
    {events : List Event} {result : Except Error Response}
    (sent : Call.attempt c.tokenEndpoint.config mode false network r = (events, result)) :
    sendGrant m mode network g c =
      ⟨c, events ++ Call.endRecord c.tokenEndpoint.config.debug r (some result),
        (Call.settle r result).2⟩ := by
  have begun := begin_grant c g m
  rw [made] at begun
  have own : c.tokenService.endpoint = c.tokenEndpoint := rfl
  rw [Call.attempt] at sent
  rw [sendGrant, Action.apart, Call.invoke, Call.invokeBy_eq,
    Action.bind_of_ok (a := r) (by rw [begun]), begun, own]
  simp [sent, Action.emit, bind, Action.andThen, Call.finish, Call.endRecord]

/-- Asking first and answering at once is what a grant does. -/
theorem runGrant_eq (kind : GrantKind) (h : kind.start c = .ok g) (network : Http.Network) :
    runGrant m mode network g c = grantTokens kind m mode network c := by
  cases made : Call.requestOf c.tokenEndpoint m none g.call.draft with
  | error e =>
    have sent : sendGrant m mode network g c = _ := sendGrant_of_request_error made network
    rw [grantTokens_of_error (ask_of_request_error h made), runGrant,
      Action.bind_of_error (by rw [sent]), sent]
  | ok r =>
    cases fault : Call.clientFault c.tokenEndpoint.config with
    | some e =>
      have attempt : Call.attempt c.tokenEndpoint.config mode false network r = ([], .error e) := by
        simp only [Call.attempt, Call.attemptBy_eq, fault]
      have ended : (Call.settle r (.error e)).2 = .error e := by cases e <;> rfl
      have sent := sendGrant_of_request made network attempt
      rw [ended, List.nil_append] at sent
      rw [grantTokens_of_error (ask_of_fault h made fault), runGrant,
        Action.bind_of_error (by rw [sent]), sent]
    | none =>
      cases exchanged : Http.sendBy c.tokenEndpoint.config
          (network.clients c.tokenEndpoint.config) mode r with
      | mk happenings reply =>
        have attempt : Call.attempt c.tokenEndpoint.config mode false network r =
            (.handedOver mode r :: happenings.map .http, reply.mapError Interruption.error) := by
          simp [Call.attempt, Call.attemptBy_eq, fault, Call.handOver, exchanged]
        have sent := sendGrant_of_request made network attempt
        have asked : ask kind m mode c = _ := ask_of_ok h made fault
        rw [grantTokens, Action.bind_of_ok (by rw [asked]), asked, runGrant]
        simp only [exchanged, answer_eq, Pending.taken]
        cases told : (Call.settle r (reply.mapError Interruption.error)).2 with
        | error e =>
          rw [told] at sent
          rw [Action.bind_of_error (by rw [sent]), sent]
          simp [Except.bind]
        | ok response =>
          rw [told] at sent
          rw [Action.bind_of_ok (by rw [sent]), sent]
          cases read : g.tokens response.payload m.now with
          | error e => simp [applyReply_of_error read, read, Except.bind]
          | ok t => simp [applyReply_of_ok read, read, Except.bind]

theorem fetchTokens_eq (m : Moment) (mode : Http.Mode) (network : Http.Network)
    (code verifier : String) :
    fetchTokens m mode network code verifier =
      grantTokens (.fetch code verifier) m mode network := by
  funext c
  rw [fetchTokens, Action.bind_of_ok (a := c) rfl, ← runGrant_eq (.fetch code verifier) rfl]
  rfl

theorem refreshTokens_eq (m : Moment) (mode : Http.Mode) (network : Http.Network) :
    refreshTokens m mode network = grantTokens .refresh m mode network := by
  funext c
  rw [refreshTokens, Action.bind_of_ok (a := c) rfl]
  cases h : c.refreshGrant with
  | error e => 
    have none_ : GrantKind.refresh.start c = .error e := h
    rw [grantTokens_of_error (ask_of_start_error none_)]
    rfl
  | ok g =>
    rw [← runGrant_eq .refresh h]
    simp only [Action.ofExcept_ok]
    rfl

end Client

end SignedRest.OAuth2
