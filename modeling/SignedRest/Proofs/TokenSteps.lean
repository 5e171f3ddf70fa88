import SignedRest.OAuth1.Client
import SignedRest.Proofs.CallRun
import SignedRest.Proofs.RebuiltBase
import SignedRest.Proofs.SecretPair

/-! The steps of OAuth 1.0 that obtain a token. A step puts in the token, its secret and the
confirmation of one reply, or nothing at all; the calls that are signed afterwards carry a token
and are signed with a secret that came together. -/
namespace SignedRest

namespace Form

def IsLast (pairs : List (String × String)) (name value : String) : Prop :=
  ∃ before after, pairs = before ++ (name, value) :: after ∧ ∀ p ∈ after, p.1 ≠ name

section
variable {pairs : List (String × String)} {name value : String}

theorem lastValue?_eq_none_iff : lastValue? pairs name = none ↔ ∀ p ∈ pairs, p.1 ≠ name := by
  simp [lastValue?]

theorem lastValue?_cons (p : String × String) (rest : List (String × String)) (name : String) :
    lastValue? (p :: rest) name =
      (lastValue? rest name).or (if p.1 = name then some p.2 else none) := by
  rw [lastValue?, List.reverse_cons, List.find?_append, Option.map_or, ← lastValue?]
  by_cases own : p.1 = name <;> simp [own]

theorem lastValue?_eq_some_iff : lastValue? pairs name = some value ↔ IsLast pairs name value := by
  induction pairs with
  | nil => simp [lastValue?, IsLast]
  | cons p rest ih =>
    rw [lastValue?_cons]
    constructor
    · intro h
      cases later : lastValue? rest name with
      | some own =>
        rw [later, Option.some_or, Option.some.injEq] at h
        rw [later, h] at ih
        obtain ⟨before, after, rfl, last⟩ := ih.mp rfl
        exact ⟨p :: before, after, rfl, last⟩
      | none =>
        rw [later, Option.none_or] at h
        by_cases own : p.1 = name
        · rw [if_pos own, Option.some.injEq] at h
          exact ⟨[], rest, by simp [← own, ← h], lastValue?_eq_none_iff.mp later⟩
        · simp [own] at h
    · rintro ⟨before, after, split, last⟩
      cases before with
      | nil =>
        obtain ⟨rfl, rfl⟩ := List.cons.inj split
        simp [lastValue?_eq_none_iff.mpr last]
      | cons q before =>
        obtain ⟨rfl, rfl⟩ := List.cons.inj split
        rw [ih.mpr ⟨before, after, rfl, last⟩, Option.some_or]

/-- Where each name occurs once, its value is the last one. -/
theorem lastValue?_of_nodup (distinct : (pairs.map (·.1)).Nodup) :
    lastValue? pairs name = some value ↔ (name, value) ∈ pairs := by
  rw [lastValue?_eq_some_iff]
  constructor
  · rintro ⟨before, after, rfl, -⟩
    simp
  · intro mem
    obtain ⟨before, after, rfl⟩ := List.append_of_mem mem
    rw [List.map_append, List.map_cons, List.perm_middle.nodup_iff, List.nodup_cons] at distinct
    refine ⟨before, after, rfl, fun p hp same => distinct.1 ?_⟩
    rw [← List.map_append]
    exact List.mem_map.mpr ⟨p, List.mem_append_right _ hp, same⟩

theorem exists_lastValue?_iff :
    (∃ value, lastValue? pairs name = some value) ↔ name ∈ pairs.map (·.1) := by
  rw [← Option.isSome_iff_exists, Option.isSome_iff_ne_none, ne_eq, lastValue?_eq_none_iff]
  simp

end

end Form

namespace OAuth1

open Verification
open Form (IsLast lastValue? lastValue?_cons lastValue?_eq_some_iff lastValue?_eq_none_iff)

section
variable {fields : List Pair}

theorem mem_lastValues {name value : String} :
    (name, value) ∈ lastValues fields ↔ lastValue? fields name = some value := by
  induction fields with
  | nil => simp [lastValues, lastValue?]
  | cons p rest ih =>
    rw [lastValue?_cons]
    by_cases later : rest.any (·.1 = p.1) = true
    · rw [lastValues, if_pos later, ih]
      by_cases own : p.1 = name
      · obtain ⟨value', found⟩ : ∃ value, lastValue? rest name = some value := by
          rw [Form.exists_lastValue?_iff]
          simpa [own] using later
        simp [found]
      · simp [own]
    · have absent : lastValue? rest p.1 = none := by
        rw [lastValue?_eq_none_iff]
        simpa only [List.any_eq_true, decide_eq_true_eq, not_exists, not_and] using later
      rw [lastValues, if_neg later, List.mem_cons, ih]
      by_cases own : p.1 = name
      · rw [own] at absent
        simp [absent, own, Prod.ext_iff, eq_comm]
      · have other : (name, value) ≠ p := fun same => own (by rw [← same])
        simp [own, other]

theorem nodup_lastValues (fields : List Pair) : ((lastValues fields).map (·.1)).Nodup := by
  induction fields with
  | nil => exact List.nodup_nil
  | cons p rest ih =>
    by_cases later : rest.any (·.1 = p.1) = true
    · rwa [lastValues, if_pos later]
    · rw [lastValues, if_neg later, List.map_cons, List.nodup_cons]
      refine ⟨fun mem => later ?_, ih⟩
      obtain ⟨⟨name, value⟩, hq, same⟩ := List.mem_map.mp mem
      have found := mem_lastValues.mp hq
      have names := Form.exists_lastValue?_iff.mp ⟨value, found⟩
      simpa [← same] using names

end

/-- What a reply says. -/
structure TokenResponse.Reads (fields : List Pair) (t : TokenResponse) : Prop where
  token : IsLast fields "oauth_token" t.token
  tokenSecret : IsLast fields "oauth_token_secret" t.tokenSecret
  remain : ∀ name value, (name, value) ∈ t.remain ↔
    name ≠ "oauth_token" ∧ name ≠ "oauth_token_secret" ∧ IsLast fields name value
  distinct : (t.remain.map (·.1)).Nodup

theorem reads_of_readToken {body : Bytes} {t : TokenResponse} (h : readToken body = .ok t) :
    t.Reads (Form.decode body) := by
  unfold readToken at h
  cases token : lastValue? (Form.decode body) "oauth_token" with
  | none => simp [token] at h
  | some own =>
    cases secret : lastValue? (Form.decode body) "oauth_token_secret" with
    | none => simp [token, secret] at h
    | some ownSecret =>
      simp only [token, secret, Except.ok.injEq] at h
      subst h
      refine ⟨lastValue?_eq_some_iff.mp token, lastValue?_eq_some_iff.mp secret, ?_, ?_⟩
      · intro name value
        rw [List.mem_filter, mem_lastValues, lastValue?_eq_some_iff]
        simp [and_comm, and_assoc]
      · exact ((List.filter_sublist).map _).nodup (nodup_lastValues _)

theorem exists_readToken_iff {body : Bytes} :
    (∃ t, readToken body = .ok t) ↔ "oauth_token" ∈ (Form.decode body).map (·.1) ∧
      "oauth_token_secret" ∈ (Form.decode body).map (·.1) := by
  rw [← Form.exists_lastValue?_iff, ← Form.exists_lastValue?_iff, readToken]
  cases token : lastValue? (Form.decode body) "oauth_token" with
  | none => simp
  | some own =>
    cases secret : lastValue? (Form.decode body) "oauth_token_secret" with
    | none => simp
    | some ownSecret => simp

theorem TokenResponse.Reads.confirms_iff {fields : List Pair} {t : TokenResponse}
    (h : t.Reads fields) :
    t.confirms = true ↔ IsLast fields "oauth_callback_confirmed" "true" := by
  rw [confirms, decide_eq_true_eq, Form.lastValue?_of_nodup h.distinct, h.remain]
  simp

namespace Client

section
variable {c : Client} {m : Moment} {mode : Http.Mode} {network : Http.Network} {function : String}
  {extra : Option Pair} {t : TokenResponse}

theorem applyResponse_of_ok {body : Bytes} (h : readToken body = .ok t) (c : Client) :
    (applyResponse body c).state = c.install t ∧ (applyResponse body c).result = .ok t := by
  rw [applyResponse, h, Action.ofExcept_ok, Action.bind_of_ok rfl]
  simp only [Action.pure_apply, bind, Action.andThen, Action.modify, Action.get]
  by_cases debug : (c.install t).signer.debug = true
  · rw [if_pos debug]
    exact ⟨rfl, rfl⟩
  · rw [if_neg debug]
    exact ⟨rfl, rfl⟩

theorem applyResponse_of_error {body : Bytes} {e : Error} (h : readToken body = .error e)
    (c : Client) : applyResponse body c = ⟨c, [], .error e⟩ := by
  rw [applyResponse, h, Action.bind_of_error rfl]
  rfl

/-- The reply to a step, and what led to it. -/
structure Answered (c : Client) (m : Moment) (mode : Http.Mode) (network : Http.Network)
    (call : Call) (r : Request) (response : Response) : Prop where
  prepared : (Call.prepare c.service m call).result = .ok r
  answered : (Call.attempt c.endpoint.config mode false network r).2 = .ok response
  success : 200 ≤ response.status ∧ response.status < 300

theorem invoke_eq_ok_iff {call : Call} {response : Response} :
    (Call.invoke c.service m mode false network call).result = .ok response ↔
      ∃ r, Answered c m mode network call r response := by
  rw [Call.result_invoke]
  constructor
  · intro h
    obtain ⟨r, prepared, settled⟩ := exceptBind_eq_ok h
    obtain ⟨answered, success⟩ := Call.settle_eq_ok settled
    exact ⟨r, prepared, answered, response.isSuccess_iff.mp success⟩
  · rintro ⟨r, prepared, answered, success⟩
    have good : response.isSuccess = true := response.isSuccess_iff.mpr success
    rw [prepared]
    show (Call.settle r (Call.attempt c.endpoint.config mode false network r).2).2 = _
    rw [answered]
    simp [Call.settle, Response.checkStatus, good]

theorem token_install (c : Client) (t : TokenResponse) :
    (c.install t).signer.credentials =
      { c.signer.credentials with token := some t.token, tokenSecret := some t.tokenSecret } := by
  unfold install
  cases t.confirms <;> rfl

theorem isOAuth10a_install (c : Client) (t : TokenResponse) :
    (c.install t).signer.isOAuth10a = (c.signer.isOAuth10a || t.confirms) := by
  unfold install
  cases t.confirms <;> simp [withToken]

/-- A step ends in one of two ways. -/
inductive Ends (c : Client) (m : Moment) (mode : Http.Mode) (network : Http.Network)
    (call : Call) (o : Outcome Client TokenResponse) : Prop
  | installed (r : Request) (response : Response) (t : TokenResponse)
      (answered : Answered c m mode network call r response)
      (read : readToken response.payload = .ok t)
      (state : o.state = c.install t) (result : o.result = .ok t)
  | failed (e : Error) (state : o.state = c) (result : o.result = .error e)
      (nothing : ¬ ∃ r response t, Answered c m mode network call r response ∧
        readToken response.payload = .ok t)

theorem tokenStep_ends (c : Client) (m : Moment) (mode : Http.Mode) (network : Http.Network)
    (function : String) (extra : Option Pair) :
    Ends c m mode network (tokenCall function extra)
      (tokenStep m mode network function extra c) := by
  cases invoked :
    (Call.invoke c.service m mode false network (tokenCall function extra)).result with
  | error e =>
    have failed : (Action.apart (fun c : Client => Call.invoke c.service m mode false network
      (tokenCall function extra)) c).result = .error e := invoked
    rw [tokenStep, Action.bind_of_error failed]
    refine .failed e rfl rfl ?_
    rintro ⟨r, response, t, answered, -⟩
    rw [invoke_eq_ok_iff.mpr ⟨r, answered⟩] at invoked
    cases invoked
  | ok response =>
    have done : (Action.apart (fun c : Client => Call.invoke c.service m mode false network
      (tokenCall function extra)) c).result = .ok response := invoked
    obtain ⟨r, answered⟩ := invoke_eq_ok_iff.mp invoked
    rw [tokenStep, Action.bind_of_ok done]
    cases read : readToken response.payload with
    | ok t =>
      obtain ⟨state, result⟩ := applyResponse_of_ok read c
      exact .installed r response t answered read state result
    | error e =>
      have failed := applyResponse_of_error read c
      refine .failed e (congrArg Outcome.state failed) (congrArg Outcome.result failed) ?_
      rintro ⟨r', response', t, answered', read'⟩
      have same := invoked.symm.trans (invoke_eq_ok_iff.mpr ⟨r', answered'⟩)
      obtain rfl := Except.ok.inj same
      rw [read] at read'
      cases read'

end

end Client

inductive StepKind
  | requestToken
  | accessToken
  deriving DecidableEq, Repr

def StepKind.parameter : StepKind → String
  | requestToken => "oauth_callback"
  | accessToken => "oauth_verifier"

def StepKind.perform : StepKind → Moment → Http.Mode → Http.Network → String → Option String →
    Action Client TokenResponse
  | requestToken => Client.requestToken
  | accessToken => Client.accessToken

def StepKind.call (kind : StepKind) (function : String) (extra : Option String) : Call :=
  Client.tokenCall function (extra.map (kind.parameter, ·))

def stepMode (awaits : Bool) : Http.Mode := if awaits then .awaited else .blocking

theorem StepKind.perform_ends (kind : StepKind) (c : Client) (m : Moment) (mode : Http.Mode)
    (network : Http.Network) (function : String) (extra : Option String) :
    Client.Ends c m mode network (kind.call function extra)
      (kind.perform m mode network function extra c) := by
  cases kind with
  | requestToken => exact Client.tokenStep_ends c m mode network function _
  | accessToken => exact Client.tokenStep_ends c m mode network function _

inductive ClientOp
  | setToken (token secret : Option String)
  /-- Binds the endpoint's URL again. -/
  | bind (args : List String)
  | step (kind : StepKind) (awaits : Bool) (m : Moment) (network : Http.Network)
      (function : String) (extra : Option String)

def ClientOp.perform : ClientOp → Action Client (Option TokenResponse)
  | setToken token secret => fun c => ⟨c.withToken token secret, [], .ok none⟩
  | bind args => fun c =>
    match c.endpoint.bind args with
    | .ok e => ⟨{ c with endpoint := e }, [], .ok none⟩
    | .error e => ⟨c, [], .error e⟩
  | step kind awaits m network function extra => fun c =>
    let o := kind.perform m (stepMode awaits) network function extra c
    ⟨o.state, o.events, o.result.map some⟩

structure Turn where
  before : Client
  op : ClientOp

namespace Turn

def after (x : Turn) : Client := (x.op.perform x.before).state
def result (x : Turn) : Except Error (Option TokenResponse) := (x.op.perform x.before).result

/-- The token and the secret that a turn puts in. -/
def installs? (x : Turn) : Option (Option String × Option String) :=
  match x.op, x.result with
  | .setToken token secret, _ => some (token, secret)
  | .step .., .ok (some t) => some (some t.token, some t.tokenSecret)
  | _, _ => none

/-- What a step does, and when: everything at once, for a reply that has it all, or nothing. -/
structure AllOrNothing (x : Turn) (m : Moment) (mode : Http.Mode) (network : Http.Network)
    (call : Call) : Prop where
  succeeds : (∃ t, x.result = .ok (some t)) ↔
    ∃ r response, x.before.Answered m mode network call r response ∧
      "oauth_token" ∈ (Form.decode response.payload).map (·.1) ∧
      "oauth_token_secret" ∈ (Form.decode response.payload).map (·.1)
  installs : ∀ t, x.result = .ok (some t) →
    ∃ r response, x.before.Answered m mode network call r response ∧
      t.Reads (Form.decode response.payload) ∧
      x.after.signer.credentials.token = some t.token ∧
      x.after.signer.credentials.tokenSecret = some t.tokenSecret ∧
      (x.after.signer.isOAuth10a = true ↔ x.before.signer.isOAuth10a = true ∨
        IsLast (Form.decode response.payload) "oauth_callback_confirmed" "true")
  ends : (∃ t, x.result = .ok (some t)) ∨ ∃ e, x.result = .error e
  fails : ∀ e, x.result = .error e → x.after = x.before

end Turn

/-- The token and the secret that were put in last. -/
def held (first : Client) (past : List Turn) : Option String × Option String :=
  (past.filterMap Turn.installs?).getLast?.getD
    (first.signer.credentials.token, first.signer.credentials.tokenSecret)

section
variable {x : Turn} {kind : StepKind} {awaits : Bool} {m : Moment} {network : Http.Network}
  {function : String} {extra : Option String}

theorem Turn.allOrNothing (op : x.op = .step kind awaits m network function extra) :
    x.AllOrNothing m (stepMode awaits) network (kind.call function extra) := by
  have after : x.after =
      (kind.perform m (stepMode awaits) network function extra x.before).state := by
    rw [Turn.after, op]
    rfl
  have result : x.result =
      (kind.perform m (stepMode awaits) network function extra x.before).result.map some := by
    rw [Turn.result, op]
    rfl
  cases kind.perform_ends x.before m (stepMode awaits) network function extra with
  | failed e state failed nothing =>
    rw [state] at after
    rw [failed] at result
    constructor
    case succeeds =>
      constructor
      · rintro ⟨t, done⟩
        rw [result] at done
        cases done
      · rintro ⟨r, response, answered, both⟩
        obtain ⟨t, read⟩ := exists_readToken_iff.mpr both
        exact absurd ⟨r, response, t, answered, read⟩ nothing
    case installs =>
      intro t done
      rw [result] at done
      cases done
    case ends => exact .inr ⟨e, result⟩
    case fails => exact fun _ _ => after
  | installed r response t answered read state done =>
    rw [state] at after
    rw [done] at result
    have reads := reads_of_readToken read
    constructor
    case succeeds =>
      constructor
      · exact fun _ => ⟨r, response, answered, exists_readToken_iff.mp ⟨t, read⟩⟩
      · exact fun _ => ⟨t, result⟩
    case installs =>
      intro t' done'
      rw [result] at done'
      cases done'
      refine ⟨r, response, answered, reads, ?_, ?_, ?_⟩
      · rw [after, Client.token_install]
      · rw [after, Client.token_install]
      · rw [after, Client.isOAuth10a_install, Bool.or_eq_true, reads.confirms_iff]
    case ends => exact .inl ⟨t, result⟩
    case fails =>
      intro e failed
      rw [result] at failed
      cases failed

end

/-- Where a request has a parameter: in its header, behind its URL or in its body. Behind a URL
that takes a query, it is read as part of the query. -/
inductive Holds (r : Request) (p : Pair) : Prop
  | header (h : p ∈ headerPairs r)
  | query (url : String) (ps : Params) (sent : r.url = appendQuery url (formText ps))
      (h : p ∈ ps.pairs)
      (arrives : Url.TakesQuery url → ∃ u, Url.parse r.url = .ok u ∧ p ∈ u.queryPairs)
  | form (h : p ∈ bodyPairs r)
  | multipart (boundary : String) (ps : Params)
      (sent : r.payload = some (Multipart.payload boundary ps)) (h : p ∈ ps.pairs)

/-- A signature that two secrets make: the digest of a text under both of them, escaped, or both
as they are. -/
def MadeWith (consumerSecret : String) (tokenSecret : Option String) (text signature : String) :
    SignatureMethod → Prop
  | .hmacSha1 => signature = digestText
      (Percent.encode consumerSecret ++ "&" ++ Percent.encode (tokenSecret.getD "")) text
  | .plaintext => signature = consumerSecret ++ "&" ++ tokenSecret.getD ""

theorem madeWith_of_sign {method : SignatureMethod} {text consumerSecret signature : String}
    {tokenSecret : Option String}
    (signed : sign method text consumerSecret tokenSecret = .ok signature) :
    MadeWith consumerSecret tokenSecret text signature method := by
  have set : consumerSecret ≠ "" := by
    rintro rfl
    simp [sign] at signed
  cases method with
  | hmacSha1 =>
    rw [sign_hmacSha1 text tokenSecret set] at signed
    exact (Except.ok.inj signed).symm
  | plaintext =>
    rw [sign_plaintext text tokenSecret set] at signed
    exact (Except.ok.inj signed).symm

/-- The request of a draft has a token and a signature made with the secret. -/
structure Bears (c : Client) (m : Moment) (d : Draft) (r : Request)
    (credentials : Option String × Option String) : Prop where
  token : ∀ t, credentials.1 = some t → Holds r ("oauth_token", t)
  signature : ∃ sg : Signing c.signer c.endpoint m d,
    sign c.signer.credentials.method sg.text c.signer.credentials.consumerSecret credentials.2 =
        .ok sg.signature ∧
      MadeWith c.signer.credentials.consumerSecret credentials.2 sg.text sg.signature
        c.signer.credentials.method ∧
      Holds r (signatureName, sg.signature)

section
variable {s : Signer} {e : Endpoint} {m : Moment} {d : Draft} {r : Request}

/-- What the signer leaves in a draft, the request has. -/
theorem Signing.holds (sg : Signing s e m d)
    (made : Call.requestOf e m none (place s.placement sg.draft) = .ok r) {p : Pair}
    (own : isProtocolName p.1 = true) (h : p ∈ sg.draft.params.pairs) : Holds r p := by
  obtain ⟨encoded, -, headers⟩ := sg.travel made
  cases placed : s.placement with
  | header realm =>
    rw [placed] at headers
    refine .header ?_
    rw [headerPairs_moveToHeader headers]
    exact List.mem_filter.mpr ⟨h, own⟩
  | params =>
    rw [placed] at encoded headers
    rcases encodeParams_eq_ok encoded with ⟨-, -, sent, -⟩ | ⟨-, -, -, payload⟩ |
      ⟨-, -, -, payload⟩
    · refine .query _ _ sent h fun takes => ?_
      obtain ⟨u, parsed, -⟩ := parse_of_normalizeUrl sg.normalized
      obtain ⟨v, reparsed, -, pairs⟩ := Url.parse_appendQuery parsed _ (.inr takes)
      refine ⟨v, sent ▸ reparsed, ?_⟩
      rw [pairs]
      exact List.mem_append_right _ h
    · refine .form ?_
      rw [bodyPairs_of_form headers payload]
      exact h
    · exact .multipart _ _ payload h

theorem Signing.mem_token (sg : Signing s e m d) {t : String} (h : s.credentials.token = some t) :
    ("oauth_token", t) ∈ sg.draft.params.pairs := by
  have controlled : ("oauth_token", t) ∈ (s.controlled m d).params.pairs := by
    rw [Signer.controlled, addControls, h]
    exact Params.mem_pairs_addText ..
  have other : "oauth_token" ≠ signatureName := by decide
  exact Params.mem_pairs_addText_of_ne other controlled _

end

theorem bears_of_prepare {c : Client} {m : Moment} {call : Call} {r : Request}
    (fresh : call.stage = .unprepared)
    (prepared : (Call.prepare c.service m call).result = .ok r) :
    Bears c m call.draft r (c.signer.credentials.token, c.signer.credentials.tokenSecret) := by
  obtain ⟨sg, made⟩ := signing_of_prepare fresh prepared
  have tokenName : isProtocolName "oauth_token" = true := by decide
  have ownName : isProtocolName signatureName = true := by decide
  refine ⟨fun t h => sg.holds made tokenName (sg.mem_token h), sg, sg.signed,
    madeWith_of_sign sg.signed, ?_⟩
  exact sg.holds made ownName (Params.mem_pairs_addText ..)

def Credentials.hold (c : Credentials) (put : Option String × Option String) : Credentials :=
  { c with token := put.1, tokenSecret := put.2 }

/-- Credentials change by what a turn puts in, and by nothing else. -/
theorem Turn.credentials_after (x : Turn) :
    x.after.signer.credentials =
      x.installs?.elim x.before.signer.credentials x.before.signer.credentials.hold := by
  obtain ⟨c, op⟩ := x
  cases op with
  | setToken token secret => rfl
  | bind args =>
    cases bound : c.endpoint.bind args <;> simp [after, installs?, ClientOp.perform, bound]
  | step kind awaits m network function extra =>
    cases kind.perform_ends c m (stepMode awaits) network function extra with
    | installed r response t answered read state result =>
      simp [after, installs?, Turn.result, ClientOp.perform, state, result, Except.map,
        Client.token_install, Credentials.hold]
    | failed e state result nothing =>
      simp [after, installs?, Turn.result, ClientOp.perform, state, result, Except.map]

def Kept (first : Client) (past : List Turn) (c : Client) : Prop :=
  c.signer.credentials = first.signer.credentials.hold (held first past)

theorem kept_step {first : Client} (past : List Turn) (x : Turn)
    (h : Kept first past x.before) : Kept first (past ++ [x]) x.after := by
  rw [Kept, x.credentials_after, h, held, held, List.filterMap_append]
  cases put : x.installs? with
  | none => simp [put]
  | some both => simp [put, Credentials.hold]

/-- In every run of steps and of tokens set by hand: a step succeeds exactly for a reply that has
it all, puts in all of it at once, and changes nothing when it fails; and the calls that are
prepared after a turn have the token, and a signature with the secret, that came together last. -/
theorem steps_allOrNothing {first : Client} {past : List Turn} {x : Turn} {rest : List Turn}
    (run : Chained Turn.before Turn.after first (past ++ x :: rest)) :
    (∀ kind awaits m network function extra, x.op = .step kind awaits m network function extra →
      x.AllOrNothing m (stepMode awaits) network (kind.call function extra)) ∧
    x.after.signer.credentials = first.signer.credentials.hold (held first (past ++ [x])) ∧
    ∀ (call : Call) m r, call.stage = .unprepared →
      (Call.prepare x.after.service m call).result = .ok r →
        Bears x.after m call.draft r (held first (past ++ [x])) := by
  have start : Kept first [] first := rfl
  have kept : x.after.signer.credentials =
      first.signer.credentials.hold (held first (past ++ [x])) :=
    (run.history kept_step start).2
  refine ⟨fun _ _ _ _ _ _ op => Turn.allOrNothing op, kept, ?_⟩
  intro call m r fresh prepared
  have bears := bears_of_prepare fresh prepared
  rwa [kept] at bears

/-- A client that has asked for a token, and then exchanges it for one that comes without its
secret. -/
def printerClient : Client :=
  .create (.ofTemplate "http://photos.example.net/")
    (.ofCredentials ⟨"dpf43f3p2l4k3l03", "kd94hf93k423kf44", none, none, .plaintext⟩)

def printerMoment : Moment := ⟨⟨137131200, 0⟩, "wIjqoxSZ", "boundary"⟩

def askingTurn : Turn :=
  ⟨printerClient, .step .requestToken false printerMoment
    (.scripted [⟨200, [], [Utf8.encode ("oauth_token=hh5s93j4hdidpola" ++
      "&oauth_token_secret=hdhd0244k9j7ao03&oauth_callback_confirmed=true")], none⟩])
    "initiate" (some "http://printer.example.com/ready")⟩

def exchangingTurn : Turn :=
  ⟨askingTurn.after, .step .accessToken true printerMoment
    (.scripted [⟨200, [], [Utf8.encode "oauth_token=nnch734d00sl2jdk"], none⟩])
    "token" (some "hfdp7dh39dks9884")⟩

theorem printer_allOrNothing :
    Chained Turn.before Turn.after printerClient [askingTurn, exchangingTurn] ∧
      exchangingTurn.result = .error (.invalidResponse (.missingField "oauth_token_secret")) ∧
      exchangingTurn.after = askingTurn.after ∧
      ∃ r, (Call.prepare exchangingTurn.after.service printerMoment .empty).result = .ok r ∧
        Bears exchangingTurn.after printerMoment .empty r
          (some "hh5s93j4hdidpola", some "hdhd0244k9j7ao03") := by
  have last : Chained Turn.before Turn.after askingTurn.after [exchangingTurn] :=
    .cons (x := exchangingTurn) (.nil _)
  have run : Chained Turn.before Turn.after printerClient
      ([askingTurn] ++ exchangingTurn :: []) := .cons (x := askingTurn) last
  obtain ⟨step, -, signed⟩ := steps_allOrNothing run
  have facts : exchangingTurn.result =
        .error (.invalidResponse (.missingField "oauth_token_secret")) ∧
      held printerClient [askingTurn, exchangingTurn] =
        (some "hh5s93j4hdidpola", some "hdhd0244k9j7ao03") ∧
      (Call.prepare exchangingTurn.after.service printerMoment .empty).result.isOk = true := by
    decide +kernel
  obtain ⟨missing, put, prepares⟩ := facts
  cases prepared : (Call.prepare exchangingTurn.after.service printerMoment .empty).result with
  | error e =>
    rw [prepared] at prepares
    cases prepares
  | ok r =>
    have bears := signed .empty printerMoment r rfl prepared
    rw [List.singleton_append, put] at bears
    exact ⟨run, missing, (step _ _ _ _ _ _ rfl).fails _ missing, r, rfl, bears⟩

end OAuth1

end SignedRest
