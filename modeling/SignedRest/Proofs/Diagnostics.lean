import SignedRest.Description.Auth
import SignedRest.Proofs.SentOnce
import SignedRest.Proofs.SignedCall
import SignedRest.Proofs.TokenSteps

/-! What logs and descriptions show of a client. Two clients whose secrets differ, and whose
tokens differ behind their first characters, cannot be told apart by anything they show, whatever
they sign and whichever replies they store. -/
namespace SignedRest

namespace Description

variable {α β : Type}

theorem option_map (describe : β → String) (f : α → β) (a : Option α) :
    option describe (a.map f) = option (describe ∘ f) a := by cases a <;> rfl

theorem option_const {a a' : Option α} (h : a.isSome = a'.isSome) (shown : String) :
    option (fun _ => shown) a = option (fun _ => shown) a' := by
  cases a <;> cases a' <;> first | rfl | cases h

end Description

namespace OAuth1

/-- Tokens of which the same is shown: both are short, or both begin with the same characters. -/
inductive SameGlimpse (a b : String) : Prop
  | short (first : a.toList.length ≤ 8) (second : b.toList.length ≤ 8)
  | long (first : 8 < a.toList.length) (second : 8 < b.toList.length)
      (begins : a.toList.take 4 = b.toList.take 4)

theorem redact_of_short {token : String} (h : token.toList.length ≤ 8) :
    redact token = redacted := if_neg (Nat.not_lt.mpr h)

theorem redact_of_long {token : String} (h : 8 < token.toList.length) :
    redact token = String.ofList (token.toList.take 4) ++ "..." := if_pos h

theorem length_redact_of_long {token : String} (h : 8 < token.toList.length) :
    (redact token).toList.length = 7 := by
  have four : (token.toList.take 4).length = 4 := List.length_take_of_le (by omega)
  simp [redact_of_long h, -List.length_take, four]

theorem redact_ne_redacted {token : String} (h : 8 < token.toList.length) :
    redact token ≠ redacted := by
  intro same
  have lengths := length_redact_of_long h
  rw [same] at lengths
  exact absurd lengths (by decide)

/-- A token shows its first four characters if it has more than eight, and nothing else. -/
theorem redact_eq_iff {a b : String} : redact a = redact b ↔ SameGlimpse a b := by
  constructor
  · intro same
    rcases Nat.lt_or_ge 8 a.toList.length with longA | shortA <;>
      rcases Nat.lt_or_ge 8 b.toList.length with longB | shortB
    · rw [redact_of_long longA, redact_of_long longB] at same
      have texts := congrArg String.toList same
      simp only [String.toList_append, String.toList_ofList] at texts
      exact .long longA longB (List.append_cancel_right texts)
    · exact absurd (same.trans (redact_of_short shortB)) (redact_ne_redacted longA)
    · exact absurd (same.symm.trans (redact_of_short shortA)) (redact_ne_redacted longB)
    · exact .short shortA shortB
  · rintro (⟨shortA, shortB⟩ | ⟨longA, longB, begins⟩)
    · rw [redact_of_short shortA, redact_of_short shortB]
    · rw [redact_of_long longA, redact_of_long longB, begins]

structure Credentials.Alike (c c' : Credentials) : Prop where
  consumerKey : c.consumerKey = c'.consumerKey
  method : c.method = c'.method
  hasSecret : c.consumerSecret ≠ ""
  hasSecret' : c'.consumerSecret ≠ ""
  token : Option.Rel SameGlimpse c.token c'.token
  tokenSecret : c.tokenSecret.isSome = c'.tokenSecret.isSome

structure Signer.Alike (s s' : Signer) : Prop where
  credentials : s.credentials.Alike s'.credentials
  placement : s.placement = s'.placement
  signatureHost : s.signatureHost = s'.signatureHost

structure Client.Alike (c c' : Client) : Prop where
  endpoint : c.endpoint = c'.endpoint
  signer : c.signer.Alike c'.signer
  debug : c.signer.debug = c'.signer.debug

theorem map_redact {t t' : Option String} (h : Option.Rel SameGlimpse t t') :
    t.map redact = t'.map redact := by
  cases h with
  | none => rfl
  | some same => exact congrArg some (redact_eq_iff.mpr same)

section
variable {c c' : Credentials} {s s' : Signer}

theorem Credentials.Alike.description (h : c.Alike c') :
    Description.credentials c = Description.credentials c' := by
  rw [Description.credentials, Description.credentials, ← Description.option_map,
    ← Description.option_map, map_redact h.token, Description.option_const h.tokenSecret,
    h.consumerKey, h.method]

theorem Signer.Alike.description (h : s.Alike s') :
    Description.signer s = Description.signer s' := by
  rw [Description.signer, Description.signer, h.credentials.description, h.placement,
    h.signatureHost]

def hidePair (p : Pair) : Pair := if p.1 = "oauth_token" then (p.1, redacted) else p

def hideParam (p : Param) : Param :=
  if p.name = "oauth_token" ∧ p.isText then ⟨p.name, .text redacted⟩ else p

theorem name_hideParam (p : Param) : (hideParam p).name = p.name := by
  unfold hideParam
  split <;> rfl

theorem isText_hideParam (p : Param) : (hideParam p).isText = p.isText := by
  unfold hideParam
  split
  · rename_i text
    exact text.2.symm
  · rfl

theorem pair?_hideParam (p : Param) : (hideParam p).pair? = p.pair?.map hidePair := by
  obtain ⟨name, value⟩ := p
  cases value <;> by_cases own : name = "oauth_token" <;>
    simp [hideParam, hidePair, Param.pair?, Param.text?, Param.isText, own]

theorem map_hide_place (p : Param) (items : List Param) :
    (Params.place p items).map hideParam = Params.place (hideParam p) (items.map hideParam) := by
  induction items with
  | nil => rfl
  | cons q rest ih =>
    simp only [Params.place, List.map_cons, name_hideParam]
    split
    · rfl
    · rw [List.map_cons, ih]

theorem fst_hidePair (p : Pair) : (hidePair p).1 = p.1 := by
  unfold hidePair
  split <;> rfl

theorem areTexts_hide (ps : Params) :
    (ps.items.map hideParam).all (·.isText) = ps.areTexts := by
  simp only [Params.areTexts, List.all_map, Function.comp_def, isText_hideParam]

theorem pairs_hide (ps : Params) :
    (ps.items.map hideParam).filterMap (·.pair?) = ps.pairs.map hidePair := by
  simp only [Params.pairs, List.map_filterMap, List.filterMap_map, Function.comp_def,
    pair?_hideParam]

/-- What is logged of the pairs depends on the hidden parameters only. -/
theorem hide_signedPairs {ps ps' : Params}
    (same : ps.items.map hideParam = ps'.items.map hideParam) (query : List Pair) :
    (signedPairs ps query).map hidePair = (signedPairs ps' query).map hidePair := by
  have hidden : ∀ ps : Params, (signedPairs ps query).map hidePair =
      ((ps.items.map hideParam).filterMap (·.pair?)).filter
        (fun p => (ps.items.map hideParam).all (·.isText) || isProtocolName p.1) ++
      query.map hidePair := by
    intro ps
    rw [signedPairs, List.map_append, pairs_hide, areTexts_hide, List.filter_map]
    simp only [Function.comp_def, fst_hidePair]
  rw [hidden, hidden, same]

theorem Credentials.Alike.hide_addControls (h : c.Alike c') (m : Moment) (ps : Params) :
    (addControls c m ps).items.map hideParam = (addControls c' m ps).items.map hideParam := by
  have tokens := h.token
  unfold addControls
  rw [h.consumerKey, h.method]
  generalize c.token = token at tokens ⊢
  generalize c'.token = token' at tokens ⊢
  cases tokens with
  | none => rfl
  | some _ =>
    -- the token is added last; up to there both have the same parameters
    show (Params.place _ _).map hideParam = (Params.place _ _).map hideParam
    rw [map_hide_place, map_hide_place]
    rfl

/-- The record that signing leaves when it is logged, or why the call cannot be signed. -/
def Signer.record (s : Signer) (e : Endpoint) (m : Moment) (d : Draft) : Except Error Record := do
  let url ← d.resolveUrl e
  let (base, query) ← normalizeUrl url s.signatureHost
  pure (.signed (shownBase d.method.name base (signedPairs (s.controlled m d).params query)))

theorem signCall_shows (secret : s.credentials.consumerSecret ≠ "") (e : Endpoint) (m : Moment)
    (d : Draft) :
    (s.signCall e m d).events =
        (if s.debug then (s.record e m d).toOption.toList.map .logged else []) ∧
      (s.signCall e m d).result = (s.record e m d).map fun _ => () := by
  rw [Signer.signCall, if_neg secret, Signer.record]
  simp only [bind, Action.andThen, Action.modify, Action.get, Action.ofExcept_apply,
    Except.bind, List.nil_append, pure, Except.pure]
  have moved : ({ d with params := addControls s.credentials m d.params } : Draft).resolveUrl e =
    d.resolveUrl e := rfl
  rw [moved]
  cases resolved : d.resolveUrl e with
  | error fault => simp [Except.toOption, Except.map]
  | ok url =>
    cases normalized : normalizeUrl url s.signatureHost with
    | error fault => simp [normalized, Except.toOption, Except.map]
    | ok both =>
      -- with a consumer secret there is a signature, and the record does not have it
      obtain ⟨signature, signed⟩ := sign_of_secret secret s.credentials.method
        (baseString d.method.name both.1 (signedPairs (s.controlled m d).params both.2))
        s.credentials.tokenSecret
      rw [Signer.controlled] at signed
      simp only [normalized, signed]
      cases s.debug <;> exact ⟨rfl, rfl⟩

theorem Signer.Alike.record (h : s.Alike s') (e : Endpoint) (m : Moment) (d : Draft) :
    s.record e m d = s'.record e m d := by
  have shown : ∀ base query,
      shownBase d.method.name base (signedPairs (s.controlled m d).params query) =
        shownBase d.method.name base (signedPairs (s'.controlled m d).params query) :=
    fun base query => congrArg (baseString d.method.name base)
      (hide_signedPairs (h.credentials.hide_addControls m d.params) query)
  simp only [Signer.record, shown, h.signatureHost]

theorem Signer.Alike.signCall (h : s.Alike s') (debug : s.debug = s'.debug) (e : Endpoint)
    (m : Moment) (d : Draft) :
    (s.signCall e m d).events = (s'.signCall e m d).events ∧
      (s.signCall e m d).result = (s'.signCall e m d).result := by
  obtain ⟨events, result⟩ := signCall_shows h.credentials.hasSecret e m d
  obtain ⟨events', result'⟩ := signCall_shows h.credentials.hasSecret' e m d
  rw [events, events', result, result', h.record, debug]
  exact ⟨rfl, rfl⟩

end

namespace Client

variable {c c' : Client}

theorem Alike.prepare (h : c.Alike c') (m : Moment) (call : Call) :
    (Call.prepare c.service m call).events = (Call.prepare c'.service m call).events := by
  rcases call.stage.cases_closed with fresh | ⟨r, kept⟩ | closed
  · obtain ⟨events, result⟩ := h.signer.signCall h.debug c.endpoint m call.draft
    rw [Call.prepare_of_unprepared fresh, Call.prepare_of_unprepared fresh]
    simp only [Call.events_build, Call.runHook, service, Signer.hook, Hook.ofPrepare,
      Action.events_bind, Action.emit, Action.pure_apply, ← h.endpoint, events, result]
  · rw [Call.prepare_of_prepared kept, Call.prepare_of_prepared kept]
  · rw [Call.prepare_of_closed closed, Call.prepare_of_closed closed]

theorem events_applyResponse {body : Bytes} {t : TokenResponse} (read : readToken body = .ok t)
    (c : Client) :
    (applyResponse body c).events =
      if c.signer.debug then [.logged (.storedToken (redact t.token))] else [] := by
  have debug : (c.install t).signer.debug = c.signer.debug := by
    unfold install
    cases t.confirms <;> rfl
  rw [applyResponse, read, Action.ofExcept_ok, Action.bind_of_ok rfl]
  simp only [Action.pure_apply, bind, Action.andThen, Action.modify, Action.get, debug]
  cases c.signer.debug <;> rfl

theorem Alike.description (h : c.Alike c') :
    Description.oauth1Client c = Description.oauth1Client c' := by
  rw [Description.oauth1Client, Description.oauth1Client, h.signer.description, h.endpoint]

theorem Alike.withToken (h : c.Alike c') {token token' secret secret' : Option String}
    (tokens : Option.Rel SameGlimpse token token') (secrets : secret.isSome = secret'.isSome) :
    (c.withToken token secret).Alike (c'.withToken token' secret') :=
  have old := h.signer.credentials
  ⟨h.endpoint, ⟨⟨old.consumerKey, old.method, old.hasSecret, old.hasSecret', tokens, secrets⟩,
    h.signer.placement, h.signer.signatureHost⟩, h.debug⟩

theorem Alike.install (h : c.Alike c') {t t' : TokenResponse}
    (same : SameGlimpse t.token t'.token) : (c.install t).Alike (c'.install t') := by
  have put : (c.withToken (some t.token) (some t.tokenSecret)).Alike
      (c'.withToken (some t'.token) (some t'.tokenSecret)) := h.withToken (.some same) rfl
  -- a confirmation is noted by the signer and shown nowhere
  unfold Client.install
  cases t.confirms <;> cases t'.confirms <;>
    exact ⟨put.endpoint, ⟨put.signer.credentials, put.signer.placement, put.signer.signatureHost⟩,
      put.debug⟩

end Client

inductive Deed
  /-- A call of this client is prepared. -/
  | sign (m : Moment) (call : Call)
  /-- A reply to a request for a token is stored, if it can be read. -/
  | store (body : Bytes)
  | setToken (token secret : Option String)
  | bind (args : List String)

/-- The client afterwards, and what happened on the way. -/
def Deed.perform : Deed → Client → Client × List Event
  | sign m call, c => (c, (Call.prepare c.service m call).events)
  | store body, c =>
    let o := Client.applyResponse body c
    (o.state, o.events)
  | setToken token secret, c => (c.withToken token secret, [])
  | bind args, c =>
    match c.endpoint.bind args with
    | .ok e => ({ c with endpoint := e }, [])
    | .error _ => (c, [])

/-- The same is done, but for secrets and for the part of a token that is not shown. -/
inductive Deed.Alike : Deed → Deed → Prop
  | sign (m : Moment) (call : Call) : Alike (.sign m call) (.sign m call)
  | stored {body body' : Bytes} {t t' : TokenResponse} (read : readToken body = .ok t)
      (read' : readToken body' = .ok t') (same : SameGlimpse t.token t'.token) :
      Alike (.store body) (.store body')
  | unread {body body' : Bytes} {e e' : Error} (read : readToken body = .error e)
      (read' : readToken body' = .error e') : Alike (.store body) (.store body')
  | setToken {token token' secret secret' : Option String}
      (tokens : Option.Rel SameGlimpse token token') (secrets : secret.isSome = secret'.isSome) :
      Alike (.setToken token secret) (.setToken token' secret')
  | bind (args : List String) : Alike (.bind args) (.bind args)

/-- A client's texts and what happens next. -/
structure View where
  credentials : String
  signer : String
  client : String
  events : List Event
  deriving DecidableEq, Repr

def Client.view (c : Client) (events : List Event) : View :=
  ⟨Description.credentials c.signer.credentials, Description.signer c.signer,
    Description.oauth1Client c, events⟩

/-- Everything that is seen of a client from here to the end. -/
def observe (c : Client) : List Deed → List View
  | [] => [c.view []]
  | d :: ds => c.view (d.perform c).2 :: observe (d.perform c).1 ds

section
variable {c c' : Client}

theorem Client.Alike.view (h : c.Alike c') (events : List Event) :
    c.view events = c'.view events := by
  rw [Client.view, Client.view, h.signer.credentials.description, h.signer.description,
    h.description]

/-- Clients that are alike stay so, and the same is logged of what they do. -/
theorem Client.Alike.perform (h : c.Alike c') {d d' : Deed} (same : d.Alike d') :
    (d.perform c).1.Alike (d'.perform c').1 ∧ (d.perform c).2 = (d'.perform c').2 := by
  cases same with
  | sign m call => exact ⟨h, h.prepare m call⟩
  | stored read read' same =>
    have state := (Client.applyResponse_of_ok read c).1
    have state' := (Client.applyResponse_of_ok read' c').1
    have events := Client.events_applyResponse read c
    have events' := Client.events_applyResponse read' c'
    simp only [Deed.perform, state, state', events, events', h.debug, redact_eq_iff.mpr same,
      and_true]
    exact h.install same
  | unread read read' =>
    simp only [Deed.perform, Client.applyResponse_of_error read,
      Client.applyResponse_of_error read', and_true]
    exact h
  | setToken tokens secrets => exact ⟨h.withToken tokens secrets, rfl⟩
  | bind args =>
    simp only [Deed.perform, ← h.endpoint]
    cases bound : c.endpoint.bind args with
    | ok e => exact ⟨⟨rfl, h.signer, h.debug⟩, rfl⟩
    | error e => exact ⟨h, rfl⟩

theorem Client.Alike.observe_eq (h : c.Alike c') {ds ds' : List Deed}
    (same : List.Forall₂ Deed.Alike ds ds') : observe c ds = observe c' ds' := by
  induction same generalizing c c' with
  | nil => exact congrArg (· :: []) (h.view [])
  | cons first _ ih =>
    obtain ⟨alike, events⟩ := h.perform first
    rw [observe, observe, h.view, events, ih alike]

end

/-- Under one configuration, signers that differ in their secrets, and in their tokens behind the
first four characters, are described in the same words and logged in the same records, whatever
they sign and whatever replies of that kind they store. -/
theorem observe_create (config : Config) {s s' : Signer} (alike : s.Alike s') {ds ds' : List Deed}
    (same : List.Forall₂ Deed.Alike ds ds') :
    observe (.create config s) ds = observe (.create config s') ds' :=
  have clients : (Client.create config s).Alike (Client.create config s') :=
    ⟨rfl, ⟨alike.credentials, alike.placement, alike.signatureHost⟩, rfl⟩
  clients.observe_eq same

def loggedConfig : Config :=
  { Config.ofTemplate "http://photos.example.net/" with debug := ⟨false, true, false⟩ }

def asciiSigner : Signer :=
  .ofCredentials ⟨"dpf43f3p2l4k3l03", "kd94hf93k423kf44", some "nnch734d00sl2jdk",
    some "pfkkdhi9sl3r4s00", .plaintext⟩

/-- A signer with a token that begins in the same way, and goes on outside of ASCII. -/
def unicodeSigner : Signer :=
  .ofCredentials ⟨"dpf43f3p2l4k3l03", "s", some "nnchж☃ & on", some "", .plaintext⟩

def tokenInQuery : Call :=
  Call.empty.edit fun d => { d with function := some "photos?oauth_token=hfdp7dh39dks9884" }

def asciiReply : Bytes :=
  Utf8.encode "oauth_token=hh5s93j4hdidpola&oauth_token_secret=hdhd0244k9j7ao03"

def unicodeReply : Bytes :=
  Utf8.encode ("oauth_token=hh5s%E2%98%83%20and%20on&oauth_token_secret=" ++
    "&oauth_callback_confirmed=true")

theorem observe_create_unicode :
    observe (.create loggedConfig asciiSigner)
        [.sign printerMoment tokenInQuery, .store asciiReply] =
      observe (.create loggedConfig unicodeSigner)
        [.sign printerMoment tokenInQuery, .store unicodeReply] ∧
    (observe (.create loggedConfig asciiSigner)
        [.sign printerMoment tokenInQuery, .store asciiReply]).map (·.events.length) =
      [3, 1, 0] := by
  have alike : asciiSigner.Alike unicodeSigner :=
    ⟨⟨rfl, rfl, by decide, by decide, .some (.long (by decide) (by decide) (by decide)), rfl⟩,
      rfl, rfl⟩
  have read : readToken asciiReply = .ok ⟨"hh5s93j4hdidpola", "hdhd0244k9j7ao03", []⟩ := by
    decide +kernel
  have read' : readToken unicodeReply =
      .ok ⟨"hh5s☃ and on", "", [("oauth_callback_confirmed", "true")]⟩ := by decide +kernel
  have same : List.Forall₂ Deed.Alike [.sign printerMoment tokenInQuery, .store asciiReply]
      [.sign printerMoment tokenInQuery, .store unicodeReply] :=
    .cons (.sign ..) (.cons (.stored read read' (.long (by decide) (by decide) (by decide))) .nil)
  exact ⟨observe_create loggedConfig alike same, by decide +kernel⟩

end OAuth1
end SignedRest
