import SignedRest.Proofs.ParameterShapes
import SignedRest.Proofs.WireVerification

/-! What signing does to a call besides signing it. Whatever is not the protocol's stays as it was,
in its order. Of the protocol's parameters each text is sent once, among the others or in the
header, and the caller's time and nonce are the ones that are signed and sent. -/
namespace SignedRest.OAuth1

open Verification

/-- What the signer says itself, over anything that the call says. -/
def ownTexts (c : Credentials) (signature : String) : List Pair :=
  [("oauth_version", "1.0"), ("oauth_consumer_key", c.consumerKey),
    ("oauth_signature_method", c.method.name)] ++ (c.token.map ("oauth_token", ·)).toList ++
    [(signatureName, signature)]

/-- What the moment says if the call does not. -/
def momentTexts (m : Moment) : List Pair :=
  [("oauth_timestamp", toString m.now.secs), ("oauth_nonce", m.nonce)]

def textOf? (texts : List Pair) (name : String) : Option Param :=
  (texts.find? (·.1 = name)).map .ofPair

/-- The parameter of a name in a signed call. -/
def signedParam? (c : Credentials) (m : Moment) (signature : String) (ps : Params)
    (name : String) : Option Param :=
  textOf? (ownTexts c signature) name <|> ps.get? name <|> textOf? (momentTexts m) name

def signedParams (c : Credentials) (m : Moment) (signature : String) (ps : Params) : Params :=
  (addControls c m ps).addText signatureName signature

@[simp] theorem textOf?_nil (name : String) : textOf? [] name = none := rfl

theorem textOf?_cons (pair : Pair) (rest : List Pair) (name : String) :
    textOf? (pair :: rest) name =
      if pair.1 = name then some (.ofPair pair) else textOf? rest name := by
  by_cases same : pair.1 = name <;> simp [textOf?, same]

theorem textOf?_eq_none {texts : List Pair} {name : String}
    (absent : ∀ pair ∈ texts, pair.1 ≠ name) : textOf? texts name = none := by
  rw [textOf?, List.find?_eq_none.mpr (by simpa using absent), Option.map_none]

theorem name_of_mem_ownTexts {c : Credentials} {signature : String} {pair : Pair}
    (h : pair ∈ ownTexts c signature) : pair.1 ∈ signatureName :: controlNames := by
  revert pair
  cases token : c.token <;> simp [ownTexts, token, controlNames]

theorem textOf?_ownTexts_of_time {name : String} (time : name ∈ ["oauth_timestamp", "oauth_nonce"])
    (c : Credentials) (signature : String) : textOf? (ownTexts c signature) name = none := by
  simp only [List.mem_cons, List.not_mem_nil, or_false] at time
  cases token : c.token <;> rcases time with rfl | rfl <;>
    simp [ownTexts, token, textOf?_cons, signatureName]

theorem name_of_mem_momentTexts {m : Moment} {pair : Pair} (h : pair ∈ momentTexts m) :
    pair.1 ∈ controlNames := by
  revert pair
  simp [momentTexts, controlNames]

/-- One name after the other is either added or left as it was. -/
theorem get?_signedParams (c : Credentials) (m : Moment) (signature : String) (ps : Params)
    (name : String) :
    (signedParams c m signature ps).get? name = signedParam? c m signature ps name := by
  by_cases control : name ∈ signatureName :: controlNames
  · simp only [controlNames, List.mem_cons, List.not_mem_nil, or_false] at control
    cases token : c.token <;> rcases control with rfl | rfl | rfl | rfl | rfl | rfl | rfl <;>
      simp [signedParams, addControls, token, Params.get?_addText, get?_addMissing, signedParam?,
        ownTexts, momentTexts, textOf?_cons, Param.ofPair, signatureName]
  · obtain ⟨other, rest⟩ := not_or.mp (List.mem_cons.not.mp control)
    have own : textOf? (ownTexts c signature) name = none :=
      textOf?_eq_none fun pair mem same => control (same ▸ name_of_mem_ownTexts mem)
    have moment : textOf? (momentTexts m) name = none :=
      textOf?_eq_none fun pair mem same => rest (same ▸ name_of_mem_momentTexts mem)
    rw [signedParam?, own, moment, signedParams, Params.get?_addText_of_ne (Ne.symm other),
      get?_addControls rest]
    simp

/-- The parameters that the protocol has nothing to do with. -/
def businessParams (d : Draft) : List Param := d.params.items.filter (!isProtocolName ·.name)

/-- The headers but the one that may carry the protocol's parameters. -/
def otherHeaders (d : Draft) : List (String × String) :=
  d.headers.items.filter (!Ascii.sameLetters ·.1 "Authorization")

/-- Two drafts that ask for the same, whoever asks. -/
structure SameBusiness (d d' : Draft) : Prop where
  params : businessParams d' = businessParams d
  method : d'.method = d.method
  function : d'.function = d.function
  headers : otherHeaders d' = otherHeaders d

theorem filter_addText_protocol {name : String} (h : isProtocolName name = true) (ps : Params)
    (value : String) : (ps.addText name value).items.filter (!isProtocolName ·.name) =
      ps.items.filter (!isProtocolName ·.name) :=
  Params.filter_place_of_not (!isProtocolName ·) (p := ⟨name, .text value⟩) (by simp [h]) ps.items

theorem filter_addMissing_protocol {name : String} (h : isProtocolName name = true) (ps : Params)
    (value : String) : (addMissing ps name value).items.filter (!isProtocolName ·.name) =
      ps.items.filter (!isProtocolName ·.name) := by
  rw [addMissing]
  split
  · rfl
  · exact filter_addText_protocol h ps value

theorem isProtocolName_control :
    ∀ name ∈ signatureName :: controlNames, isProtocolName name = true := by decide

theorem filter_signedParams (c : Credentials) (m : Moment) (signature : String) (ps : Params) :
    (signedParams c m signature ps).items.filter (!isProtocolName ·.name) =
      ps.items.filter (!isProtocolName ·.name) := by
  have protocol := isProtocolName_control
  simp only [controlNames, List.forall_mem_cons] at protocol
  obtain ⟨own, version, timestamp, nonce, key, method, token, -⟩ := protocol
  have five : ∀ ps : Params, (addControls { c with token := none } m ps).items.filter
      (!isProtocolName ·.name) = ps.items.filter (!isProtocolName ·.name) := fun ps => by
    simp only [addControls, filter_addText_protocol, filter_addMissing_protocol, *]
  rw [signedParams, filter_addText_protocol own, ← five ps]
  cases given : c.token with
  | none => rw [addControls, addControls, given]
  | some value =>
    rw [addControls, addControls, given]
    exact filter_addText_protocol token _ value

def sentPairs : Placement → Draft → List Pair
  | .params, d => takenPairs d.params
  | .header _, d => Authorization.params ((d.headers.get? "Authorization").getD "")

theorem sentPairs_place (p : Placement) (d : Draft) :
    sentPairs p (place p d) = takenPairs d.params := by
  cases p with
  | params => rfl
  | header realm =>
    rw [sentPairs, place, authorization_moveToHeader, Option.getD_some, params_write_takenPairs]

theorem sameBusiness_place (p : Placement) (d : Draft) : SameBusiness d (place p d) := by
  cases p with
  | params => exact ⟨rfl, rfl, rfl, rfl⟩
  | header realm =>
    have kept : ∀ q : Param, (!isProtocolName q.name && !isProtocolParam q) =
        !isProtocolName q.name := fun q => by
      cases named : isProtocolName q.name <;> simp [isProtocolParam, named]
    refine ⟨?_, rfl, rfl, Headers.filter_add d.headers "Authorization" _⟩
    exact List.filter_filter.trans (by simp only [kept, businessParams])

section
variable {s : Signer} {e : Endpoint} {m : Moment} {d : Draft}

/-- Each text of the protocol is sent once: what the signer says, or else the caller, or else the
moment. All but the signature are signed. -/
structure ProtocolSent (sg : Signing s e m d) (sent : List Pair) : Prop where
  protocol : ∀ pair ∈ sent, isProtocolName pair.1 = true
  once : ∀ name, isProtocolName name = true → sent.filter (·.1 = name) =
    ((signedParam? s.credentials m sg.signature d.params name).bind Param.pair?).toList
  given : ∀ name ∈ ["oauth_timestamp", "oauth_nonce"], ∀ text, (name, text) ∈ d.params.pairs →
    sent.filter (·.1 = name) = [(name, text)]
  signed : ∀ pair ∈ sent, pair.1 ≠ signatureName →
    pair ∈ signedPairs (s.controlled m d).params sg.query

theorem params_draft (sg : Signing s e m d) :
    sg.draft.params = signedParams s.credentials m sg.signature d.params := rfl

theorem filter_takenPairs (ps : Params) {name : String} (h : isProtocolName name = true) :
    (takenPairs ps).filter (·.1 = name) = ((ps.get? name).bind Param.pair?).toList := by
  have named : ∀ pair : Pair, (decide (pair.1 = name) && isProtocolName pair.1) =
      decide (pair.1 = name) := fun pair => by
    by_cases same : pair.1 = name <;> simp [same, h]
  rw [takenPairs, List.filter_filter]
  simp only [named, Params.pairs_filter_name]

theorem protocolSent_draft (sg : Signing s e m d) :
    ProtocolSent sg (takenPairs sg.draft.params) := by
  have once : ∀ name, isProtocolName name = true →
      (takenPairs sg.draft.params).filter (·.1 = name) =
        ((signedParam? s.credentials m sg.signature d.params name).bind Param.pair?).toList := by
    intro name named
    rw [filter_takenPairs _ named, params_draft, get?_signedParams]
  refine ⟨fun pair mem => (List.mem_filter.mp mem).2, once, fun name time text mem => ?_,
    fun pair mem other => ?_⟩
  · have found := Params.get?_of_mem_pairs mem
    obtain ⟨p, there, own⟩ := Option.bind_eq_some_iff.mp found
    have named : isProtocolName name = true := isProtocolName_control name (by
      simp only [List.mem_cons, List.not_mem_nil, or_false] at time
      rcases time with rfl | rfl <;> decide)
    rw [once name named, signedParam?, textOf?_ownTexts_of_time time, there]
    simp [own]
  · obtain ⟨mem, named⟩ := List.mem_filter.mp mem
    obtain ⟨q, hq, own⟩ := List.mem_filterMap.mp mem
    refine List.mem_append_left _ (List.mem_filter.mpr ⟨?_, by simp [named]⟩)
    rcases Params.mem_place hq with rfl | hq
    · exact absurd (Params.name_of_pair? own) other
    · exact List.mem_filterMap.mpr ⟨q, hq, own⟩

def requiredNames (c : Credentials) : List String :=
  ["oauth_version", "oauth_timestamp", "oauth_nonce", "oauth_consumer_key",
    "oauth_signature_method", signatureName] ++ if c.token.isSome then ["oauth_token"] else []

theorem isSome_signedParam? {c : Credentials} {name : String} (h : name ∈ requiredNames c)
    (m : Moment) (signature : String) (ps : Params) :
    ∃ p, signedParam? c m signature ps name = some p := by
  rw [← Option.isSome_iff_exists]
  cases token : c.token with
  | none =>
    simp only [requiredNames, token, Option.isSome_none, Bool.false_eq_true, if_false,
      List.append_nil, List.mem_cons, List.not_mem_nil, or_false] at h
    rcases h with rfl | rfl | rfl | rfl | rfl | rfl <;>
      simp [signedParam?, ownTexts, token, momentTexts, textOf?_cons, signatureName]
  | some value =>
    simp only [requiredNames, token, Option.isSome_some, if_true, List.cons_append,
      List.nil_append, List.mem_cons, List.not_mem_nil, or_false] at h
    rcases h with rfl | rfl | rfl | rfl | rfl | rfl | rfl <;>
      simp [signedParam?, ownTexts, token, momentTexts, textOf?_cons, signatureName]

/-- What a signer that has no header leaves. -/
structure AmongParams (c : Credentials) (d d' : Draft) : Prop where
  headers : d'.headers = d.headers
  once : ∀ name ∈ requiredNames c, ∃ p, d'.params.items.filter (·.name = name) = [p]

theorem amongParams_draft (sg : Signing s e m d) : AmongParams s.credentials d sg.draft := by
  refine ⟨rfl, fun name required => ?_⟩
  obtain ⟨p, found⟩ := isSome_signedParam? required m sg.signature d.params
  exact ⟨p, by rw [Params.filter_name, params_draft, get?_signedParams, found, Option.toList_some]⟩

/-- What a signer leaves that has a header for the protocol's parameters. No text of the
protocol's is among the parameters, and so none is in a form, behind the URL or in the body. -/
structure InHeader (d d' : Draft) : Prop where
  gone : ∀ p ∈ d'.params.items, isProtocolName p.name = true → p.isText = false
  form : Form.decodeString (formText d'.params) = d.params.pairs.filter (!isProtocolName ·.1)

theorem pairs_moveToHeader (realm : Option String) (d : Draft) :
    (moveToHeader realm d).params.pairs = d.params.pairs.filter (!isProtocolName ·.1) :=
  Params.filterMap_filter_not_name isProtocolName d.params.items

theorem pairs_draft_business (sg : Signing s e m d) :
    sg.draft.params.pairs.filter (!isProtocolName ·.1) =
      d.params.pairs.filter (!isProtocolName ·.1) := by
  rw [params_draft, Params.pairs, Params.pairs,
    ← Params.filterMap_pair?_filter (!isProtocolName ·), filter_signedParams,
    Params.filterMap_pair?_filter (!isProtocolName ·)]

theorem inHeader_draft (sg : Signing s e m d) (realm : Option String) :
    InHeader d (moveToHeader realm sg.draft) := by
  refine ⟨fun p mem named => ?_, ?_⟩
  · have kept := (List.mem_filter.mp mem).2
    simpa [isProtocolParam, named] using kept
  · rw [formText, Form.decodeString_encode, pairs_moveToHeader, pairs_draft_business]

theorem sameBusiness_draft (sg : Signing s e m d) : SameBusiness d sg.draft :=
  ⟨filter_signedParams s.credentials m sg.signature d.params, rfl, rfl, rfl⟩

theorem SameBusiness.trans {d d' d'' : Draft} (first : SameBusiness d d')
    (second : SameBusiness d' d'') : SameBusiness d d'' :=
  ⟨second.params.trans first.params, second.method.trans first.method,
    second.function.trans first.function, second.headers.trans first.headers⟩

/-- A signed call asks for what it asked for, says each text of the protocol once, and says it
where its signer has it said. -/
theorem business_undisturbed (h : (s.signCall e m d).result = .ok ()) :
    ∃ sg : Signing s e m d, SameBusiness d (s.signCall e m d).state ∧
      ProtocolSent sg (sentPairs s.placement (s.signCall e m d).state) ∧
      match s.placement with
      | .params => AmongParams s.credentials d (s.signCall e m d).state
      | .header _ => InHeader d (s.signCall e m d).state := by
  obtain ⟨sg⟩ := signing_of_ok h
  have left : (s.signCall e m d).state = place s.placement sg.draft := sg.left
  refine ⟨sg, ?_, ?_, ?_⟩
  · rw [left]
    exact (sameBusiness_draft sg).trans (sameBusiness_place s.placement sg.draft)
  · rw [left, sentPairs_place]
    exact protocolSent_draft sg
  · rw [left]
    cases s.placement with
    | params => exact amongParams_draft sg
    | header realm => exact inHeader_draft sg realm

end

def albumSigner : Signer :=
  { Signer.ofCredentials ⟨"dpf43f3p2l4k3l03", "kd94hf93k423kf44", some "nnch734d00sl2jdk",
    some "pfkkdhi9sl3r4s00", .plaintext⟩ with placement := .header (some "Photos") }

def albumEndpoint : Endpoint := .ofConfig (.ofTemplate "http://photos.example.net/albums")

def albumDraft : Draft :=
  { Draft.empty with
    method := .post
    function := some "7/photos"
    params := .ofList [⟨"title", .text "Vacation"⟩, ⟨"oauth_nonce", .text "chapoH"⟩,
      ⟨"oauth_photo", .binary [0xFF, 0xD8] "image/jpeg" none⟩, ⟨"oauth_token", .text "stale"⟩,
      ⟨"photo", .binary [0xFF, 0xD8] "image/jpeg" (some "1.jpg")⟩] }

def albumMoment : Moment := ⟨⟨1191242096, 0⟩, "kllo9940pd9333jh", "boundary"⟩

theorem album_undisturbed :
    (albumSigner.signCall albumEndpoint albumMoment albumDraft).result = .ok () ∧
      let sent := (albumSigner.signCall albumEndpoint albumMoment albumDraft).state
      let pairs := sentPairs albumSigner.placement sent
      businessParams sent = [⟨"title", .text "Vacation"⟩,
        ⟨"photo", .binary [0xFF, 0xD8] "image/jpeg" (some "1.jpg")⟩] ∧
      pairs.filter (·.1 = "oauth_nonce") = [("oauth_nonce", "chapoH")] ∧
      pairs.filter (·.1 = "oauth_token") = [("oauth_token", "nnch734d00sl2jdk")] ∧
      pairs.filter (·.1 = "oauth_photo") = [] ∧
      Form.decodeString (formText sent.params) = [("title", "Vacation")] := by
  have signs : (albumSigner.signCall albumEndpoint albumMoment albumDraft).result = .ok () := by
    decide +kernel
  obtain ⟨sg, same, protocol, placed⟩ := business_undisturbed signs
  exact ⟨signs, same.params, protocol.given "oauth_nonce" (by simp) "chapoH" (by decide),
    protocol.once "oauth_token" (by decide), protocol.once "oauth_photo" (by decide), placed.form⟩

end SignedRest.OAuth1
