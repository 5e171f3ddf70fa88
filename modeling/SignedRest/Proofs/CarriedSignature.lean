import SignedRest.Proofs.Base64
import SignedRest.Proofs.BaseString
import SignedRest.Proofs.RebuiltBase

/-! Calls that carry a signature before they are signed, as a call does whose parameters were
taken from one sent earlier. The signer does not leave the old signature out: it signs it with
the rest. -/
namespace SignedRest.OAuth1

open Verification

def unsigned (ps : Params) : Params := ps.filter (·.name ≠ signatureName)

theorem unsigned_addText {name : String} (h : name ≠ signatureName) (ps : Params)
    (value : String) : unsigned (ps.addText name value) = (unsigned ps).addText name value :=
  Params.filter_addText (· ≠ signatureName) (by simpa using h) ps value

theorem unsigned_addMissing {name : String} (h : name ≠ signatureName) (ps : Params)
    (value : String) :
    unsigned (addMissing ps name value) = addMissing (unsigned ps) name value := by
  have same : (unsigned ps).get? name = ps.get? name :=
    Params.get?_filter (· ≠ signatureName) (by simpa using h) ps
  rw [addMissing, addMissing, same]
  split
  · rfl
  · exact unsigned_addText h ps value

/-- The control parameters are the same whether a signature is there or not. -/
theorem unsigned_addControls (c : Credentials) (m : Moment) (ps : Params) :
    unsigned (addControls c m ps) = addControls c m (unsigned ps) := by
  have other : ∀ name ∈ controlNames, name ≠ signatureName := by decide
  simp only [controlNames, List.forall_mem_cons] at other
  obtain ⟨version, timestamp, nonce, key, method, token, -⟩ := other
  cases ht : c.token with
  | none =>
    rw [addControls, addControls, ht]
    rw [unsigned_addText method, unsigned_addText key, unsigned_addMissing nonce,
      unsigned_addMissing timestamp, unsigned_addText version]
  | some value =>
    rw [addControls, addControls, ht]
    rw [unsigned_addText token, unsigned_addText method, unsigned_addText key,
      unsigned_addMissing nonce, unsigned_addMissing timestamp, unsigned_addText version]

theorem get?_unsigned (ps : Params) : (unsigned ps).get? signatureName = none := by
  refine Params.get?_eq_none_iff.mpr fun p hp => ?_
  simpa using (List.mem_filter.mp hp).2

section
variable {ps : Params} {p : Param} {query : List Pair}

theorem pairs_of_get? (h : ps.get? signatureName = some p) :
    (p.pair?.toList ++ (unsigned ps).pairs).Perm ps.pairs := by
  have all := (Params.perm_of_get? h).filterMap Param.pair?
  cases pair : p.pair? with
  | none => rwa [List.filterMap_cons_none pair] at all
  | some own => rwa [List.filterMap_cons_some pair] at all

theorem areTexts_of_get? (h : ps.get? signatureName = some p) :
    ps.areTexts = (p.isText && (unsigned ps).areTexts) :=
  (Params.perm_of_get? h).all_eq.symm

theorem takenPairs_of_binary (h : ps.get? signatureName = some p) (binary : p.isText = false) :
    (takenPairs (unsigned ps)).Perm (takenPairs ps) := by
  have none_ : p.pair? = none := by
    rw [Param.pair?, Option.map_eq_none_iff]
    simpa [Param.isText] using binary
  have all := pairs_of_get? h
  rw [none_, Option.toList_none, List.nil_append] at all
  exact all.filter _

/-- A signature that is there already is left out of what is signed: none stands in the query,
and one among the parameters is a file, whose part in the call keeps no other parameter from
being signed. -/
def Unheard (ps : Params) (query : List Pair) : Prop :=
  (∀ pair ∈ query, pair.1 ≠ signatureName) ∧
    ∀ p, ps.get? signatureName = some p → p.isText = false ∧
      ((unsigned ps).areTexts = true →
        ∀ pair ∈ (unsigned ps).pairs, isProtocolName pair.1 = true)

theorem unheard_of_perm (h : (signedPairs ps query).Perm
    (signedPairs (unsigned ps) (query.filter (·.1 ≠ signatureName)))) : Unheard ps query := by
  have absent : ∀ pair ∈ signedPairs ps query, pair.1 ≠ signatureName := by
    intro pair mem
    rcases List.mem_append.mp (h.mem_iff.mp mem) with own | own
    · exact Params.name_ne_of_mem_pairs (get?_unsigned ps) (List.mem_filter.mp own).1
    · simpa using (List.mem_filter.mp own).2
  have noQuery : ∀ pair ∈ query, pair.1 ≠ signatureName := fun pair mem =>
    absent pair (List.mem_append_right _ mem)
  refine ⟨noQuery, fun p found => ?_⟩
  have name : p.name = signatureName := Params.name_of_get? found
  have binary : p.isText = false := by
    by_contra text
    obtain ⟨value, text⟩ := Option.isSome_iff_exists.mp (Bool.not_eq_false _ ▸ text)
    have pair : p.pair? = some (signatureName, value) := by rw [Param.pair?, text, name]; rfl
    have mem : (signatureName, value) ∈ ps.pairs :=
      List.mem_filterMap.mpr ⟨p, Params.mem_of_get? found, pair⟩
    have own : isProtocolName signatureName = true := by decide
    refine absent _ (List.mem_append_left _ (List.mem_filter.mpr ⟨mem, ?_⟩)) rfl
    rw [own, Bool.or_true]
  refine ⟨binary, fun texts => ?_⟩
  have mixed : ps.areTexts = false := by rw [areTexts_of_get? found, binary, Bool.false_and]
  have kept : query.filter (·.1 ≠ signatureName) = query := by simpa using noQuery
  rw [signedPairs_of_mixed mixed, signedPairs_of_texts texts, kept,
    List.perm_append_right_iff] at h
  have whole := ((takenPairs_of_binary found binary).trans h).length_eq
  exact List.length_filter_eq_length_iff.mp whole

theorem perm_of_unheard (h : Unheard ps query) : (signedPairs ps query).Perm
    (signedPairs (unsigned ps) (query.filter (·.1 ≠ signatureName))) := by
  obtain ⟨noQuery, file⟩ := h
  have kept : query.filter (·.1 ≠ signatureName) = query := by simpa using noQuery
  rw [kept]
  cases found : ps.get? signatureName with
  | none =>
    have same : unsigned ps = ps := Params.filter_of_get?_none found
    rw [same]
  | some p =>
    obtain ⟨binary, protocol⟩ := file p found
    have mixed : ps.areTexts = false := by rw [areTexts_of_get? found, binary, Bool.false_and]
    rw [signedPairs_of_mixed mixed]
    have taken := (takenPairs_of_binary found binary).symm.append_right query
    by_cases texts : (unsigned ps).areTexts = true
    · have all : takenPairs (unsigned ps) = (unsigned ps).pairs :=
        List.filter_eq_self.mpr (protocol texts)
      rwa [signedPairs_of_texts texts, ← all]
    · rwa [signedPairs_of_mixed (by simpa using texts)]

end

def target (e : Endpoint) (d : Draft) : Except Error Url :=
  (d.resolveUrl e).bind fun url => (Url.parse url).mapError .url

/-- The same place, but for the signatures in the query of the second. -/
def SamePlace : Except Error Url → Except Error Url → Prop
  | .ok u, .ok v =>
    u.withoutTail = v.withoutTail ∧ u.queryPairs = v.queryPairs.filter (·.1 ≠ signatureName)
  | .error e, .error e' => e = e'
  | _, _ => False

theorem samePlace_self {place : Except Error Url}
    (h : ∀ u, place = .ok u → ∀ pair ∈ u.queryPairs, pair.1 ≠ signatureName) :
    SamePlace place place := by
  cases place with
  | error e => rfl
  | ok u => exact ⟨rfl, (List.filter_eq_self.mpr (by simpa using h u rfl)).symm⟩

/-- The first draft is the second without any signature. -/
structure Alike (e e' : Endpoint) (d d' : Draft) : Prop where
  method : d.method = d'.method
  params : d.params = unsigned d'.params
  url : SamePlace (target e d) (target e' d')

section
variable {s : Signer} {e e' : Endpoint} {m : Moment} {d d' : Draft}

theorem Alike.controlled (alike : Alike e e' d d') (s : Signer) (m : Moment) :
    (s.controlled m d).params = unsigned (s.controlled m d').params := by
  rw [Signer.controlled, Signer.controlled, unsigned_addControls, alike.params]

theorem normalizeUrl_target (s : Signer) (e : Endpoint) (d : Draft) :
    ((d.resolveUrl e).bind fun url => normalizeUrl url s.signatureHost) =
      (target e d).bind fun u =>
        (bareOf u s.signatureHost).map fun bare => (bare.write, u.queryPairs) := by
  cases resolved : d.resolveUrl e with
  | error x => rw [target, resolved]; rfl
  | ok url =>
    rw [target, resolved]
    cases parsed : Url.parse url with
    | error x => simp [normalizeUrl, parsed, mapError_error, Except.bind, bind]
    | ok u => simp [normalizeUrl_of_parse parsed, parsed, mapError_ok, Except.bind]

/-- Signing fails for want of a secret or of a URL to sign. -/
theorem result_signCall (s : Signer) (e : Endpoint) (m : Moment) (d : Draft) :
    (s.signCall e m d).result =
      if s.credentials.consumerSecret = "" then .error (.signing .noConsumerSecret)
      else (target e d).bind fun u => (bareOf u s.signatureHost).map fun _ => () := by
  by_cases secret : s.credentials.consumerSecret = ""
  · rw [Signer.signCall, if_pos secret, if_pos secret]
    rfl
  have resolved : (s.controlled m d).resolveUrl e = d.resolveUrl e := rfl
  trans ((d.resolveUrl e).bind fun url => normalizeUrl url s.signatureHost).map fun _ => ()
  · rw [Signer.signCall, if_neg secret, ← resolved, Signer.controlled]
    simp only [Action.result_bind, Action.ofExcept_apply, Action.modify, Action.get, Except.bind]
    split
    · rfl
    · rename_i url _
      cases normalizeUrl url s.signatureHost with
      | error x => rfl
      | ok found =>
        obtain ⟨signature, signed⟩ := sign_of_secret secret s.credentials.method
          (baseString d.method.name found.1
            (signedPairs (addControls s.credentials m d.params) found.2))
          s.credentials.tokenSecret
        simp only [signed]
        cases s.debug <;> rfl
  · rw [normalizeUrl_target, if_neg secret]
    cases target e d with
    | error x => rfl
    | ok u => cases bare : bareOf u s.signatureHost <;> simp [Except.bind, Except.map, bare]

theorem Alike.result (alike : Alike e e' d d') :
    (s.signCall e' m d').result = (s.signCall e m d).result := by
  rw [result_signCall, result_signCall]
  have place := alike.url
  cases here : target e d with
  | error x =>
    cases there : target e' d' with
    | error y =>
      rw [here, there] at place
      obtain rfl : x = y := place
      rfl
    | ok v => rw [here, there] at place; exact place.elim
  | ok u =>
    cases there : target e' d' with
    | error y => rw [here, there] at place; exact place.elim
    | ok v =>
      rw [here, there] at place
      obtain ⟨bare, -⟩ : u.withoutTail = v.withoutTail ∧ _ := place
      simp only [Except.bind, bareOf, bare]

/-- What is signed differs in the old signature alone. -/
theorem Alike.signing (alike : Alike e e' d d') (sg : Signing s e m d) (sg' : Signing s e' m d') :
    sg.base = sg'.base ∧ sg.query = sg'.query.filter (·.1 ≠ signatureName) := by
  obtain ⟨u, parsed, query⟩ := parse_of_normalizeUrl sg.normalized
  obtain ⟨v, parsed', query'⟩ := parse_of_normalizeUrl sg'.normalized
  have here : target e d = .ok u := by
    rw [target, sg.resolved]
    simp [Except.bind, parsed, mapError_ok]
  have there : target e' d' = .ok v := by
    rw [target, sg'.resolved]; simp [Except.bind, parsed', mapError_ok]
  have place := alike.url
  rw [here, there] at place
  obtain ⟨bare, pairs⟩ : u.withoutTail = v.withoutTail ∧
    u.queryPairs = v.queryPairs.filter (·.1 ≠ signatureName) := place
  have same := normalizeUrl_congr sg.normalized parsed parsed' bare.symm
  rw [sg'.normalized] at same
  exact ⟨(Prod.mk.inj (Except.ok.inj same)).1.symm, by rw [query, query', pairs]⟩

theorem Alike.text_iff (alike : Alike e e' d d') (sg : Signing s e m d)
    (sg' : Signing s e' m d') :
    sg'.text = sg.text ↔ Unheard (s.controlled m d').params sg'.query := by
  obtain ⟨base, query⟩ := alike.signing sg sg'
  rw [Signing.text, Signing.text, baseString_eq_iff, alike.method, base, query,
    alike.controlled s m]
  constructor
  · rintro ⟨-, -, perm⟩
    exact unheard_of_perm perm.symm
  · intro unheard
    exact ⟨rfl, rfl, (perm_of_unheard unheard).symm⟩

end

def digest (s : Signer) (text : String) : Bytes :=
  Digest.hmacSha1
    (Utf8.encode (signingKey s.credentials.consumerSecret s.credentials.tokenSecret))
    (Utf8.encode text)

theorem signature_iff {s : Signer} {text text' signature signature' : String}
    (h : sign s.credentials.method text s.credentials.consumerSecret s.credentials.tokenSecret =
      .ok signature)
    (h' : sign s.credentials.method text' s.credentials.consumerSecret s.credentials.tokenSecret =
      .ok signature') :
    signature' = signature ↔
      s.credentials.method = .plaintext ∨ digest s text' = digest s text := by
  have secret : s.credentials.consumerSecret ≠ "" := by
    intro empty
    simp [sign, empty] at h
  cases method : s.credentials.method with
  | plaintext =>
    simp only [method, sign, if_neg secret] at h h'
    obtain rfl := Except.ok.inj h
    obtain rfl := Except.ok.inj h'
    simp
  | hmacSha1 =>
    simp only [method, sign, if_neg secret] at h h'
    obtain rfl := Except.ok.inj h
    obtain rfl := Except.ok.inj h'
    have length : ∀ text, (digest s text).length = 20 := fun text => Digest.hmacSha1_length ..
    rw [String.ofList_inj]
    constructor
    · intro same
      exact .inr (Base64.encode_injective_of_length Base64.standard_proper
        ((length text').trans (length text).symm) same)
    · rintro (other | same)
      · cases other
      · exact congrArg (Base64.encode Base64.standard ['=']) same

/-- Of two calls of which one carries a signature already, either both are signed or neither is.
They are signed alike exactly if nothing is signed but the secrets, if the old signature is not
heard, or if the digest cannot tell the two texts apart. -/
theorem carried_signature {s : Signer} {e e' : Endpoint} {m : Moment} {d d' : Draft}
    (alike : Alike e e' d d') :
    (s.signCall e' m d').result = (s.signCall e m d).result ∧
      ∀ (sg : Signing s e m d) (sg' : Signing s e' m d'),
        (sg'.text = sg.text ↔ Unheard (s.controlled m d').params sg'.query) ∧
        (sg'.signature = sg.signature ↔
          s.credentials.method = .plaintext ∨ Unheard (s.controlled m d').params sg'.query ∨
            (sg'.text ≠ sg.text ∧ digest s sg'.text = digest s sg.text)) := by
  refine ⟨alike.result, fun sg sg' => ⟨alike.text_iff sg sg', ?_⟩⟩
  rw [signature_iff sg.signed sg'.signed, ← alike.text_iff sg sg']
  refine or_congr_right ?_
  by_cases same : sg'.text = sg.text
  · simp only [same, ne_eq, not_true, false_and, or_false, iff_true]
    exact congrArg (digest s) same
  · simp only [same, ne_eq, not_false_eq_true, true_and, false_or]
    rfl

/-- A call as it was sent before, with the signature of that time. -/
def resentDraft : Draft := photosDraft.addText "oauth_signature" "tR3+Ty81lMeYAr/Fid0kMTYa/WM="

def resentSigner : Signer :=
  .ofCredentials (.ofConsumer "dpf43f3p2l4k3l03" "kd94hf93k423kf44")

def resentMoment : Moment := ⟨⟨1191242096, 0⟩, "kllo9940pd9333jh", "boundary"⟩

theorem resent_signed :
    Alike photosEndpoint photosEndpoint photosDraft resentDraft ∧
      ∃ (sg : Signing resentSigner photosEndpoint resentMoment photosDraft)
        (sg' : Signing resentSigner photosEndpoint resentMoment resentDraft),
        sg'.text ≠ sg.text ∧
          (sg'.signature = sg.signature ↔
            digest resentSigner sg'.text = digest resentSigner sg.text) := by
  have alike : Alike photosEndpoint photosEndpoint photosDraft resentDraft := by
    have url : resentDraft.resolveUrl photosEndpoint = photosDraft.resolveUrl photosEndpoint := rfl
    have pairs : (target photosEndpoint photosDraft).toOption.map Url.queryPairs =
        some [("size", "large")] := by decide +kernel
    have place : SamePlace (target photosEndpoint photosDraft)
        (target photosEndpoint photosDraft) := by
      refine samePlace_self fun u found => ?_
      rw [found] at pairs
      rw [Option.some.inj pairs]
      decide
    refine ⟨rfl, by decide, ?_⟩
    rwa [target, target, url, ← target]
  have signs : (resentSigner.signCall photosEndpoint resentMoment photosDraft).result = .ok () := by
    decide +kernel
  obtain ⟨same, heard⟩ := carried_signature (s := resentSigner) (m := resentMoment) alike
  obtain ⟨sg⟩ := signing_of_ok signs
  obtain ⟨sg'⟩ := signing_of_ok (same.trans signs)
  obtain ⟨text, signature⟩ := heard sg sg'
  have own : ¬ Unheard (resentSigner.controlled resentMoment resentDraft).params sg'.query := by
    rintro ⟨-, file⟩
    have binary := (file ⟨"oauth_signature", .text "tR3+Ty81lMeYAr/Fid0kMTYa/WM="⟩
      (by decide +kernel)).1
    cases binary
  have keyed : resentSigner.credentials.method ≠ .plaintext := by decide
  have differ : sg'.text ≠ sg.text := fun same => own (text.mp same)
  refine ⟨alike, sg, sg', differ, ?_⟩
  rw [signature]
  simp only [keyed, own, ne_eq, differ, not_false_eq_true, true_and, false_or]

end SignedRest.OAuth1
