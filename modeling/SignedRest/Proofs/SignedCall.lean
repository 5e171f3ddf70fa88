import SignedRest.OAuth1.Signing
import SignedRest.Proofs.Parameters
import SignedRest.Proofs.Preparing

/-! What signing a call leaves behind: the control parameters, and a signature of everything
else. -/
namespace SignedRest.OAuth1

/-- Adding what is missing changes what is found under its own name alone, if at all. -/
theorem get?_addMissing (ps : Params) (name value other : String) :
    (addMissing ps name value).get? other =
      if name = other then ps.get? name <|> some ⟨name, .text value⟩ else ps.get? other := by
  cases present : ps.get? name with
  | none => simp [addMissing, present, Params.get?_addText]
  | some p =>
    by_cases same : name = other
    · simp [addMissing, present, ← same]
    · simp [addMissing, present, same]

theorem get?_addMissing_of_ne {name other : String} (h : name ≠ other) (ps : Params)
    (value : String) : (addMissing ps name value).get? other = ps.get? other := by
  rw [get?_addMissing, if_neg h]

theorem areTexts_addMissing {ps : Params} (h : ps.areTexts = true) (name value : String) :
    (addMissing ps name value).areTexts = true := by
  by_cases present : (ps.get? name).isSome = true
  · simpa [addMissing, present] using h
  · simpa [addMissing, present] using Params.areTexts_addText h name value

def controlNames : List String :=
  ["oauth_version", "oauth_timestamp", "oauth_nonce", "oauth_consumer_key",
    "oauth_signature_method", "oauth_token"]

theorem get?_addControls {name : String} (h : name ∉ controlNames) (c : Credentials) (m : Moment)
    (ps : Params) : (addControls c m ps).get? name = ps.get? name := by
  have other : ∀ control ∈ controlNames, control ≠ name := by
    rintro control mem rfl
    exact h mem
  simp only [controlNames, List.forall_mem_cons] at other
  obtain ⟨version, timestamp, nonce, key, method, token, -⟩ := other
  have five : (addControls { c with token := none } m ps).get? name = ps.get? name := by
    simp [addControls, Params.get?_addText_of_ne, get?_addMissing_of_ne, *]
  cases ht : c.token with
  | none =>
    rw [← five, addControls, addControls, ht]
  | some value =>
    rw [← five, addControls, addControls, ht]
    exact Params.get?_addText_of_ne token _ value

theorem areTexts_addControls {ps : Params} (h : ps.areTexts = true) (c : Credentials)
    (m : Moment) : (addControls c m ps).areTexts = true := by
  have version := Params.areTexts_addText h "oauth_version" "1.0"
  have timestamp := areTexts_addMissing version "oauth_timestamp" (toString m.now.secs)
  have nonce := areTexts_addMissing timestamp "oauth_nonce" m.nonce
  have key := Params.areTexts_addText nonce "oauth_consumer_key" c.consumerKey
  have method := Params.areTexts_addText key "oauth_signature_method" c.method.name
  cases ht : c.token with
  | none =>
    rw [addControls, ht]
    exact method
  | some value =>
    rw [addControls, ht]
    exact Params.areTexts_addText method "oauth_token" value

/-- Every signed call names its method. -/
theorem mem_addControls (c : Credentials) (m : Moment) (ps : Params) :
    ("oauth_signature_method", c.method.name) ∈ (addControls c m ps).pairs := by
  cases ht : c.token with
  | none =>
    rw [addControls, ht]
    exact Params.mem_pairs_addText ..
  | some value =>
    have other : "oauth_signature_method" ≠ "oauth_token" := by decide
    rw [addControls, ht]
    exact Params.mem_pairs_addText_of_ne other (Params.mem_pairs_addText ..) value

theorem sign_of_secret {secret : String} (h : secret ≠ "") (method : SignatureMethod)
    (base : String) (tokenSecret : Option String) :
    ∃ signature, sign method base secret tokenSecret = .ok signature := by
  cases method <;> simp [sign, h]

/-- The draft as it is signed. -/
def Signer.controlled (s : Signer) (m : Moment) (d : Draft) : Draft :=
  { d with params := addControls s.credentials m d.params }

/-- What was signed, and what came of it. -/
structure Signing (s : Signer) (e : Endpoint) (m : Moment) (d : Draft) where
  url : String
  base : String
  query : List Pair
  signature : String
  resolved : d.resolveUrl e = .ok url
  normalized : normalizeUrl url s.signatureHost = .ok (base, query)
  signed : sign s.credentials.method
    (baseString d.method.name base (signedPairs (s.controlled m d).params query))
    s.credentials.consumerSecret s.credentials.tokenSecret = .ok signature
  left : (s.signCall e m d).state =
    place s.placement ((s.controlled m d).addText "oauth_signature" signature)

theorem signing_of_ok {s : Signer} {e : Endpoint} {m : Moment} {d : Draft}
    (h : (s.signCall e m d).result = .ok ()) : Nonempty (Signing s e m d) := by
  have secret : s.credentials.consumerSecret ≠ "" := by
    intro empty
    simp only [Signer.signCall, empty, if_true] at h
    obtain ⟨_, failed, -⟩ := Action.bind_eq_ok h
    cases failed
  have unfolded := congrArg Outcome.state (congrFun (Signer.signCall.eq_1 s e m) d)
  rw [Signer.signCall, if_neg secret] at h
  rw [if_neg secret] at unfolded
  obtain ⟨⟨⟩, -, h, left₁⟩ := Action.bind_eq_ok h
  obtain ⟨d', got, h, left₂⟩ := Action.bind_eq_ok h
  cases got
  obtain ⟨url, resolved, h, left₃⟩ := Action.bind_eq_ok h
  obtain ⟨resolved, same₃⟩ := Action.ofExcept_eq_ok resolved
  rw [same₃] at h left₃
  obtain ⟨⟨base, query⟩, normalized, h, left₄⟩ := Action.bind_eq_ok h
  obtain ⟨normalized, same₄⟩ := Action.ofExcept_eq_ok normalized
  rw [same₄] at h left₄
  obtain ⟨signature, signed, h, left₅⟩ := Action.bind_eq_ok h
  obtain ⟨signed, same₅⟩ := Action.ofExcept_eq_ok signed
  rw [same₅] at h left₅
  have left := unfolded.trans (left₁.trans (left₂.trans (left₃.trans (left₄.trans left₅))))
  refine ⟨url, base, query, signature, resolved, normalized, signed, left.trans ?_⟩
  cases s.debug <;> rfl

end SignedRest.OAuth1
