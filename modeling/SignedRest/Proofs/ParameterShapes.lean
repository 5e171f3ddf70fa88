import SignedRest.Proofs.FormPairs
import SignedRest.Proofs.Preparing

/-! The shape in which parameters are sent. The method decides whether they go behind the URL or
into the body, and their kinds decide whether a body is a form or has parts. A form says all that
its parameters say: it is read back as them, and no other parameters make the same. -/
namespace SignedRest

def bodyMethods : List String := ["POST", "PUT", "PATCH"]

namespace Method

theorem eq_iff {m n : Method} : m = n ↔ m.name = n.name := by
  cases m
  cases n
  simp

theorem hasBody_iff {m : Method} : m.hasBody = true ↔ m.name ∈ bodyMethods := by
  simp [hasBody, bodyMethods, eq_iff, post, put, patch, or_assoc]

end Method

def Param.ofPair (pair : String × String) : Param := ⟨pair.1, .text pair.2⟩

theorem Param.pair?_eq_some_iff {p : Param} {pair : String × String} :
    p.pair? = some pair ↔ p = .ofPair pair := by
  obtain ⟨name, value⟩ := p
  cases value <;> simp [pair?, text?, ofPair, Prod.ext_iff]

namespace Params

theorem areTexts_eq_false_iff {ps : Params} :
    ps.areTexts = false ↔ ∃ p ∈ ps.items, p.text? = none := by
  simp [areTexts, Param.isText]

/-- Nothing is lost when the parameters are texts and only their pairs are looked at. -/
theorem map_ofPair_pairs {ps : Params} (texts : ps.areTexts = true) :
    ps.pairs.map .ofPair = ps.items := by
  have every : ∀ items : List Param, items.all (·.isText) = true →
      (items.filterMap Param.pair?).map .ofPair = items := by
    intro items
    induction items with
    | nil => simp
    | cons p items ih =>
      intro all
      obtain ⟨first, rest⟩ := Bool.and_eq_true_iff.mp all
      obtain ⟨text, own⟩ := Option.isSome_iff_exists.mp first
      have pair : p.pair? = some (p.name, text) := by rw [Param.pair?, own, Option.map_some]
      rw [List.filterMap_cons_some pair, List.map_cons, ih rest, ← Param.pair?_eq_some_iff.mp pair]
  exact every ps.items texts

end Params

theorem formText_injective {ps qs : Params} (h : formText ps = formText qs) :
    ps.pairs = qs.pairs := by
  have read := congrArg Form.decodeString h
  rwa [formText, formText, Form.decodeString_encode, Form.decodeString_encode] at read

/-- Parameters are refused only if a binary one has no body to go into, and then the method is
blamed. Otherwise there is a body exactly if the method has one, and only without one the URL
changes. A form, wherever it stands, is read back as the parameters in their order. -/
theorem encodeParams_lossless (m : Method) (url : String) (ps : Params) (boundary : String) :
    (∀ fault, encodeParams m url ps boundary = .error fault ↔
      ((∃ p ∈ ps.items, p.text? = none) ∧ m.name ∉ bodyMethods) ∧
        fault = .requestBuild (.binaryParams m.name)) ∧
    (∀ sent payload, encodeParams m url ps boundary = .ok (sent, payload) →
      (payload.isSome = true ↔ m.name ∈ bodyMethods) ∧
      (∀ body, payload = some body → sent = url ∧
        body = if ps.areTexts then .form (formText ps) else Multipart.payload boundary ps) ∧
      (payload = none → ps.areTexts = true ∧ sent = appendQuery url (formText ps))) ∧
    (ps.areTexts = true → (Form.decodeString (formText ps)).map .ofPair = ps.items) ∧
    ∀ qs, formText ps = formText qs → ps.pairs = qs.pairs := by
  rw [← Params.areTexts_eq_false_iff, ← Method.hasBody_iff]
  refine ⟨fun fault => ?_, fun sent payload made => ?_, fun texts => ?_,
    fun qs same => formText_injective same⟩
  · rw [encodeParams_eq]
    cases m.hasBody <;> cases ps.areTexts <;> simp [eq_comm]
  · rcases encodeParams_eq_ok made with ⟨texts, body, rfl, rfl⟩ | ⟨texts, body, rfl, rfl⟩ |
      ⟨mixed, body, rfl, rfl⟩
    · simp [texts, body]
    · simp [texts, body]
    · simp [mixed, body]
  · rw [formText, Form.decodeString_encode, Params.map_ofPair_pairs texts]

/-- An empty name, signs of the form itself, and a character of no width come back. -/
example :
    let ps := (Params.empty.addText "" "a&b=c+d%").addText "\u0000 \u00FC" ""
    formText ps = "=a%26b%3Dc%2Bd%25&%00+%C3%BC=" ∧
      (Form.decodeString (formText ps)).map .ofPair = ps.items := by
  decide +kernel

end SignedRest
