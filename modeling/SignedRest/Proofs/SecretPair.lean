import Mathlib.Data.List.Infix
import SignedRest.OAuth1.Authorization
import SignedRest.Proofs.BaseString

/-! Two secrets as one text with an `&` between them. The key of the digest has them escaped and
can be taken apart again. A plain signature has them as they are, so that an `&` inside a secret
is taken for the one between them. -/
namespace SignedRest.OAuth1

def join (p : Pair) : String := p.1 ++ "&" ++ p.2

/-- A text cut at its only `&`, with both sides decoded. -/
def splitSecrets (joined : String) : Option Pair :=
  match cutAt ['&'] joined.toList with
  | some (before, after) =>
    if '&' ∈ after then none
    else some (Authorization.decodePair (String.ofList before, String.ofList after))
  | none => none

/-- No `&` stands in either text. -/
def Separable (p : Pair) : Prop := '&' ∉ p.1.toList ∧ '&' ∉ p.2.toList

theorem toList_join (p : Pair) : (join p).toList = p.1.toList ++ '&' :: p.2.toList := by
  simp [join]

theorem separable_encodePair (p : Pair) : Separable (encodePair p) :=
  ⟨Percent.not_mem_encode (by decide) p.1, Percent.not_mem_encode (by decide) p.2⟩

theorem splitSecrets_join {p : Pair} (h : Separable p) :
    splitSecrets (join p) = some (Authorization.decodePair p) := by
  have first : ¬ ['&'] <:+: p.1.toList := fun inside => h.1 (inside.subset (by simp))
  have cut := cutAt_append_of_absent List.not_mem_nil first p.2.toList
  rw [splitSecrets, toList_join]
  simp only [List.singleton_append] at cut
  simp [cut, h.2]

theorem separable_of_splitSecrets {p q : Pair} (h : splitSecrets (join p) = some q) :
    Separable p := by
  rw [splitSecrets, toList_join] at h
  split at h
  · rename_i before after cut
    obtain ⟨whole, first⟩ := (cutAt_eq_some_iff (List.cons_ne_nil '&' [])).mp cut
    have absent : '&' ∉ before := fun mem =>
      first (by simpa using (List.singleton_infix_iff '&' before).mpr mem)
    split at h
    · cases h
    · rename_i last
      have counts := congrArg (List.count '&') whole
      simp only [List.count_append, List.count_cons_self, List.singleton_append,
        List.count_eq_zero_of_not_mem absent, List.count_eq_zero_of_not_mem last] at counts
      exact ⟨List.count_eq_zero.mp (by omega), List.count_eq_zero.mp (by omega)⟩
  · cases h

theorem splitSecrets_join_eq_iff (p : Pair) :
    splitSecrets (join p) = some p ↔ Separable p ∧ Authorization.decodePair p = p := by
  constructor
  · intro h
    have apart := separable_of_splitSecrets h
    rw [splitSecrets_join apart] at h
    exact ⟨apart, Option.some.inj h⟩
  · rintro ⟨apart, same⟩
    rw [splitSecrets_join apart, same]

/-- What the second pair has in front of its `&` reaches beyond one that the first pair has
there. -/
def Regrouped (p q : Pair) : Prop :=
  ∃ middle, q.1 = p.1 ++ "&" ++ middle ∧ p.2 = middle ++ "&" ++ q.2

theorem join_eq_of_regrouped {p q : Pair} (h : Regrouped p q) : join p = join q := by
  obtain ⟨middle, first, second⟩ := h
  rw [join, join, first, second]
  simp only [String.append_assoc]

theorem join_eq_iff (p q : Pair) : join p = join q ↔ p = q ∨ Regrouped p q ∨ Regrouped q p := by
  constructor
  · intro h
    have lists := congrArg String.toList h
    rw [toList_join, toList_join] at lists
    have regroup : ∀ {p q : Pair} {more : List Char}, q.1.toList = p.1.toList ++ more →
        '&' :: p.2.toList = more ++ '&' :: q.2.toList → p = q ∨ Regrouped p q := by
      intro p q more longer rest
      cases more with
      | nil =>
        simp only [List.append_nil, List.nil_append, List.cons.injEq, true_and] at longer rest
        exact .inl (Prod.ext (String.toList_inj.mp longer.symm) (String.toList_inj.mp rest))
      | cons c more =>
        obtain ⟨rfl, behind⟩ := List.cons_eq_cons.mp rest
        refine .inr ⟨String.ofList more, String.toList_inj.mp ?_, String.toList_inj.mp ?_⟩
        · simp [longer]
        · simp [behind]
    rcases List.append_eq_append_iff.mp lists with ⟨more, longer, rest⟩ | ⟨more, longer, rest⟩
    · rcases regroup longer rest with same | regrouped
      · exact .inl same
      · exact .inr (.inl regrouped)
    · rcases regroup longer rest with same | regrouped
      · exact .inl same.symm
      · exact .inr (.inr regrouped)
  · rintro (rfl | h | h)
    · rfl
    · exact join_eq_of_regrouped h
    · exact (join_eq_of_regrouped h).symm

/-- An `&` reaches into any pair that is regrouped, from either side. -/
theorem eq_of_join_eq {p q : Pair} (apart : Separable q) (same : join p = join q) : p = q := by
  rcases (join_eq_iff p q).mp same with eq | ⟨middle, first, -⟩ | ⟨middle, -, second⟩
  · exact eq
  · exact absurd (by simp [first]) apart.1
  · exact absurd (by simp [second]) apart.2

/-- The text of a keyed digest. -/
def digestText (key base : String) : String :=
  String.ofList (Base64.encode Base64.standard ['=']
    (Digest.hmacSha1 (Utf8.encode key) (Utf8.encode base)))

def IsUnreserved (s : String) : Prop := ∀ b ∈ Utf8.encode s, Percent.isUnreserved b = true

theorem join_encodePair_injective {p q : Pair} (same : join (encodePair p) = join (encodePair q)) :
    p = q :=
  encodePair_injective (eq_of_join_eq (separable_encodePair q) same)

theorem splitSecrets_join_encodePair (p : Pair) : splitSecrets (join (encodePair p)) = some p := by
  rw [splitSecrets_join (separable_encodePair p)]
  simp [Authorization.decodePair, encodePair]

theorem join_eq_join_encodePair_iff (p : Pair) :
    join p = join (encodePair p) ↔ IsUnreserved p.1 ∧ IsUnreserved p.2 := by
  rw [IsUnreserved, IsUnreserved, ← Percent.encode_eq_self_iff, ← Percent.encode_eq_self_iff]
  constructor
  · intro same
    obtain ⟨first, second⟩ := Prod.ext_iff.mp (eq_of_join_eq (separable_encodePair p) same)
    exact ⟨first.symm, second.symm⟩
  · rintro ⟨first, second⟩
    rw [encodePair, first, second]

theorem sign_hmacSha1 (base : String) {c : String} (t : Option String) (hc : c ≠ "") :
    sign .hmacSha1 base c t = .ok (digestText (signingKey c t) base) := by
  rw [sign, if_neg hc]
  rfl

theorem sign_plaintext (base : String) {c : String} (t : Option String) (hc : c ≠ "") :
    sign .plaintext base c t = .ok (join (c, t.getD "")) := by
  rw [sign, if_neg hc]
  rfl

/-- The key of the digest is the escaped secrets with an `&` between them. It can be taken apart
again, and no other secrets have it. A plain signature is the secrets as they are: this is the key
for unreserved secrets only. It can be taken apart where no secret has an `&` or an escape in it,
and it is shared by all secrets that differ in which `&` stands between them. -/
theorem secrets_joined (base : String) {c c' : String} (t t' : Option String) (hc : c ≠ "")
    (hc' : c' ≠ "") :
    (sign .hmacSha1 base c t = .ok (digestText (signingKey c t) base) ∧
      signingKey c t = Percent.encode c ++ "&" ++ Percent.encode (t.getD "") ∧
      splitSecrets (signingKey c t) = some (c, t.getD "") ∧
      (signingKey c t = signingKey c' t' ↔ (c, t.getD "") = (c', t'.getD ""))) ∧
    (sign .plaintext base c t = .ok (c ++ "&" ++ t.getD "") ∧
      (c ++ "&" ++ t.getD "" = signingKey c t ↔ IsUnreserved c ∧ IsUnreserved (t.getD "")) ∧
      (splitSecrets (c ++ "&" ++ t.getD "") = some (c, t.getD "") ↔
        Separable (c, t.getD "") ∧ Percent.decodeText c = c ∧
          Percent.decodeText (t.getD "") = t.getD "") ∧
      (sign .plaintext base c t = sign .plaintext base c' t' ↔
        (c, t.getD "") = (c', t'.getD "") ∨ Regrouped (c, t.getD "") (c', t'.getD "") ∨
          Regrouped (c', t'.getD "") (c, t.getD ""))) := by
  have key : ∀ c t, signingKey c t = join (encodePair (c, t.getD "")) := fun _ _ => rfl
  refine ⟨⟨sign_hmacSha1 base t hc, rfl, ?_, ?_⟩, sign_plaintext base t hc, ?_, ?_, ?_⟩
  · rw [key, splitSecrets_join_encodePair]
  · rw [key, key]
    exact ⟨join_encodePair_injective, fun same => by rw [same]⟩
  · exact join_eq_join_encodePair_iff (c, t.getD "")
  · rw [← Prod.mk.injEq]
    exact splitSecrets_join_eq_iff (c, t.getD "")
  · rw [sign_plaintext base t hc, sign_plaintext base t' hc', Except.ok.injEq, join_eq_iff]

/-- Two pairs of secrets with one plain signature, and two keys. -/
theorem secrets_regrouped :
    ("a&b" ≠ "" ∧ "a" ≠ "") ∧
      sign .plaintext "base" "a&b" (some "c") = sign .plaintext "base" "a" (some "b&c") ∧
      signingKey "a&b" (some "c") ≠ signingKey "a" (some "b&c") := by
  have named : "a&b" ≠ "" ∧ "a" ≠ "" := by decide
  obtain ⟨⟨-, -, -, keys⟩, -, -, -, same⟩ :=
    secrets_joined "base" (some "c") (some "b&c") named.1 named.2
  have regrouped : Regrouped ("a", "b&c") ("a&b", "c") := ⟨"b", by decide, by decide⟩
  exact ⟨named, same.mpr (.inr (.inr regrouped)), fun eq => absurd (keys.mp eq) (by decide)⟩

end SignedRest.OAuth1
