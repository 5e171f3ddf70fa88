import Mathlib.Data.String.Basic
import SignedRest.OAuth1.Signature
import SignedRest.Proofs.Percent

/-! The base string is a canonical form: it tells apart whatever a signature must tell apart,
and forgets only the order of the parameters and the letter case of the method. -/
namespace SignedRest.OAuth1

theorem eq_of_append_sep {α : Type} {sep : α} {a a' b b' : List α} (hb : sep ∉ b)
    (hb' : sep ∉ b') (h : a ++ sep :: b = a' ++ sep :: b') : a = a' ∧ b = b' := by
  rcases List.append_eq_append_iff.mp h with ⟨more, rfl, eq⟩ | ⟨more, rfl, eq⟩
  · cases more with
    | nil => simpa using eq
    | cons c more =>
      obtain ⟨-, rfl⟩ := List.cons_eq_cons.mp eq
      exact absurd (by simp) hb
  · cases more with
    | nil => simpa [eq_comm] using eq
    | cons c more =>
      obtain ⟨-, rfl⟩ := List.cons_eq_cons.mp eq
      exact absurd (by simp) hb'

theorem intercalate_injective {α : Type} [BEq α] [LawfulBEq α] {sep : α} {l l' : List (List α)}
    (hl : ∀ a ∈ l, sep ∉ a ∧ a ≠ []) (hl' : ∀ a ∈ l', sep ∉ a ∧ a ≠ [])
    (h : [sep].intercalate l = [sep].intercalate l') : l = l' := by
  have nonempty : ∀ {a : List α} {t : List (List α)}, a ≠ [] → [sep].intercalate (a :: t) ≠ [] := by
    intro a t ha
    cases t <;> simp [ha]
  by_cases e : l = []
  · subst e
    cases l' with
    | nil => rfl
    | cons a t => exact absurd h.symm (nonempty (hl' a (by simp)).2)
  · by_cases e' : l' = []
    · subst e'
      cases l with
      | nil => rfl
      | cons a t => exact absurd h (nonempty (hl a (by simp)).2)
    · rw [← List.splitOn_intercalate sep (fun a ha => (hl a ha).1) e, h,
        List.splitOn_intercalate sep (fun a ha => (hl' a ha).1) e']

theorem notAfter_iff {a b : Pair} : notAfter a b = true ↔ a.1 < b.1 ∨ a.1 = b.1 ∧ a.2 ≤ b.2 := by
  simp only [notAfter, Bool.or_eq_true, Bool.and_eq_true, decide_eq_true_eq, Bool.not_eq_true',
    decide_eq_false_iff_not, not_lt]

theorem notAfter_trans (a b c : Pair) (h : notAfter a b = true) (h' : notAfter b c = true) :
    notAfter a c = true := by
  rw [notAfter_iff] at *
  rcases h with h | ⟨e, h⟩ <;> rcases h' with h' | ⟨e', h'⟩
  · exact .inl (lt_trans h h')
  · exact .inl (e' ▸ h)
  · exact .inl (e ▸ h')
  · exact .inr ⟨e.trans e', le_trans h h'⟩

theorem notAfter_total (a b : Pair) : (notAfter a b || notAfter b a) = true := by
  rw [Bool.or_eq_true, notAfter_iff, notAfter_iff]
  rcases lt_trichotomy a.1 b.1 with h | h | h
  · exact .inl (.inl h)
  · rcases le_total a.2 b.2 with h' | h'
    · exact .inl (.inr ⟨h, h'⟩)
    · exact .inr (.inr ⟨h.symm, h'⟩)
  · exact .inr (.inl h)

theorem notAfter_antisymm {a b : Pair} (h : notAfter a b = true) (h' : notAfter b a = true) :
    a = b := by
  rw [notAfter_iff] at h h'
  rcases h with h | ⟨e, h⟩ <;> rcases h' with h' | ⟨e', h'⟩
  · exact absurd h' (lt_asymm h)
  · exact absurd h (e' ▸ lt_irrefl _)
  · exact absurd h' (e ▸ lt_irrefl _)
  · exact Prod.ext e (le_antisymm h h')

theorem encodePair_injective {p q : Pair} (h : encodePair p = encodePair q) : p = q := by
  obtain ⟨h₁, h₂⟩ := Prod.ext_iff.mp h
  exact Prod.ext (Percent.encode_injective h₁) (Percent.encode_injective h₂)

/-- The pairs themselves, in the order in which they are written. -/
def arranged (pairs : List Pair) : List Pair :=
  pairs.mergeSort fun a b => notAfter (encodePair a) (encodePair b)

theorem map_arranged (pairs : List Pair) :
    (arranged pairs).map encodePair = (pairs.map encodePair).mergeSort notAfter :=
  List.map_mergeSort fun _ _ _ _ => rfl

theorem arranged_perm (pairs : List Pair) : (arranged pairs).Perm pairs := List.mergeSort_perm ..

/-- Sorting is a canonical form: pairs that tie are the same. -/
theorem arranged_eq_iff (p q : List Pair) : arranged p = arranged q ↔ p.Perm q := by
  constructor
  · intro h
    exact (arranged_perm p).symm.trans (h ▸ arranged_perm q)
  · intro h
    have sorted : ∀ l, (arranged l).Pairwise fun a b =>
        notAfter (encodePair a) (encodePair b) = true :=
      List.pairwise_mergeSort (fun _ _ _ => notAfter_trans _ _ _) (fun _ _ => notAfter_total _ _)
    refine List.Perm.eq_of_pairwise ?_ (sorted p) (sorted q)
      ((arranged_perm p).trans (h.trans (arranged_perm q).symm))
    intro a b _ _ hab hba
    exact encodePair_injective (notAfter_antisymm hab hba)

def written (p : Pair) : List Char :=
  (Percent.encode p.1).toList ++ '=' :: (Percent.encode p.2).toList

theorem amp_not_mem_written (p : Pair) : '&' ∉ written p := by
  have name := Percent.not_mem_encode (c := '&') (by decide) p.1
  have value := Percent.not_mem_encode (c := '&') (by decide) p.2
  simp [written, name, value]

theorem written_injective : Function.Injective written := by
  intro p q h
  obtain ⟨h₁, h₂⟩ := eq_of_append_sep (Percent.not_mem_encode (by decide) p.2)
    (Percent.not_mem_encode (by decide) q.2) h
  exact Prod.ext (Percent.encode_injective (String.toList_inj.mp h₁))
    (Percent.encode_injective (String.toList_inj.mp h₂))

theorem toList_encodedParams (pairs : List Pair) :
    (encodedParams pairs).toList = ['&'].intercalate ((arranged pairs).map written) := by
  have sep : "&".toList = ['&'] := by simp
  have texts : (((arranged pairs).map encodePair).map fun p => p.1 ++ "=" ++ p.2).map
      String.toList = (arranged pairs).map written := by
    rw [List.map_map, List.map_map]
    apply List.map_congr_left
    intro p _
    simp [written, encodePair]
  rw [encodedParams, String.toList_intercalate, ← map_arranged, texts, sep]

/-- The text of the parameters is the same for the same pairs in another order, and for no other
pairs. -/
theorem encodedParams_eq_iff (p q : List Pair) : encodedParams p = encodedParams q ↔ p.Perm q := by
  constructor
  · intro h
    have lists := congrArg String.toList h
    rw [toList_encodedParams, toList_encodedParams] at lists
    have pieces : ∀ l : List Pair, ∀ a ∈ l.map written, '&' ∉ a ∧ a ≠ [] := by
      intro l a ha
      obtain ⟨r, -, rfl⟩ := List.mem_map.mp ha
      exact ⟨amp_not_mem_written r, by simp [written]⟩
    have same := intercalate_injective (pieces _) (pieces _) lists
    exact (arranged_eq_iff p q).mp (List.map_injective_iff.mpr written_injective same)
  · intro h
    apply String.toList_inj.mp
    rw [toList_encodedParams, toList_encodedParams, (arranged_eq_iff p q).mpr h]

theorem toList_baseString (method url : String) (pairs : List Pair) :
    (baseString method url pairs).toList =
      ((Ascii.upper method).toList ++ '&' :: (Percent.encode url).toList) ++
        '&' :: (Percent.encode (encodedParams pairs)).toList := by
  simp [baseString]

/-- Two base strings are the same exactly when the methods differ in letter case at most, the
URLs are the same, and so are the parameters but for their order. -/
theorem baseString_eq_iff (m m' u u' : String) (p p' : List Pair) :
    baseString m u p = baseString m' u' p' ↔
      Ascii.upper m = Ascii.upper m' ∧ u = u' ∧ p'.Perm p := by
  rw [List.perm_comm, ← encodedParams_eq_iff]
  constructor
  · intro h
    have lists := congrArg String.toList h
    rw [toList_baseString, toList_baseString] at lists
    obtain ⟨front, params⟩ := eq_of_append_sep (Percent.not_mem_encode (by decide) _)
      (Percent.not_mem_encode (by decide) _) lists
    obtain ⟨method, url⟩ := eq_of_append_sep (Percent.not_mem_encode (by decide) _)
      (Percent.not_mem_encode (by decide) _) front
    exact ⟨String.toList_inj.mp method, Percent.encode_injective (String.toList_inj.mp url),
      Percent.encode_injective (String.toList_inj.mp params)⟩
  · rintro ⟨method, rfl, params⟩
    rw [baseString, baseString, method, params]

/-- So the text of the parameters alone does not depend on their order and on nothing else. -/
theorem baseString_canonical (m m' u u' : String) (p p' : List Pair) :
    (baseString m u p = baseString m' u' p' ↔
      Ascii.upper m = Ascii.upper m' ∧ u = u' ∧ p'.Perm p) ∧
    (encodedParams p = encodedParams p' ↔ p'.Perm p) :=
  ⟨baseString_eq_iff m m' u u' p p', by rw [encodedParams_eq_iff, List.perm_comm]⟩

end SignedRest.OAuth1
