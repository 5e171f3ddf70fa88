/-! Decimal numbers without a fraction, read from text. -/
namespace SignedRest.Decimal

def ofDigits (ds : List Char) : Nat := ds.foldl (fun n d => n * 10 + (d.toNat - 48)) 0

/-- A number below a limit; a plus sign may precede it, and zeros. -/
def unsigned? (limit : Nat) (cs : List Char) : Option Nat :=
  let ds := match cs with
    | '+' :: rest => rest
    | _ => cs
  if !ds.isEmpty && ds.all Char.isDigit && ofDigits ds < limit then some (ofDigits ds) else none

/-- Digits that denote a number, behind a plus sign or not. -/
def Spells (cs : List Char) (n : Nat) : Prop :=
  ∃ digits, (cs = digits ∨ cs = '+' :: digits) ∧ digits ≠ [] ∧ digits.all Char.isDigit = true ∧
    ofDigits digits = n

theorem unsigned?_eq_some_iff {limit n : Nat} {cs : List Char} :
    unsigned? limit cs = some n ↔ Spells cs n ∧ n < limit := by
  have read : ∀ digits : List Char, (if !digits.isEmpty && digits.all Char.isDigit &&
      ofDigits digits < limit then some (ofDigits digits) else none) = some n ↔
      (digits ≠ [] ∧ digits.all Char.isDigit = true ∧ ofDigits digits = n) ∧ n < limit := by
    intro digits
    simp only [Option.ite_none_right_eq_some, Option.some.injEq, Bool.and_eq_true,
      Bool.not_eq_true', List.isEmpty_eq_false_iff, decide_eq_true_eq]
    constructor
    · rintro ⟨⟨⟨some_, all⟩, small⟩, rfl⟩
      exact ⟨⟨some_, all, rfl⟩, small⟩
    · rintro ⟨⟨some_, all, rfl⟩, small⟩
      exact ⟨⟨⟨some_, all⟩, small⟩, rfl⟩
  unfold unsigned? Spells
  split
  · rename_i rest
    rw [read]
    constructor
    · rintro ⟨digits, small⟩
      exact ⟨⟨rest, .inr rfl, digits⟩, small⟩
    · rintro ⟨⟨digits, rfl | same, some_, all, value⟩, small⟩
      · simp at all
      · cases same
        exact ⟨⟨some_, all, value⟩, small⟩
  · rename_i plain
    rw [read]
    constructor
    · rintro ⟨digits, small⟩
      exact ⟨⟨cs, .inl rfl, digits⟩, small⟩
    · rintro ⟨⟨digits, rfl | same, more⟩, small⟩
      · exact ⟨more, small⟩
      · exact absurd same (plain digits)

end SignedRest.Decimal
