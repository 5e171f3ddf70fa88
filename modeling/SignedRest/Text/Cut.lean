/-! Texts without the blanks at their ends, lists cut at the first occurrence of a word, and texts
cut at the first character of a kind. -/
namespace SignedRest

/-- What Unicode calls white space. -/
def isBlank (c : Char) : Bool :=
  let n := c.toNat
  (9 ≤ n && n ≤ 13) || n = 0x20 || n = 0x85 || n = 0xA0 || n = 0x1680
    || (0x2000 ≤ n && n ≤ 0x200A) || n = 0x2028 || n = 0x2029 || n = 0x202F || n = 0x205F
    || n = 0x3000

def skipBlanks (cs : List Char) : List Char := cs.dropWhile isBlank

def trim (cs : List Char) : List Char := (skipBlanks (skipBlanks cs).reverse).reverse

variable {α : Type} [BEq α]

/-- What stands before and after the first occurrence of a word. -/
def cutAt (word : List α) : List α → Option (List α × List α)
  | [] => if word.isEmpty then some ([], []) else none
  | a :: rest =>
    if word.isPrefixOf (a :: rest) then some ([], (a :: rest).drop word.length)
    else (cutAt word rest).map fun (before, after) => (a :: before, after)

def dropWord (word list : List α) : Option (List α) :=
  if word.isPrefixOf list then some (list.drop word.length) else none

theorem cutAt_length {word list before after : List α} (nonempty : word ≠ [])
    (h : cutAt word list = some (before, after)) : after.length < list.length := by
  induction list generalizing before after with
  | nil =>
    unfold cutAt at h
    split at h
    · simp_all
    · cases h
  | cons a rest ih =>
    simp only [cutAt] at h
    split at h
    · cases h
      have : 0 < word.length := List.length_pos_iff.mpr nonempty
      simp only [List.length_drop, List.length_cons]
      omega
    · obtain ⟨⟨_, _⟩, eq, same⟩ := Option.map_eq_some_iff.mp h
      cases same
      exact Nat.lt_succ_of_lt (ih eq)

section
variable [LawfulBEq α]

theorem dropWord_append (word list : List α) : dropWord word (word ++ list) = some list := by
  simp [dropWord]

omit [BEq α] [LawfulBEq α] in
/-- A word whose first letter does not come again in it cannot begin in a text and end behind. -/
theorem not_prefix_append {c : α} {tail text : List α} (once : c ∉ tail)
    (absent : ¬ (c :: tail) <+: text) (nonempty : text ≠ []) (after : List α) :
    ¬ (c :: tail) <+: text ++ (c :: tail ++ after) := by
  intro found
  obtain ⟨a, text, rfl⟩ := List.exists_cons_of_ne_nil nonempty
  obtain ⟨same, found⟩ := List.cons_prefix_cons.mp found
  rcases Nat.lt_or_ge text.length tail.length with long | short
  · have reached : text ++ [c] <+: tail := by
      refine List.prefix_of_prefix_length_le ?_ found (by rw [List.length_append]; exact long)
      exact (List.prefix_append_right_inj text).mpr ⟨tail ++ after, rfl⟩
    exact once (reached.subset (by simp))
  · refine absent (List.cons_prefix_cons.mpr ⟨same, ?_⟩)
    exact List.prefix_of_prefix_length_le found (List.prefix_append ..) short

omit [BEq α] [LawfulBEq α] in
/-- Whether a word begins at the start of a text that it follows can be seen without its last
letter. -/
theorem prefix_append_dropLast {a : α} {word before : List α} (after : List α) :
    word <+: a :: before ++ word.dropLast ↔ word <+: a :: before ++ (word ++ after) := by
  have longer : a :: before ++ word.dropLast <+: a :: before ++ (word ++ after) :=
    (List.prefix_append_right_inj _).mpr
      ((List.dropLast_prefix word).trans (List.prefix_append word after))
  refine ⟨fun h => h.trans longer, fun h => List.prefix_of_prefix_length_le h longer ?_⟩
  simp only [List.length_append, List.length_cons, List.length_dropLast]
  omega

/-- The first occurrence is where none begins before. -/
theorem cutAt_append {word before : List α} (nonempty : word ≠ [])
    (first : ¬ word <:+: before ++ word.dropLast) (after : List α) :
    cutAt word (before ++ (word ++ after)) = some (before, after) := by
  induction before with
  | nil =>
    obtain ⟨c, tail, rfl⟩ := List.exists_cons_of_ne_nil nonempty
    simp [cutAt]
  | cons a before ih =>
    rw [List.cons_append, List.infix_cons_iff, not_or, ← List.cons_append,
      prefix_append_dropLast after] at first
    have start : word.isPrefixOf (a :: (before ++ (word ++ after))) = false := by
      rw [Bool.eq_false_iff, Ne, List.isPrefixOf_iff_prefix]
      exact first.1
    simp only [List.cons_append, cutAt, start, ih first.2, Bool.false_eq_true, if_false,
      Option.map_some]

theorem cutAt_eq_some_iff {word list before after : List α} (nonempty : word ≠ []) :
    cutAt word list = some (before, after) ↔
      list = before ++ (word ++ after) ∧ ¬ word <:+: before ++ word.dropLast := by
  refine ⟨fun h => ?_, fun ⟨eq, first⟩ => eq ▸ cutAt_append nonempty first after⟩
  induction list generalizing before with
  | nil => simp [cutAt, nonempty] at h
  | cons a rest ih =>
    simp only [cutAt] at h
    split at h
    · rename_i starts
      obtain ⟨after', eq⟩ := List.isPrefixOf_iff_prefix.mp starts
      rw [← eq, List.drop_left] at h
      cases h
      refine ⟨eq.symm, fun inside => ?_⟩
      have shorter := inside.length_le
      have positive := List.length_pos_iff.mpr nonempty
      simp only [List.nil_append, List.length_dropLast] at shorter
      omega
    · rename_i other
      obtain ⟨⟨before', after'⟩, cut, same⟩ := Option.map_eq_some_iff.mp h
      obtain ⟨rfl, rfl⟩ := Prod.mk.inj same
      obtain ⟨eq, first⟩ := ih cut
      refine ⟨by rw [eq, List.cons_append], ?_⟩
      rw [List.cons_append, List.infix_cons_iff, not_or, ← List.cons_append,
        prefix_append_dropLast after', List.cons_append, ← eq]
      exact ⟨fun starts => other (List.isPrefixOf_iff_prefix.mpr starts), first⟩

/-- A text is cut at the first occurrence of a word in one way. -/
theorem append_word_inj {word before before' after after' : List α} (nonempty : word ≠ [])
    (first : ¬ word <:+: before ++ word.dropLast) (first' : ¬ word <:+: before' ++ word.dropLast)
    (same : before ++ (word ++ after) = before' ++ (word ++ after')) :
    before = before' ∧ after = after' := by
  have cut := cutAt_append nonempty first after
  rw [same, cutAt_append nonempty first'] at cut
  obtain ⟨rfl, rfl⟩ := Prod.mk.inj (Option.some.inj cut)
  exact ⟨rfl, rfl⟩

omit [BEq α] [LawfulBEq α] in
theorem infix_append_of_not_mem {c : α} {tail before : List α} (absent : c ∉ before)
    (after : List α) : c :: tail <:+: before ++ after ↔ c :: tail <:+: after := by
  induction before with
  | nil => rfl
  | cons a before ih =>
    have other : ¬ c :: tail <+: a :: (before ++ after) := fun h =>
      absent (by simp [(List.cons_prefix_cons.mp h).1])
    rw [List.cons_append, List.infix_cons_iff, or_iff_right other]
    exact ih fun mem => absent (by simp [mem])

omit [BEq α] [LawfulBEq α] in
/-- A word whose first letter does not come again in it cannot begin in a text without it and end
behind. -/
theorem absent_append_dropLast {c : α} {tail before : List α} (once : c ∉ tail)
    (absent : ¬ (c :: tail) <:+: before) :
    ¬ (c :: tail) <:+: before ++ (c :: tail).dropLast := by
  induction before with
  | nil =>
    intro inside
    have shorter := inside.length_le
    simp only [List.nil_append, List.length_dropLast, List.length_cons] at shorter
    omega
  | cons a before ih =>
    rw [List.infix_cons_iff, not_or] at absent
    have start := not_prefix_append once absent.1 (by simp) []
    rw [List.cons_append, List.infix_cons_iff, not_or, ← List.cons_append,
      prefix_append_dropLast []]
    exact ⟨start, ih absent.2⟩

theorem cutAt_append_of_absent {c : α} {tail before : List α} (once : c ∉ tail)
    (absent : ¬ (c :: tail) <:+: before) (after : List α) :
    cutAt (c :: tail) (before ++ (c :: tail ++ after)) = some (before, after) :=
  cutAt_append (List.cons_ne_nil c tail) (absent_append_dropLast once absent) after

end

section
variable {front : List Char}

theorem takeWhile_append_cons {p : Char → Bool} (all : ∀ c ∈ front, p c = true) {c : Char}
    (stop : p c = false) (rest : List Char) : (front ++ c :: rest).takeWhile p = front := by
  rw [List.takeWhile_append_of_pos all, List.takeWhile_cons_of_neg (by simp [stop]),
    List.append_nil]

theorem dropWhile_append_cons {p : Char → Bool} (all : ∀ c ∈ front, p c = true) {c : Char}
    (stop : p c = false) (rest : List Char) : (front ++ c :: rest).dropWhile p = c :: rest := by
  rw [List.dropWhile_append_of_pos all, List.dropWhile_cons_of_neg (by simp [stop])]

variable {c : Char} (absent : c ∉ front) (rest : List Char)
include absent

theorem decide_ne_of_not_mem : ∀ d ∈ front, decide (d ≠ c) = true := fun _ hd =>
  decide_eq_true fun same => absent (same ▸ hd)

theorem takeWhile_ne_append : (front ++ c :: rest).takeWhile (· ≠ c) = front :=
  takeWhile_append_cons (decide_ne_of_not_mem absent) (by simp) rest

theorem dropWhile_ne_append : (front ++ c :: rest).dropWhile (· ≠ c) = c :: rest :=
  dropWhile_append_cons (decide_ne_of_not_mem absent) (by simp) rest

end

end SignedRest
