/-! A list cut into consecutive pieces of one size, the last of which may be shorter. -/
namespace SignedRest

def chunks (size : Nat) (l : List α) : List (List α) :=
  if _h : l = [] ∨ size = 0 then []
  else l.take size :: chunks size (l.drop size)
termination_by l.length
decreasing_by
  simp only [not_or] at _h
  have := List.length_pos_iff.mpr _h.1
  rw [List.length_drop]
  omega

@[simp] theorem chunks_nil (size : Nat) : chunks size ([] : List α) = [] := by
  unfold chunks; simp

/-- Nothing is lost or reordered. -/
theorem flatten_chunks {size : Nat} (pos : 0 < size) (l : List α) :
    (chunks size l).flatten = l := by
  fun_induction chunks size l with
  | case1 l h => rcases h with h | h <;> simp_all
  | case2 l h ih => simp [ih]

theorem chunks_of_ne_nil {size : Nat} (pos : 0 < size) {l : List α} (full : l ≠ []) :
    chunks size l = l.take size :: chunks size (l.drop size) := by
  rw [chunks, dif_neg]
  rintro (empty | zero)
  · exact full empty
  · omega

/-- No piece is empty, and none is longer than the size. -/
theorem length_of_mem_chunks {size : Nat} {l piece : List α} (h : piece ∈ chunks size l) :
    piece ≠ [] ∧ piece.length ≤ size := by
  fun_induction chunks size l with
  | case1 l empty => cases h
  | case2 l full ih =>
    rcases List.mem_cons.mp h with rfl | later
    · constructor
      · intro empty
        rw [List.take_eq_nil_iff] at empty
        exact full empty.symm
      · exact List.length_take_le size l
    · exact ih later

/-- Only the last piece may be shorter. -/
theorem length_of_mem_dropLast_chunks {size : Nat} (pos : 0 < size) {l piece : List α}
    (h : piece ∈ (chunks size l).dropLast) : piece.length = size := by
  fun_induction chunks size l with
  | case1 l empty => cases h
  | case2 l full ih =>
    by_cases more : l.drop size = []
    · simp [more] at h
    · rw [chunks_of_ne_nil pos more, List.dropLast_cons_cons, ← chunks_of_ne_nil pos more] at h
      rcases List.mem_cons.mp h with rfl | later
      · have long : size < l.length := by simpa using more
        rw [List.length_take]
        omega
      · exact ih later

/-- Each piece starts at its multiple of the size. -/
theorem getElem?_chunks {size : Nat} (pos : 0 < size) (l : List α) (k : Nat) :
    (chunks size l)[k]? =
      if k * size < l.length then some ((l.drop (k * size)).take size) else none := by
  induction k generalizing l with
  | zero =>
    by_cases full : l = []
    · simp [full]
    · simp [chunks_of_ne_nil pos full, List.length_pos_iff.mpr full]
  | succ k ih =>
    by_cases full : l = []
    · simp [full]
    · have shift : (k + 1) * size = size + k * size := by rw [Nat.succ_mul, Nat.add_comm]
      have bound : k * size < l.length - size ↔ size + k * size < l.length := by omega
      rw [chunks_of_ne_nil pos full, List.getElem?_cons_succ, ih]
      simp only [List.length_drop, List.drop_drop, shift, bound]

end SignedRest
