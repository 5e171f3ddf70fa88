import SignedRest.Endpoint

/-! Templates and what fills them. Places are counted in one scan of the template and filled in
another: the two agree on what a place is. -/
namespace SignedRest

namespace Template

/-- A template with its places filled from left to right, each with the next argument; what is put
in is not looked at again. -/
inductive Filled : List Char → List String → List Char → Prop
  | done : Filled [] [] []
  | place {rest : List Char} {args : List String} {out : List Char} (arg : String) :
      Filled rest args out → Filled ('%' :: 's' :: rest) (arg :: args) (arg.toList ++ out)
  | plain {c : Char} {rest : List Char} {args : List String} {out : List Char} :
      ¬ ['%', 's'] <+: c :: rest → Filled rest args out → Filled (c :: rest) args (c :: out)

variable {c : Char} {cs rest : List Char}

theorem not_prefix_of_plain (h : ∀ more, c = '%' → rest = 's' :: more → False) :
    ¬ ['%', 's'] <+: c :: rest := by
  rintro ⟨more, eq⟩
  obtain ⟨first, second⟩ := List.cons.inj eq
  exact h more first.symm second.symm

theorem exists_pieces (cs : List Char) : ∃ piece more, pieces cs = piece :: more := by
  unfold pieces
  split
  · exact ⟨_, _, rfl⟩
  · exact ⟨_, _, rfl⟩
  · split <;> exact ⟨_, _, rfl⟩

theorem pieces_plain (plain : ¬ ['%', 's'] <+: c :: rest) {piece : List Char}
    {more : List (List Char)} (h : pieces rest = piece :: more) :
    pieces (c :: rest) = (c :: piece) :: more := by
  rw [pieces.eq_def]
  split
  · rename_i eq
    exact absurd (eq ▸ List.prefix_append ['%', 's'] _) plain
  · rename_i eq
    cases eq
  · rename_i eq
    obtain ⟨rfl, rfl⟩ := List.cons.inj eq
    rw [h]

theorem markCount_plain (plain : ¬ ['%', 's'] <+: c :: rest) :
    markCount (c :: rest) = markCount rest := by
  rw [markCount.eq_def]
  split
  · rename_i eq
    exact absurd (eq ▸ List.prefix_append ['%', 's'] _) plain
  · rename_i eq
    cases eq
  · rename_i eq
    rw [(List.cons.inj eq).2]

theorem length_pieces (cs : List Char) : (pieces cs).length = markCount cs + 1 := by
  induction cs using markCount.induct with
  | case1 rest ih => rw [pieces, markCount, List.length_cons, ih]
  | case2 => rfl
  | case3 c rest other ih =>
    have plain := not_prefix_of_plain other
    obtain ⟨piece, more, eq⟩ := exists_pieces rest
    rw [pieces_plain plain eq, markCount_plain plain, ← ih, eq]
    rfl

/-- There is one gap for every place. -/
theorem gapCount_eq (template : String) : gapCount template = placeCount template := by
  rw [gapCount, length_pieces, placeCount, Nat.add_sub_cancel]

theorem filled_interleave {args : List String} (h : args.length = markCount cs) :
    Filled cs args (interleave (pieces cs) args) := by
  induction cs using markCount.induct generalizing args with
  | case1 rest ih =>
    rw [markCount] at h
    obtain ⟨arg, args, rfl⟩ := List.exists_cons_of_length_eq_add_one h
    rw [pieces, interleave, List.nil_append]
    exact .place arg (ih (Nat.succ.inj h))
  | case2 =>
    obtain rfl := List.length_eq_zero_iff.mp h
    exact .done
  | case3 c rest other ih =>
    have plain := not_prefix_of_plain other
    obtain ⟨piece, more, eq⟩ := exists_pieces rest
    rw [markCount_plain plain] at h
    have inner := ih h
    have outer : interleave (pieces (c :: rest)) args = c :: interleave (pieces rest) args := by
      rw [pieces_plain plain eq, eq]
      cases args <;> simp [interleave]
    rw [outer]
    exact .plain plain inner

/-- There is one way to fill a template. -/
theorem filled_iff {args : List String} {out : List Char} :
    Filled cs args out ↔ args.length = markCount cs ∧ out = interleave (pieces cs) args := by
  refine ⟨fun h => ?_, fun ⟨count, eq⟩ => eq ▸ filled_interleave count⟩
  induction h with
  | done => exact ⟨rfl, rfl⟩
  | place arg _ ih =>
    obtain ⟨count, rfl⟩ := ih
    rw [markCount, pieces, interleave, List.nil_append, List.length_cons, count]
    exact ⟨rfl, rfl⟩
  | @plain c rest args out plain _ ih =>
    obtain ⟨count, rfl⟩ := ih
    obtain ⟨piece, more, eq⟩ := exists_pieces rest
    rw [markCount_plain plain, pieces_plain plain eq, eq]
    refine ⟨count, ?_⟩
    cases args <;> simp [interleave]

theorem filled_fill {template : String} {args : List String}
    (h : args.length = placeCount template) :
    Filled template.toList args (fill template args).toList := by
  rw [fill, String.toList_ofList]
  exact filled_interleave h

/-- An argument that looks like a place is none. -/
example : fill "%%s/%s" ["%s", "a"] = "%%s/a" := by decide

end Template

namespace Endpoint

variable {e : Endpoint} {args : List String}

theorem bind_of_count (h : args.length = Template.placeCount e.config.template) :
    e.bind args = .ok { e with bound := some (Template.fill e.config.template args) } := by
  rw [bind, boundUrl, Template.gapCount_eq, if_pos h.symm]
  rfl

theorem bind_of_miscount (h : args.length ≠ Template.placeCount e.config.template) :
    e.bind args = .error (.binding
      (.wrongCount (Template.placeCount e.config.template) args.length)) := by
  rw [bind, boundUrl, Template.gapCount_eq, if_neg (Ne.symm h)]
  rfl

end Endpoint
end SignedRest
