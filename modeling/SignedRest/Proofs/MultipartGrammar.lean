import SignedRest.Multipart.Reader

/-! What the reader of multipart bodies takes for parts: lines, an empty line, a content and a
delimiter, as long as nothing in a line or a content ends it too early. -/
namespace SignedRest.Multipart

/-- Bytes that are one line. -/
structure Legible (line : Bytes) : Prop where
  nonempty : line ≠ []
  whole : ¬ crlf <:+: line

theorem crlf_ne_nil : crlf ≠ [] := List.cons_ne_nil _ _

/-- A line may well end with a carriage return of its own. -/
theorem whole_iff (line : Bytes) : ¬ crlf <:+: line ++ crlf.dropLast ↔ ¬ crlf <:+: line :=
  ⟨fun first inside => first (inside.trans (List.prefix_append ..).isInfix),
    absent_append_dropLast (by decide)⟩

theorem readLines_of_empty {bs rest : Bytes} (cut : cutAt crlf bs = some ([], rest)) :
    readLines bs = some ([], rest) := by
  rw [readLines]
  split <;> simp_all

theorem readLines_of_line {bs line rest : Bytes} (cut : cutAt crlf bs = some (line, rest))
    (nonempty : line ≠ []) :
    readLines bs = (readLines rest).map fun (lines, rest) => (line :: lines, rest) := by
  rw [readLines]
  split <;> simp_all

theorem readLines_append {lines : List Bytes} (legible : ∀ line ∈ lines, Legible line)
    (rest : Bytes) :
    readLines (lines.flatMap (· ++ crlf) ++ (crlf ++ rest)) = some (lines, rest) := by
  induction lines with
  | nil => exact readLines_of_empty (cutAt_append crlf_ne_nil (by decide) rest)
  | cons line lines ih =>
    obtain ⟨nonempty, whole⟩ := legible line (by simp)
    have more := ih fun l hl => legible l (by simp [hl])
    have cut := cutAt_append crlf_ne_nil ((whole_iff line).mpr whole)
      (lines.flatMap (· ++ crlf) ++ (crlf ++ rest))
    rw [List.flatMap_cons, List.append_assoc, List.append_assoc, readLines_of_line cut nonempty,
      more]
    rfl

theorem readLines_eq_some_iff {bs rest : Bytes} {lines : List Bytes} :
    readLines bs = some (lines, rest) ↔
      bs = lines.flatMap (· ++ crlf) ++ (crlf ++ rest) ∧ ∀ line ∈ lines, Legible line := by
  refine ⟨fun h => ?_, fun ⟨eq, legible⟩ => eq ▸ readLines_append legible rest⟩
  fun_induction readLines bs generalizing lines rest with
  | case1 => cases h
  | case2 bs own cut =>
    cases h
    exact ⟨((cutAt_eq_some_iff crlf_ne_nil).mp cut).1, by simp⟩
  | case3 bs line own other cut ih =>
    obtain ⟨⟨lines', rest'⟩, more, same⟩ := Option.map_eq_some_iff.mp h
    obtain ⟨rfl, rfl⟩ := Prod.mk.inj same
    obtain ⟨eq, legible⟩ := ih more
    obtain ⟨text, first⟩ := (cutAt_eq_some_iff crlf_ne_nil).mp cut
    refine ⟨?_, List.forall_mem_cons.mpr ⟨⟨fun empty => ?_, (whole_iff line).mp first⟩, legible⟩⟩
    · rw [text, eq, List.flatMap_cons, List.append_assoc, List.append_assoc]
    · exact other empty

def divider (boundary : String) : Bytes := crlf ++ delimiter boundary

theorem divider_ne_nil (boundary : String) : divider boundary ≠ [] := List.cons_ne_nil _ _

namespace Part

def text (part : Part) : Bytes := part.lines.flatMap (· ++ crlf) ++ (crlf ++ part.content)

/-- Nothing in the part is taken for the end of a line, of its head or of the part. -/
structure Readable (boundary : String) (part : Part) : Prop where
  lines : ∀ line ∈ part.lines, Legible line
  content : ¬ divider boundary <:+: part.content ++ (divider boundary).dropLast

end Part

theorem readPart_eq_some_iff {boundary : String} {bs after : Bytes} {part : Part} :
    readPart boundary bs = some (part, after) ↔
      bs = part.text ++ (divider boundary ++ after) ∧ part.Readable boundary := by
  have cut {rest content : Bytes} : cutAt (divider boundary) rest = some (content, after) ↔
      rest = content ++ (divider boundary ++ after) ∧
        ¬ divider boundary <:+: content ++ (divider boundary).dropLast :=
    cutAt_eq_some_iff (divider_ne_nil boundary)
  constructor
  · intro h
    obtain ⟨⟨lines, rest⟩, head, h⟩ := Option.bind_eq_some_iff.mp h
    obtain ⟨⟨content, after'⟩, tail, h⟩ := Option.bind_eq_some_iff.mp h
    cases h
    obtain ⟨text, legible⟩ := readLines_eq_some_iff.mp head
    obtain ⟨rfl, first⟩ := cut.mp tail
    exact ⟨by simp [text, Part.text], legible, first⟩
  · rintro ⟨rfl, legible, first⟩
    have head := readLines_append legible (part.content ++ (divider boundary ++ after))
    have tail := cut.mpr ⟨rfl, first⟩
    have text : part.text ++ (divider boundary ++ after) =
        part.lines.flatMap (· ++ crlf) ++
          (crlf ++ (part.content ++ (divider boundary ++ after))) := by
      simp [Part.text]
    rw [text, readPart, head]
    change (cutAt (divider boundary) _).bind _ = _
    rw [tail]
    rfl

def written (boundary : String) : List Part → Bytes
  | [] => [0x2D, 0x2D]
  | part :: parts => crlf ++ (part.text ++ (divider boundary ++ written boundary parts))

theorem readParts_of_close (boundary : String) (rest : Bytes) :
    readParts boundary (0x2D :: 0x2D :: rest) = some [] := by
  unfold readParts
  exact if_pos rfl

theorem readParts_of_part {boundary : String} {bs after : Bytes} {part : Part}
    (h : readPart boundary bs = some (part, after)) :
    readParts boundary (crlf ++ bs) = (readParts boundary after).map (part :: ·) := by
  have closes : [0x2D, 0x2D].isPrefixOf (0x0D :: 0x0A :: bs) = false := rfl
  simp only [crlf, List.cons_append, List.nil_append]
  rw [readParts.eq_def]
  simp only [closes, Bool.false_eq_true, if_false]
  split <;> simp_all

theorem readParts_written {boundary : String} {parts : List Part}
    (readable : ∀ part ∈ parts, part.Readable boundary) (rest : Bytes) :
    readParts boundary (written boundary parts ++ rest) = some parts := by
  induction parts with
  | nil => exact readParts_of_close boundary rest
  | cons part parts ih =>
    have more := ih fun q hq => readable q (by simp [hq])
    have own : readPart boundary (part.text ++ (divider boundary ++
        (written boundary parts ++ rest))) = some (part, written boundary parts ++ rest) :=
      readPart_eq_some_iff.mpr ⟨rfl, readable part (by simp)⟩
    have text : written boundary (part :: parts) ++ rest =
        crlf ++ (part.text ++ (divider boundary ++ (written boundary parts ++ rest))) := by
      simp [written]
    rw [text, readParts_of_part own, more]
    rfl

theorem readParts_eq_some_iff {boundary : String} {bs : Bytes} {parts : List Part} :
    readParts boundary bs = some parts ↔
      written boundary parts <+: bs ∧ ∀ part ∈ parts, part.Readable boundary := by
  refine ⟨fun h => ?_, fun ⟨⟨rest, eq⟩, readable⟩ => eq ▸ readParts_written readable rest⟩
  fun_induction readParts boundary bs generalizing parts with
  | case1 bs closes =>
    cases h
    exact ⟨List.isPrefixOf_iff_prefix.mp closes, by simp⟩
  | case2 => cases h
  | case3 bs part after own _ ih =>
    obtain ⟨parts', more, rfl⟩ := Option.map_eq_some_iff.mp h
    obtain ⟨⟨rest, eq⟩, readable⟩ := ih more
    obtain ⟨text, own⟩ := readPart_eq_some_iff.mp own
    refine ⟨⟨rest, ?_⟩, List.forall_mem_cons.mpr ⟨own, readable⟩⟩
    simp [written, text, ← eq, crlf]
  | case4 => cases h

/-- A body is read as these parts exactly if it is written so, and nothing in them ends a line or
a part too early. -/
theorem read_eq_some_iff {boundary : String} {bs : Bytes} {parts : List Part} :
    read boundary bs = some parts ↔
      delimiter boundary ++ written boundary parts <+: bs ∧
        ∀ part ∈ parts, part.Readable boundary := by
  unfold read dropWord
  split
  · rename_i starts
    obtain ⟨rest, rfl⟩ := List.isPrefixOf_iff_prefix.mp starts
    rw [Option.bind_some, List.drop_left, readParts_eq_some_iff, List.prefix_append_right_inj]
  · rename_i other
    refine iff_of_false (by simp) fun ⟨starts, _⟩ => other ?_
    exact List.isPrefixOf_iff_prefix.mpr ((List.prefix_append ..).trans starts)

end SignedRest.Multipart
