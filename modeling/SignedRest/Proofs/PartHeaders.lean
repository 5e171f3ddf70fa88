import SignedRest.Proofs.MultipartReading

/-! What a parameter can do to the parts of a multipart body: names and file names nothing, for
what could end their line is escaped, and a content type, which is written as it is, whatever a
line end in it brings about. -/
namespace SignedRest.Multipart

/-- The content type holds a line end. -/
def BreaksLine (p : Param) : Prop :=
  ∃ type, p.contentType? = some type ∧ ['\r', '\n'] <:+: type.toList

theorem crlf_infix_encode {s : String} : crlf <:+: Utf8.encode s ↔ ['\r', '\n'] <:+: s.toList := by
  have word : Utf8.encode "\r\n" = crlf := by decide
  constructor
  · intro h
    rw [← word] at h
    exact Utf8.infix_of_encode (by decide) word h
  · rintro ⟨before, after, eq⟩
    have text : s = String.ofList before ++ "\r\n" ++ String.ofList after := by
      apply String.toList_injective
      simp [← eq]
    rw [text, Utf8.encode_append, Utf8.encode_append, word]
    exact ⟨_, _, rfl⟩

theorem legible_type_iff (type : String) :
    Legible (Utf8.encode (typeLabel ++ type)) ↔ ¬ ['\r', '\n'] <:+: type.toList := by
  have whole := crlf_infix_encode (s := typeLabel ++ type)
  rw [String.toList_append, infix_append_of_not_mem (by decide)] at whole
  have nonempty : Utf8.encode (typeLabel ++ type) ≠ [] :=
    encode_ne_nil fun empty => absurd (String.append_eq_empty_iff.mp empty).1 (by decide)
  exact ⟨fun h inside => h.whole (whole.mpr inside), fun h => ⟨nonempty, fun inside =>
    h (whole.mp inside)⟩⟩

theorem legible_headerLines_iff (p : Param) :
    (∀ line ∈ (headerLines p).map Utf8.encode, Legible line) ↔ ¬ BreaksLine p := by
  have own := (isLine_disposition p).legible
  rw [headerLines_eq]
  cases type : p.contentType? with
  | none => simp [BreaksLine, type, own]
  | some text => simp [BreaksLine, type, own, legible_type_iff, -Utf8.encode_append]

/-- The boundary is in nothing that the parameter gives. -/
structure Avoids (boundary : String) (p : Param) : Prop where
  name : ¬ boundary.toList <:+: p.name.toList
  fileName : ∀ file, p.fileName? = some file → ¬ boundary.toList <:+: file.toList
  contentType : ∀ type, p.contentType? = some type → ¬ boundary.toList <:+: type.toList
  text : ∀ s, p.value = .text s → ¬ boundary.toList <:+: s.toList
  content : ∀ content type file, p.value = .binary content type file →
    ¬ Utf8.encode boundary <:+: content

theorem Avoids.not_holds {boundary : String} {p : Param} (h : Avoids boundary p) :
    ¬ Holds boundary p := by
  obtain ⟨name, value⟩ := p
  cases value with
  | text s =>
    intro inside
    refine h.text s rfl (List.IsInfix.trans (List.IsSuffix.isInfix ⟨"--".toList, ?_⟩) inside)
    exact String.toList_append.symm
  | binary content type file =>
    intro inside
    refine h.content content type file rfl (List.IsInfix.trans (List.IsSuffix.isInfix ?_) inside)
    exact ⟨Utf8.encode "--", (Utf8.encode_append ..).symm⟩

/-- A divider begins in the content and ends in the divider behind it. -/
def RunsOn (boundary : String) (p : Param) : Prop :=
  divider boundary <:+: p.content ++ (divider boundary).dropLast

theorem not_runsOn {boundary : String} (unbroken : '\r' ∉ boundary.toList) {p : Param}
    (absent : ¬ Holds boundary p) : ¬ RunsOn boundary p :=
  absent_of_not_infix unbroken (not_infix_content absent)

theorem readable_ofParam_iff {boundary : String} {p : Param} :
    (Part.ofParam p).Readable boundary ↔ ¬ BreaksLine p ∧ ¬ RunsOn boundary p :=
  ⟨fun ⟨lines, content⟩ => ⟨(legible_headerLines_iff p).mp lines, content⟩,
    fun ⟨lines, content⟩ => ⟨(legible_headerLines_iff p).mpr lines, content⟩⟩

/-- The body is read as one part for each parameter, with what the parameter says. -/
def Intact (boundary : String) (params : List Param) : Prop :=
  ∃ parts, read boundary (body boundary params) = some parts ∧
    List.Forall₂ Part.Shows parts params

theorem eq_ofParam_of_shows {parts : List Part} {params : List Param}
    (h : List.Forall₂ Part.Shows parts params) : parts = params.map Part.ofParam := by
  induction h with
  | nil => rfl
  | @cons part p parts params shows_ _ ih =>
    obtain ⟨lines, content⟩ := part
    rw [ih, List.map_cons, Part.ofParam, ← shows_.lines, ← shows_.content]

theorem intact_iff_read {boundary : String} {params : List Param} :
    Intact boundary params ↔
      read boundary (body boundary params) = some (params.map Part.ofParam) := by
  constructor
  · rintro ⟨parts, read_, shows_⟩
    rw [read_, eq_ofParam_of_shows shows_]
  · intro read_
    refine ⟨_, read_, ?_⟩
    rw [List.forall₂_map_left_iff, List.forall₂_same]
    exact fun p _ => Part.shows_ofParam p

theorem intact_iff {boundary : String} {params : List Param} :
    Intact boundary params ↔
      (∀ p ∈ params, ¬ BreaksLine p) ∧ ∀ p ∈ params, ¬ RunsOn boundary p := by
  have written_ : delimiter boundary ++ written boundary (params.map Part.ofParam) <+:
      body boundary params := ⟨crlf, by rw [body_eq, List.append_assoc]⟩
  rw [intact_iff_read, read_eq_some_iff, List.forall_mem_map, and_iff_right written_,
    ← forall₂_and]
  simp only [readable_ofParam_iff]

def contentStarts (boundary : String) (here : Nat) : List Part → List Nat
  | [] => []
  | part :: parts =>
    let start := here + (part.lines.flatMap (· ++ crlf)).length + crlf.length
    start :: contentStarts boundary
      (start + part.content.length + (divider boundary ++ crlf).length) parts

/-- There are as many parts as parameters, as many lines in their heads as there should be, and
the contents begin where they should. -/
def Aligned (boundary : String) (params : List Param) : Prop :=
  let here := (delimiter boundary ++ crlf).length
  ∃ parts, read boundary (body boundary params) = some parts ∧
    List.Forall₂ (fun part p => part.lines.length = (headerLines p).length) parts params ∧
    contentStarts boundary here parts = contentStarts boundary here (params.map Part.ofParam)

theorem content_at_start_of_written {boundary : String} {front rest bs : Bytes}
    {parts : List Part} (h : bs = front ++ (written boundary parts ++ rest)) :
    List.Forall₂ (fun start part => part.content <+: bs.drop start)
      (contentStarts boundary (front ++ crlf).length parts) parts := by
  -- what stands in front of the other parts ends with the divider behind this one
  induction parts generalizing front with
  | nil => exact .nil
  | cons part parts ih =>
    let head := front ++ crlf ++ part.lines.flatMap (· ++ crlf) ++ crlf
    have start : (front ++ crlf).length + (part.lines.flatMap (· ++ crlf)).length + crlf.length =
        head.length := by simp only [head, List.length_append]
    have next : head.length + part.content.length + (divider boundary ++ crlf).length =
        (head ++ part.content ++ divider boundary ++ crlf).length := by
      simp only [List.length_append]
      omega
    have own : bs = head ++ (part.content ++ (divider boundary ++
        (written boundary parts ++ rest))) := by
      simp [h, head, written, Part.text]
    have others := @ih (head ++ part.content ++ divider boundary) (by simp [own])
    rw [contentStarts, start]
    refine .cons ?_ (by rwa [next])
    rw [own, List.drop_left]
    exact List.prefix_append ..

/-- The content of every part of a body stands where it is said to begin. -/
theorem content_at_start {boundary : String} {bs : Bytes} {parts : List Part}
    (h : read boundary bs = some parts) :
    List.Forall₂ (fun start part => part.content <+: bs.drop start)
      (contentStarts boundary (delimiter boundary ++ crlf).length parts) parts := by
  obtain ⟨⟨rest, written_⟩, -⟩ := read_eq_some_iff.mp h
  exact content_at_start_of_written (by rw [← written_, List.append_assoc])

/-- Lines that take the place of a parameter's, and are as many, are its own. -/
theorem lines_eq_of_flat {p : Param} {lines : List Bytes} (legible : ∀ line ∈ lines, Legible line)
    (count : lines.length = (headerLines p).length)
    (flat : lines.flatMap (· ++ crlf) = ((headerLines p).map Utf8.encode).flatMap (· ++ crlf)) :
    lines = (headerLines p).map Utf8.encode := by
  have own := (isLine_disposition p).legible
  rw [headerLines_eq] at count flat ⊢
  cases lines with
  | nil => simp at count
  | cons first others =>
    simp only [List.map_cons, List.flatMap_cons, List.append_assoc] at flat
    have first_ := legible first (by simp)
    obtain ⟨same, rest⟩ := append_word_inj crlf_ne_nil ((whole_iff _).mpr first_.whole)
      ((whole_iff _).mpr own.whole) flat
    rw [List.map_cons, List.cons.injEq, and_iff_right same]
    cases type : p.contentType? with
    | none =>
      rw [type] at count
      exact List.length_eq_zero_iff.mp (by simpa using count)
    | some text =>
      rw [type] at count rest
      obtain ⟨line, rfl⟩ := List.length_eq_one_iff.mp (show others.length = 1 by simpa using count)
      have tail : line ++ crlf = Utf8.encode (typeLabel ++ text) ++ crlf := by
        simpa [-Utf8.encode_append] using rest
      rw [List.append_cancel_right tail]
      rfl

/-- Parts that begin where the parameters' do, with as many lines, are the parameters' own. -/
theorem eq_ofParam_of_aligned {boundary : String} {params : List Param} {parts : List Part}
    (counts : List.Forall₂ (fun part p => part.lines.length = (headerLines p).length) parts params)
    (stops : ∀ p ∈ params, ¬ RunsOn boundary p) (readable : ∀ part ∈ parts, part.Readable boundary)
    {here : Nat} (starts : contentStarts boundary here parts =
      contentStarts boundary here (params.map Part.ofParam))
    {rest rest' : Bytes} (same : written boundary parts ++ rest =
      written boundary (params.map Part.ofParam) ++ rest') :
    parts = params.map Part.ofParam := by
  induction counts generalizing here with
  | nil => rfl
  | @cons part p parts params count _ ih =>
    obtain ⟨start, more⟩ := List.cons.inj starts
    -- Heads of one length in front of the same bytes are the same; contents need not be, but both
    -- end at the first divider.
    simp only [List.map_cons, written, Part.text, List.append_assoc] at same
    have heads : (part.lines.flatMap (· ++ crlf)).length =
        ((Part.ofParam p).lines.flatMap (· ++ crlf)).length :=
      Nat.add_left_cancel (Nat.add_right_cancel start)
    obtain ⟨flat, tails⟩ := List.append_inj (List.append_cancel_left same) heads
    have own := readable part (by simp)
    have lines : part.lines = (Part.ofParam p).lines := lines_eq_of_flat own.lines count flat
    obtain ⟨content, later⟩ := append_word_inj (divider_ne_nil boundary) own.content
      (stops p (by simp)) (List.append_cancel_left tails)
    rw [heads, content] at more
    have others := ih (fun q hq => stops q (by simp [hq])) (fun q hq => readable q (by simp [hq]))
      more later
    rw [others, List.map_cons, List.cons.injEq, and_iff_left rfl]
    cases part
    cases lines
    cases content
    rfl

theorem aligned_iff {boundary : String} {params : List Param}
    (stops : ∀ p ∈ params, ¬ RunsOn boundary p) :
    Aligned boundary params ↔ Intact boundary params := by
  rw [intact_iff_read]
  constructor
  · rintro ⟨parts, read_, counts, starts⟩
    obtain ⟨⟨rest, written_⟩, readable⟩ := read_eq_some_iff.mp read_
    rw [body_eq, List.append_assoc] at written_
    have same := List.append_cancel_left written_
    rw [read_, eq_ofParam_of_aligned counts stops readable starts same]
  · intro read_
    refine ⟨_, read_, ?_, rfl⟩
    rw [List.forall₂_map_left_iff, List.forall₂_same]
    exact fun p _ => List.length_map _

def Solid (s : String) : Prop := '\r' ∉ s.toList ∧ '\n' ∉ s.toList

theorem solid_append {s t : String} : Solid (s ++ t) ↔ Solid s ∧ Solid t := by
  simp only [Solid, String.toList_append, List.mem_append]
  tauto

theorem solid_escape (s : String) : Solid (escape s) :=
  ⟨fun mem => (mem_escape mem).2.1 rfl, fun mem => (mem_escape mem).2.2 rfl⟩

theorem solid_disposition (p : Param) : Solid (disposition p) := by
  have label : Solid nameLabel ∧ Solid fileLabel ∧ Solid "\"" := by
    refine ⟨⟨?_, ?_⟩, ⟨?_, ?_⟩, ?_, ?_⟩ <;> decide
  have nothing : Solid "" := by constructor <;> decide
  rw [disposition_eq]
  cases p.fileName? with
  | none => simp only [solid_append, label, solid_escape, nothing, and_self]
  | some file => simp only [solid_append, label, solid_escape, and_self]

theorem solid_headerLines_iff (p : Param) :
    (∀ line ∈ headerLines p, Solid line) ↔ ∀ type, p.contentType? = some type → Solid type := by
  have label : Solid typeLabel := by constructor <;> decide
  rw [headerLines_eq]
  cases p.contentType? <;> simp [solid_append, label, solid_disposition]

/-- With a boundary that is in nothing the parameters give, a body is read as its parameters
exactly if no content type holds a line end, and no content runs on into the divider behind it. No
content does so if the boundary has no carriage return; then less is asked for in vain as well:
parts, header lines and the beginnings of contents are wrong as soon as a content type holds a line
end. Whatever else a reader takes for a line end stands in header lines only if in a content
type. -/
theorem parts_kept_iff {boundary : String} {params : Params}
    (avoids : ∀ p ∈ params.items, Avoids boundary p) :
    (Intact boundary params.items ↔
      (∀ p ∈ params.items, ¬ BreaksLine p) ∧ ∀ p ∈ params.items, ¬ RunsOn boundary p) ∧
    ('\r' ∉ boundary.toList → (∀ p ∈ params.items, ¬ RunsOn boundary p) ∧
      (Aligned boundary params.items ↔ ∀ p ∈ params.items, ¬ BreaksLine p)) ∧
    ((∀ p ∈ params.items, ∀ line ∈ headerLines p, Solid line) ↔
      ∀ p ∈ params.items, ∀ type, p.contentType? = some type → Solid type) := by
  refine ⟨intact_iff, fun unbroken => ?_, forall₂_congr fun p _ => solid_headerLines_iff p⟩
  have stops : ∀ p ∈ params.items, ¬ RunsOn boundary p :=
    fun p hp => not_runsOn unbroken (avoids p hp).not_holds
  exact ⟨stops, by rw [aligned_iff stops, intact_iff, and_iff_left stops]⟩

def splitType : Param := ⟨"a", .binary [0x78] "image/png\r\nX-Evil: 1" none⟩

/-- A file name with a quote and a line end does no harm; a content type with a line end does. -/
theorem kept_nearDelimiter :
    Intact "photo" [nearDelimiter] ∧ (∀ p ∈ [splitType], Avoids "photo" p) ∧
      ¬ Aligned "photo" [splitType] := by
  have near : ∀ p ∈ [nearDelimiter], Avoids "photo" p := by
    refine List.forall_mem_singleton.mpr ⟨by decide +kernel, ?_, ?_, ?_, ?_⟩
    · rintro _ ⟨⟩
      decide +kernel
    · rintro _ ⟨⟩
      decide +kernel
    · rintro _ ⟨⟩
    · rintro _ _ _ ⟨⟩
      decide +kernel
  have split_ : ∀ p ∈ [splitType], Avoids "photo" p := by
    refine List.forall_mem_singleton.mpr ⟨by decide +kernel, ?_, ?_, ?_, ?_⟩
    · rintro _ ⟨⟩
    · rintro _ ⟨⟩
      decide +kernel
    · rintro _ ⟨⟩
    · rintro _ _ _ ⟨⟩
      decide +kernel
  have unbroken : '\r' ∉ "photo".toList := by decide
  have kept := @parts_kept_iff "photo" ⟨[nearDelimiter], by decide⟩ near
  have lost := @parts_kept_iff "photo" ⟨[splitType], by decide⟩ split_
  refine ⟨kept.1.mpr ⟨?_, (kept.2.1 unbroken).1⟩, split_, fun aligned => ?_⟩
  · rw [List.forall_mem_singleton]
    rintro ⟨_, ⟨⟩, inside⟩
    exact absurd inside (by decide +kernel)
  · have solid := (lost.2.1 unbroken).2.mp aligned splitType (by simp)
    exact solid ⟨_, rfl, by decide +kernel⟩

end SignedRest.Multipart
