import Mathlib.Data.List.Forall2
import SignedRest.Proofs.MultipartGrammar
import SignedRest.Proofs.Utf8

/-! A multipart body is read back as the parameters that it was made of. What ends a part is a
line end followed by the delimiter: a content may hold any line ends and hyphens as long as the
delimiter is not in it, and a name or file name cannot hold a line end at all. -/
namespace SignedRest.Multipart

theorem mem_escapeChar {c d : Char} (h : c ∈ escapeChar d) : c ≠ '"' ∧ c ≠ '\r' ∧ c ≠ '\n' := by
  unfold escapeChar at h
  split at h
  · simp at h
    rcases h with rfl | rfl <;> decide
  split at h
  · simp at h
    rcases h with rfl | rfl | rfl <;> decide
  split at h
  · simp at h
    rcases h with rfl | rfl | rfl <;> decide
  · obtain rfl := List.mem_singleton.mp h
    exact ⟨‹_›, ‹_›, ‹_›⟩

theorem mem_escape {s : String} {c : Char} (h : c ∈ (escape s).toList) :
    c ≠ '"' ∧ c ≠ '\r' ∧ c ≠ '\n' := by
  rw [escape, String.toList_ofList] at h
  obtain ⟨d, -, hc⟩ := List.mem_flatMap.mp h
  exact mem_escapeChar hc

theorem return_not_mem_encode {s : String} (h : '\r' ∉ s.toList) : 0x0D ∉ Utf8.encode s :=
  fun mem => h (Utf8.mem_of_mem_encode (by decide) mem)

theorem return_not_mem_escape (s : String) : '\r' ∉ (escape s).toList :=
  fun mem => (mem_escape mem).2.1 rfl

theorem quote_not_mem_encode_escape (s : String) : 0x22 ∉ Utf8.encode (escape s) :=
  fun mem => (mem_escape (Utf8.mem_of_mem_encode (by decide) mem)).1 rfl

def nameLabel : String := "Content-Disposition: form-data; name=\""
def fileLabel : String := "; filename=\""
def typeLabel : String := "Content-Type: "

theorem disposition_eq (p : Param) :
    disposition p = (nameLabel ++ escape p.name ++ "\"") ++
      match p.fileName? with
      | some file => fileLabel ++ escape file ++ "\""
      | none => "" := rfl

theorem headerLines_eq (p : Param) :
    headerLines p = disposition p :: (p.contentType?.map (typeLabel ++ ·)).toList := by
  unfold headerLines
  cases p.contentType? <;> rfl

structure IsLine (line : String) : Prop where
  nonempty : line ≠ ""
  unbroken : '\r' ∉ line.toList

theorem isLine_append {label rest : String} (label_ : IsLine label) (rest_ : '\r' ∉ rest.toList) :
    IsLine (label ++ rest) := by
  refine ⟨fun h => label_.nonempty ?_, ?_⟩
  · exact (String.append_eq_empty_iff.mp h).1
  · rw [String.toList_append, List.mem_append]
    exact not_or.mpr ⟨label_.unbroken, rest_⟩

theorem isLine_disposition (p : Param) : IsLine (disposition p) := by
  have label : IsLine nameLabel := ⟨by decide, by decide⟩
  have named := isLine_append label (return_not_mem_escape p.name)
  have file : '\r' ∉ fileLabel.toList := by decide
  rw [disposition_eq]
  refine isLine_append (isLine_append named (by decide)) ?_
  cases p.fileName? with
  | none => decide
  | some name => simp [String.toList_append, return_not_mem_escape name, file]

theorem isLine_of_mem_headerLines {p : Param} {line : String}
    (types : ∀ type, p.contentType? = some type → '\r' ∉ type.toList)
    (h : line ∈ headerLines p) : IsLine line := by
  rw [headerLines_eq] at h
  rcases List.mem_cons.mp h with rfl | h
  · exact isLine_disposition p
  · obtain ⟨type, own, rfl⟩ := Option.map_eq_some_iff.mp (Option.mem_toList.mp h)
    exact isLine_append ⟨by decide, by decide⟩ (types type own)

theorem encode_ne_nil {s : String} (h : s ≠ "") : Utf8.encode s ≠ [] :=
  fun empty => h (Utf8.encode_injective (empty.trans Utf8.encode_empty.symm))

theorem IsLine.legible {line : String} (h : IsLine line) : Legible (Utf8.encode line) :=
  ⟨encode_ne_nil h.nonempty, fun inside =>
    return_not_mem_encode h.unbroken (inside.subset (by simp [crlf]))⟩

def Part.ofParam (p : Param) : Part := ⟨(headerLines p).map Utf8.encode, p.content⟩

/-- The delimiter stands among the characters of a text, or among the bytes of anything else. -/
def Holds (boundary : String) (p : Param) : Prop :=
  match p.value with
  | .text s => ("--" ++ boundary).toList <:+: s.toList
  | .binary content _ _ => delimiter boundary <:+: content

theorem not_infix_content {boundary : String} {p : Param} (h : ¬ Holds boundary p) :
    ¬ delimiter boundary <:+: p.content := by
  obtain ⟨name, value⟩ := p
  cases value with
  | binary content type file => exact h
  | text s =>
    intro mem
    have start : Utf8.encode ("--" ++ boundary) = 0x2D :: 0x2D :: Utf8.encode boundary := by
      rw [Utf8.encode_append]
      rfl
    exact h (Utf8.infix_of_encode (by decide) start mem)

/-- What a boundary and parameters promise each other: no content holds the delimiter, and no
line is broken where it should not be. -/
structure Fits (boundary : String) (params : List Param) : Prop where
  unbroken : '\r' ∉ boundary.toList
  contents : ∀ p ∈ params, ¬ Holds boundary p
  types : ∀ p ∈ params, ∀ type, p.contentType? = some type → '\r' ∉ type.toList

theorem absent_of_not_infix {boundary : String} (unbroken : '\r' ∉ boundary.toList)
    {content : Bytes} (absent : ¬ delimiter boundary <:+: content) :
    ¬ divider boundary <:+: content ++ (divider boundary).dropLast := by
  have word : divider boundary = 0x0D :: 0x0A :: delimiter boundary := rfl
  rw [word]
  refine absent_append_dropLast ?_ ?_
  · have start : '\r' ∉ ("--" ++ boundary).toList := by
      simp [String.toList_append, unbroken]
    simpa [delimiter] using return_not_mem_encode start
  · intro h
    exact absent (List.IsInfix.trans (List.suffix_append crlf _).isInfix h)

theorem readable_ofParam {boundary : String} {p : Param} (unbroken : '\r' ∉ boundary.toList)
    (absent : ¬ delimiter boundary <:+: p.content)
    (types : ∀ type, p.contentType? = some type → '\r' ∉ type.toList) :
    (Part.ofParam p).Readable boundary := by
  refine ⟨fun line mem => ?_, absent_of_not_infix unbroken absent⟩
  obtain ⟨text, own, rfl⟩ := List.mem_map.mp mem
  exact (isLine_of_mem_headerLines types own).legible

theorem text_ofParam (p : Param) :
    (Part.ofParam p).text = headerBlock p ++ (crlf ++ p.content) := by
  simp [Part.text, Part.ofParam, headerBlock, List.flatMap_map]

theorem body_eq (boundary : String) (params : List Param) :
    body boundary params =
      delimiter boundary ++ (written boundary (params.map Part.ofParam) ++ crlf) := by
  induction params with
  | nil =>
    have close : Utf8.encode "--" = [0x2D, 0x2D] := by decide
    simp [body, written, delimiter, close]
  | cons p params ih =>
    have text : body boundary (p :: params) = part boundary p ++ body boundary params := by
      simp [body]
    rw [text, ih, part, List.map_cons, written, text_ofParam, divider]
    simp

theorem read_body {boundary : String} {params : List Param} (h : Fits boundary params) :
    read boundary (body boundary params) = some (params.map Part.ofParam) := by
  refine read_eq_some_iff.mpr ⟨⟨crlf, by rw [body_eq, List.append_assoc]⟩, ?_⟩
  refine List.forall_mem_map.mpr fun p hp => ?_
  exact readable_ofParam h.unbroken (not_infix_content (h.contents p hp)) (h.types p hp)

namespace Part

theorem cutAt_quote (s : String) (rest : Bytes) :
    cutAt quote (Utf8.encode (escape s) ++ (quote ++ rest)) =
      some (Utf8.encode (escape s), rest) :=
  cutAt_append_of_absent (by simp)
    (fun mem => quote_not_mem_encode_escape s (mem.subset (by simp))) rest

theorem dropWord_quoted (label text : String) (rest : Bytes) :
    dropWord (Utf8.encode label) (Utf8.encode (label ++ text ++ "\"") ++ rest) =
      some (Utf8.encode text ++ (quote ++ rest)) := by
  have mark : Utf8.encode "\"" = quote := by decide
  have bytes : Utf8.encode (label ++ text ++ "\"") ++ rest =
      Utf8.encode label ++ (Utf8.encode text ++ (quote ++ rest)) := by
    rw [Utf8.encode_append, Utf8.encode_append, mark, List.append_assoc, List.append_assoc]
  rw [bytes, dropWord_append]

theorem encode_disposition (p : Param) :
    Utf8.encode (disposition p) = Utf8.encode (nameLabel ++ escape p.name ++ "\"") ++
      match p.fileName? with
      | some file => Utf8.encode (fileLabel ++ escape file ++ "\"")
      | none => [] := by
  rw [disposition_eq, Utf8.encode_append]
  cases p.fileName? <;> rfl

theorem disposition?_ofParam (p : Param) :
    (ofParam p).disposition? =
      some (Utf8.encode (escape p.name),
        p.fileName?.map fun file => Utf8.encode (escape file)) := by
  have line : (ofParam p).lines.head? = some (Utf8.encode (disposition p)) := rfl
  simp only [disposition?, line, Option.bind_eq_bind, Option.bind_some]
  rw [encode_disposition, ← nameLabel, dropWord_quoted, Option.bind_some, cutAt_quote]
  cases p.fileName? with
  | none =>
    simp only [Option.bind_some, List.isEmpty_nil, if_true]
    rfl
  | some file =>
    have more : (Utf8.encode (fileLabel ++ escape file ++ "\"")).isEmpty = false := by
      rw [List.isEmpty_eq_false_iff]
      exact encode_ne_nil (by simp)
    have rest := dropWord_quoted fileLabel (escape file) []
    rw [List.append_nil] at rest
    simp only [Option.bind_some, more, Bool.false_eq_true, if_false]
    rw [← fileLabel, rest, Option.bind_some, cutAt_quote]
    simp only [Option.bind_some, List.isEmpty_nil, if_true]
    rfl

theorem contentTypes_ofParam (p : Param) :
    (ofParam p).contentTypes = p.contentType?.toList.map Utf8.encode := by
  have first : dropWord (Utf8.encode typeLabel) (Utf8.encode (disposition p)) = none := by
    have other : ¬ Utf8.encode typeLabel <+: Utf8.encode nameLabel := by decide +kernel
    have short : (Utf8.encode typeLabel).length ≤ (Utf8.encode nameLabel).length := by
      decide +kernel
    refine if_neg fun h => ?_
    rw [List.isPrefixOf_iff_prefix, encode_disposition, Utf8.encode_append, Utf8.encode_append,
      List.append_assoc, List.append_assoc] at h
    exact other (List.prefix_of_prefix_length_le h (List.prefix_append ..) short)
  have lines : (ofParam p).lines = Utf8.encode (disposition p) ::
      (p.contentType?.map fun type => Utf8.encode typeLabel ++ Utf8.encode type).toList := by
    rw [ofParam, headerLines_eq]
    cases p.contentType? <;> simp
  rw [contentTypes, lines, ← typeLabel, List.filterMap_cons_none first]
  cases p.contentType? with
  | none => rfl
  | some type =>
    rw [Option.map_some, Option.toList_some, List.filterMap_cons_some (dropWord_append _ _)]
    rfl

/-- A part says of a parameter all there is to say. -/
structure Shows (part : Part) (p : Param) : Prop where
  lines : part.lines = (headerLines p).map Utf8.encode
  disposition : part.disposition? =
    some (Utf8.encode (escape p.name), p.fileName?.map fun file => Utf8.encode (escape file))
  contentTypes : part.contentTypes = p.contentType?.toList.map Utf8.encode
  content : part.content = p.content

theorem shows_ofParam (p : Param) : Shows (ofParam p) p :=
  ⟨rfl, disposition?_ofParam p, contentTypes_ofParam p, rfl⟩

end Part

/-- A body is read as one part for each parameter, in their order and with their contents byte by
byte. -/
theorem read_payload {boundary : String} {params : Params} (h : Fits boundary params.items) :
    ∃ parts, read boundary (payload boundary params).body = some parts ∧
      List.Forall₂ Part.Shows parts params.items := by
  refine ⟨params.items.map Part.ofParam, read_body h, ?_⟩
  rw [List.forall₂_map_left_iff, List.forall₂_same]
  exact fun p _ => Part.shows_ofParam p

def brokenName : Param := ⟨"a\"\r\n\r\n--photo", .text "\r\n--phot"⟩

def nearDelimiter : Param :=
  ⟨"file", .binary [0x0D, 0x0A, 0x2D, 0x2D, 0x0D, 0x0A, 0x2D] "image/png" (some "b\"\r\n")⟩

def roughParams : Params := ⟨[brokenName, nearDelimiter], by decide⟩

theorem read_roughParams :
    Fits "photo" roughParams.items ∧
      ∃ parts, read "photo" (payload "photo" roughParams).body = some parts ∧
        parts.map (·.content) = [brokenName.content, nearDelimiter.content] := by
  have fits : Fits "photo" roughParams.items := by
    refine ⟨by decide, List.forall_mem_cons.mpr ⟨?_, List.forall_mem_singleton.mpr ?_⟩,
      List.forall_mem_cons.mpr ⟨?_, List.forall_mem_singleton.mpr ?_⟩⟩
    · have absent : ¬ "--photo".toList <:+: "\r\n--phot".toList := by decide +kernel
      exact absent
    · have absent : ¬ delimiter "photo" <:+: nearDelimiter.content := by decide +kernel
      exact absent
    · intro type given
      cases given
    · intro type given
      obtain rfl := Option.some.inj given
      decide
  obtain ⟨parts, read_, shows⟩ := read_payload fits
  refine ⟨fits, parts, read_, ?_⟩
  obtain ⟨first, _, own, more, rfl⟩ := List.forall₂_cons_right_iff.mp shows
  obtain ⟨second, _, other, last, rfl⟩ := List.forall₂_cons_right_iff.mp more
  obtain rfl := List.forall₂_nil_right_iff.mp last
  rw [List.map_cons, List.map_singleton, own.content, other.content]

end SignedRest.Multipart
