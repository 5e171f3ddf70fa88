import Mathlib.Data.List.Induction
import Mathlib.Data.List.Infix
import Mathlib.Data.List.TakeWhile
import SignedRest.Error
import SignedRest.Proofs.XmlWriting
import SignedRest.Text.Cut

/-! Each piece of markup as it is written, read back: entities, attributes, tags, comments and
instructions. What is escaped and what is a name has nothing in it that ends a piece too early. -/
namespace SignedRest.Xml

theorem inRanges_nameChars {c : Char} (h : Unicode.inRanges nameStarts c = true) :
    Unicode.inRanges nameChars c = true := by
  rw [Unicode.inRanges, nameChars, List.any_append]
  exact Bool.or_eq_true_iff.mpr (.inl h)

theorem IsName.not_mem {name : List Char} (h : IsName name) {c : Char}
    (other : Unicode.inRanges nameChars c = false) : c ∉ name := by
  intro mem
  have own : Unicode.inRanges nameChars c = true := by
    cases name with
    | nil => exact h.elim
    | cons d rest =>
      rcases List.mem_cons.mp mem with rfl | mem
      · exact inRanges_nameChars h.1
      · exact h.2 c mem
  rw [other] at own
  cases own

theorem isSpace_iff {c : Char} : isSpace c = true ↔ c = ' ' ∨ c = '\t' ∨ c = '\r' ∨ c = '\n' := by
  simp [isSpace, or_assoc]

theorem IsName.isSpace_eq_false {name : List Char} (h : IsName name) {c : Char} (hc : c ∈ name) :
    isSpace c = false := by
  by_contra space
  rcases isSpace_iff.mp (Bool.not_eq_false _ ▸ space) with rfl | rfl | rfl | rfl
  · exact h.not_mem (by decide) hc
  · exact h.not_mem (by decide) hc
  · exact h.not_mem (by decide) hc
  · exact h.not_mem (by decide) hc

theorem IsName.cases {name : List Char} (h : IsName name) :
    ∃ c rest, name = c :: rest ∧ c ≠ '!' ∧ c ≠ '/' ∧ c ≠ '?' := by
  cases name with
  | nil => exact h.elim
  | cons c rest =>
    have other : ∀ d, Unicode.inRanges nameStarts d = false → c ≠ d := by
      rintro d no rfl
      rw [h.1] at no
      cases no
    exact ⟨c, rest, rfl, other _ (by decide), other _ (by decide), other _ (by decide)⟩

theorem Blank.not_mem {text : List Char} (h : Blank text) {c : Char} (other : isSpace c = false) :
    c ∉ text := by
  intro mem
  rw [h c mem] at other
  cases other

theorem Blank.reverse {text : List Char} (h : Blank text) : Blank text.reverse := fun c hc =>
  h c (List.mem_reverse.mp hc)

theorem cutEnd_append {front : List Char} (absent : '>' ∉ front) (rest : List Char) :
    Token.cutEnd (front ++ '>' :: rest) = (front, rest) := by
  rw [Token.cutEnd, takeWhile_ne_append absent, dropWhile_ne_append absent]
  rfl

theorem unescape_of_ne {c : Char} (h : c ≠ '&') (rest : List Char) :
    unescape (c :: rest) = (unescape rest).map (c :: ·) := by
  rw [unescape, if_neg h]

theorem unescape_entity (name : List Char) (plain : ∀ c ∈ name, isEntityEnd c = false) {c : Char}
    (read : entity name = .ok c) (rest : List Char) :
    unescape ('&' :: (name ++ ';' :: rest)) = (unescape rest).map (c :: ·) := by
  have inside : ∀ c ∈ name, (!isEntityEnd c) = true := fun c hc => by rw [plain c hc]; rfl
  have before := takeWhile_append_cons inside (c := ';') (by decide) rest
  have after := dropWhile_append_cons inside (c := ';') (by decide) rest
  rw [unescape, if_pos rfl]
  split
  · rename_i more found
    rw [after] at found
    cases found
    rw [before, read]
    cases unescape rest <;> rfl
  · rename_i other
    exact absurd after (other rest)

/-- A character stands for itself, or for an entity with a name of small letters. -/
theorem escapeChar_cases (c : Char) :
    (escapeChar c = [c] ∧ c ∉ ['&', '<', '>', '"', '\x27']) ∨
      ∃ name, escapeChar c = '&' :: (name ++ [';']) ∧ name.all Char.isLower = true ∧
        entity name = .ok c := by
  unfold escapeChar
  split_ifs with amp lt gt quot apos
  · exact .inr ⟨['a', 'm', 'p'], rfl, rfl, amp ▸ rfl⟩
  · exact .inr ⟨['l', 't'], rfl, rfl, lt ▸ rfl⟩
  · exact .inr ⟨['g', 't'], rfl, rfl, gt ▸ rfl⟩
  · exact .inr ⟨['q', 'u', 'o', 't'], rfl, rfl, quot ▸ rfl⟩
  · exact .inr ⟨['a', 'p', 'o', 's'], rfl, rfl, apos ▸ rfl⟩
  · exact .inl ⟨rfl, by simp [amp, lt, gt, quot, apos]⟩

theorem not_mem_of_isLower {name : List Char} (lower : name.all Char.isLower = true) {c : Char}
    (other : c.isLower = false) : c ∉ name := by
  intro mem
  rw [List.all_eq_true.mp lower c mem] at other
  cases other

theorem unescape_escapeChar (c : Char) (rest : List Char) :
    unescape (escapeChar c ++ rest) = (unescape rest).map (c :: ·) := by
  rcases escapeChar_cases c with ⟨same, other⟩ | ⟨name, same, lower, read⟩
  · rw [same]
    exact unescape_of_ne (fun amp => other (by simp [amp])) rest
  · have plain : ∀ d ∈ name, isEntityEnd d = false := by
      intro d hd
      have noAmp : d ≠ '&' := fun amp => not_mem_of_isLower lower rfl (amp ▸ hd)
      have noEnd : d ≠ ';' := fun semicolon => not_mem_of_isLower lower rfl (semicolon ▸ hd)
      simp [isEntityEnd, noAmp, noEnd]
    rw [same, List.cons_append, List.append_assoc]
    exact unescape_entity name plain read rest

theorem unescape_escape (text : List Char) : unescape (escape text) = .ok text := by
  induction text with
  | nil => rw [escape, List.flatMap_nil, unescape]
  | cons c rest ih =>
    rw [escape, List.flatMap_cons, ← escape, unescape_escapeChar, ih]
    rfl

/-- The characters that are always escaped, but for the `&` that escapes them. -/
theorem not_mem_escape {c : Char} (marked : c ∈ ['<', '>', '"', '\x27']) (text : List Char) :
    c ∉ escape text := by
  intro mem
  obtain ⟨d, -, mem⟩ := List.mem_flatMap.mp mem
  rcases escapeChar_cases d with ⟨same, other⟩ | ⟨name, same, lower, -⟩
  · rw [same, List.mem_singleton] at mem
    exact other (mem ▸ List.mem_cons_of_mem _ marked)
  · have noLetter : ∀ e ∈ ['<', '>', '"', '\x27'], e.isLower = false := by simp
    have absent : c ∉ name := not_mem_of_isLower lower (noLetter c marked)
    have noSign : ∀ e ∈ ['<', '>', '"', '\x27'], e ≠ '&' ∧ e ≠ ';' := by simp
    simp [same, absent, noSign c marked] at mem

theorem quote_not_mem_escape {quote : Char} (quoted : quote = '"' ∨ quote = '\x27')
    (text : List Char) : quote ∉ escape text := by
  rcases quoted with rfl | rfl <;> exact not_mem_escape (by simp) text

theorem isContent_escapeChar {c : Char} (h : isSpace c = false) : IsContent (escapeChar c) := by
  rcases escapeChar_cases c with ⟨same, -⟩ | ⟨name, same, -, -⟩
  · rw [same]
    exact ⟨by simp, by simpa using h, by simpa using h⟩
  · rw [same, ← List.cons_append]
    refine ⟨by simp, by simp [isSpace], fun d last => ?_⟩
    rw [List.getLast?_concat] at last
    cases last
    rfl

theorem IsContent.escape {text : List Char} (h : IsContent text) : IsContent (escape text) := by
  constructor
  case nonempty =>
    cases text with
    | nil => exact absurd rfl h.nonempty
    | cons c rest =>
      have own := isContent_escapeChar (h.starts c rfl)
      exact fun empty => own.nonempty (List.append_eq_nil_iff.mp empty).1
  case starts =>
    intro d first
    cases text with
    | nil => exact absurd rfl h.nonempty
    | cons c rest =>
      have own := isContent_escapeChar (h.starts c rfl)
      apply own.starts d
      rwa [Xml.escape, List.flatMap_cons, List.head?_append_of_ne_nil _ own.nonempty] at first
  case ends =>
    intro d last
    cases text using List.reverseRecOn with
    | nil => exact absurd rfl h.nonempty
    | append_singleton front c =>
      have own := isContent_escapeChar (h.ends c List.getLast?_concat)
      apply own.ends d
      rwa [Xml.escape, List.flatMap_append, List.flatMap_singleton,
        List.getLast?_append_of_ne_nil _ own.nonempty] at last

theorem takeWhile_blank_eq {left : List Char} (blank : Blank left) (rest : List Char) :
    (left ++ '=' :: rest).takeWhile (!isKeyEnd ·) = [] := by
  cases left with
  | nil => rfl
  | cons c left =>
    have space : isSpace c = true := blank c (by simp)
    simp [isKeyEnd, space]

/-- A key ends at a blank or at the sign behind it. -/
theorem split_key {name left : List Char} (key : ∀ c ∈ name, isKeyEnd c = false)
    (blank : Blank left) (rest : List Char) :
    (name ++ (left ++ '=' :: rest)).takeWhile (!isKeyEnd ·) = name ∧
      (name ++ (left ++ '=' :: rest)).dropWhile (!isKeyEnd ·) = left ++ '=' :: rest := by
  have inside : ∀ c ∈ name, (!isKeyEnd c) = true := fun c hc => by rw [key c hc]; rfl
  have stops := takeWhile_blank_eq blank rest
  constructor
  · rw [List.takeWhile_append_of_pos inside, stops, List.append_nil]
  · have whole := List.takeWhile_append_dropWhile (p := (!isKeyEnd ·)) (l := left ++ '=' :: rest)
    rw [stops, List.nil_append] at whole
    rw [List.dropWhile_append_of_pos inside, whole]

theorem attributes_cons {done : List (String × String)} {key : String} (value : String)
    (named : IsName key.toList) (fresh : ∀ p ∈ done, p.1 ≠ key) {before left right : List Char}
    {quote : Char} (blanks : Blank before ∧ Blank left ∧ Blank right)
    (quoted : quote = '"' ∨ quote = '\x27') (more : List Char) :
    attributes done (before ++ (key.toList ++ (left ++ '=' ::
      (right ++ quote :: (escape value.toList ++ quote :: more))))) =
      attributes (done ++ [(key, value)]) more := by
  obtain ⟨c, name, text, -⟩ := named.cases
  have keyChar : ∀ d ∈ c :: name, isSpace d = false ∧ isKeyEnd d = false := by
    intro d hd
    have space := named.isSpace_eq_false (text ▸ hd)
    have other : d ≠ '=' := fun same => named.not_mem (by decide) (text ▸ same ▸ hd)
    simp [isKeyEnd, space, other]
  have quoteChar : isSpace quote = false ∧ (quote = '\x27' || quote = '"') = true := by
    rcases quoted with rfl | rfl <;> decide
  have start := dropWhile_append_cons blanks.1 (keyChar c (by simp)).1 (name ++ (left ++ '=' ::
    (right ++ quote :: (escape value.toList ++ quote :: more))))
  have nameChar : ∀ d ∈ name, isKeyEnd d = false := fun d hd => (keyChar d (by simp [hd])).2
  obtain ⟨inKey, behind⟩ := split_key nameChar blanks.2.1
    (right ++ quote :: (escape value.toList ++ quote :: more))
  have sign := dropWhile_append_cons blanks.2.1 (c := '=') (by decide)
    (right ++ quote :: (escape value.toList ++ quote :: more))
  have opens := dropWhile_append_cons blanks.2.2 quoteChar.1 (escape value.toList ++ quote :: more)
  have closes := dropWhile_ne_append (quote_not_mem_escape quoted value.toList) more
  rw [attributes, text]
  split
  case h_1 found =>
    rw [List.cons_append, start] at found
    cases found
  case h_2 found =>
    rw [List.cons_append, start] at found
    cases found
    rw [inKey, ← text, String.ofList_toList]
    split
    case h_2 other =>
      rw [behind, sign] at other
      exact absurd rfl (other _)
    case h_1 found =>
      rw [behind, sign] at found
      cases found
      have new : done.any (·.1 = key) = false := by simpa using fresh
      rw [if_neg (by simp [new])]
      split
      case h_1 found =>
        rw [opens] at found
        cases found
      case h_2 found =>
        rw [opens] at found
        cases found
        rw [if_pos quoteChar.2]
        split
        case h_1 found =>
          rw [closes] at found
          cases found
        case h_2 found =>
          rw [closes] at found
          cases found
          rw [takeWhile_ne_append (quote_not_mem_escape quoted value.toList), unescape_escape,
            mapError_ok]
          show attributes (done ++ [(key, String.ofList value.toList)]) more = _
          rw [String.ofList_toList]

theorem attributes_of_writes {attrs done : List (String × String)} {inTag space : List Char}
    (h : WritesAttrs attrs inTag) (keys : ∀ p ∈ attrs, IsName p.1.toList)
    (distinct : ((done ++ attrs).map (·.1)).Nodup) (blank : Blank space) :
    attributes done (inTag ++ space) = .ok (done ++ attrs) := by
  -- the keys read so far matter, since a key must not come again
  induction h generalizing done with
  | nil =>
    have nothing : space.dropWhile isSpace = [] := List.dropWhile_eq_nil_iff.mpr blank
    rw [List.nil_append, List.append_nil, attributes]
    split
    · rfl
    · rename_i found
      rw [nothing] at found
      cases found
  | @cons key value rest more before left right quote nonempty blanks quoted others ih =>
    have fresh : ∀ p ∈ done, p.1 ≠ key := by
      intro p hp same
      rw [List.map_append, List.map_cons, List.nodup_append] at distinct
      exact distinct.2.2 p.1 (List.mem_map_of_mem hp) key (by simp) same
    have further : attributes (done ++ [(key, value)]) (more ++ space) =
        .ok (done ++ [(key, value)] ++ rest) :=
      ih (fun p hp => keys p (by simp [hp])) (by simpa using distinct)
    have named := keys (key, value) (by simp)
    have read := attributes_cons value named fresh blanks quoted (more ++ space)
    rw [further, List.append_assoc, List.singleton_append] at read
    simpa using read

theorem elementOf_of_writes {name : String} {attrs : List (String × String)}
    {inTag space : List Char} (h : WritesAttrs attrs inTag)
    (keys : ∀ p ∈ attrs, IsName p.1.toList) (distinct : (attrs.map (·.1)).Nodup)
    (blank : Blank space) :
    elementOf name.toList (inTag ++ space) = .ok (.element name attrs none []) := by
  have read : attributes [] (inTag ++ space) = .ok ([] ++ attrs) :=
    attributes_of_writes h keys distinct blank
  rw [List.nil_append] at read
  rw [elementOf, read, String.ofList_toList]
  rfl

/-- The text leaves a tag open, and no quote. -/
def Passes (text : List Char) : Prop :=
  ∀ more tag after, Token.cutTag none more = some (tag, after) →
    Token.cutTag none (text ++ more) = some (text ++ tag, after)

theorem Passes.append {a b : List Char} (ha : Passes a) (hb : Passes b) : Passes (a ++ b) := by
  intro more tag after h
  rw [List.append_assoc, List.append_assoc]
  exact ha _ _ _ (hb _ _ _ h)

theorem passes_plain {text : List Char} (noEnd : '>' ∉ text) (noQuot : '"' ∉ text)
    (noApos : '\x27' ∉ text) : Passes text := by
  intro more tag after h
  induction text with
  | nil => exact h
  | cons c text ih =>
    simp only [List.mem_cons, not_or] at noEnd noQuot noApos
    have rest := ih noEnd.2 noQuot.2 noApos.2
    simp [Token.cutTag, Ne.symm noEnd.1, Ne.symm noQuot.1, Ne.symm noApos.1, rest]

theorem cutTag_quoted {quote : Char} {text : List Char} (inside : quote ∉ text)
    {more tag after : List Char} (h : Token.cutTag none more = some (tag, after)) :
    Token.cutTag (some quote) (text ++ quote :: more) = some (text ++ quote :: tag, after) := by
  induction text with
  | nil => simp [Token.cutTag, h]
  | cons c text ih =>
    obtain ⟨other, inside⟩ := not_or.mp (List.mem_cons.not.mp inside)
    simp [Token.cutTag, Ne.symm other, ih inside]

theorem passes_quoted {quote : Char} (quoted : quote = '"' ∨ quote = '\x27') {text : List Char}
    (inside : quote ∉ text) : Passes (quote :: (text ++ [quote])) := by
  intro more tag after h
  have shut := cutTag_quoted inside h
  rcases quoted with rfl | rfl <;> simp [Token.cutTag, shut]

theorem Blank.passes {text : List Char} (h : Blank text) : Passes text :=
  passes_plain (h.not_mem (by decide)) (h.not_mem (by decide)) (h.not_mem (by decide))

theorem IsName.passes {name : List Char} (h : IsName name) : Passes name :=
  passes_plain (h.not_mem (by decide)) (h.not_mem (by decide)) (h.not_mem (by decide))

theorem passes_attrs {attrs : List (String × String)} {inTag : List Char}
    (h : WritesAttrs attrs inTag) (keys : ∀ p ∈ attrs, IsName p.1.toList) : Passes inTag := by
  induction h with
  | nil => exact passes_plain (by simp) (by simp) (by simp)
  | @cons key value rest more before left right quote nonempty blanks quoted others ih =>
    have further := ih fun p hp => keys p (by simp [hp])
    have held := passes_quoted quoted (quote_not_mem_escape quoted value.toList)
    have sign : Passes ['='] := passes_plain (by simp) (by simp) (by simp)
    have named := (keys (key, value) (by simp)).passes
    have whole := blanks.1.passes.append (named.append (blanks.2.1.passes.append
      (sign.append (blanks.2.2.passes.append (held.append further)))))
    simpa using whole

/-- What stands behind the name of a tag. -/
structure BehindName (tail : List Char) : Prop where
  starts : tail = [] ∨ ∃ c rest, tail = c :: rest ∧ isSpace c = true
  ends : tail.getLast? ≠ some '/'
  passes : Passes tail

theorem getLast?_attrs {attrs : List (String × String)} {inTag : List Char}
    (h : WritesAttrs attrs inTag) : inTag.getLast? ≠ some '/' := by
  induction h with
  | nil => simp
  | @cons key value rest more before left right quote nonempty blanks quoted others ih =>
    have other : quote ≠ '/' := by rcases quoted with rfl | rfl <;> decide
    have split : before ++ (key.toList ++ (left ++ '=' :: (right ++ quote ::
        (escape value.toList ++ quote :: more)))) =
        (before ++ (key.toList ++ (left ++ '=' :: (right ++ quote :: escape value.toList)))) ++
          quote :: more := by simp
    rw [split, List.getLast?_append]
    cases more with
    | nil => simpa using other
    | cons c more =>
      rw [List.getLast?_cons_cons]
      cases last : (c :: more).getLast? with
      | none => simp at last
      | some d => simpa [last] using ih

theorem behindName_of_writes {attrs : List (String × String)} {inTag space : List Char}
    (h : WritesAttrs attrs inTag) (keys : ∀ p ∈ attrs, IsName p.1.toList) (blank : Blank space) :
    BehindName (inTag ++ space) where
  starts := by
    cases h with
    | nil =>
      cases space with
      | nil => exact .inl rfl
      | cons c rest => exact .inr ⟨c, rest, rfl, blank c (by simp)⟩
    | cons before left right quote nonempty blanks quoted others =>
      obtain ⟨c, rest, rfl⟩ := List.exists_cons_of_ne_nil nonempty
      exact .inr ⟨c, _, rfl, blanks.1 c (by simp)⟩
  ends := by
    rw [List.getLast?_append]
    cases last : space.getLast? with
    | none => simpa [last] using getLast?_attrs h
    | some c =>
      have mem := List.mem_of_getLast? last
      have noSlash : '/' ∉ space := blank.not_mem (by decide)
      simpa using fun same : c = '/' => noSlash (same ▸ mem)
  passes := (passes_attrs h keys).append blank.passes

section
variable {name tail : List Char} (named : IsName name) (behind : BehindName tail)
include named behind

theorem split_name : (name ++ tail).takeWhile (!isSpace ·) = name ∧
    (name ++ tail).dropWhile (!isSpace ·) = tail := by
  have inside : ∀ c ∈ name, (!isSpace c) = true := fun c hc => by
    rw [named.isSpace_eq_false hc]
    rfl
  rw [List.takeWhile_append_of_pos inside, List.dropWhile_append_of_pos inside]
  rcases behind.starts with rfl | ⟨c, rest, rfl, space⟩
  · simp
  · simp [space]

theorem getLast?_name : (name ++ tail).getLast? ≠ some '/' := by
  rw [List.getLast?_append]
  cases last : tail.getLast? with
  | none =>
    intro found
    have noSlash : '/' ∉ name := named.not_mem (by decide)
    exact noSlash (List.mem_of_getLast? (by simpa using found))
  | some c => simpa [last] using behind.ends

theorem tag_opening : Token.tag (name ++ tail) = .opening name tail := by
  obtain ⟨before, after⟩ := split_name named behind
  simp only [Token.tag, if_neg (getLast?_name named behind), before, after]

theorem tag_empty : Token.tag (name ++ tail ++ ['/']) = .empty name tail := by
  obtain ⟨before, after⟩ := split_name named behind
  simp only [Token.tag, List.getLast?_concat, List.dropLast_concat, if_pos, before, after]

end

theorem markup_tag {name body : List Char} (named : IsName name) (passes : Passes (name ++ body))
    (after : List Char) :
    Token.markup (name ++ body ++ '>' :: after) = (Token.tag (name ++ body), after) := by
  have cut := passes ('>' :: after) [] after rfl
  rw [List.append_nil] at cut
  obtain ⟨c, rest, rfl, noBang, noSlash, noMark⟩ := named.cases
  unfold Token.markup
  split
  · rename_i found
    exact absurd (List.cons.inj found).1 noBang
  · rename_i found
    exact absurd (List.cons.inj found).1 noSlash
  · rename_i found
    exact absurd (List.cons.inj found).1 noMark
  · rw [cut]

theorem closingName_append {name space : List Char} (named : IsName name) (blank : Blank space) :
    Token.closingName (name ++ space) = name := by
  have nameChar : ∀ c ∈ name, Token.closingName.isBlankAscii c = false := by
    intro c hc
    have noFeed : c ≠ '\x0c' := fun same => named.not_mem (by decide) (same ▸ hc)
    simp [Token.closingName.isBlankAscii, named.isSpace_eq_false hc, noFeed]
  have spaceChar : ∀ c ∈ space.reverse, Token.closingName.isBlankAscii c = true := by
    intro c hc
    simp [Token.closingName.isBlankAscii, blank.reverse c hc]
  obtain ⟨c, rest, rfl, -⟩ := named.cases
  have notAll : ¬ (c :: rest ++ space).all Token.closingName.isBlankAscii = true := by
    simp [nameChar c]
  rw [Token.closingName, if_neg notAll, List.reverse_append, List.dropWhile_append_of_pos spaceChar]
  cases turned : (c :: rest).reverse with
  | nil => simp at turned
  | cons d back =>
    have plain := nameChar d (List.mem_reverse.mp (turned ▸ List.mem_cons_self))
    rw [List.dropWhile_cons_of_neg (by simp [plain]), ← turned, List.reverse_reverse]

theorem markup_closing {name space : List Char} (named : IsName name) (blank : Blank space)
    (after : List Char) :
    Token.markup ('/' :: (name ++ (space ++ '>' :: after))) = (.closing name, after) := by
  have noEnd : '>' ∉ name ++ space := by
    rw [List.mem_append, not_or]
    exact ⟨named.not_mem (by decide), blank.not_mem (by decide)⟩
  rw [← List.append_assoc]
  simp only [Token.markup, cutEnd_append noEnd, closingName_append named blank]

theorem cutWhen_append {ends : List Char → Bool} {front before : List Char}
    (first : ∀ a b, front = a ++ '>' :: b → ends (a.reverse ++ before) = false)
    (last : ends (front.reverse ++ before) = true) (rest : List Char) :
    Token.cutWhen ends before (front ++ '>' :: rest) = some (before.reverse ++ front, rest) := by
  induction front generalizing before with
  | nil =>
    rw [List.reverse_nil, List.nil_append] at last
    simp [Token.cutWhen, last]
  | cons c front ih =>
    have go : (decide (c = '>') && ends before) = false := by
      by_cases end_ : c = '>'
      · have early := first [] front (by rw [end_]; rfl)
        rw [List.reverse_nil, List.nil_append] at early
        simp [early]
      · simp [end_]
    have further : Token.cutWhen ends (c :: before) (front ++ '>' :: rest) =
        some ((c :: before).reverse ++ front, rest) :=
      ih (fun a b split => by simpa using first (c :: a) b (by rw [split]; rfl))
        (by simpa using last)
    rw [List.cons_append, Token.cutWhen, go, if_neg (by simp), further]
    simp

/-- No end of a comment comes before its own. -/
theorem endsComment_first {body a b : List Char} (dashes : ¬ ['-', '-'] <:+: body ++ ['-'])
    (split : '!' :: '-' :: '-' :: (body ++ ['-', '-']) = a ++ '>' :: b) :
    Token.endsComment a.reverse = false := by
  by_contra ends
  simp only [Token.endsComment, Bool.not_eq_false, Bool.and_eq_true, decide_eq_true_eq,
    List.length_reverse, List.isPrefixOf_iff_prefix] at ends
  obtain ⟨long, back, turned⟩ := ends
  have text : a = back.reverse ++ ['-', '-'] := by
    rw [← List.reverse_reverse a, ← turned]
    simp
  rw [text, List.length_append] at long
  rw [text] at split
  match front : back.reverse with
  | [] | [_] | [_, _] => simp [front] at long
  | _ :: _ :: _ :: inner =>
    rw [front] at split
    simp only [List.cons_append, List.cons.injEq, List.append_assoc, List.nil_append] at split
    obtain ⟨-, -, -, same⟩ := split
    -- the last dash of the comment stands behind the `>`
    have shorter := congrArg List.dropLast same
    have left : (body ++ ['-', '-']).dropLast = body ++ ['-'] := by
      rw [List.dropLast_append_of_ne_nil (by simp)]
      rfl
    rw [left, List.dropLast_append_of_ne_nil (by simp)] at shorter
    refine dashes ⟨inner, ('>' :: b).dropLast, ?_⟩
    rw [shorter]
    simp [List.dropLast]

theorem markup_comment {body : List Char} (dashes : ¬ ['-', '-'] <:+: body ++ ['-'])
    (after : List Char) :
    Token.markup ('!' :: '-' :: '-' :: (body ++ '-' :: '-' :: '>' :: after)) =
      (.remark, after) := by
  have text : '!' :: '-' :: '-' :: (body ++ '-' :: '-' :: '>' :: after) =
      '!' :: '-' :: '-' :: (body ++ ['-', '-']) ++ '>' :: after := by simp
  have cut : Token.cutWhen Token.endsComment []
      ('!' :: '-' :: '-' :: (body ++ ['-', '-']) ++ '>' :: after) =
        some ('!' :: '-' :: '-' :: (body ++ ['-', '-']), after) := by
    refine cutWhen_append (fun a b split => ?_) ?_ after
    · rw [List.append_nil]
      exact endsComment_first dashes split
    · simp [Token.endsComment]
  have remark : Token.comment ('!' :: '-' :: '-' :: (body ++ ['-', '-'])) = .remark := by
    simp [Token.comment, Token.startsWith]
  rw [text]
  show Token.cutSection Token.endsComment Token.comment _ = _
  rw [Token.cutSection, cut]
  exact congrArg (·, after) remark

theorem markup_instruction {body : List Char} (nonempty : body ≠ []) (plain : '>' ∉ body)
    (after : List Char) :
    Token.markup ('?' :: (body ++ '?' :: '>' :: after)) = (.remark, after) := by
  have noEnd : '>' ∉ '?' :: body ++ ['?'] := by simpa using plain
  have text : '?' :: (body ++ '?' :: '>' :: after) = '?' :: body ++ ['?'] ++ '>' :: after := by
    simp
  have long : 0 < body.length := List.length_pos_iff.mpr nonempty
  rw [text]
  show (Token.instruction (Token.cutEnd _).1, (Token.cutEnd _).2) = _
  rw [cutEnd_append noEnd, Token.instruction, if_pos]
  rw [List.getLast?_concat]
  simpa using long

/-- An instruction with a `>` in it is cut there. -/
theorem markup_instruction_of_mem {body : List Char} (whole : ¬ ['?', '>'] <:+: body)
    (mem : '>' ∈ body) (after : List Char) :
    (Token.markup ('?' :: (body ++ '?' :: '>' :: after))).1 = .fault .unexpectedEnd := by
  obtain ⟨a, b, rfl, early⟩ := List.eq_append_cons_of_mem mem
  have noEnd : '>' ∉ '?' :: a := by simpa using early
  have text : '?' :: (a ++ '>' :: b ++ '?' :: '>' :: after) =
      '?' :: a ++ '>' :: (b ++ '?' :: '>' :: after) := by simp
  rw [text]
  show Token.instruction (Token.cutEnd _).1 = _
  rw [cutEnd_append noEnd, Token.instruction, if_neg]
  intro sound
  simp only [Bool.and_eq_true, decide_eq_true_eq, List.length_cons] at sound
  obtain ⟨long, mark⟩ := sound
  -- the mark in front of the `>` would have ended the instruction
  cases a using List.reverseRecOn with
  | nil => simp at long
  | append_singleton front c =>
    rw [← List.cons_append, List.getLast?_concat] at mark
    obtain rfl := Option.some.inj mark
    exact whole ⟨front, b, by simp⟩

end SignedRest.Xml
