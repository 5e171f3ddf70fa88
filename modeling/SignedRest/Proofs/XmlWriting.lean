import SignedRest.Unicode.Ranges
import SignedRest.Xml.Reader

/-! Trees written as XML 1.0. A tree can be written in many ways: there are two forms for an
element with nothing in it, blanks between the parts of a tag, and comments, instructions and
blanks around elements. The XML declaration is written like an instruction. -/
namespace SignedRest.Xml

def nameStarts : List Unicode.Range :=
  [⟨0x3A, 0x3A⟩, ⟨0x41, 0x5A⟩, ⟨0x5F, 0x5F⟩, ⟨0x61, 0x7A⟩, ⟨0xC0, 0xD6⟩, ⟨0xD8, 0xF6⟩,
    ⟨0xF8, 0x2FF⟩, ⟨0x370, 0x37D⟩, ⟨0x37F, 0x1FFF⟩, ⟨0x200C, 0x200D⟩, ⟨0x2070, 0x218F⟩,
    ⟨0x2C00, 0x2FEF⟩, ⟨0x3001, 0xD7FF⟩, ⟨0xF900, 0xFDCF⟩, ⟨0xFDF0, 0xFFFD⟩, ⟨0x10000, 0xEFFFF⟩]

def nameChars : List Unicode.Range :=
  nameStarts ++ [⟨0x2D, 0x2E⟩, ⟨0x30, 0x39⟩, ⟨0xB7, 0xB7⟩, ⟨0x300, 0x36F⟩, ⟨0x203F, 0x2040⟩]

def IsName : List Char → Prop
  | [] => False
  | c :: rest => Unicode.inRanges nameStarts c = true ∧
    ∀ d ∈ rest, Unicode.inRanges nameChars d = true

instance : DecidablePred IsName
  | [] => .isFalse id
  | _ :: rest => @instDecidableAnd _ _ (instDecidableEqBool _ _) (List.decidableBAll _ rest)

/-- Nothing in a text is taken for markup. -/
def escapeChar (c : Char) : List Char :=
  if c = '&' then ['&', 'a', 'm', 'p', ';']
  else if c = '<' then ['&', 'l', 't', ';']
  else if c = '>' then ['&', 'g', 't', ';']
  else if c = '"' then ['&', 'q', 'u', 'o', 't', ';']
  else if c = '\x27' then ['&', 'a', 'p', 'o', 's', ';']
  else [c]

def escape (text : List Char) : List Char := text.flatMap escapeChar

def Blank (text : List Char) : Prop := ∀ c ∈ text, isSpace c = true

instance (text : List Char) : Decidable (Blank text) := List.decidableBAll _ text

/-- A text that does not start or end with a blank. -/
structure IsContent (text : List Char) : Prop where
  nonempty : text ≠ []
  starts (c : Char) (first : text.head? = some c) : isSpace c = false
  ends (c : Char) (last : text.getLast? = some c) : isSpace c = false

/-- A tree that can be written. -/
inductive Node.WellFormed : Node → Prop
  | element {name : String} {attrs : List (String × String)} {content : Option String}
      {children : List Node} (named : IsName name.toList) (keys : ∀ p ∈ attrs, IsName p.1.toList)
      (distinct : (attrs.map (·.1)).Nodup) (text : ∀ s, content = some s → IsContent s.toList)
      (inside : ∀ child ∈ children, child.WellFormed) :
      WellFormed (.element name attrs content children)

/-- What may stand between elements, with what stands in its instructions. -/
inductive Gap : List (List Char) → List Char → Prop
  | nil : Gap [] []
  | blank {bodies : List (List Char)} {more : List Char} (c : Char) (space : isSpace c = true)
      (rest : Gap bodies more) : Gap bodies (c :: more)
  | comment {bodies : List (List Char)} {more : List Char} (body : List Char)
      (dashes : ¬ ['-', '-'] <:+: body ++ ['-']) (rest : Gap bodies more) :
      Gap bodies ('<' :: '!' :: '-' :: '-' :: (body ++ '-' :: '-' :: '>' :: more))
  | instruction {bodies : List (List Char)} {more : List Char} (target data : List Char)
      (named : IsName target) (apart : data = [] ∨ ∃ c rest, data = c :: rest ∧ isSpace c = true)
      (whole : ¬ ['?', '>'] <:+: target ++ data) (rest : Gap bodies more) :
      Gap ((target ++ data) :: bodies) ('<' :: '?' :: (target ++ data ++ '?' :: '>' :: more))

inductive WritesAttrs : List (String × String) → List Char → Prop
  | nil : WritesAttrs [] []
  | cons {key value : String} {rest : List (String × String)} {more : List Char}
      (before left right : List Char) (quote : Char) (nonempty : before ≠ [])
      (blanks : Blank before ∧ Blank left ∧ Blank right) (quoted : quote = '"' ∨ quote = '\x27')
      (others : WritesAttrs rest more) :
      WritesAttrs ((key, value) :: rest) (before ++ (key.toList ++ (left ++ '=' ::
        (right ++ quote :: (escape value.toList ++ quote :: more)))))

inductive WritesContent : Option String → List (List Char) → List Char → Prop
  | none : WritesContent none [] []
  | some {bodies : List (List Char)} {gap : List Char} (s : String) (before : Gap bodies gap) :
      WritesContent (some s) bodies (gap ++ escape s.toList)

/-- Elements one after the other, with gaps around them. -/
inductive Writes : List Node → List (List Char) → List Char → Prop
  | nil {bodies : List (List Char)} {gap : List Char} (around : Gap bodies gap) :
      Writes [] bodies gap
  | empty {name : String} {attrs : List (String × String)} {rest : List Node}
      {bodies bodies' : List (List Char)} {gap inTag space more : List Char}
      (before : Gap bodies gap) (attributes : WritesAttrs attrs inTag) (blank : Blank space)
      (others : Writes rest bodies' more) :
      Writes (.element name attrs none [] :: rest) (bodies ++ bodies')
        (gap ++ '<' :: (name.toList ++ (inTag ++ (space ++ '/' :: '>' :: more))))
  | pair {name : String} {attrs : List (String × String)} {content : Option String}
      {children rest : List Node} {bodies bodies₁ bodies₂ bodies' : List (List Char)}
      {gap inTag space text inside space' more : List Char}
      (before : Gap bodies gap) (attributes : WritesAttrs attrs inTag) (blank : Blank space)
      (first : WritesContent content bodies₁ text) (within : Writes children bodies₂ inside)
      (blank' : Blank space') (others : Writes rest bodies' more) :
      Writes (.element name attrs content children :: rest)
        (bodies ++ (bodies₁ ++ (bodies₂ ++ bodies')))
        (gap ++ '<' :: (name.toList ++ (inTag ++ (space ++ '>' :: (text ++ (inside ++
          '<' :: '/' :: (name.toList ++ (space' ++ '>' :: more))))))))

def Node.IsWritten (n : Node) (bodies : List (List Char)) (text : String) : Prop :=
  Writes [n] bodies text.toList

def writeAttr (p : String × String) : List Char :=
  ' ' :: (p.1.toList ++ '=' :: '"' :: (escape p.2.toList ++ ['"']))

theorem writesAttrs_flatMap (attrs : List (String × String)) :
    WritesAttrs attrs (attrs.flatMap writeAttr) := by
  induction attrs with
  | nil => exact .nil
  | cons p rest ih =>
    obtain ⟨key, value⟩ := p
    have space : Blank [' '] := by simp [Blank, isSpace]
    have none_ : Blank [] := by simp [Blank]
    have written : WritesAttrs ((key, value) :: rest) _ :=
      .cons [' '] [] [] '"' (by simp) ⟨space, none_, none_⟩ (.inl rfl) ih
    simpa [writeAttr] using written

mutual

def writeNode : Node → List Char
  | .element name attrs content children =>
    '<' :: (name.toList ++ (attrs.flatMap writeAttr ++ '>' ::
      (((content.map fun s => escape s.toList).getD []) ++ (writeNodes children ++
        '<' :: '/' :: (name.toList ++ ['>'])))))

def writeNodes : List Node → List Char
  | [] => []
  | n :: rest => writeNode n ++ writeNodes rest

end

theorem writesContent_getD (content : Option String) :
    WritesContent content [] ((content.map fun s => escape s.toList).getD []) := by
  cases content with
  | none => exact .none
  | some s => exact .some s .nil

mutual

theorem writes_writeNode (n : Node) {rest : List Node} {more : List Char}
    (others : Writes rest [] more) : Writes (n :: rest) [] (writeNode n ++ more) := by
  obtain ⟨name, attrs, content, children⟩ := n
  have none_ : Blank [] := by simp [Blank]
  have written : Writes (.element name attrs content children :: rest) _ _ :=
    .pair .nil (writesAttrs_flatMap attrs) none_ (writesContent_getD content)
      (writes_writeNodes children) none_ others
  simpa [writeNode] using written

theorem writes_writeNodes : (nodes : List Node) → Writes nodes [] (writeNodes nodes)
  | [] => .nil .nil
  | n :: rest => writes_writeNode n (writes_writeNodes rest)

end

/-- Every tree can be written, and without any instruction. -/
theorem Node.exists_isWritten (n : Node) : ∃ text, n.IsWritten [] text := by
  refine ⟨String.ofList (writeNode n), ?_⟩
  have written := writes_writeNode n (.nil .nil)
  show Writes [n] [] (String.ofList (writeNode n)).toList
  rwa [List.append_nil, ← String.toList_ofList (l := writeNode n)] at written

end SignedRest.Xml
