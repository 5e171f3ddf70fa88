import SignedRest.Xml.Fault
import SignedRest.Text.Ascii

/-! A document cut into tags, text and the rest. Names and attributes are not looked at here;
a document whose markup breaks off ends with the fault. -/
namespace SignedRest.Xml

inductive Token
  /-- A tag with its name and what follows the name. -/
  | opening (name attributes : List Char)
  | empty (name attributes : List Char)
  | closing (name : List Char)
  /-- Text with its entities still written. -/
  | text (raw : List Char)
  /-- Text that stands for itself. -/
  | literal (text : List Char)
  /-- A comment, an instruction or a declaration. -/
  | remark
  | fault (f : MarkupFault)
  deriving DecidableEq, Repr

def isSpace (c : Char) : Bool := c = ' ' || c = '\t' || c = '\r' || c = '\n'

namespace Token

/-- Before and after the first `>`; without one all is before it. -/
def cutEnd (cs : List Char) : List Char × List Char :=
  (cs.takeWhile (· ≠ '>'), (cs.dropWhile (· ≠ '>')).drop 1)

/-- Before and after the first `>` in front of which, read backwards, `ends` holds. -/
def cutWhen (ends : List Char → Bool) : (before : List Char) → List Char →
    Option (List Char × List Char)
  | _, [] => none
  | before, c :: rest =>
    if c = '>' && ends before then some (before.reverse, rest)
    else cutWhen ends (c :: before) rest

def cutTag : (quote : Option Char) → List Char → Option (List Char × List Char)
  | _, [] => none
  | none, c :: rest =>
    if c = '>' then some ([], rest)
    else
      let quote := if c = '\x27' || c = '"' then some c else none
      (cutTag quote rest).map fun (tag, after) => (c :: tag, after)
  | some q, c :: rest =>
    (cutTag (if c = q then none else some q) rest).map fun (tag, after) => (c :: tag, after)

theorem cutEnd_length (cs : List Char) : (cutEnd cs).2.length ≤ cs.length := by
  have := (List.dropWhile_sublist (fun c : Char => decide (c ≠ '>')) (l := cs)).length_le
  simp only [cutEnd, List.length_drop]
  omega

theorem cutWhen_length {ends : List Char → Bool} {before cs : List Char}
    {r : List Char × List Char} (h : cutWhen ends before cs = some r) :
    r.2.length < cs.length := by
  fun_induction cutWhen ends before cs <;> simp_all
  · subst h; simp
  · omega

theorem cutTag_length {quote : Option Char} {cs : List Char} {r : List Char × List Char}
    (h : cutTag quote cs = some r) : r.2.length < cs.length := by
  fun_induction cutTag quote cs generalizing r <;> simp_all <;> grind

def endsComment (before : List Char) : Bool :=
  4 < before.length && ['-', '-'].isPrefixOf before

def endsLiteral (before : List Char) : Bool := [']', ']'].isPrefixOf before

def endsDoctype (before : List Char) : Bool := before.count '<' = before.count '>'

def startsWith (word cs : List Char) : Bool :=
  (cs.take word.length).map Char.toUpper = word

def comment (body : List Char) : Token :=
  if startsWith ['!', '-', '-'] body then .remark else .fault .unexpectedEnd

def literalText (body : List Char) : Token :=
  if startsWith ['!', '[', 'C', 'D', 'A', 'T', 'A', '['] body then
    .literal ((body.drop 8).dropLast.dropLast)
  else .fault .unexpectedEnd

def doctype (body : List Char) : Token :=
  if startsWith ['!', 'D', 'O', 'C', 'T', 'Y', 'P', 'E'] body then
    if (body.drop 8).all isSpace then .fault .emptyDoctype else .remark
  else .fault .unexpectedEnd

def cutSection (ends : List Char → Bool) (make : List Char → Token) (cs : List Char) :
    Token × List Char :=
  match cutWhen ends [] cs with
  | some (body, rest) => (make body, rest)
  | none => (.fault .unexpectedEnd, [])

theorem cutSection_length (ends : List Char → Bool) (make : List Char → Token) (cs : List Char) :
    (cutSection ends make cs).2.length ≤ cs.length := by
  unfold cutSection
  split
  · rename_i h
    exact Nat.le_of_lt (cutWhen_length h)
  · exact Nat.zero_le _

def bang (cs : List Char) : Token × List Char :=
  match cs with
  | _ :: c :: _ =>
    if c = '-' then cutSection endsComment comment cs
    else if c = '[' then cutSection endsLiteral literalText cs
    else if c = 'D' || c = 'd' then cutSection endsDoctype doctype cs
    else (.fault .unexpectedBang, [])
  | _ => (.fault .unexpectedEnd, [])

def instruction (body : List Char) : Token :=
  if 2 < body.length && body.getLast? = some '?' then .remark else .fault .unexpectedEnd

def closingName (body : List Char) : List Char :=
  if body.all isBlankAscii then body else (body.reverse.dropWhile isBlankAscii).reverse
where
  isBlankAscii (c : Char) : Bool := isSpace c || c = '\x0c'

def tag (body : List Char) : Token :=
  let inner := if body.getLast? = some '/' then body.dropLast else body
  let name := inner.takeWhile (!isSpace ·)
  let attributes := inner.dropWhile (!isSpace ·)
  if body.getLast? = some '/' then .empty name attributes else .opening name attributes

def markup (cs : List Char) : Token × List Char :=
  match cs with
  | '!' :: _ => bang cs
  | '/' :: rest => (.closing (closingName (cutEnd rest).1), (cutEnd rest).2)
  | '?' :: _ => (instruction (cutEnd cs).1, (cutEnd cs).2)
  | _ =>
    match cutTag none cs with
    | some (body, rest) => (tag body, rest)
    | none => (.fault .unexpectedEnd, [])

theorem bang_length (cs : List Char) : (bang cs).2.length ≤ cs.length := by
  unfold bang
  repeat' split
  all_goals first
    | exact cutSection_length ..
    | exact Nat.zero_le _

theorem markup_length (cs : List Char) : (markup cs).2.length ≤ cs.length := by
  unfold markup
  split
  · exact bang_length _
  · exact Nat.le_succ_of_le (cutEnd_length _)
  · exact cutEnd_length _
  · split
    · rename_i h
      exact Nat.le_of_lt (cutTag_length h)
    · exact Nat.zero_le _

def textToken (cs : List Char) : Token := .text (cs.reverse.dropWhile isSpace).reverse

/-- The tokens in order. Blanks before a token are no text. -/
def ofText : List Char → List Token
  | [] => []
  | c :: rest =>
    if isSpace c then ofText rest
    else if c = '<' then
      if rest.isEmpty then [] else (markup rest).1 :: ofText (markup rest).2
    else textToken (c :: rest.takeWhile (· ≠ '<')) :: ofText (rest.dropWhile (· ≠ '<'))
termination_by cs => cs.length
decreasing_by
  · exact Nat.lt_succ_self _
  · exact Nat.lt_succ_of_le (markup_length rest)
  · exact Nat.lt_succ_of_le (List.dropWhile_sublist _).length_le

end Token
end SignedRest.Xml
