import SignedRest.Unicode.HostMapping
import SignedRest.Unicode.Normal
import SignedRest.Unicode.Direction
import SignedRest.Unicode.Joining
import SignedRest.Unicode.Mark
import SignedRest.Host.Punycode
import SignedRest.Text.Percent

/-! Domain names in ASCII: characters are mapped and normalized, every label is checked, and
labels beyond ASCII get their `xn--` form. Lengths and hyphens are not checked, nor are letters
that look alike. -/
namespace SignedRest.Domain

def isForbidden (c : Char) : Bool :=
  c.toNat ≤ 0x20 || c.toNat = 0x7F
    || ['%', '#', '/', ':', '<', '>', '?', '@', '[', '\\', ']', '^', '|'].contains c

def isAscii (c : Char) : Bool := c.toNat < 128

/-- Maps and normalizes; nothing when a character is refused. -/
def mapped? (cs : List Char) : Option (List Char) := do
  let images ← cs.mapM Unicode.hostImage?
  let out := Unicode.normalize images.flatten
  if out.any isForbidden then none else some out

def isVirama (c : Char) : Bool := Unicode.combiningClass c = 9

/-- The first character that is not passed over satisfies `p`. -/
def reaches (p : Char → Bool) (cs : List Char) : Bool :=
  match cs.dropWhile Unicode.isTransparent with
  | [] => false
  | c :: _ => p c

/-- A joiner follows a virama; the non-joiner may also stand between joining characters. -/
def joinersAllowed : (before after : List Char) → Bool
  | _, [] => true
  | before, c :: after =>
    let fine :=
      if c = '\u200C' then
        (before.head?.map isVirama).getD false
          || (reaches Unicode.joinsForward before && reaches Unicode.joinsBack after)
      else if c = '\u200D' then (before.head?.map isVirama).getD false
      else true
    fine && joinersAllowed (c :: before) after

def labelAllowed (label : List Char) : Bool :=
  !(label.head?.map Unicode.isMark).getD false && joinersAllowed [] label

def aceMark : List Char := ['x', 'n', '-', '-']

structure Label where
  unicode : List Char
  ascii : List Char

def label? (cs : List Char) : Option Label :=
  if aceMark.isPrefixOf cs then
    if cs.getLast? = some '-' || 2004 < cs.length then none
    else
      match Punycode.decode (cs.drop 4) with
      | none => none
      | some text =>
        if text.all Unicode.isHostValid && Unicode.normalize text = text
            && !text.any isForbidden && labelAllowed text then some ⟨text, cs⟩
        else none
  else if cs.all isAscii then some ⟨cs, cs⟩
  else if labelAllowed cs && cs.length ≤ 1000 then some ⟨cs, aceMark ++ Punycode.encode cs⟩
  else none

open Unicode (Direction)

def isRightward (c : Char) : Bool :=
  !isAscii c && [Direction.right, .arabicLetter, .arabicNumber].contains (Unicode.direction c)

def allowedWithin (leftToRight : Bool) (d : Direction) : Bool :=
  [Direction.europeanNumber, .europeanSeparator, .europeanTerminator, .commonSeparator, .neutral,
    .boundary, .mark].contains d
    || if leftToRight then d = .left else [Direction.right, .arabicLetter, .arabicNumber].contains d

def allowedLast (leftToRight : Bool) (d : Direction) : Bool :=
  d = .europeanNumber
    || if leftToRight then d = .left else [Direction.right, .arabicLetter, .arabicNumber].contains d

def directionAllowed (label : List Char) : Bool :=
  let ds := label.map Unicode.direction
  match ds with
  | [] => true
  | first :: _ =>
    if first = .left || first = .right || first = .arabicLetter then
      let leftToRight := first = .left
      let last := (ds.reverse.dropWhile (· = .mark)).headD .neutral
      ds.all (allowedWithin leftToRight) && allowedLast leftToRight last
        && (leftToRight || !(ds.contains .europeanNumber && ds.contains .arabicNumber))
    else false

/-- A domain name in ASCII, or nothing when the name is not allowed. -/
def toAscii? (name : String) : Option String := do
  let cs ← mapped? name.toList
  let labels ← (cs.splitOn '.').mapM label?
  if labels.any (fun l => l.unicode.any isRightward)
      && !labels.all (fun l => directionAllowed l.unicode) then none
  else some (String.ofList (List.intercalate ['.'] (labels.map (·.ascii))))

end SignedRest.Domain
