import SignedRest.Unicode.Composition

/-! The composed normal form of text: characters are taken apart, marks put in order of their
classes, and pairs put together again. -/
namespace SignedRest.Unicode

def isSyllable (n : Nat) : Bool := 0xAC00 ≤ n && n < 0xAC00 + 11172

def syllableParts (n : Nat) : List Char :=
  let s := n - 0xAC00
  let lead := [Char.ofNat (0x1100 + s / 588), Char.ofNat (0x1161 + s % 588 / 28)]
  if s % 28 = 0 then lead else lead ++ [Char.ofNat (0x11A7 + s % 28)]

/-- A leading consonant and a vowel, or an open syllable and a trailing consonant. -/
def joinSyllable? (a b : Nat) : Option Char :=
  if 0x1100 ≤ a && a < 0x1113 && 0x1161 ≤ b && b < 0x1176 then
    some (Char.ofNat (0xAC00 + ((a - 0x1100) * 21 + (b - 0x1161)) * 28))
  else if isSyllable a && (a - 0xAC00) % 28 = 0 && 0x11A7 < b && b < 0x11C3 then
    some (Char.ofNat (a + (b - 0x11A7)))
  else none

/-- A base that is itself composite has a smaller code point. -/
def decompose (n : Nat) : List Char :=
  if isSyllable n then syllableParts n
  else
    match pairs.find? (·.composite = n) with
    | none => [Char.ofNat n]
    | some p =>
      if _h : p.base < n then decompose p.base ++ [Char.ofNat p.mark]
      else [Char.ofNat p.base, Char.ofNat p.mark]
termination_by n

/-- Moves a mark to the left of the marks of greater class at the end; the list is reversed. -/
def insertMark (c : Char) : List Char → List Char
  | [] => [c]
  | d :: before =>
    if combiningClass c < combiningClass d then d :: insertMark c before else c :: d :: before

def orderMarks (cs : List Char) : List Char :=
  (cs.foldl (fun out c => if combiningClass c = 0 then c :: out else insertMark c out) []).reverse

def join? (a b : Char) : Option Char :=
  match joinSyllable? a.toNat b.toNat with
  | some c => some c
  | none =>
    (pairs.find? fun p => p.base = a.toNat && p.mark = b.toNat).map fun p =>
      Char.ofNat p.composite

/-- What is finished, the last starter, and the marks after it that did not join it, the latest
first. -/
structure Joining where
  done : List Char
  starter : Option Char
  waiting : List Char

def Joining.chars (j : Joining) : List Char := j.done ++ j.starter.toList ++ j.waiting.reverse

/-- A mark joins the starter unless a mark of the same or a greater class stands between. -/
def Joining.push (j : Joining) (c : Char) : Joining :=
  let free := match j.waiting with
    | [] => true
    | w :: _ => combiningClass w < combiningClass c
  match if free then j.starter.bind (join? · c) else none with
  | some joined => { j with starter := some joined }
  | none =>
    if combiningClass c = 0 then ⟨j.chars, some c, []⟩ else { j with waiting := c :: j.waiting }

def normalize (cs : List Char) : List Char :=
  if cs.all (·.toNat < 128) then cs
  else
    ((orderMarks (cs.flatMap fun c => decompose c.toNat)).foldl Joining.push ⟨[], none, []⟩).chars

end SignedRest.Unicode
