/-! Sets of code points written as hexadecimal ranges, as the tables of this folder are. The
tables themselves are data; nothing is shown about them. -/
namespace SignedRest.Unicode

structure Range where
  first : Nat
  last : Nat
  deriving DecidableEq, Repr

def Range.holds (r : Range) (n : Nat) : Bool := r.first ≤ n && n ≤ r.last

def hexDigit (c : Char) : Nat := if c.isDigit then c.toNat - 48 else c.toNat - 55

def readHex (cs : List Char) : Nat := cs.foldl (fun n c => n * 16 + hexDigit c) 0

def readRange (cs : List Char) : Range :=
  match cs.splitOn '-' with
  | [a, b] => ⟨readHex a, readHex b⟩
  | _ => ⟨readHex cs, readHex cs⟩

def entries (lines : List String) : List (List Char) :=
  lines.flatMap fun line => line.toList.splitOn ' '

def readRanges (lines : List String) : List Range := (entries lines).map readRange

def readLabelled (lines : List String) : List (Range × String) :=
  (entries lines).map fun e =>
    (readRange (e.takeWhile (· != '=')), String.ofList ((e.dropWhile (· != '=')).drop 1))

def inRanges (ranges : List Range) (c : Char) : Bool := ranges.any (·.holds c.toNat)

def label? (table : List (Range × String)) (c : Char) : Option String :=
  (table.find? fun e => e.1.holds c.toNat).map (·.2)

end SignedRest.Unicode
