import SignedRest.Host.Ipv4

/-! IPv6 addresses: eight hexadecimal pieces between colons. One run of zeros may be left out,
and the last two pieces may be written as an IPv4 address. -/
namespace SignedRest

structure Ipv6 where
  pieces : List UInt16
  length_pieces : pieces.length = 8
  deriving DecidableEq, Repr

namespace Ipv6

def piece? (cs : List Char) : Option UInt16 :=
  if cs.isEmpty || 4 < cs.length then none else (Ipv4.digitsValue 16 cs).map UInt16.ofNat

def octet? (cs : List Char) : Option Nat :=
  if cs.isEmpty || (cs.head? = some '0' && 1 < cs.length) then none
  else (Ipv4.digitsValue 10 cs).filter (· < 256)

def dotted? (cs : List Char) : Option (List UInt16) :=
  match (cs.splitOn '.').mapM octet? with
  | some [a, b, c, d] => some [UInt16.ofNat (a * 256 + b), UInt16.ofNat (c * 256 + d)]
  | _ => none

def lastPieces? (cs : List Char) : Option (List UInt16) :=
  if cs.contains '.' then dotted? cs else (piece? cs).map ([·])

/-- The pieces between single colons, none at all in an empty text. -/
def pieces? (cs : List Char) : Option (List UInt16) :=
  if cs.isEmpty then some []
  else do
    let groups := cs.splitOn ':'
    let first ← groups.dropLast.mapM piece?
    let last ← lastPieces? (groups.getLast?.getD [])
    pure (first ++ last)

def splitGap : List Char → Option (List Char × List Char)
  | ':' :: ':' :: rest => some ([], rest)
  | [] => none
  | c :: rest => (splitGap rest).map fun (before, after) => (c :: before, after)

def ofPieces? (pieces : List UInt16) : Option Ipv6 :=
  if h : pieces.length = 8 then some ⟨pieces, h⟩ else none

def parse (cs : List Char) : Option Ipv6 := do
  match splitGap cs with
  | none => ofPieces? (← pieces? cs)
  | some (before, after) =>
    let first ← if before.contains '.' then none else pieces? before
    let last ← pieces? after
    ofPieces? (first ++ List.replicate (8 - first.length - last.length) 0 ++ last)
      |>.filter fun _ => first.length + last.length ≤ 7

/-- Where the first of the longest runs of zeros starts, and its length. -/
def gap : List UInt16 → Nat × Nat
  | [] => (0, 0)
  | p :: rest =>
    let run := ((p :: rest).takeWhile (· = 0)).length
    if (gap rest).2 ≤ run then (0, run) else ((gap rest).1 + 1, (gap rest).2)

def writePieces (pieces : List UInt16) : List Char :=
  List.intercalate [':'] (pieces.map fun p => Nat.toDigits 16 p.toNat)

/-- At least two zeros in a row are left out. -/
def write (a : Ipv6) : String :=
  let (start, length) := gap a.pieces
  String.ofList <|
    if length < 2 then writePieces a.pieces
    else writePieces (a.pieces.take start) ++ [':', ':']
      ++ writePieces (a.pieces.drop (start + length))

end Ipv6
end SignedRest
