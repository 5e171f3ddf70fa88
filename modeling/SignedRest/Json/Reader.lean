import SignedRest.Json.Basic
import SignedRest.Json.Source

/-! What the strings and numbers of a JSON source mean, and from that the value it denotes.
Strings must be UTF-8 with paired surrogates, doubles finite, and nesting below 128. -/
namespace SignedRest.Json

namespace Piece

/-- The bytes that a run of pieces stands for, or nothing when a surrogate has no partner. -/
def bytes : List Piece → Option Bytes
  | [] => some []
  | .byte b :: rest => (bytes rest).map (b :: ·)
  | .unit high :: rest =>
    if 0xDC00 ≤ high && high ≤ 0xDFFF then none
    else if 0xD800 ≤ high && high ≤ 0xDBFF then
      match rest with
      | .unit low :: rest =>
        if 0xDC00 ≤ low && low ≤ 0xDFFF then
          let code := 0x10000 + (high - 0xD800) * 1024 + (low - 0xDC00)
          (bytes rest).map (String.utf8EncodeChar (Char.ofNat code) ++ ·)
        else none
      | _ => none
    else (bytes rest).map (String.utf8EncodeChar (Char.ofNat high) ++ ·)

def text (s : List Piece) : Option String := (bytes s).bind Utf8.decode?

end Piece

namespace Digits

def wordLimit : Nat := Nat.pow 2 64

/-- Appends digits to a number as long as it stays below 2^64; also how many it took. -/
def appendDigits (n : Nat) : List Nat → Nat × Nat
  | [] => (n, 0)
  | d :: rest =>
    if n * 10 + d < wordLimit then
      ((appendDigits (n * 10 + d) rest).1, (appendDigits (n * 10 + d) rest).2 + 1)
    else (n, 0)

/-- The double `f * 10^e` in at most one multiplication, or in divisions by at most 10^308
each; nothing when it is too large. -/
def scale (f : Float) (e : Int) : Option Float :=
  if e.natAbs ≤ 308 then
    if 0 ≤ e then
      let g := f * Float.ofScientific 1 false e.natAbs
      if g.isInf then none else some g
    else some (f / Float.ofScientific 1 false e.natAbs)
  else if f == 0 then some f
  else if 0 < e then none
  else scale (f / Float.ofScientific 1 false 308) (e + 308)
termination_by e.natAbs
decreasing_by omega

def power (d : Digits) : Int :=
  match d.exponent with
  | none => 0
  | some (negative, ds) =>
    let n : Nat := ds.foldl (fun n d => n * 10 + d) 0
    if negative then -(n : Int) else n

/-- An integer of at most 64 bits stays one; every other number is the double made from the
leading digits that fit 64 bits and the power of ten that is left. -/
def value (d : Digits) : Option Number :=
  let (whole, taken) := appendDigits 0 d.whole
  let dropped := d.whole.length - taken
  if d.fraction.isEmpty && d.exponent.isNone && dropped = 0
      && (!d.negative || (0 < whole && whole ≤ Nat.pow 2 63)) then
    some (.integer (if d.negative then -(whole : Int) else whole))
  else
    let (significand, more) := appendDigits whole d.fraction
    (scale (UInt64.ofNat significand).toFloat ((dropped : Int) - more + d.power)).map fun f =>
      .double (if d.negative then -f else f).toBits

end Digits

namespace Source

/-- Containers may nest one level less than this. -/
def depthLimit : Nat := 128

mutual

/-- The value of a source with `depth` levels to spare. -/
def value (depth : Nat) : Source → Option Json
  | .null => some .null
  | .bool b => some (.bool b)
  | .number d => d.value.map .number
  | .string s => (Piece.text s).map .string
  | .array items => if depth ≤ 1 then none else (itemValues (depth - 1) items).map .array
  | .object members =>
    if depth ≤ 1 then none else (memberValues (depth - 1) members).map Json.ofMembers

def itemValues (depth : Nat) : List Source → Option (List Json)
  | [] => some []
  | v :: rest =>
    match value depth v, itemValues depth rest with
    | some v, some vs => some (v :: vs)
    | _, _ => none

def memberValues (depth : Nat) : List (List Piece × Source) → Option (List (String × Json))
  | [] => some []
  | (k, v) :: rest =>
    match Piece.text k, value depth v, memberValues depth rest with
    | some k, some v, some vs => some ((k, v) :: vs)
    | _, _, _ => none

end

end Source

def parse (bs : Bytes) : Option Json := (Source.parse bs).bind (Source.value Source.depthLimit)

end SignedRest.Json
