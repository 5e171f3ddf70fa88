import SignedRest.Json.Basic
import SignedRest.Decimal.Shortest

/-! JSON values as compact text. -/
namespace SignedRest.Json

def escapeChar (c : Char) : List Char :=
  if c = '"' then ['\\', '"']
  else if c = '\\' then ['\\', '\\']
  else if c = '\n' then ['\\', 'n']
  else if c = '\r' then ['\\', 'r']
  else if c = '\t' then ['\\', 't']
  else if c.toNat = 8 then ['\\', 'b']
  else if c.toNat = 12 then ['\\', 'f']
  else if c.toNat < 32 then
    ['\\', 'u', '0', '0', Nat.digitChar (c.toNat / 16), Nat.digitChar (c.toNat % 16)]
  else [c]

def writeString (s : String) : String :=
  "\"" ++ String.ofList (s.toList.flatMap escapeChar) ++ "\""

def zeros (n : Nat) : String := String.ofList (List.replicate n '0')

/-- Digits without an exponent from 1e-5 up to below 1e16, always with a point; otherwise one
digit before the point and an exponent. -/
def writeDigits (d : Decimal.Digits) : String :=
  let n := if d.value = Nat.pow 10 d.count then 1 else d.value
  let p := if d.value = Nat.pow 10 d.count then d.point + 1 else d.point
  let ds := (toString n).toList
  let k := ds.length
  if 0 < p ∧ p ≤ 16 then
    let p := p.toNat
    if k ≤ p then String.ofList ds ++ zeros (p - k) ++ ".0"
    else String.ofList (ds.take p) ++ "." ++ String.ofList (ds.drop p)
  else if -5 < p ∧ p ≤ 0 then "0." ++ zeros p.natAbs ++ String.ofList ds
  else
    let e := p - 1
    let tail := if k = 1 then "" else "." ++ String.ofList (ds.drop 1)
    String.ofList (ds.take 1) ++ tail ++ "e" ++ toString e

def writeDouble (bits : UInt64) : String :=
  let sign := if bits.toNat < Nat.pow 2 63 then "" else "-"
  let size := UInt64.ofNat (bits.toNat % Nat.pow 2 63)
  sign ++ if size = 0 then "0.0" else writeDigits (Decimal.shortest size)

def Number.write : Number → String
  | .integer n => toString n
  | .double bits => writeDouble bits

mutual

def write : Json → String
  | .null => "null"
  | .bool b => if b then "true" else "false"
  | .number n => n.write
  | .string s => writeString s
  | .array items => "[" ++ String.intercalate "," (writeItems items) ++ "]"
  | .object members => "\x7b" ++ String.intercalate "," (writeMembers members) ++ "\x7d"

def writeItems : List Json → List String
  | [] => []
  | v :: rest => write v :: writeItems rest

def writeMembers : List (String × Json) → List String
  | [] => []
  | (k, v) :: rest => (writeString k ++ ":" ++ write v) :: writeMembers rest

end

def writeOrdered (members : List (String × Json)) : String :=
  "\x7b" ++ String.intercalate "," (writeMembers members) ++ "\x7d"

end SignedRest.Json
