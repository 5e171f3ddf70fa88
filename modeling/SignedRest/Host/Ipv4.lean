import SignedRest.Text.Ascii

/-! IPv4 addresses: written as four decimal numbers, read also from fewer numbers in three
bases, of which the last fills what the others leave. -/
namespace SignedRest.Ipv4

def digitsValue (base : Nat) (cs : List Char) : Option Nat :=
  cs.foldlM (fun n c => (Ascii.hexValue c).bind fun d =>
    if d < base then some (n * base + d) else none) 0

/-- Decimal, octal after a zero, hexadecimal after `0x`. -/
def number? : List Char → Option Nat
  | [] => none
  | '0' :: 'x' :: ds => digitsValue 16 ds
  | '0' :: 'X' :: ds => digitsValue 16 ds
  | '0' :: d :: ds => digitsValue 8 (d :: ds)
  | ds => digitsValue 10 ds

/-- The parts between the dots, without an empty one at the end. -/
def parts (name : List Char) : List (List Char) :=
  let all := name.splitOn '.'
  if all.getLast? = some [] then all.dropLast else all

/-- Names whose last part is a number stand for an address or for nothing. -/
def endsInNumber (name : List Char) : Bool :=
  match (parts name).getLast? with
  | none => false
  | some part => (!part.isEmpty && part.all Char.isDigit) || (number? part).isSome

/-- The address of at most four numbers; `first` are all but the last. -/
def assemble? (first : List Nat) (last : Nat) : Option UInt32 :=
  if first.length ≤ 3 ∧ first.all (· < 256) ∧ last < Nat.pow 256 (4 - first.length) then
    some (UInt32.ofNat (first.foldl (· * 256 + ·) 0 * Nat.pow 256 (4 - first.length) + last))
  else none

def parse (name : List Char) : Option UInt32 := do
  let numbers ← (parts name).mapM number?
  let last ← numbers.getLast?
  assemble? numbers.dropLast last

def write (address : UInt32) : String :=
  let n := address.toNat
  toString (n / Nat.pow 2 24) ++ "." ++ toString (n / Nat.pow 2 16 % 256) ++ "."
    ++ toString (n / Nat.pow 2 8 % 256) ++ "." ++ toString (n % 256)

end SignedRest.Ipv4
