import SignedRest.Text.Ascii

/-! Percent-encoding: which bytes stand for themselves is a parameter, the rest is written as
`%` and two upper-case hexadecimal digits. Decoding leaves a `%` that no two digits follow. -/
namespace SignedRest.Percent

def isUnreserved (b : UInt8) : Bool :=
  Ascii.isAlphanumeric b || b = 0x2D || b = 0x2E || b = 0x5F || b = 0x7E

def encodeByte (b : UInt8) : List Char :=
  ['%', Ascii.hexUpper (b.toNat / 16), Ascii.hexUpper (b.toNat % 16)]

/-- Bytes that `keep` accepts stand for themselves. -/
def encodeBytes (keep : UInt8 → Bool) (bs : Bytes) : List Char :=
  bs.flatMap fun b => if keep b then [Char.ofNat b.toNat] else encodeByte b

@[simp] theorem encodeBytes_nil (keep : UInt8 → Bool) : encodeBytes keep [] = [] := rfl

@[simp] theorem encodeBytes_append (keep : UInt8 → Bool) (a b : Bytes) :
    encodeBytes keep (a ++ b) = encodeBytes keep a ++ encodeBytes keep b := by
  simp [encodeBytes]

def encode (s : String) : String := String.ofList (encodeBytes isUnreserved (Utf8.encode s))

def hexPair (h l : UInt8) : Option UInt8 := do
  let high ← Ascii.hexValue (Char.ofNat h.toNat)
  let low ← Ascii.hexValue (Char.ofNat l.toNat)
  pure (UInt8.ofNat (high * 16 + low))

def decode : Bytes → Bytes
  | [] => []
  | [a] => [a]
  | [a, b] => [a, b]
  | a :: h :: l :: rest =>
    match if a = 0x25 then hexPair h l else none with
    | some b => b :: decode rest
    | none => a :: decode (h :: l :: rest)

/-- A text with its escapes read; what is no UTF-8 afterwards is replaced. -/
def decodeText (s : String) : String := Utf8.decodeLossy (decode (Utf8.encode s))

end SignedRest.Percent
