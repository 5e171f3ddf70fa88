import SignedRest.Text.Percent

/-! Name and value pairs written as `name=value&name=value`, with `+` for a blank. Writing and
reading are separate; only their composition gives the pairs back, since a reader accepts much
that no writer produces. -/
namespace SignedRest.Form

def isPlain (b : UInt8) : Bool :=
  Ascii.isAlphanumeric b || b = 0x2A || b = 0x2D || b = 0x2E || b = 0x5F

def encodeByte (b : UInt8) : List Char :=
  if b = 0x20 then ['+'] else if isPlain b then [Char.ofNat b.toNat] else Percent.encodeByte b

def encodeText (s : String) : List Char := (Utf8.encode s).flatMap encodeByte

def encodePair (p : String × String) : List Char := encodeText p.1 ++ '=' :: encodeText p.2

def encode (pairs : List (String × String)) : String :=
  String.ofList (List.intercalate ['&'] (pairs.map encodePair))

@[simp] theorem encode_nil : encode [] = "" := rfl

/-- The part before the first `=` and the part after it; all is name when there is none. -/
def splitPair (bs : Bytes) : Bytes × Bytes :=
  (bs.takeWhile (· != 0x3D), (bs.dropWhile (· != 0x3D)).tail)

def decodeText (bs : Bytes) : String :=
  Utf8.decodeLossy (Percent.decode (bs.map fun b => if b = 0x2B then 0x20 else b))

/-- The pairs between the `&` signs; empty stretches hold none. -/
def decode (bs : Bytes) : List (String × String) :=
  ((bs.splitOn 0x26).filter (!·.isEmpty)).map fun part =>
    (decodeText (splitPair part).1, decodeText (splitPair part).2)

def decodeString (s : String) : List (String × String) := decode (Utf8.encode s)

def lastValue? (pairs : List (String × String)) (name : String) : Option String :=
  (pairs.reverse.find? (·.1 == name)).map (·.2)

end SignedRest.Form
