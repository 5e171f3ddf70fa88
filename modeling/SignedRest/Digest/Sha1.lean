import SignedRest.Digest.Padding

/-! The SHA-1 digest of a message, eighty rounds a block over five words, and the keyed digest in
which the key, cut or filled to one block, enters twice with two masks. -/
namespace SignedRest.Digest.Sha1

structure State where
  a : UInt32
  b : UInt32
  c : UInt32
  d : UInt32
  e : UInt32

def State.bytes (s : State) : Bytes :=
  bytesOfWord s.a ++ bytesOfWord s.b ++ bytesOfWord s.c ++ bytesOfWord s.d ++ bytesOfWord s.e

@[simp] theorem State.bytes_length (s : State) : s.bytes.length = 20 := rfl

def initial : State := ⟨0x67452301, 0xEFCDAB89, 0x98BADCFE, 0x10325476, 0xC3D2E1F0⟩

def mix (t : Nat) (s : State) : UInt32 × UInt32 :=
  if t < 20 then ((s.b &&& s.c) ||| (~~~s.b &&& s.d), 0x5A827999)
  else if t < 40 then (s.b ^^^ s.c ^^^ s.d, 0x6ED9EBA1)
  else if t < 60 then ((s.b &&& s.c) ||| (s.b &&& s.d) ||| (s.c &&& s.d), 0x8F1BBCDC)
  else (s.b ^^^ s.c ^^^ s.d, 0xCA62C1D6)

def round (t : Nat) (w : UInt32) (s : State) : State :=
  let (f, k) := mix t s
  ⟨rotateLeft s.a 5 + f + s.e + k + w, s.a, rotateLeft s.b 30, s.c, s.d⟩

def nextWord (window : List UInt32) : UInt32 :=
  rotateLeft (window.getD 13 0 ^^^ window.getD 8 0 ^^^ window.getD 2 0 ^^^ window.getD 0 0) 1

/-- The rounds that are left; the window holds the words of this one and the fifteen after it. -/
def rounds : (left : Nat) → List UInt32 → State → State
  | 0, _, s => s
  | left + 1, window, s =>
    rounds left (window.tail ++ [nextWord window]) (round (79 - left) (window.headD 0) s)

def compress (s : State) (block : List UInt32) : State :=
  let r := rounds 80 block s
  ⟨s.a + r.a, s.b + r.b, s.c + r.c, s.d + r.d, s.e + r.e⟩

end Sha1

def sha1 (message : Bytes) : Bytes := ((blocks message).foldl Sha1.compress Sha1.initial).bytes

@[simp] theorem sha1_length (message : Bytes) : (sha1 message).length = 20 := rfl

/-- A key of 64 bytes; a longer one is digested first. -/
def blockKey (key : Bytes) : Bytes :=
  let short := if 64 < key.length then sha1 key else key
  short ++ List.replicate (64 - short.length) 0

theorem blockKey_length (key : Bytes) : (blockKey key).length = 64 := by
  unfold blockKey
  split <;> simp
  omega

def hmacSha1 (key message : Bytes) : Bytes :=
  let k := blockKey key
  sha1 (k.map (· ^^^ 0x5C) ++ sha1 (k.map (· ^^^ 0x36) ++ message))

@[simp] theorem hmacSha1_length (key message : Bytes) : (hmacSha1 key message).length = 20 := rfl

end SignedRest.Digest
