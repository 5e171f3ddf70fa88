import SignedRest.Chunks
import SignedRest.Text.Utf8

/-! Messages as 512-bit blocks of big-endian words: a one bit, zeros, and the length in bits. -/
namespace SignedRest.Digest

def wordOfBytes (a b c d : UInt8) : UInt32 :=
  (a.toUInt32 <<< 24) ||| (b.toUInt32 <<< 16) ||| (c.toUInt32 <<< 8) ||| d.toUInt32

def bytesOfWord (w : UInt32) : Bytes :=
  [(w >>> 24).toUInt8, (w >>> 16).toUInt8, (w >>> 8).toUInt8, w.toUInt8]

@[simp] theorem bytesOfWord_length (w : UInt32) : (bytesOfWord w).length = 4 := rfl

def words : Bytes → List UInt32
  | a :: b :: c :: d :: rest => wordOfBytes a b c d :: words rest
  | _ => []

def bitLength (n : Nat) : Bytes :=
  bytesOfWord (UInt32.ofNat (n * 8 / Nat.pow 2 32)) ++ bytesOfWord (UInt32.ofNat (n * 8))

def pad (message : Bytes) : Bytes :=
  message ++ 0x80 :: List.replicate ((119 - message.length % 64) % 64) 0
    ++ bitLength message.length

theorem pad_length (message : Bytes) : (pad message).length % 64 = 0 := by
  simp [pad, bitLength]
  omega

def blocks (message : Bytes) : List (List UInt32) := (chunks 64 (pad message)).map words

def rotateLeft (w : UInt32) (n : UInt32) : UInt32 := (w <<< n) ||| (w >>> (32 - n))
def rotateRight (w : UInt32) (n : UInt32) : UInt32 := (w >>> n) ||| (w <<< (32 - n))

end SignedRest.Digest
