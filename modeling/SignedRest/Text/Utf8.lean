/-! Text as UTF-8 bytes, and bytes read back as text, strictly or with a replacement
character for every maximal broken piece. Nothing here knows about percent signs. -/
namespace SignedRest

abbrev Bytes := List UInt8

namespace Utf8

def encode (s : String) : Bytes := s.toList.flatMap String.utf8EncodeChar

@[simp] theorem encode_empty : encode "" = [] := rfl

/-- Why bytes are no character: after `width` of them comes one that cannot follow, or the
input ends inside the sequence. -/
inductive Fault
  | broken (width : Nat)
  | cut
  deriving DecidableEq, Repr

/-- Reads `need` more bytes of a sequence; the next one lies between `lo` and `hi`. -/
def follow : (need : Nat) → (lo hi : UInt8) → (code width : Nat) → Bytes →
    Except Fault Char × Bytes
  | 0, _, _, code, _, rest => (.ok (Char.ofNat code), rest)
  | _ + 1, _, _, _, _, [] => (.error .cut, [])
  | need + 1, lo, hi, code, width, b :: rest =>
    if lo ≤ b && b ≤ hi then
      follow need 0x80 0xBF (code * 64 + b.toNat % 64) (width + 1) rest
    else (.error (.broken width), b :: rest)

theorem follow_length (need : Nat) (lo hi : UInt8) (code width : Nat) (bs : Bytes) :
    (follow need lo hi code width bs).2.length ≤ bs.length := by
  induction need generalizing lo hi code width bs with
  | zero => simp [follow]
  | succ need ih =>
    cases bs with
    | nil => simp [follow]
    | cons b rest =>
      simp only [follow]
      split
      · exact Nat.le_succ_of_le (ih _ _ _ _ _)
      · simp

/-- The character that starts with byte `b`, and what follows it. Overlong forms, surrogates
and numbers above the last code point are broken after their first byte. -/
def next (b : UInt8) (rest : Bytes) : Except Fault Char × Bytes :=
  if b < 0x80 then (.ok (Char.ofNat b.toNat), rest)
  else if b < 0xC2 then (.error (.broken 1), rest)
  else if b < 0xE0 then follow 1 0x80 0xBF (b.toNat % 32) 1 rest
  else if b < 0xF0 then
    follow 2 (if b = 0xE0 then 0xA0 else 0x80) (if b = 0xED then 0x9F else 0xBF)
      (b.toNat % 16) 1 rest
  else if b < 0xF5 then
    follow 3 (if b = 0xF0 then 0x90 else 0x80) (if b = 0xF4 then 0x8F else 0xBF)
      (b.toNat % 8) 1 rest
  else (.error (.broken 1), rest)

theorem next_length (b : UInt8) (rest : Bytes) : (next b rest).2.length ≤ rest.length := by
  unfold next
  repeat' split
  all_goals first | exact follow_length .. | exact Nat.le_refl _

def items : Bytes → List (Except Fault Char)
  | [] => []
  | b :: rest => (next b rest).1 :: items (next b rest).2
termination_by bs => bs.length
decreasing_by exact Nat.lt_succ_of_le (next_length b rest)

/-- Every fault becomes one U+FFFD. -/
def decodeLossy (bs : Bytes) : String :=
  String.ofList ((items bs).map fun | .ok c => c | .error _ => '\uFFFD')

/-- The characters, or the first fault with the index of its first byte. -/
def collect : Nat → List (Except Fault Char) → Except (Nat × Fault) (List Char)
  | _, [] => .ok []
  | index, .error f :: _ => .error (index, f)
  | index, .ok c :: rest => (collect (index + c.utf8Size) rest).map (c :: ·)

def decode (bs : Bytes) : Except (Nat × Fault) String :=
  (collect 0 (items bs)).map String.ofList

def decode? (bs : Bytes) : Option String := (decode bs).toOption

def Fault.message (index : Nat) : Fault → String
  | .broken width =>
    "invalid utf-8 sequence of " ++ toString width ++ " bytes from index " ++ toString index
  | .cut => "incomplete utf-8 byte sequence from index " ++ toString index

end Utf8
end SignedRest
