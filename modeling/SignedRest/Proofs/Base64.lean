import Mathlib.Data.List.Basic
import SignedRest.Text.Base64

/-! What is encoded is read back, and so bytes of one length never have the same padded text. -/
namespace SignedRest.Base64

def Alphabet.Proper (a : Alphabet) : Prop := ∀ n < 64, a.value (a.char n) = some n

theorem standard_proper : standard.Proper := by
  unfold Alphabet.Proper
  decide

theorem urlSafe_proper : urlSafe.Proper := by
  unfold Alphabet.Proper
  decide

def values : Bytes → List Nat
  | [] => []
  | [x] => [x.toNat / 4, x.toNat % 4 * 16]
  | [x, y] => [x.toNat / 4, x.toNat % 4 * 16 + y.toNat / 16, y.toNat % 16 * 4]
  | x :: y :: z :: rest =>
    x.toNat / 4 :: (x.toNat % 4 * 16 + y.toNat / 16) :: (y.toNat % 16 * 4 + z.toNat / 64) ::
      z.toNat % 64 :: values rest

def padding (pad : List Char) (n : Nat) : List Char :=
  if n % 3 = 1 then pad ++ pad else if n % 3 = 2 then pad else []

theorem encode_eq (a : Alphabet) (pad : List Char) (bytes : Bytes) :
    encode a pad bytes = (values bytes).map a.char ++ padding pad bytes.length := by
  fun_induction encode a pad bytes with
  | case1 => rfl
  | case2 x => simp [values, padding]
  | case3 x y => simp [values, padding]
  | case4 x y z rest ih =>
    have same : padding pad (rest.length + 1 + 1 + 1) = padding pad rest.length := by
      simp [padding, Nat.add_assoc]
    simp [values, ih, same]

theorem encode_bare (a : Alphabet) (bytes : Bytes) :
    encode a [] bytes = (values bytes).map a.char := by
  simp [encode_eq, padding]

theorem length_values (bytes : Bytes) : (values bytes).length = (4 * bytes.length + 2) / 3 := by
  fun_induction values bytes with
  | case1 => simp
  | case2 x => simp
  | case3 x y => simp
  | case4 x y z rest ih =>
    simp only [List.length_cons, ih]
    omega

theorem values_lt {bytes : Bytes} {n : Nat} (h : n ∈ values bytes) : n < 64 := by
  fun_induction values bytes with
  | case1 => cases h
  | case2 x =>
    have := x.toNat_lt
    simp only [List.mem_cons, List.not_mem_nil, or_false] at h
    omega
  | case3 x y =>
    have := x.toNat_lt
    have := y.toNat_lt
    simp only [List.mem_cons, List.not_mem_nil, or_false] at h
    omega
  | case4 x y z rest ih =>
    have := x.toNat_lt
    have := y.toNat_lt
    have := z.toNat_lt
    simp only [List.mem_cons] at h
    rcases h with h | h | h | h | h
    · omega
    · omega
    · omega
    · omega
    · exact ih h

theorem ofNat_of_eq {x : UInt8} {n : Nat} (h : n = x.toNat) : UInt8.ofNat n = x := by
  rw [h, UInt8.ofNat_toNat]

theorem decodeValues_values (bytes : Bytes) : decodeValues (values bytes) = some bytes := by
  fun_induction values bytes with
  | case1 => rfl
  | case2 x =>
    have low : x.toNat % 4 * 16 % 16 = 0 := by omega
    rw [decodeValues, if_pos low, ofNat_of_eq (x := x) (by omega)]
  | case3 x y =>
    have := y.toNat_lt
    have low : y.toNat % 16 * 4 % 4 = 0 := by omega
    rw [decodeValues, if_pos low, ofNat_of_eq (x := x) (by omega), ofNat_of_eq (x := y) (by omega)]
  | case4 x y z rest ih =>
    have := y.toNat_lt
    have := z.toNat_lt
    rw [decodeValues, ih, Option.map_some, ofNat_of_eq (x := x) (by omega),
      ofNat_of_eq (x := y) (by omega), ofNat_of_eq (x := z) (by omega)]

theorem mapM_value {a : Alphabet} (proper : a.Proper) {list : List Nat}
    (h : ∀ n ∈ list, n < 64) : (list.map a.char).mapM a.value = some list := by
  induction list with
  | nil => rfl
  | cons n list ih =>
    obtain ⟨own, rest⟩ := List.forall_mem_cons.mp h
    rw [List.map_cons, List.mapM_cons, proper n own, ih rest]
    rfl

theorem decode_encode {a : Alphabet} (proper : a.Proper) (bytes : Bytes) :
    decode a (encode a [] bytes) = some bytes := by
  have read := mapM_value proper fun n (mem : n ∈ values bytes) => values_lt mem
  rw [encode_bare, decode, read]
  exact decodeValues_values bytes

/-- The padding tells nothing, so that no two texts of bytes of one length are the same. -/
theorem encode_injective_of_length {a : Alphabet} (proper : a.Proper) {pad : List Char}
    {x y : Bytes} (length : x.length = y.length) (h : encode a pad x = encode a pad y) : x = y := by
  rw [encode_eq, encode_eq, length, List.append_cancel_right_eq, ← encode_bare,
    ← encode_bare] at h
  have read := congrArg (decode a) h
  rw [decode_encode proper, decode_encode proper] at read
  exact Option.some.inj read

end SignedRest.Base64
