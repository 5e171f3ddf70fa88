import SignedRest.Text.Percent
import SignedRest.Proofs.Utf8

/-! Percent-encoded text: what it is made of, and that decoding gives back what was encoded.
The bytes that stand for themselves stay a parameter; all that is asked of them is to be ASCII
and no percent sign. -/
namespace SignedRest.Percent

open Utf8 (narrow)

/-- Bytes that may stand for themselves: ASCII, and not the sign that starts an escape. -/
def Transparent (keep : UInt8 → Bool) : Prop := ∀ b, keep b = true → b.toNat < 0x80 ∧ b ≠ 0x25

theorem forall_byte {p : UInt8 → Prop} (h : ∀ n ∈ List.range 256, p (UInt8.ofNat n)) (b : UInt8) :
    p b := by
  have hb := h b.toNat (List.mem_range.mpr b.toNat_lt)
  rwa [UInt8.ofNat_toNat] at hb

theorem transparent_isUnreserved : Transparent isUnreserved := forall_byte (by decide +kernel)

def isEncodedChar (c : Char) : Bool := c.isAlphanum || ['%', '-', '.', '_', '~'].contains c

theorem mem_encodeByte {b : UInt8} {c : Char} (h : c ∈ encodeByte b) :
    c = '%' ∨ ∃ n < 16, c = Ascii.hexUpper n := by
  have hb := b.toNat_lt
  simp only [encodeByte, List.mem_cons, List.not_mem_nil, or_false] at h
  rcases h with rfl | rfl | rfl
  · exact .inl rfl
  · exact .inr ⟨_, by omega, rfl⟩
  · exact .inr ⟨_, by omega, rfl⟩

theorem isEncodedChar_of_mem_encodeByte {b : UInt8} {c : Char} (h : c ∈ encodeByte b) :
    isEncodedChar c = true := by
  have digits : ∀ n ∈ List.range 16, isEncodedChar (Ascii.hexUpper n) = true := by decide
  rcases mem_encodeByte h with rfl | ⟨n, hn, rfl⟩
  · decide
  · exact digits n (List.mem_range.mpr hn)

theorem mem_encodeBytes {keep : UInt8 → Bool} {bs : Bytes} {c : Char}
    (h : c ∈ encodeBytes keep bs) :
    (∃ b, keep b = true ∧ c = Char.ofNat b.toNat) ∨ ∃ b, c ∈ encodeByte b := by
  obtain ⟨b, -, hc⟩ := List.mem_flatMap.mp h
  by_cases hb : keep b = true
  · left
    rw [if_pos hb, List.mem_singleton] at hc
    exact ⟨b, hb, hc⟩
  · right
    rw [if_neg hb] at hc
    exact ⟨b, hc⟩

theorem isEncodedChar_of_mem_encode {s : String} {c : Char} (h : c ∈ (encode s).toList) :
    isEncodedChar c = true := by
  have kept : ∀ b : UInt8, isUnreserved b = true → isEncodedChar (Char.ofNat b.toNat) = true :=
    forall_byte (by decide +kernel)
  rw [encode, String.toList_ofList] at h
  rcases mem_encodeBytes h with ⟨b, hb, rfl⟩ | ⟨b, hc⟩
  · exact kept b hb
  · exact isEncodedChar_of_mem_encodeByte hc

theorem not_mem_encode {c : Char} (h : isEncodedChar c = false) (s : String) :
    c ∉ (encode s).toList := fun hc => by
  rw [isEncodedChar_of_mem_encode hc] at h
  cases h

theorem isAlphanum_iff {c : Char} : c.isAlphanum = true ↔
    ((65 ≤ c.toNat ∧ c.toNat ≤ 90) ∨ (97 ≤ c.toNat ∧ c.toNat ≤ 122)) ∨
      (48 ≤ c.toNat ∧ c.toNat ≤ 57) := by
  change (decide ('A'.val ≤ c.val ∧ c.val ≤ 'Z'.val) || ('a'.val ≤ c.val && c.val ≤ 'z'.val) ||
    ('0'.val ≤ c.val && c.val ≤ '9'.val)) = true ↔ _
  simp only [Bool.or_eq_true, Bool.and_eq_true, decide_eq_true_eq, UInt32.le_iff_toNat_le]
  rfl

theorem isAlphanum_ascii {c : Char} (h : c.isAlphanum = true) : c.toNat < 0x80 := by
  rw [isAlphanum_iff] at h
  omega

theorem isEncodedChar_ascii {c : Char} (h : isEncodedChar c = true) : c.toNat < 0x80 := by
  simp only [isEncodedChar, Bool.or_eq_true, List.contains_eq_mem, decide_eq_true_eq,
    List.mem_cons, List.not_mem_nil, or_false] at h
  rcases h with h | rfl | rfl | rfl | rfl | rfl
  · exact isAlphanum_ascii h
  all_goals decide

@[simp] theorem decode_nil : decode [] = [] := rfl

theorem decode_cons_ne {a : UInt8} (h : a ≠ 0x25) (rest : Bytes) :
    decode (a :: rest) = a :: decode rest := by
  match rest with
  | [] => rfl
  | [_] => rfl
  | _ :: _ :: _ => simp [decode, h]

theorem ofNat_narrow {c : Char} (h : c.toNat < 0x80) :
    Char.ofNat (UInt8.ofNat c.toNat).toNat = c := by
  rw [Utf8.toNat_ofNat_of_lt (by omega)]
  exact Char.ofNat_toNat c

theorem narrow_ofNat : ∀ b : UInt8, b.toNat < 0x80 → UInt8.ofNat (Char.ofNat b.toNat).toNat = b :=
  forall_byte (by decide +kernel)

theorem hexUpper_ascii {n : Nat} (h : n < 16) : (Ascii.hexUpper n).toNat < 0x80 := by
  have all : ∀ m ∈ List.range 16, (Ascii.hexUpper m).toNat < 0x80 := by decide
  exact all n (List.mem_range.mpr h)

theorem hexPair_narrow {h l : Nat} (hh : h < 16) (hl : l < 16) :
    hexPair (UInt8.ofNat (Ascii.hexUpper h).toNat) (UInt8.ofNat (Ascii.hexUpper l).toNat) =
      some (UInt8.ofNat (h * 16 + l)) := by
  simp only [hexPair, ofNat_narrow (hexUpper_ascii hh), ofNat_narrow (hexUpper_ascii hl),
    Ascii.hexValue_hexUpper hh, Ascii.hexValue_hexUpper hl]
  rfl

theorem decode_encodeByte (b : UInt8) (rest : Bytes) :
    decode (narrow (encodeByte b) ++ rest) = b :: decode rest := by
  have hb := b.toNat_lt
  have value : b.toNat / 16 * 16 + b.toNat % 16 = b.toNat := by omega
  have pair := hexPair_narrow (h := b.toNat / 16) (l := b.toNat % 16) (by omega) (by omega)
  rw [value, UInt8.ofNat_toNat] at pair
  have sign : UInt8.ofNat '%'.toNat = 0x25 := by decide
  simp only [narrow, encodeByte, List.map_cons, List.map_nil, List.cons_append, List.nil_append,
    decode, sign, if_true, pair]

theorem decode_encodeBytes {keep : UInt8 → Bool} (hk : Transparent keep) (bs rest : Bytes) :
    decode (narrow (encodeBytes keep bs) ++ rest) = bs ++ decode rest := by
  induction bs with
  | nil => rfl
  | cons b bs ih =>
    have unfolded : encodeBytes keep (b :: bs) =
        (if keep b then [Char.ofNat b.toNat] else encodeByte b) ++ encodeBytes keep bs := rfl
    rw [unfolded, narrow, List.map_append, List.append_assoc]
    by_cases hb : keep b = true
    · obtain ⟨ascii, plain⟩ := hk b hb
      rw [if_pos hb, List.map_singleton, narrow_ofNat b ascii, List.singleton_append,
        decode_cons_ne plain, ← narrow, ih, List.cons_append]
    · rw [if_neg hb, ← narrow, ← narrow, decode_encodeByte, ih, List.cons_append]

theorem encode_bytes (s : String) :
    Utf8.encode (encode s) = narrow (encodeBytes isUnreserved (Utf8.encode s)) := by
  rw [encode, Utf8.encode_ascii]
  intro c hc
  refine isEncodedChar_ascii (isEncodedChar_of_mem_encode (s := s) ?_)
  rwa [encode, String.toList_ofList]

@[simp] theorem decodeText_encode (s : String) : decodeText (encode s) = s := by
  have h := decode_encodeBytes transparent_isUnreserved (Utf8.encode s) []
  rw [List.append_nil, decode_nil, List.append_nil] at h
  rw [decodeText, encode_bytes, h, Utf8.decodeLossy_encode]

theorem encode_injective {s t : String} (h : encode s = encode t) : s = t := by
  rw [← decodeText_encode s, h, decodeText_encode]

theorem hexPair_none {h l : UInt8}
    (no : Ascii.hexValue (Char.ofNat h.toNat) = none ∨ Ascii.hexValue (Char.ofNat l.toNat) = none) :
    hexPair h l = none := by
  rcases no with no | no
  · simp [hexPair, no]
  · cases high : Ascii.hexValue (Char.ofNat h.toNat) <;> simp [hexPair, no, high]

/-- What is no digit, as the sign of an escape is none, ends a broken escape before it. -/
theorem decode_append {c : UInt8} (digit : Ascii.hexValue (Char.ofNat c.toNat) = none)
    (bs rest : Bytes) : decode (bs ++ c :: rest) = decode bs ++ decode (c :: rest) := by
  have one : ∀ a : UInt8, decode (a :: c :: rest) = a :: decode (c :: rest) := by
    intro a
    cases rest with
    | nil => simp [decode]
    | cons b rest => simp [decode, hexPair_none (.inl digit)]
  induction bs using decode.induct with
  | case1 => rfl
  | case2 a => exact one a
  | case3 a b =>
    have pair : hexPair b c = none := hexPair_none (.inr digit)
    simp [decode, pair, one]
  | case4 a h l bs b escape ih =>
    rw [List.cons_append, List.cons_append, List.cons_append, decode, decode, escape, ih]
    rfl
  | case5 a h l bs escape ih =>
    rw [List.cons_append, List.cons_append, List.cons_append, decode, decode, escape]
    rw [List.cons_append, List.cons_append] at ih
    rw [ih]
    rfl

theorem decode_eq_nil_iff {bs : Bytes} : decode bs = [] ↔ bs = [] := by
  cases bs using decode.induct with
  | case1 => simp
  | case2 a => simp [decode]
  | case3 a b => simp [decode]
  | case4 a h l bs b escape => simp [decode, escape]
  | case5 a h l bs escape => simp [decode, escape]

/-- A byte that is no part of escapes stays. -/
theorem mem_decode {b : UInt8} (sign : b ≠ 0x25)
    (digit : Ascii.hexValue (Char.ofNat b.toNat) = none) {bs : Bytes} (h : b ∈ bs) :
    b ∈ decode bs := by
  induction bs using decode.induct with
  | case1 => cases h
  | case2 a => exact h
  | case3 a b => exact h
  | case4 x y z bs c escape ih =>
    have hex : ¬ (b = y ∨ b = z) := by
      intro same
      have unread : hexPair y z = none :=
        hexPair_none (by rcases same with rfl | rfl <;> simp [digit])
      simp [unread] at escape
    rw [decode, escape]
    by_cases percent : x = 0x25
    · simp only [List.mem_cons, percent, sign, false_or, ← or_assoc, hex] at h
      exact List.mem_cons_of_mem _ (ih h)
    · simp [percent] at escape
  | case5 x y z bs escape ih =>
    rw [decode, escape]
    rcases List.mem_cons.mp h with rfl | h
    · exact List.mem_cons_self
    · exact List.mem_cons_of_mem _ (ih h)

theorem length_encodeBytes_le (keep : UInt8 → Bool) (bs : Bytes) :
    bs.length ≤ (encodeBytes keep bs).length := by
  induction bs with
  | nil => simp
  | cons b bs ih =>
    rw [← List.singleton_append, encodeBytes_append, List.length_append, List.length_append]
    by_cases kept : keep b = true <;> simp [encodeBytes, encodeByte, kept] at ih ⊢ <;> omega

theorem narrow_encodeBytes_eq_iff {keep : UInt8 → Bool} (hk : Transparent keep) (bs : Bytes) :
    Utf8.narrow (encodeBytes keep bs) = bs ↔ ∀ b ∈ bs, keep b = true := by
  induction bs with
  | nil => simp [Utf8.narrow]
  | cons b bs ih =>
    have unfolded : encodeBytes keep (b :: bs) =
        (if keep b then [Char.ofNat b.toNat] else encodeByte b) ++ encodeBytes keep bs := rfl
    by_cases kept : keep b = true
    · have byte := narrow_ofNat b (hk b kept).1
      rw [unfolded, if_pos kept, List.singleton_append, Utf8.narrow, List.map_cons, byte,
        List.cons.injEq, ← Utf8.narrow, ih]
      simp [kept]
    · have longer := length_encodeBytes_le keep bs
      have escaped : Utf8.narrow (encodeBytes keep (b :: bs)) ≠ b :: bs := fun same => by
        have lengths := congrArg List.length same
        rw [Utf8.narrow, List.length_map, unfolded, if_neg kept, List.length_append] at lengths
        simp only [encodeByte, List.length_cons, List.length_nil] at lengths
        omega
      simp [escaped, kept]

/-- A text is escaped unless it is made of unreserved characters only. -/
theorem encode_eq_self_iff (s : String) :
    encode s = s ↔ ∀ b ∈ Utf8.encode s, isUnreserved b = true := by
  rw [← narrow_encodeBytes_eq_iff transparent_isUnreserved, ← encode_bytes]
  exact ⟨fun same => by rw [same], Utf8.encode_injective⟩

def isUnreservedChar (c : Char) : Bool := c.isAlphanum || ['-', '.', '_', '~'].contains c

theorem isUnreserved_narrow {c : Char} (ascii : c.toNat < 0x80) :
    isUnreserved (UInt8.ofNat c.toNat) = isUnreservedChar c := by
  have all : ∀ n ∈ List.range 0x80,
      isUnreserved (UInt8.ofNat (Char.ofNat n).toNat) = isUnreservedChar (Char.ofNat n) := by
    decide +kernel
  have own := all c.toNat (List.mem_range.mpr ascii)
  rwa [Char.ofNat_toNat] at own

theorem isUnreservedChar_ascii {c : Char} (h : isUnreservedChar c = true) : c.toNat < 0x80 := by
  apply isEncodedChar_ascii
  simp only [isUnreservedChar, isEncodedChar, Bool.or_eq_true, List.contains_eq_mem,
    decide_eq_true_eq, List.mem_cons] at h ⊢
  exact h.imp_right .inr

theorem encode_of_unreserved {s : String} (h : ∀ c ∈ s.toList, isUnreservedChar c = true) :
    encode s = s := by
  have ascii : ∀ c ∈ s.toList, c.toNat < 0x80 := fun c mem => isUnreservedChar_ascii (h c mem)
  rw [encode_eq_self_iff, ← String.ofList_toList (s := s), Utf8.encode_ascii ascii, narrow]
  intro b mem
  obtain ⟨c, among, rfl⟩ := List.mem_map.mp mem
  rw [isUnreserved_narrow (ascii c among), h c among]

end SignedRest.Percent
