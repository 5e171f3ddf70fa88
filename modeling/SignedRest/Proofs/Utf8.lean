import SignedRest.Text.Utf8

/-! Text survives its way through bytes: what was encoded is read back character by character,
and no two texts have the same bytes. -/
namespace SignedRest.Utf8

theorem follow_cons {lo hi b : UInt8} (hlo : lo ≤ b) (hhi : b ≤ hi) (need code width : Nat)
    (rest : Bytes) :
    follow (need + 1) lo hi code width (b :: rest) =
      follow need 0x80 0xBF (code * 64 + b.toNat % 64) (width + 1) rest := by
  simp [follow, hlo, hhi]

theorem toNat_ofNat_of_lt {n : Nat} (h : n < 256) : (UInt8.ofNat n).toNat = n := by
  simp [Nat.mod_eq_of_lt h]

theorem next_ascii {b : UInt8} (hb : b.toNat < 0x80) (rest : Bytes) :
    next b rest = (.ok (Char.ofNat b.toNat), rest) := by
  have h : b < 0x80 := UInt8.lt_iff_toNat_lt.mpr hb
  simp [next, h]

theorem next_two {v : Nat} (hv : 0x7F < v) (hv' : v ≤ 0x7FF) (rest : Bytes) :
    next (UInt8.ofNat (v / 64 % 0x20 + 0xC0)) (UInt8.ofNat (v % 0x40 + 0x80) :: rest) =
      (.ok (Char.ofNat v), rest) := by
  have hb := toNat_ofNat_of_lt (n := v / 64 % 0x20 + 0xC0) (by omega)
  have hx := toNat_ofNat_of_lt (n := v % 0x40 + 0x80) (by omega)
  generalize UInt8.ofNat (v / 64 % 0x20 + 0xC0) = b at hb
  generalize UInt8.ofNat (v % 0x40 + 0x80) = x at hx
  have h₁ : ¬ b < 0x80 := by simp [UInt8.lt_iff_toNat_lt]; omega
  have h₂ : ¬ b < 0xC2 := by simp [UInt8.lt_iff_toNat_lt]; omega
  have h₃ : b < 0xE0 := by simp [UInt8.lt_iff_toNat_lt]; omega
  have hlo : 0x80 ≤ x := by simp [UInt8.le_iff_toNat_le]; omega
  have hhi : x ≤ 0xBF := by simp [UInt8.le_iff_toNat_le]; omega
  simp only [next, h₁, h₂, h₃, if_false, if_true]
  rw [follow_cons hlo hhi, follow]
  congr 3
  omega

/-- The bounds of the second byte keep out overlong forms and surrogates; no character is either. -/
theorem next_three {v : Nat} (hv : 0x7FF < v) (hv' : v ≤ 0xFFFF)
    (valid : v < 0xD800 ∨ 0xDFFF < v) (rest : Bytes) :
    next (UInt8.ofNat (v / 4096 % 0x10 + 0xE0))
        (UInt8.ofNat (v / 64 % 0x40 + 0x80) :: UInt8.ofNat (v % 0x40 + 0x80) :: rest) =
      (.ok (Char.ofNat v), rest) := by
  have hb := toNat_ofNat_of_lt (n := v / 4096 % 0x10 + 0xE0) (by omega)
  have hx := toNat_ofNat_of_lt (n := v / 64 % 0x40 + 0x80) (by omega)
  have hy := toNat_ofNat_of_lt (n := v % 0x40 + 0x80) (by omega)
  generalize UInt8.ofNat (v / 4096 % 0x10 + 0xE0) = b at hb
  generalize UInt8.ofNat (v / 64 % 0x40 + 0x80) = x at hx
  generalize UInt8.ofNat (v % 0x40 + 0x80) = y at hy
  have h₁ : ¬ b < 0x80 := by simp [UInt8.lt_iff_toNat_lt]; omega
  have h₂ : ¬ b < 0xC2 := by simp [UInt8.lt_iff_toNat_lt]; omega
  have h₃ : ¬ b < 0xE0 := by simp [UInt8.lt_iff_toNat_lt]; omega
  have h₄ : b < 0xF0 := by simp [UInt8.lt_iff_toNat_lt]; omega
  have hlo : (if b = 0xE0 then 0xA0 else 0x80) ≤ x := by
    split <;> simp_all [UInt8.le_iff_toNat_le, ← UInt8.toNat_inj]
    omega
  have hhi : x ≤ if b = 0xED then 0x9F else 0xBF := by
    split <;> simp_all [UInt8.le_iff_toNat_le, ← UInt8.toNat_inj] <;> omega
  have hlo' : 0x80 ≤ y := by simp [UInt8.le_iff_toNat_le]; omega
  have hhi' : y ≤ 0xBF := by simp [UInt8.le_iff_toNat_le]; omega
  simp only [next, h₁, h₂, h₃, h₄, if_false, if_true]
  rw [follow_cons hlo hhi, follow_cons hlo' hhi', follow]
  congr 3
  omega

theorem next_four {v : Nat} (hv : 0xFFFF < v) (hv' : v < 0x110000) (rest : Bytes) :
    next (UInt8.ofNat (v / 262144 % 0x08 + 0xF0))
        (UInt8.ofNat (v / 4096 % 0x40 + 0x80) :: UInt8.ofNat (v / 64 % 0x40 + 0x80) ::
          UInt8.ofNat (v % 0x40 + 0x80) :: rest) =
      (.ok (Char.ofNat v), rest) := by
  have hb := toNat_ofNat_of_lt (n := v / 262144 % 0x08 + 0xF0) (by omega)
  have hx := toNat_ofNat_of_lt (n := v / 4096 % 0x40 + 0x80) (by omega)
  have hy := toNat_ofNat_of_lt (n := v / 64 % 0x40 + 0x80) (by omega)
  have hz := toNat_ofNat_of_lt (n := v % 0x40 + 0x80) (by omega)
  generalize UInt8.ofNat (v / 262144 % 0x08 + 0xF0) = b at hb
  generalize UInt8.ofNat (v / 4096 % 0x40 + 0x80) = x at hx
  generalize UInt8.ofNat (v / 64 % 0x40 + 0x80) = y at hy
  generalize UInt8.ofNat (v % 0x40 + 0x80) = z at hz
  have h₁ : ¬ b < 0x80 := by simp [UInt8.lt_iff_toNat_lt]; omega
  have h₂ : ¬ b < 0xC2 := by simp [UInt8.lt_iff_toNat_lt]; omega
  have h₃ : ¬ b < 0xE0 := by simp [UInt8.lt_iff_toNat_lt]; omega
  have h₄ : ¬ b < 0xF0 := by simp [UInt8.lt_iff_toNat_lt]; omega
  have h₅ : b < 0xF5 := by simp [UInt8.lt_iff_toNat_lt]; omega
  have hlo : (if b = 0xF0 then 0x90 else 0x80) ≤ x := by
    split <;> simp_all [UInt8.le_iff_toNat_le, ← UInt8.toNat_inj]
    omega
  have hhi : x ≤ if b = 0xF4 then 0x8F else 0xBF := by
    split <;> simp_all [UInt8.le_iff_toNat_le, ← UInt8.toNat_inj] <;> omega
  have hlo' : 0x80 ≤ y := by simp [UInt8.le_iff_toNat_le]; omega
  have hhi' : y ≤ 0xBF := by simp [UInt8.le_iff_toNat_le]; omega
  have hlo'' : 0x80 ≤ z := by simp [UInt8.le_iff_toNat_le]; omega
  have hhi'' : z ≤ 0xBF := by simp [UInt8.le_iff_toNat_le]; omega
  simp only [next, h₁, h₂, h₃, h₄, h₅, if_false, if_true]
  rw [follow_cons hlo hhi, follow_cons hlo' hhi', follow_cons hlo'' hhi'', follow]
  congr 3
  omega

theorem items_encodeChar (c : Char) (bs : Bytes) :
    items (String.utf8EncodeChar c ++ bs) = .ok c :: items bs := by
  have same : Char.ofNat c.val.toNat = c := Char.ofNat_toNat c
  have valid : c.val.toNat < 0xD800 ∨ 0xDFFF < c.val.toNat ∧ c.val.toNat < 0x110000 := c.valid
  simp only [String.utf8EncodeChar]
  by_cases h₁ : c.val.toNat ≤ 0x7F
  · have hb := toNat_ofNat_of_lt (n := c.val.toNat) (by omega)
    rw [if_pos h₁, List.singleton_append, items, next_ascii (by rw [hb]; omega), hb, same]
  by_cases h₂ : c.val.toNat ≤ 0x7FF
  · rw [if_neg h₁, if_pos h₂, List.cons_append, List.singleton_append, items,
      next_two (by omega) h₂, same]
  by_cases h₃ : c.val.toNat ≤ 0xFFFF
  · rw [if_neg h₁, if_neg h₂, if_pos h₃, List.cons_append, List.cons_append,
      List.singleton_append, items, next_three (by omega) h₃ (by omega), same]
  · rw [if_neg h₁, if_neg h₂, if_neg h₃, List.cons_append, List.cons_append, List.cons_append,
      List.singleton_append, items, next_four (by omega) (by omega), same]

theorem items_encode_append (s : String) (bs : Bytes) :
    items (encode s ++ bs) = s.toList.map .ok ++ items bs := by
  unfold encode
  induction s.toList with
  | nil => rfl
  | cons c cs ih =>
    rw [List.flatMap_cons, List.append_assoc, items_encodeChar, ih]
    rfl

theorem items_encode (s : String) : items (encode s) = s.toList.map .ok := by
  have h := items_encode_append s []
  rw [List.append_nil] at h
  simpa [items] using h

@[simp] theorem decodeLossy_encode (s : String) : decodeLossy (encode s) = s := by
  rw [decodeLossy, items_encode, List.map_map]
  exact (congrArg String.ofList (List.map_id _)).trans String.ofList_toList

theorem collect_ok (index : Nat) (cs : List Char) : collect index (cs.map .ok) = .ok cs := by
  induction cs generalizing index with
  | nil => rfl
  | cons c cs ih => simp [collect, ih, Except.map]

@[simp] theorem decode_encode (s : String) : decode (encode s) = .ok s := by
  rw [decode, items_encode, collect_ok]
  exact congrArg Except.ok String.ofList_toList

theorem encode_injective {s t : String} (h : encode s = encode t) : s = t := by
  rw [← decodeLossy_encode s, h, decodeLossy_encode]

@[simp] theorem encode_append (s t : String) : encode (s ++ t) = encode s ++ encode t := by
  simp [encode]

def narrow (cs : List Char) : Bytes := cs.map fun c => UInt8.ofNat c.toNat

theorem encodeChar_ascii {c : Char} (h : c.toNat < 0x80) :
    String.utf8EncodeChar c = [UInt8.ofNat c.toNat] := by
  have h' : c.val.toNat ≤ 0x7F := Nat.le_of_lt_succ h
  simp only [String.utf8EncodeChar, h', if_true]
  rfl

theorem encode_ascii {cs : List Char} (h : ∀ c ∈ cs, c.toNat < 0x80) :
    encode (String.ofList cs) = narrow cs := by
  simp only [encode, String.toList_ofList, narrow]
  induction cs with
  | nil => rfl
  | cons c cs ih =>
    rw [List.flatMap_cons, encodeChar_ascii (h c (by simp)), ih fun d hd => h d (by simp [hd])]
    rfl

-- A byte of ASCII is read as such, whatever stands before it: it ends a sequence that was begun and
-- belongs to none.

def shown : Except Fault Char → Char
  | .ok c => c
  | .error _ => '\uFFFD'

theorem decodeLossy_eq (bs : Bytes) : decodeLossy bs = String.ofList ((items bs).map shown) := by
  rw [decodeLossy]
  congr 1

section
variable {b : UInt8} (hb : b < 0x80)
include hb

theorem follow_append (need : Nat) {lo : UInt8} (hlo : 0x80 ≤ lo) (hi : UInt8) (code width : Nat)
    (bs rest : Bytes) :
    shown (follow need lo hi code width (bs ++ b :: rest)).1 =
        shown (follow need lo hi code width bs).1 ∧
      (follow need lo hi code width (bs ++ b :: rest)).2 =
        (follow need lo hi code width bs).2 ++ b :: rest := by
  induction need generalizing lo hi code width bs with
  | zero => exact ⟨rfl, rfl⟩
  | succ need ih =>
    cases bs with
    | nil =>
      have outside : ¬ lo ≤ b := by
        simp only [UInt8.le_iff_toNat_le, UInt8.lt_iff_toNat_lt] at *
        omega
      simp [follow, outside, shown]
    | cons a bs =>
      by_cases inside : (lo ≤ a && a ≤ hi) = true
      · simp only [List.cons_append, follow, inside, if_true]
        exact ih (UInt8.le_refl _) ..
      · simp only [List.cons_append, follow, inside]
        exact ⟨rfl, rfl⟩

theorem next_append (a : UInt8) (bs rest : Bytes) :
    shown (next a (bs ++ b :: rest)).1 = shown (next a bs).1 ∧
      (next a (bs ++ b :: rest)).2 = (next a bs).2 ++ b :: rest := by
  have three : (0x80 : UInt8) ≤ if a = 0xE0 then 0xA0 else 0x80 := by split <;> decide
  have four : (0x80 : UInt8) ≤ if a = 0xF0 then 0x90 else 0x80 := by split <;> decide
  unfold next
  split
  · exact ⟨rfl, rfl⟩
  split
  · exact ⟨rfl, rfl⟩
  split
  · exact follow_append hb 1 (UInt8.le_refl _) ..
  split
  · exact follow_append hb 2 three ..
  split
  · exact follow_append hb 3 four ..
  · exact ⟨rfl, rfl⟩

theorem shown_items_append (bs rest : Bytes) :
    (items (bs ++ b :: rest)).map shown =
      (items bs).map shown ++ (items (b :: rest)).map shown := by
  induction bs using items.induct with
  | case1 => simp [items]
  | case2 a bs ih =>
    obtain ⟨char, more⟩ := next_append hb a bs rest
    rw [List.cons_append, items, items, List.map_cons, List.map_cons, char, more, ih]
    rfl

theorem decodeLossy_append (bs rest : Bytes) :
    decodeLossy (bs ++ b :: rest) = decodeLossy bs ++ decodeLossy (b :: rest) := by
  rw [decodeLossy_eq, decodeLossy_eq, decodeLossy_eq, shown_items_append hb,
    String.ofList_append]

theorem decodeLossy_cons (rest : Bytes) :
    decodeLossy (b :: rest) = String.ofList (Char.ofNat b.toNat :: (decodeLossy rest).toList) := by
  have ascii : next b rest = (.ok (Char.ofNat b.toNat), rest) := by simp [next, hb]
  rw [decodeLossy_eq, decodeLossy_eq, items, ascii, String.toList_ofList]
  rfl

/-- More text is another text. -/
theorem append_decodeLossy_ne (rest : Bytes) (s : String) : s ++ decodeLossy (b :: rest) ≠ s := by
  intro same
  have lists := congrArg String.toList same
  rw [String.toList_append, decodeLossy_cons hb, String.toList_ofList] at lists
  exact List.cons_ne_nil _ _ (List.append_right_eq_self.mp lists)

theorem mem_follow (need : Nat) {lo : UInt8} (hlo : 0x80 ≤ lo) (hi : UInt8) (code width : Nat)
    {bs : Bytes} (h : b ∈ bs) : b ∈ (follow need lo hi code width bs).2 := by
  induction need generalizing lo hi code width bs with
  | zero => exact h
  | succ need ih =>
    cases bs with
    | nil => cases h
    | cons a bs =>
      by_cases inside : (lo ≤ a && a ≤ hi) = true
      · have other : b ≠ a := by
          rintro rfl
          simp only [Bool.and_eq_true, decide_eq_true_eq, UInt8.le_iff_toNat_le,
            UInt8.lt_iff_toNat_lt] at *
          omega
        simp only [follow, inside, if_true]
        exact ih (UInt8.le_refl _) _ _ _ ((List.mem_cons.mp h).resolve_left other)
      · simp only [follow, inside]
        exact h

theorem mem_next {a : UInt8} {bs : Bytes} (h : b ∈ bs) : b ∈ (next a bs).2 := by
  have three : (0x80 : UInt8) ≤ if a = 0xE0 then 0xA0 else 0x80 := by split <;> decide
  have four : (0x80 : UInt8) ≤ if a = 0xF0 then 0x90 else 0x80 := by split <;> decide
  unfold next
  split
  · exact h
  split
  · exact h
  split
  · exact mem_follow hb 1 (UInt8.le_refl _) _ _ _ h
  split
  · exact mem_follow hb 2 three _ _ _ h
  split
  · exact mem_follow hb 3 four _ _ _ h
  · exact h

theorem mem_items {bs : Bytes} (h : b ∈ bs) : .ok (Char.ofNat b.toNat) ∈ items bs := by
  induction bs using items.induct with
  | case1 => cases h
  | case2 a bs ih =>
    rw [items]
    rcases List.mem_cons.mp h with rfl | h
    · rw [next_ascii (UInt8.lt_iff_toNat_lt.mp hb)]
      exact List.mem_cons_self
    · exact List.mem_cons_of_mem _ (ih (mem_next hb h))

/-- The bytes of a text that starts with such a character stand among those of another text only
where the text itself does. -/
theorem infix_of_encode {s t : String} {bs : Bytes} (start : encode s = b :: bs)
    (h : encode s <:+: encode t) : s.toList <:+: t.toList := by
  obtain ⟨before, after, eq⟩ := h
  have text : before ++ b :: (bs ++ after) = encode t := by
    rw [← eq, List.append_assoc, start]
    rfl
  have read := shown_items_append hb before (bs ++ after)
  have rest : b :: (bs ++ after) = encode s ++ after := by
    rw [start]
    rfl
  rw [text, rest, items_encode_append, items_encode, List.map_append, List.map_map,
    List.map_map] at read
  have same : shown ∘ Except.ok = id := rfl
  rw [same, List.map_id, List.map_id] at read
  exact ⟨_, _, by rw [List.append_assoc, ← read]⟩

theorem mem_of_mem_encode {s : String} (h : b ∈ encode s) : Char.ofNat b.toNat ∈ s.toList := by
  have item := mem_items hb h
  rw [items_encode] at item
  obtain ⟨c, hc, same⟩ := List.mem_map.mp item
  exact Except.ok.inj same ▸ hc

end

theorem mem_of_collect {index : Nat} {list : List (Except Fault Char)} {cs : List Char} {c : Char}
    (h : collect index list = .ok cs) (hc : .ok c ∈ list) : c ∈ cs := by
  induction list generalizing index cs with
  | nil => cases hc
  | cons item list ih =>
    cases item with
    | error f => cases h
    | ok d =>
      cases more : collect (index + d.utf8Size) list with
      | error e => simp [collect, more, Except.map] at h
      | ok ds =>
        simp only [collect, more, Except.map, Except.ok.injEq] at h
        subst h
        rcases List.mem_cons.mp hc with same | hc
        · exact List.mem_cons.mpr (.inl (Except.ok.inj same))
        · exact List.mem_cons_of_mem _ (ih more hc)

theorem mem_of_decode? {bs : Bytes} {s : String} (h : decode? bs = some s) {b : UInt8}
    (hb : b < 0x80) (mem : b ∈ bs) : Char.ofNat b.toNat ∈ s.toList := by
  cases read : collect 0 (items bs) with
  | error e => simp [decode?, decode, read, Except.map, Except.toOption] at h
  | ok cs =>
    simp only [decode?, decode, read, Except.map, Except.toOption, Option.some.injEq] at h
    rw [← h, String.toList_ofList]
    exact mem_of_collect read (mem_items hb mem)

end SignedRest.Utf8
