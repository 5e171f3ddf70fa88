import Mathlib.Data.List.TakeWhile
import SignedRest.Text.Form
import SignedRest.Proofs.Percent

/-! Pairs written as a form are read back as they were, in their order, whatever their names and
values hold; and forms can be put behind each other. -/
namespace SignedRest.Form

open Utf8 (narrow)
open Percent (forall_byte)

def isTextChar (c : Char) : Bool := c.isAlphanum || ['%', '+', '*', '-', '.', '_'].contains c

theorem isTextChar_of_mem {s : String} {c : Char} (h : c ∈ encodeText s) :
    isTextChar c = true := by
  have bytes : ∀ b : UInt8, (encodeByte b).all isTextChar = true := forall_byte (by decide +kernel)
  obtain ⟨b, -, hc⟩ := List.mem_flatMap.mp h
  exact List.all_eq_true.mp (bytes b) c hc

theorem not_mem_encodeText {c : Char} (h : isTextChar c = false) (s : String) :
    c ∉ encodeText s := fun hc => by
  rw [isTextChar_of_mem hc] at h
  cases h

theorem isTextChar_ascii {c : Char} (h : isTextChar c = true) : c.toNat < 0x80 := by
  simp only [isTextChar, Bool.or_eq_true, List.contains_eq_mem, decide_eq_true_eq, List.mem_cons,
    List.not_mem_nil, or_false] at h
  rcases h with h | h
  · exact Percent.isAlphanum_ascii h
  · rcases h with rfl | rfl | rfl | rfl | rfl | rfl <;> decide

theorem encodeText_ascii {s : String} {c : Char} (h : c ∈ encodeText s) : c.toNat < 0x80 :=
  isTextChar_ascii (isTextChar_of_mem h)

def plusToBlank (b : UInt8) : UInt8 := if b = 0x2B then 0x20 else b

theorem decode_plus_encodeByte (b : UInt8) (rest : Bytes) :
    Percent.decode ((narrow (encodeByte b)).map plusToBlank ++ rest) =
      b :: Percent.decode rest := by
  have escaped : ∀ b : UInt8, (narrow (Percent.encodeByte b)).map plusToBlank =
      narrow (Percent.encodeByte b) := forall_byte (by decide +kernel)
  have plain : ∀ b : UInt8, isPlain b = true →
      (narrow [Char.ofNat b.toNat]).map plusToBlank = [b] ∧ b ≠ 0x25 :=
    forall_byte (by decide +kernel)
  unfold encodeByte
  by_cases blank : b = 0x20
  · subst blank
    rw [if_pos rfl]
    exact Percent.decode_cons_ne (by decide) rest
  · rw [if_neg blank]
    by_cases hb : isPlain b = true
    · obtain ⟨same, sign⟩ := plain b hb
      rw [if_pos hb, same, List.singleton_append, Percent.decode_cons_ne sign]
    · rw [if_neg hb, escaped, Percent.decode_encodeByte]

@[simp] theorem decodeText_encodeText (s : String) : decodeText (narrow (encodeText s)) = s := by
  have bytes : ∀ bs : Bytes,
      Percent.decode ((narrow (bs.flatMap encodeByte)).map plusToBlank) = bs := by
    intro bs
    induction bs with
    | nil => rfl
    | cons b bs ih =>
      rw [List.flatMap_cons, narrow, List.map_append, List.map_append, ← narrow,
        decode_plus_encodeByte, ← narrow, ih]
  have h := bytes (Utf8.encode s)
  unfold plusToBlank at h
  rw [decodeText, encodeText, h, Utf8.decodeLossy_encode]

theorem mem_narrow {cs : List Char} {d : Char} (ascii : ∀ c ∈ cs, c.toNat < 0x80)
    (hd : d.toNat < 0x80) : UInt8.ofNat d.toNat ∈ narrow cs ↔ d ∈ cs := by
  constructor
  · intro h
    obtain ⟨c, hc, eq⟩ := List.mem_map.mp h
    have same := congrArg (fun b : UInt8 => Char.ofNat b.toNat) eq
    simp only [Percent.ofNat_narrow (ascii c hc), Percent.ofNat_narrow hd] at same
    exact same ▸ hc
  · exact fun h => List.mem_map.mpr ⟨d, h, rfl⟩

theorem encodePair_ascii {p : String × String} {c : Char} (h : c ∈ encodePair p) :
    c.toNat < 0x80 := by
  rcases List.mem_append.mp h with h | h
  · exact encodeText_ascii h
  · rcases List.mem_cons.mp h with rfl | h
    · decide
    · exact encodeText_ascii h

theorem amp_not_mem_encodePair (p : String × String) : 0x26 ∉ narrow (encodePair p) := by
  have h := mem_narrow (d := '&') (fun c hc => encodePair_ascii (p := p) hc) (by decide)
  have name := not_mem_encodeText (c := '&') (by decide) p.1
  have value := not_mem_encodeText (c := '&') (by decide) p.2
  intro amp
  simpa [encodePair, name, value] using h.mp amp

theorem bne_of_not_mem {α : Type} [BEq α] [LawfulBEq α] {a : α} {list : List α} (h : a ∉ list) :
    ∀ b ∈ list, (b != a) = true := by
  rintro b hb
  rw [bne_iff_ne]
  rintro rfl
  exact h hb

theorem splitPair_of_not_mem {name value : Bytes} (h : 0x3D ∉ name) :
    splitPair (name ++ 0x3D :: value) = (name, value) := by
  have before := bne_of_not_mem h
  rw [splitPair, List.takeWhile_append_of_pos before, List.dropWhile_append_of_pos before]
  simp

theorem splitPair_encodePair (p : String × String) :
    splitPair (narrow (encodePair p)) = (narrow (encodeText p.1), narrow (encodeText p.2)) := by
  have h := mem_narrow (d := '=') (fun c hc => encodeText_ascii (s := p.1) hc) (by decide)
  have name : 0x3D ∉ narrow (encodeText p.1) := fun eq =>
    not_mem_encodeText (by decide) p.1 (h.mp eq)
  rw [encodePair, narrow, List.map_append, List.map_cons]
  exact splitPair_of_not_mem name

def readPart (part : Bytes) : String × String :=
  (decodeText (splitPair part).1, decodeText (splitPair part).2)

@[simp] theorem readPart_encodePair (p : String × String) :
    readPart (narrow (encodePair p)) = p := by
  rw [readPart, splitPair_encodePair]
  simp

@[simp] theorem decode_nil : decode [] = [] := rfl

theorem decode_append_amp (a b : Bytes) : decode (a ++ 0x26 :: b) = decode a ++ decode b := by
  simp [decode, List.splitOn_append_cons_self]

theorem decodeString_append_amp (a b : String) :
    decodeString (a ++ ("&" ++ b)) = decodeString a ++ decodeString b := by
  have amp : Utf8.encode "&" = [0x26] := by decide
  rw [decodeString, Utf8.encode_append, Utf8.encode_append, amp, List.singleton_append,
    decode_append_amp]
  rfl

theorem decode_of_not_mem {part : Bytes} (h : 0x26 ∉ part) (nonempty : part ≠ []) :
    decode part = [readPart part] := by
  simp [decode, List.splitOn_eq_singleton h, nonempty, readPart]

theorem mem_encode {pairs : List (String × String)} {c : Char} (h : c ∈ (encode pairs).toList) :
    isTextChar c = true ∨ c = '=' ∨ c = '&' := by
  have single : ∀ {p : String × String}, c ∈ encodePair p →
      isTextChar c = true ∨ c = '=' ∨ c = '&' := by
    intro p hp
    rcases List.mem_append.mp hp with hp | hp
    · exact .inl (isTextChar_of_mem hp)
    · rcases List.mem_cons.mp hp with rfl | hp
      · exact .inr (.inl rfl)
      · exact .inl (isTextChar_of_mem hp)
  rw [encode, String.toList_ofList] at h
  induction pairs with
  | nil => simp at h
  | cons p pairs ih =>
    cases pairs with
    | nil => exact single (p := p) (by simpa using h)
    | cons q rest =>
      simp only [List.map_cons, List.intercalate_cons_cons, List.mem_append,
        List.mem_singleton] at h ih
      rcases h with (h | rfl) | h
      · exact single h
      · exact .inr (.inr rfl)
      · exact ih h

theorem encode_ascii {pairs : List (String × String)} {c : Char} (h : c ∈ (encode pairs).toList) :
    c.toNat < 0x80 := by
  rcases mem_encode h with h | rfl | rfl
  · exact isTextChar_ascii h
  · decide
  · decide

theorem encode_cons_cons (p q : String × String) (rest : List (String × String)) :
    Utf8.encode (encode (p :: q :: rest)) =
      narrow (encodePair p) ++ 0x26 :: Utf8.encode (encode (q :: rest)) := by
  have ascii : ∀ l, Utf8.encode (encode l) =
      narrow (List.intercalate ['&'] (l.map encodePair)) := fun l =>
    Utf8.encode_ascii fun c hc => by
      have mem : c ∈ (encode l).toList := by rwa [encode, String.toList_ofList]
      exact encode_ascii mem
  rw [ascii, ascii, List.map_cons, List.map_cons, List.intercalate_cons_cons]
  simp [narrow]

@[simp] theorem decodeString_encode (pairs : List (String × String)) :
    decodeString (encode pairs) = pairs := by
  have single : ∀ p : String × String, decode (narrow (encodePair p)) = [p] := fun p => by
    rw [decode_of_not_mem (amp_not_mem_encodePair p) (by simp [narrow, encodePair]),
      readPart_encodePair]
  unfold decodeString
  induction pairs with
  | nil => rfl
  | cons p pairs ih =>
    cases pairs with
    | nil =>
      have ascii : Utf8.encode (encode [p]) = narrow (encodePair p) := by
        rw [encode, List.map_singleton, List.intercalate_singleton]
        exact Utf8.encode_ascii fun c hc => encodePair_ascii hc
      rw [ascii, single]
    | cons q rest =>
      rw [encode_cons_cons, decode_append_amp, single, ih, List.singleton_append]

end SignedRest.Form
