import SignedRest.Proofs.FormPairs

/-! Text put at the end of a form with no sign before it. It belongs to the last pair, or makes a
pair of its own where there was none, and a reader that drops empty stretches notices almost all
of it. -/
namespace SignedRest.Form

open Utf8 (narrow)
open Percent (forall_byte)

def lastPart {α : Type} [BEq α] (sep : α) (list : List α) : List α :=
  (list.reverse.takeWhile (· != sep)).reverse

section
variable {α : Type} [BEq α] [LawfulBEq α] {sep : α}

theorem not_mem_lastPart (sep : α) (list : List α) : sep ∉ lastPart sep list := fun mem => by
  have other := List.mem_takeWhile_imp (List.mem_reverse.mp mem)
  simp at other

theorem lastPart_of_not_mem {list : List α} (h : sep ∉ list) : lastPart sep list = list := by
  have all := bne_of_not_mem (List.mem_reverse.not.mpr h)
  rw [lastPart, List.takeWhile_eq_self_iff.mpr all, List.reverse_reverse]

theorem lastPart_append_cons {part : List α} (h : sep ∉ part) (front : List α) :
    lastPart sep (front ++ sep :: part) = part := by
  have all := bne_of_not_mem (List.mem_reverse.not.mpr h)
  simp [lastPart, List.takeWhile_append_of_pos all]

/-- A list is its last stretch, or has a separator in front of it. -/
theorem eq_lastPart_or (sep : α) (list : List α) :
    (sep ∉ list ∧ lastPart sep list = list) ∨
      ∃ front, list = front ++ sep :: lastPart sep list := by
  by_cases mem : sep ∈ list
  · obtain ⟨part, front, whole, last⟩ := List.eq_append_cons_of_mem (List.mem_reverse.mpr mem)
    have back : list = front.reverse ++ sep :: part.reverse := by
      simpa using congrArg List.reverse whole
    refine .inr ⟨front.reverse, ?_⟩
    rw [back, lastPart_append_cons (by simpa using last)]
  · exact .inl ⟨mem, lastPart_of_not_mem mem⟩

theorem lastPart_append {more : List α} (h : sep ∉ more) (list : List α) :
    lastPart sep (list ++ more) = lastPart sep list ++ more := by
  have apart : sep ∉ lastPart sep list ++ more := by simp [not_mem_lastPart, h]
  rcases eq_lastPart_or sep list with ⟨-, whole⟩ | ⟨front, whole⟩
  · rw [whole] at apart ⊢
    exact lastPart_of_not_mem apart
  · rw [congrArg (lastPart sep <| · ++ more) whole, List.append_assoc, List.cons_append,
      lastPart_append_cons apart]

end

/-- The pairs before the last stretch are read whatever follows. -/
theorem decode_append (bs : Bytes) :
    ∃ init, ∀ more, decode (bs ++ more) = init ++ decode (lastPart 0x26 bs ++ more) := by
  rcases eq_lastPart_or 0x26 bs with ⟨-, whole⟩ | ⟨front, whole⟩
  · exact ⟨[], fun more => by rw [whole, List.nil_append]⟩
  · refine ⟨decode front, fun more => ?_⟩
    rw [congrArg (decode <| · ++ more) whole, List.append_assoc, List.cons_append,
      decode_append_amp]

def splitForm (bs : Bytes) : Bytes × Bytes :=
  (bs.takeWhile (· != 0x26), (bs.dropWhile (· != 0x26)).tail)

theorem splitForm_cases (bs : Bytes) :
    0x26 ∉ (splitForm bs).1 ∧ (splitForm bs = (bs, []) ∨
      bs = (splitForm bs).1 ++ 0x26 :: (splitForm bs).2) := by
  have whole := List.takeWhile_append_dropWhile (p := (· != 0x26)) (l := bs)
  refine ⟨fun mem => ?_, ?_⟩
  · have other := List.mem_takeWhile_imp mem
    simp at other
  · cases rest : bs.dropWhile (· != 0x26) with
    | nil =>
      rw [rest, List.append_nil] at whole
      exact .inl (by rw [splitForm, rest, whole]; rfl)
    | cons b more =>
      have head := List.head?_dropWhile_not (· != 0x26) bs
      rw [rest] at head
      have amp : b = 0x26 := by simpa using head
      rw [rest, amp] at whole
      exact .inr (by rw [splitForm, rest]; exact whole.symm)

theorem decode_stretch {part : Bytes} (amp : 0x26 ∉ part) (nonempty : part ≠ []) (more : Bytes) :
    decode (part ++ more) =
      readPart (part ++ (splitForm more).1) :: decode (splitForm more).2 := by
  obtain ⟨apart, cases⟩ := splitForm_cases more
  have noAmp : 0x26 ∉ part ++ (splitForm more).1 := by simp [amp, apart]
  have some_ : part ++ (splitForm more).1 ≠ [] := by simp [nonempty]
  rcases cases with all | whole
  · rw [all] at noAmp some_ ⊢
    exact decode_of_not_mem noAmp some_
  · rw [congrArg (decode <| part ++ ·) whole, ← List.append_assoc, decode_append_amp,
      decode_of_not_mem noAmp some_, List.singleton_append]

theorem decode_eq_nil_iff {bs : Bytes} : decode bs = [] ↔ ∃ n, bs = .replicate n 0x26 := by
  induction bs with
  | nil => exact ⟨fun _ => ⟨0, rfl⟩, fun _ => rfl⟩
  | cons b bs ih =>
    by_cases amp : b = 0x26
    · subst amp
      have rest : decode (0x26 :: bs) = decode bs := decode_append_amp [] bs
      rw [rest, ih]
      constructor
      · rintro ⟨n, rfl⟩
        exact ⟨n + 1, rfl⟩
      · rintro ⟨n, all⟩
        cases n with
        | zero => cases all
        | succ n => exact ⟨n, (List.cons.inj all).2⟩
    · have alone : 0x26 ∉ [b] := by simpa using Ne.symm amp
      have first := decode_stretch alone (by simp) bs
      rw [List.singleton_append] at first
      simp only [first, List.cons_ne_nil, false_iff]
      rintro ⟨n, all⟩
      exact amp (List.eq_of_mem_replicate (all ▸ List.mem_cons_self))

theorem splitPair_append (part more : Bytes) :
    splitPair (part ++ more) =
      if 0x3D ∈ part then ((splitPair part).1, (splitPair part).2 ++ more)
      else (part ++ (splitPair more).1, (splitPair more).2) := by
  by_cases eq : 0x3D ∈ part
  · obtain ⟨name, value, rfl, first⟩ := List.eq_append_cons_of_mem eq
    rw [if_pos eq, List.append_assoc, List.cons_append, splitPair_of_not_mem first,
      splitPair_of_not_mem first]
  · have plain := bne_of_not_mem eq
    rw [if_neg eq, splitPair, splitPair, List.takeWhile_append_of_pos plain,
      List.dropWhile_append_of_pos plain]

theorem splitPair_nil : splitPair [] = ([], []) := rfl

theorem splitPair_of_plain {part : Bytes} (h : 0x3D ∉ part) : splitPair part = (part, []) := by
  have whole := splitPair_append part []
  rwa [List.append_nil, if_neg h, splitPair_nil, List.append_nil] at whole

theorem splitPair_eq_nil_iff {part : Bytes} :
    splitPair part = ([], []) ↔ part = [] ∨ part = [0x3D] := by
  constructor
  · intro split
    by_cases eq : 0x3D ∈ part
    · obtain ⟨name, value, rfl, first⟩ := List.eq_append_cons_of_mem eq
      rw [splitPair_of_not_mem first] at split
      obtain ⟨rfl, rfl⟩ := Prod.mk.inj split
      exact .inr rfl
    · rw [splitPair_of_plain eq] at split
      exact .inl (Prod.mk.inj split).1
  · rintro (rfl | rfl) <;> rfl

theorem decodeLossy_eq_empty_iff {bs : Bytes} : Utf8.decodeLossy bs = "" ↔ bs = [] := by
  cases bs with
  | nil => simp [Utf8.decodeLossy_eq, Utf8.items]
  | cons b bs => simp [Utf8.decodeLossy_eq, Utf8.items]

theorem decodeText_eq_empty_iff {bs : Bytes} : decodeText bs = "" ↔ bs = [] := by
  rw [decodeText, decodeLossy_eq_empty_iff, Percent.decode_eq_nil_iff, List.map_eq_nil_iff]

theorem decodeText_nil : decodeText [] = "" := decodeText_eq_empty_iff.mpr rfl

theorem readPart_eq_empty_iff {part : Bytes} :
    readPart part = ("", "") ↔ part = [] ∨ part = [0x3D] := by
  rw [readPart, Prod.mk.injEq, decodeText_eq_empty_iff, decodeText_eq_empty_iff,
    ← splitPair_eq_nil_iff, Prod.ext_iff]

theorem readPart_of_plain {part : Bytes} (h : 0x3D ∉ part) :
    readPart part = (decodeText part, "") := by
  rw [readPart, splitPair_of_plain h, decodeText_nil]

def escaped (bs : Bytes) : Bytes := narrow (Percent.encodeBytes (fun _ => false) bs)

theorem escaped_cons (b : UInt8) (bs : Bytes) :
    ∃ h l, escaped (b :: bs) = 0x25 :: h :: l :: escaped bs := ⟨_, _, rfl⟩

theorem mem_escaped {bs : Bytes} {d : UInt8} (h : d ∈ escaped bs) :
    d ≠ 0x26 ∧ d ≠ 0x3D ∧ d ≠ 0x2B := by
  have bytes : ∀ b : UInt8, (narrow (Percent.encodeByte b)).all
      (fun d => d != 0x26 && d != 0x3D && d != 0x2B) = true := forall_byte (by decide +kernel)
  obtain ⟨c, hc, rfl⟩ := List.mem_map.mp h
  obtain ⟨b, -, hb⟩ := List.mem_flatMap.mp hc
  have mem : UInt8.ofNat c.toNat ∈ narrow (Percent.encodeByte b) :=
    List.mem_map.mpr ⟨c, by simpa using hb, rfl⟩
  simpa [and_assoc] using List.all_eq_true.mp (bytes b) _ mem

section
variable {b : UInt8} (hb : b < 0x80) (bs : Bytes)
include hb

theorem decodeText_append_escaped (text : Bytes) :
    decodeText (text ++ escaped (b :: bs)) = decodeText text ++ Utf8.decodeLossy (b :: bs) := by
  obtain ⟨h, l, sign⟩ := escaped_cons b bs
  have same : (escaped (b :: bs)).map (fun d => if d = 0x2B then 0x20 else d) =
      escaped (b :: bs) := by
    refine (List.map_congr_left fun d hd => ?_).trans (List.map_id _)
    rw [if_neg (mem_escaped hd).2.2]
    rfl
  have none_ : Percent.Transparent fun _ => false := by simp [Percent.Transparent]
  have read := Percent.decode_encodeBytes none_ (b :: bs) []
  rw [List.append_nil, Percent.decode_nil, List.append_nil, ← escaped, sign] at read
  rw [decodeText, List.map_append, same, sign, Percent.decode_append (by decide), read,
    Utf8.decodeLossy_append hb]
  rfl

/-- Escapes belong to the value of the last pair, or to its name if it has no value. -/
theorem readPart_append_escaped (part : Bytes) :
    readPart (part ++ escaped (b :: bs)) =
      if 0x3D ∈ part then ((readPart part).1, (readPart part).2 ++ Utf8.decodeLossy (b :: bs))
      else ((readPart part).1 ++ Utf8.decodeLossy (b :: bs), "") := by
  have more := decodeText_append_escaped hb bs
  have noEq : 0x3D ∉ escaped (b :: bs) := fun mem => (mem_escaped mem).2.1 rfl
  by_cases eq : 0x3D ∈ part
  · rw [readPart, splitPair_append, if_pos eq, if_pos eq, more, readPart]
  · rw [readPart, splitPair_append, if_neg eq, if_neg eq, splitPair_of_plain noEq, more,
      decodeText_nil, readPart_of_plain eq]

theorem decode_append_escaped (text : Bytes) :
    ∃ init last, decode (text ++ escaped (b :: bs)) = init ++ [last] ∧
      ((decode text = init ∧ last = (Utf8.decodeLossy (b :: bs), "")) ∨
        ∃ old, decode text = init ++ [old] ∧ last ≠ old) := by
  obtain ⟨init, split⟩ := decode_append text
  have amp := not_mem_lastPart 0x26 text
  generalize lastPart 0x26 text = part at split amp
  have noAmp : 0x26 ∉ part ++ escaped (b :: bs) := fun mem => by
    rcases List.mem_append.mp mem with mem | mem
    · exact amp mem
    · exact (mem_escaped mem).1 rfl
  obtain ⟨h, l, sign⟩ := escaped_cons b bs
  have long := decode_of_not_mem noAmp (by simp [sign])
  have short := split []
  rw [List.append_nil, List.append_nil] at short
  refine ⟨init, readPart (part ++ escaped (b :: bs)), by rw [split, long], ?_⟩
  rw [readPart_append_escaped hb]
  by_cases empty : part = []
  · subst empty
    have noName : (readPart []).1 = "" := decodeText_nil
    refine .inl ⟨by rw [short, decode_nil, List.append_nil], ?_⟩
    rw [if_neg (by simp), noName, String.empty_append]
  · refine .inr ⟨readPart part, by rw [short, decode_of_not_mem amp empty], ?_⟩
    have longer := Utf8.append_decodeLossy_ne hb bs
    split
    · exact fun same => longer _ (congrArg Prod.snd same)
    · exact fun same => longer _ (congrArg Prod.fst same)

/-- Whatever pairs are left out on reading, the others are not the ones that were there. -/
theorem not_perm_append_escaped {keep : String × String → Bool} {text : Bytes}
    (all : ∀ p ∈ decode text, keep p = true)
    (own : keep (Utf8.decodeLossy (b :: bs), "") = true) :
    ¬ ((decode (text ++ escaped (b :: bs))).filter keep).Perm (decode text) := by
  obtain ⟨init, last, long, short⟩ := decode_append_escaped hb bs text
  intro perm
  rcases short with ⟨same, rfl⟩ | ⟨old, same, differ⟩
  · have length := perm.length_eq
    rw [same] at all
    rw [long, same, List.filter_append, List.filter_eq_self.mpr all,
      List.filter_cons_of_pos own] at length
    simp at length
  · rw [same] at all
    have kept : init.filter keep = init :=
      List.filter_eq_self.mpr fun p hp => all p (List.mem_append_left _ hp)
    rw [long, same, List.filter_append, kept] at perm
    have single := (List.perm_append_left_iff init).mp perm
    have mem : old ∈ [last].filter keep := single.mem_iff.mpr (by simp)
    exact differ (List.mem_singleton.mp (List.mem_filter.mp mem).1).symm

end

theorem decodeText_append_slash (text more : Bytes) :
    decodeText (text ++ 0x2F :: more) = decodeText text ++ ("/" ++ decodeText more) := by
  have slash : Utf8.decodeLossy (0x2F :: Percent.decode (more.map plusToBlank)) =
      "/" ++ decodeText more := by
    rw [Utf8.decodeLossy_cons (by decide)]
    exact String.ofList_cons.trans (by rw [String.ofList_toList]; rfl)
  have same : plusToBlank 0x2F = 0x2F := by decide
  have read : ∀ bs : Bytes,
      decodeText bs = Utf8.decodeLossy (Percent.decode (bs.map plusToBlank)) :=
    fun _ => rfl
  rw [read, List.map_append, List.map_cons, same, Percent.decode_append (by decide),
    Percent.decode_cons_ne (by decide), Utf8.decodeLossy_append (by decide), slash, ← read]

/-- A slash, with what follows it before the next sign, belongs to the last pair as well. -/
theorem readPart_append_slash (part more : Bytes) :
    readPart (part ++ 0x2F :: more) =
      if 0x3D ∈ part then ((readPart part).1, (readPart part).2 ++ ("/" ++ decodeText more))
      else ((readPart part).1 ++ ("/" ++ (readPart more).1), (readPart more).2) := by
  have slash : splitPair (0x2F :: more) = (0x2F :: (splitPair more).1, (splitPair more).2) :=
    splitPair_append [0x2F] more
  by_cases eq : 0x3D ∈ part
  · rw [readPart, splitPair_append, if_pos eq, if_pos eq, decodeText_append_slash, readPart]
  · rw [readPart, splitPair_append, if_neg eq, if_neg eq, slash, decodeText_append_slash,
      readPart_of_plain eq, readPart]

theorem readPart_slash_eq_iff {part more : Bytes} :
    readPart (part ++ 0x2F :: more) = readPart (part ++ [0x2F]) ↔
      more = [] ∨ more = [0x3D] ∧ 0x3D ∉ part := by
  have nothing : readPart [] = ("", "") := readPart_eq_empty_iff.mpr (.inl rfl)
  rw [readPart_append_slash, readPart_append_slash]
  by_cases eq : 0x3D ∈ part
  · rw [if_pos eq, if_pos eq, Prod.mk.injEq, decodeText_nil]
    simp only [true_and, eq, not_true, and_false, or_false]
    rw [String.append_right_inj, String.append_right_inj, decodeText_eq_empty_iff]
  · rw [if_neg eq, if_neg eq, Prod.mk.injEq, String.append_right_inj, String.append_right_inj,
      ← Prod.ext_iff, nothing, readPart_eq_empty_iff]
    simp only [eq, not_false_eq_true, and_true]

theorem splitForm_signs_iff {first : Bytes} (amp : 0x26 ∉ first) {bs : Bytes} :
    ((splitForm bs).1 = first ∧ ∃ n, (splitForm bs).2 = .replicate n 0x26) ↔
      ∃ n, bs = first ++ .replicate n 0x26 := by
  constructor
  · rintro ⟨same, n, signs⟩
    obtain ⟨-, all | whole⟩ := splitForm_cases bs
    · rw [all] at same
      exact ⟨0, by rw [← same]; simp⟩
    · rw [same, signs] at whole
      exact ⟨n + 1, whole⟩
  · rintro ⟨n, rfl⟩
    have keep := bne_of_not_mem amp
    rw [splitForm, List.takeWhile_append_of_pos keep, List.dropWhile_append_of_pos keep]
    cases n with
    | zero => exact ⟨by simp, 0, by simp⟩
    | succ n => exact ⟨by simp [List.replicate_succ], n, by simp [List.replicate_succ]⟩

/-- Behind a slash only signs that are not noticed change nothing: `&` signs, and before them one
`=` if the last pair has none. -/
theorem decode_slash_eq_iff {front more : Bytes} :
    decode (front ++ 0x2F :: more) = decode (front ++ [0x2F]) ↔
      ∃ n, more = .replicate n 0x26 ∨
        more = 0x3D :: .replicate n 0x26 ∧ 0x3D ∉ lastPart 0x26 front := by
  obtain ⟨init, split⟩ := decode_append front
  have amp := not_mem_lastPart 0x26 front
  rw [split, split, List.append_right_inj]
  generalize lastPart 0x26 front = part at amp
  have noAmp : 0x26 ∉ part ++ [0x2F] := by simp [amp]
  have long := decode_stretch noAmp (by simp) more
  rw [List.append_assoc, List.append_assoc, List.singleton_append, List.singleton_append] at long
  have bare : ((splitForm more).1 = [] ∧ ∃ n, (splitForm more).2 = .replicate n 0x26) ↔
      ∃ n, more = .replicate n 0x26 := splitForm_signs_iff (by simp)
  have valued : ((splitForm more).1 = [0x3D] ∧ ∃ n, (splitForm more).2 = .replicate n 0x26) ↔
      ∃ n, more = 0x3D :: .replicate n 0x26 := splitForm_signs_iff (by decide)
  rw [long, decode_of_not_mem noAmp (by simp), List.cons.injEq, readPart_slash_eq_iff,
    decode_eq_nil_iff, or_and_right, bare, and_right_comm, valued, exists_or, exists_and_right]

/-- Text that is not noticed behind a query that ends in a slash. -/
def Idle (query added : List Char) : Prop :=
  ∃ n, added = .replicate n '&' ∨ added = '=' :: .replicate n '&' ∧ '=' ∉ lastPart '&' query

theorem mem_encode_iff {c : Char} (ascii : c.toNat < 0x80) {s : String} :
    UInt8.ofNat c.toNat ∈ Utf8.encode s ↔ c ∈ s.toList := by
  have small : UInt8.ofNat c.toNat < 0x80 := by
    rw [UInt8.lt_iff_toNat_lt, Utf8.toNat_ofNat_of_lt (by omega)]
    exact ascii
  constructor
  · intro mem
    have char := Utf8.mem_of_mem_encode small mem
    rwa [Percent.ofNat_narrow ascii] at char
  · intro mem
    exact List.mem_flatMap.mpr ⟨c, mem, by rw [Utf8.encodeChar_ascii ascii]; simp⟩

theorem lastPart_encode (s : String) :
    lastPart 0x26 (Utf8.encode s) = Utf8.encode (String.ofList (lastPart '&' s.toList)) := by
  have amp : '&' ∉ lastPart '&' s.toList := not_mem_lastPart '&' s.toList
  have byte : 0x26 ∉ Utf8.encode (String.ofList (lastPart '&' s.toList)) := fun mem => by
    have char := (mem_encode_iff (c := '&') (by decide)).mp mem
    rw [String.toList_ofList] at char
    exact amp char
  rcases eq_lastPart_or '&' s.toList with ⟨-, whole⟩ | ⟨front, whole⟩
  · rw [whole, String.ofList_toList] at byte ⊢
    exact lastPart_of_not_mem byte
  · have text : s = String.ofList front ++ ("&" ++ String.ofList (lastPart '&' s.toList)) := by
      apply String.toList_injective
      simpa using whole
    have sign : Utf8.encode "&" = [0x26] := by decide
    have bytes := congrArg Utf8.encode text
    rw [Utf8.encode_append, Utf8.encode_append, sign, List.singleton_append] at bytes
    rw [congrArg (lastPart 0x26) bytes, lastPart_append_cons byte]

theorem encode_eq_narrow_iff {cs : List Char} (ascii : ∀ c ∈ cs, c.toNat < 0x80) {s : String} :
    Utf8.encode s = narrow cs ↔ s.toList = cs := by
  rw [← Utf8.encode_ascii ascii]
  constructor
  · intro same
    rw [Utf8.encode_injective same, String.toList_ofList]
  · rintro rfl
    rw [String.ofList_toList]

theorem decodeString_slash_eq_iff {front more : String} :
    decodeString (front ++ "/" ++ more) = decodeString (front ++ "/") ↔
      Idle (front ++ "/").toList more.toList := by
  have slash : Utf8.encode "/" = [0x2F] := by decide
  have signs : ∀ n, Utf8.encode more = .replicate n 0x26 ↔ more.toList = .replicate n '&' :=
    fun n => by
      rw [← encode_eq_narrow_iff fun c hc => by rw [List.eq_of_mem_replicate hc]; decide, narrow,
        List.map_replicate]
      rfl
  have valued : ∀ n, Utf8.encode more = 0x3D :: .replicate n 0x26 ↔
      more.toList = '=' :: .replicate n '&' := fun n => by
    rw [← encode_eq_narrow_iff, narrow, List.map_cons, List.map_replicate]
    · rfl
    · intro c hc
      rcases List.mem_cons.mp hc with rfl | hc
      · decide
      · rw [List.eq_of_mem_replicate hc]
        decide
  have value : 0x3D ∈ Utf8.encode (String.ofList (lastPart '&' front.toList)) ↔
      '=' ∈ lastPart '&' (front ++ "/").toList := by
    have behind : lastPart '&' (front.toList ++ ['/']) = lastPart '&' front.toList ++ ['/'] :=
      lastPart_append (by decide) front.toList
    have text : (front ++ "/").toList = front.toList ++ ['/'] := String.toList_append
    refine (mem_encode_iff (c := '=') (by decide)).trans ?_
    rw [String.toList_ofList, text, behind]
    simp
  rw [decodeString, decodeString, Utf8.encode_append, Utf8.encode_append, slash, List.append_assoc,
    List.singleton_append, decode_slash_eq_iff, lastPart_encode]
  simp only [signs, valued, value, Idle]

/-- How much a pair says. -/
def weight (pair : String × String) : Nat := pair.1.length + pair.2.length

theorem weight_append_slash (part more : Bytes) :
    weight (readPart part) < weight (readPart (part ++ 0x2F :: more)) := by
  have one : "/".length = 1 := rfl
  rw [readPart_append_slash]
  split
  · simp only [weight, String.length_append]
    omega
  · rename_i plain
    simp only [weight, String.length_append, readPart_of_plain plain, String.length_empty]
    omega

theorem weight_append_escaped {bs : Bytes} (ascii : ∀ b ∈ bs, b < 0x80) (part : Bytes) :
    weight (readPart part) ≤ weight (readPart (part ++ escaped bs)) := by
  cases bs with
  | nil => simp [escaped, narrow]
  | cons b bs =>
    rw [readPart_append_escaped (ascii b (by simp))]
    split
    · simp only [weight, String.length_append]
      omega
    · rename_i plain
      simp only [weight, String.length_append, readPart_of_plain plain, String.length_empty]
      omega

/-- A slash behind a form that has none at its end is noticed, with or without escapes between. -/
theorem decode_append_slash_ne {bs : Bytes} (ascii : ∀ b ∈ bs, b < 0x80) (text more : Bytes) :
    decode (text ++ (escaped bs ++ 0x2F :: more)) ≠ decode text := by
  obtain ⟨init, split⟩ := decode_append text
  have whole := split []
  rw [List.append_nil, List.append_nil] at whole
  have amp := not_mem_lastPart 0x26 text
  rw [split, whole, ne_eq, List.append_right_inj]
  generalize lastPart 0x26 text = part at amp
  have noAmp : 0x26 ∉ part ++ escaped bs ++ [0x2F] := by
    simp only [List.mem_append, List.mem_singleton, not_or]
    exact ⟨⟨amp, fun mem => (mem_escaped mem).1 rfl⟩, by decide⟩
  have long := decode_stretch noAmp (by simp) more
  simp only [List.append_assoc, List.singleton_append] at long
  rw [long]
  by_cases empty : part = []
  · simp [empty]
  · rw [decode_of_not_mem amp empty]
    intro same
    have pair := congrArg weight (List.cons.inj same).1
    have longer := weight_append_slash (part ++ escaped bs) (splitForm more).1
    have still := weight_append_escaped ascii part
    rw [List.append_assoc] at longer
    omega

end SignedRest.Form
