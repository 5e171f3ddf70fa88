import SignedRest.Host.Basic
import SignedRest.Proofs.Percent

/-! No domain name holds a blank, a control or a delimiter of URLs: nothing that is done to a name
on its way makes one vanish, and every name that has one is refused. -/
namespace SignedRest

def isLow (c : Char) : Bool := c.toNat ≤ 0x20

/-- Code points of ASCII that no name may hold, but for the percent sign, which escapes start with,
and the angle brackets, which a mark may change. -/
def isBarredCode (n : Nat) : Bool :=
  n ≤ 0x20 || [0x23, 0x2F, 0x3A, 0x3F, 0x40, 0x5B, 0x5C, 0x5D, 0x5E, 0x7C, 0x7F].contains n

def isBarred (c : Char) : Bool := isBarredCode c.toNat

theorem isBarred_of_isLow {c : Char} (low : isLow c = true) : isBarred c = true := by
  have small : c.toNat ≤ 0x20 := of_decide_eq_true low
  simp [isBarred, isBarredCode, small]

theorem toNat_lt_of_isBarred {c : Char} (barred : isBarred c = true) : c.toNat < 0x80 := by
  simp only [isBarred, isBarredCode, Bool.or_eq_true, decide_eq_true_eq, List.contains_eq_mem,
    List.mem_cons, List.not_mem_nil, or_false] at barred
  omega

namespace Unicode

def isFreeLine (line : List Char) : Bool :=
  (line.splitOn ' ').all fun entry =>
    !isBarredCode (readPair entry).base && !isBarredCode (readPair entry).mark &&
      !isBarredCode (readPair entry).composite

theorem isFreeLine_toList {line : String} (cs : List Char) (h : line = String.ofList cs)
    (free : isFreeLine cs = true) : isFreeLine line.toList = true := by
  rw [h, String.toList_ofList]
  exact free

-- line by line, so that each text is turned into characters once
theorem isFreeLine_pairTable : ∀ line ∈ pairTable, isFreeLine line.toList = true := by
  simp only [pairTable, List.forall_mem_cons]
  repeat' apply And.intro
  all_goals first | exact isFreeLine_toList _ rfl (by decide +kernel) | simp

theorem free_of_mem_pairs {p : Pair} (h : p ∈ pairs) :
    isBarredCode p.base = false ∧ isBarredCode p.mark = false ∧
      isBarredCode p.composite = false := by
  obtain ⟨entry, hentry, rfl⟩ := List.mem_map.mp h
  obtain ⟨line, hline, hentry⟩ := List.mem_flatMap.mp hentry
  have free := List.all_eq_true.mp (isFreeLine_pairTable line hline) entry hentry
  simpa [and_assoc] using free

theorem decompose_barred {c : Char} (barred : isBarred c = true) : decompose c.toNat = [c] := by
  have ascii := toNat_lt_of_isBarred barred
  have syllable : isSyllable c.toNat = false := by
    simp only [isSyllable, Bool.and_eq_false_iff, decide_eq_false_iff_not]
    omega
  have absent : pairs.find? (·.composite = c.toNat) = none := by
    rw [List.find?_eq_none]
    intro p hp same
    have free := (free_of_mem_pairs hp).2.2
    rw [of_decide_eq_true same, ← isBarred, barred] at free
    cases free
  unfold decompose
  simp only [syllable, absent, Char.ofNat_toNat]
  rfl

theorem join?_barred {a b : Char} (barred : isBarred a = true ∨ isBarred b = true) :
    join? a b = none := by
  have ascii := barred.imp toNat_lt_of_isBarred toNat_lt_of_isBarred
  have syllable : joinSyllable? a.toNat b.toNat = none := by
    have first : ¬((0x1100 ≤ a.toNat && a.toNat < 0x1113 && 0x1161 ≤ b.toNat &&
        b.toNat < 0x1176) = true) := by
      simp only [Bool.and_eq_true, decide_eq_true_eq]
      omega
    have second : ¬((isSyllable a.toNat && (a.toNat - 0xAC00) % 28 = 0 && 0x11A7 < b.toNat &&
        b.toNat < 0x11C3) = true) := by
      simp only [isSyllable, Bool.and_eq_true, decide_eq_true_eq]
      omega
    rw [joinSyllable?, if_neg first, if_neg second]
  have absent : (pairs.find? fun p => p.base = a.toNat && p.mark = b.toNat) = none := by
    rw [List.find?_eq_none]
    intro p hp same
    obtain ⟨base, mark, -⟩ := free_of_mem_pairs hp
    simp only [Bool.and_eq_true, decide_eq_true_eq] at same
    rw [same.1, ← isBarred] at base
    rw [same.2, ← isBarred] at mark
    simp [base, mark] at barred
  simp only [join?, syllable, absent, Option.map_none]

theorem mem_insertMark {c d : Char} {out : List Char} :
    c ∈ insertMark d out ↔ c = d ∨ c ∈ out := by
  induction out with
  | nil => simp [insertMark]
  | cons e out ih =>
    by_cases less : combiningClass d < combiningClass e
    · simp only [insertMark, less, if_true, List.mem_cons, ih]
      exact or_left_comm
    · simp [insertMark, less]

theorem mem_orderMarks {c : Char} {cs : List Char} (h : c ∈ cs) : c ∈ orderMarks cs := by
  have kept : ∀ out : List Char, c ∈ out ∨ c ∈ cs →
      c ∈ cs.foldl (fun out c =>
        if combiningClass c = 0 then c :: out else insertMark c out) out := by
    clear h
    induction cs with
    | nil => simp
    | cons d cs ih =>
      intro out h
      rw [List.foldl_cons]
      apply ih
      by_cases starter : combiningClass d = 0
      · rw [if_pos starter]
        simp only [List.mem_cons] at h ⊢
        rcases h with h | rfl | h <;> simp [*]
      · rw [if_neg starter, mem_insertMark]
        simp only [List.mem_cons] at h
        rcases h with h | rfl | h <;> simp [*]
  exact List.mem_reverse.mpr (kept [] (.inr h))

/-- A character joins the starter, becomes one, or waits. -/
theorem push_cases (j : Joining) (d : Char) :
    (∃ s joined, j.starter = some s ∧ join? s d = some joined ∧
      j.push d = { j with starter := some joined }) ∨
    j.push d = ⟨j.chars, some d, []⟩ ∨ j.push d = { j with waiting := d :: j.waiting } := by
  unfold Joining.push
  extract_lets free
  cases join : if free then j.starter.bind (join? · d) else none with
  | some joined =>
    by_cases hf : free = true
    · rw [if_pos hf] at join
      obtain ⟨s, starter, joins⟩ := Option.bind_eq_some_iff.mp join
      exact .inl ⟨s, joined, starter, joins, rfl⟩
    · rw [if_neg hf] at join
      cases join
  | none =>
    by_cases starts : combiningClass d = 0
    · exact .inr (.inl (by simp [starts]))
    · exact .inr (.inr (by simp [starts]))

theorem mem_push {c : Char} (barred : isBarred c = true) {j : Joining} {d : Char}
    (h : c ∈ j.chars ∨ c = d) : c ∈ (j.push d).chars := by
  rcases push_cases j d with ⟨s, joined, starter, joins, pushed⟩ | pushed | pushed
  · -- what joins is no barred character on either side
    have other : c ≠ s ∧ c ≠ d := by
      constructor
      · rintro rfl
        rw [join?_barred (.inl barred)] at joins
        cases joins
      · rintro rfl
        rw [join?_barred (.inr barred)] at joins
        cases joins
    simp only [pushed, Joining.chars, starter, List.mem_append, Option.mem_toList,
      Option.some.injEq, other.2, or_false] at h ⊢
    rcases h with (h | h) | h
    · exact .inl (.inl h)
    · exact absurd h.symm other.1
    · exact .inr h
  · rw [pushed]
    simpa [Joining.chars, or_assoc, eq_comm] using h
  · simp only [pushed, Joining.chars, List.mem_append, List.reverse_cons, List.mem_singleton]
      at h ⊢
    rw [← or_assoc]
    exact h

theorem mem_foldl_push {c : Char} (barred : isBarred c = true) {cs : List Char} {j : Joining}
    (h : c ∈ j.chars ∨ c ∈ cs) : c ∈ (cs.foldl Joining.push j).chars := by
  induction cs generalizing j with
  | nil => simpa using h
  | cons d cs ih =>
    rw [List.foldl_cons]
    apply ih
    rcases h with h | h
    · exact .inl (mem_push barred (.inl h))
    · rcases List.mem_cons.mp h with rfl | h
      · exact .inl (mem_push barred (.inr rfl))
      · exact .inr h

theorem mem_normalize {c : Char} (barred : isBarred c = true) {cs : List Char} (h : c ∈ cs) :
    c ∈ normalize cs := by
  by_cases ascii : cs.all (·.toNat < 128) = true
  · rwa [normalize, if_pos ascii]
  · rw [normalize, if_neg ascii]
    refine mem_foldl_push barred (.inr (mem_orderMarks (List.mem_flatMap.mpr ⟨c, h, ?_⟩)))
    rw [decompose_barred barred]
    exact List.mem_singleton_self c

theorem hostImage?_barred {c : Char} (barred : isBarred c = true) : hostImage? c = some [c] := by
  have ascii := toNat_lt_of_isBarred barred
  have same : c.toLower = c := by
    have notUpper : ¬(c.val ≥ 'A'.val ∧ c.val ≤ 'Z'.val) := by
      have first : 'A'.val.toNat = 65 := rfl
      have last : 'Z'.val.toNat = 90 := rfl
      have code : c.val.toNat = c.toNat := rfl
      simp only [isBarred, isBarredCode, Bool.or_eq_true, decide_eq_true_eq, List.contains_eq_mem,
        List.mem_cons, List.not_mem_nil, or_false] at barred
      simp only [ge_iff_le, UInt32.le_iff_toNat_le]
      omega
    exact dif_neg notUpper
  rw [hostImage?, if_pos ascii, same]

end Unicode

theorem exists_of_mapM {α β : Type} {f : α → Option β} {list : List α} {images : List β}
    (h : list.mapM f = some images) {a : α} (ha : a ∈ list) : ∃ b ∈ images, f a = some b := by
  induction list generalizing images with
  | nil => cases ha
  | cons x list ih =>
    rw [List.mapM_cons] at h
    obtain ⟨y, hy, h⟩ := Option.bind_eq_some_iff.mp h
    obtain ⟨more, hmore, h⟩ := Option.bind_eq_some_iff.mp h
    obtain rfl := Option.some.inj h
    rcases List.mem_cons.mp ha with rfl | ha
    · exact ⟨y, List.mem_cons_self, hy⟩
    · obtain ⟨b, mem, hb⟩ := ih hmore ha
      exact ⟨b, List.mem_cons_of_mem _ mem, hb⟩

namespace Domain

theorem isForbidden_barred {c : Char} (barred : isBarred c = true) : isForbidden c = true := by
  have all : ∀ n ∈ List.range 0x80, isBarredCode n = true → isForbidden (Char.ofNat n) = true := by
    decide +kernel
  have own := all c.toNat (List.mem_range.mpr (toNat_lt_of_isBarred barred)) barred
  rwa [Char.ofNat_toNat] at own

theorem mapped?_barred {c : Char} (barred : isBarred c = true) {cs : List Char} (h : c ∈ cs) :
    mapped? cs = none := by
  cases images : cs.mapM Unicode.hostImage? with
  | none => simp [mapped?, images]
  | some list =>
    have image : c ∈ list.flatten := by
      obtain ⟨image, mem, own⟩ := exists_of_mapM images h
      rw [Unicode.hostImage?_barred barred] at own
      exact List.mem_flatten.mpr ⟨image, mem, by simp [← Option.some.inj own]⟩
    have refused : (Unicode.normalize list.flatten).any isForbidden = true :=
      List.any_eq_true.mpr ⟨c, Unicode.mem_normalize barred image, isForbidden_barred barred⟩
    simp only [mapped?, images, Option.bind_eq_bind, Option.bind_some, refused, if_true]

theorem toAscii?_barred {c : Char} (barred : isBarred c = true) {name : String}
    (h : c ∈ name.toList) : toAscii? name = none := by
  simp [toAscii?, mapped?_barred barred h]

end Domain

namespace Host

theorem bracketed_unclosed {rest : List Char} (h : ('[' :: rest).getLast? ≠ some ']') :
    bracketed rest = .error .invalidIpv6 := by
  have open_ : rest.getLast? ≠ some ']' := by
    intro closed
    rw [List.getLast?_cons, closed] at h
    exact h rfl
  rw [bracketed, if_neg open_]

def IsBracketed (cs : List Char) : Prop := cs.head? = some '[' ∧ cs.getLast? = some ']'

theorem parse_barred {c : Char} (barred : isBarred c = true) {cs : List Char} (h : c ∈ cs)
    (plain : ¬ IsBracketed cs) (host : Host) : parse cs ≠ .ok host := by
  have small := toNat_lt_of_isBarred barred
  have value : (UInt8.ofNat c.toNat).toNat = c.toNat := Utf8.toNat_ofNat_of_lt (by omega)
  have same : Char.ofNat (UInt8.ofNat c.toNat).toNat = c := Percent.ofNat_narrow (by omega)
  have byte : UInt8.ofNat c.toNat ∈ Utf8.encode (String.ofList cs) := by
    rw [Utf8.encode, String.toList_ofList]
    refine List.mem_flatMap.mpr ⟨c, h, ?_⟩
    rw [Utf8.encodeChar_ascii (by omega)]
    exact List.mem_singleton_self _
  have noEscape : ∀ b : UInt8, isBarredCode b.toNat = true →
      b ≠ 0x25 ∧ Ascii.hexValue (Char.ofNat b.toNat) = none :=
    Percent.forall_byte (by decide +kernel)
  obtain ⟨sign, digit⟩ := noEscape _ (by rw [value, ← isBarred, barred])
  have decoded := Percent.mem_decode sign digit byte
  have named : (Utf8.decode? (Percent.decode (Utf8.encode (String.ofList cs)))).bind
      Domain.toAscii? = none := by
    cases text : Utf8.decode? (Percent.decode (Utf8.encode (String.ofList cs))) with
    | none => rfl
    | some name =>
      have ascii : UInt8.ofNat c.toNat < 0x80 := by
        rw [UInt8.lt_iff_toNat_lt, value]
        exact small
      have mem := Utf8.mem_of_decode? text ascii decoded
      rw [same] at mem
      exact Domain.toAscii?_barred barred mem
  unfold parse
  split
  · rw [bracketed_unclosed fun closed => plain ⟨rfl, closed⟩]
    simp
  · rw [named]
    simp

theorem parse_low {c : Char} (low : isLow c = true) {cs : List Char} (h : c ∈ cs)
    (unclosed : cs.getLast? ≠ some ']') (host : Host) : parse cs ≠ .ok host :=
  parse_barred (isBarred_of_isLow low) h (fun bracketed => unclosed bracketed.2) host

end Host
end SignedRest
