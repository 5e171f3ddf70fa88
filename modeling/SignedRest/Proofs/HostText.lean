import SignedRest.Proofs.LooseEnd
import SignedRest.Text.Cut

/-! Which texts name a host, with a port or without one, and how an address is read that has such
a text for its authority. -/
namespace SignedRest

theorem Ipv4.isSome_of_digitsValue {base n : Nat} {cs : List Char}
    (h : digitsValue base cs = some n) : ∀ c ∈ cs, (Ascii.hexValue c).isSome = true := by
  have all : ∀ m, cs.foldlM (fun n c => (Ascii.hexValue c).bind fun d =>
      if d < base then some (n * base + d) else none) m = some n →
      ∀ c ∈ cs, (Ascii.hexValue c).isSome = true := by
    clear h
    induction cs with
    | nil => simp
    | cons c cs ih =>
      intro m h
      rw [List.foldlM_cons] at h
      obtain ⟨next, step, more⟩ := Option.bind_eq_some_iff.mp h
      obtain ⟨d, value, -⟩ := Option.bind_eq_some_iff.mp step
      exact List.forall_mem_cons.mpr ⟨by simp [value], ih next more⟩
  exact all 0 h

theorem mem_intercalate {α : Type} {sep a : α} {lists : List (List α)}
    (h : a ∈ [sep].intercalate lists) : a = sep ∨ ∃ list ∈ lists, a ∈ list := by
  induction lists with
  | nil => simp at h
  | cons list lists ih =>
    cases lists with
    | nil => exact .inr ⟨list, by simp, by simpa using h⟩
    | cons other lists =>
      rw [List.intercalate_cons_cons] at h
      simp only [List.mem_append, List.mem_singleton] at h
      rcases h with (h | h) | h
      · exact .inr ⟨list, by simp, h⟩
      · exact .inl h
      · exact (ih h).imp_right fun ⟨found, mem, ha⟩ => ⟨found, by simp [mem], ha⟩

/-- What holds of the separator and in every piece holds in the whole. -/
theorem forall_mem_of_splitOn {p : Char → Prop} (sep : Char) {cs : List Char} (own : p sep)
    (pieces : ∀ piece ∈ cs.splitOn sep, ∀ c ∈ piece, p c) : ∀ c ∈ cs, p c := by
  intro c hc
  have whole : [sep].intercalate (cs.splitOn sep) = cs := List.intercalate_splitOn sep
  rw [← whole] at hc
  rcases mem_intercalate hc with rfl | ⟨piece, mem, hc⟩
  · exact own
  · exact pieces piece mem c hc

namespace Ipv6

def IsAddressChar (c : Char) : Prop := (Ascii.hexValue c).isSome = true ∨ c = ':' ∨ c = '.'

theorem not_isAddressChar_bracket : ¬ IsAddressChar '[' ∧ ¬ IsAddressChar ']' := by
  simp only [IsAddressChar]
  decide

theorem isAddressChar_of_piece? {cs : List Char} {p : UInt16} (h : piece? cs = some p) :
    ∀ c ∈ cs, IsAddressChar c := by
  intro c hc
  unfold piece? at h
  split at h
  · cases h
  · obtain ⟨n, value, -⟩ := Option.map_eq_some_iff.mp h
    exact .inl (Ipv4.isSome_of_digitsValue value c hc)

theorem isAddressChar_of_lastPieces? {cs : List Char} {ps : List UInt16}
    (h : lastPieces? cs = some ps) : ∀ c ∈ cs, IsAddressChar c := by
  have octet : ∀ {piece : List Char} {n : Nat}, octet? piece = some n →
      ∀ c ∈ piece, IsAddressChar c := by
    intro piece n h c hc
    unfold octet? at h
    split at h
    · cases h
    · obtain ⟨value, -⟩ := Option.filter_eq_some_iff.mp h
      exact .inl (Ipv4.isSome_of_digitsValue value c hc)
  unfold lastPieces? at h
  split at h
  · unfold dotted? at h
    split at h
    · rename_i read
      refine forall_mem_of_splitOn '.' (.inr (.inr rfl)) fun piece mem => ?_
      obtain ⟨n, -, value⟩ := exists_of_mapM read mem
      exact octet value
    · cases h
  · obtain ⟨p, value, -⟩ := Option.map_eq_some_iff.mp h
    exact isAddressChar_of_piece? value

theorem isAddressChar_of_pieces? {cs : List Char} {ps : List UInt16} (h : pieces? cs = some ps) :
    ∀ c ∈ cs, IsAddressChar c := by
  unfold pieces? at h
  split at h
  · rename_i empty
    simp [List.isEmpty_iff.mp empty]
  · obtain ⟨first, read, h⟩ := Option.bind_eq_some_iff.mp h
    obtain ⟨last, readLast, -⟩ := Option.bind_eq_some_iff.mp h
    refine forall_mem_of_splitOn ':' (.inr (.inl rfl)) fun piece mem => ?_
    have some_ : cs.splitOn ':' ≠ [] := List.ne_nil_of_mem mem
    rw [← List.dropLast_concat_getLast some_] at mem
    rcases List.mem_append.mp mem with mem | mem
    · obtain ⟨p, -, value⟩ := exists_of_mapM read mem
      exact isAddressChar_of_piece? value
    · rw [List.getLast?_eq_some_getLast some_] at readLast
      rw [List.mem_singleton.mp mem]
      exact isAddressChar_of_lastPieces? readLast

theorem eq_of_splitGap {cs before after : List Char} (h : splitGap cs = some (before, after)) :
    cs = before ++ ':' :: ':' :: after := by
  fun_induction splitGap cs generalizing before with
  | case1 rest =>
    cases h
    rfl
  | case2 => cases h
  | case3 c rest _ ih =>
    obtain ⟨⟨before', after'⟩, found, same⟩ := Option.map_eq_some_iff.mp h
    cases same
    rw [ih found, List.cons_append]

theorem isAddressChar_of_parse {cs : List Char} {a : Ipv6} (h : parse cs = some a) :
    ∀ c ∈ cs, IsAddressChar c := by
  unfold parse at h
  split at h
  · obtain ⟨ps, read, -⟩ := Option.bind_eq_some_iff.mp h
    exact isAddressChar_of_pieces? read
  · rename_i before after gap
    -- no dots stand before the gap
    split at h
    · cases h
    · obtain ⟨first, read, h⟩ := Option.bind_eq_some_iff.mp h
      obtain ⟨last, readLast, -⟩ := Option.bind_eq_some_iff.mp h
      intro c hc
      rw [eq_of_splitGap gap] at hc
      simp only [List.mem_append, List.mem_cons] at hc
      rcases hc with hc | rfl | rfl | hc
      · exact isAddressChar_of_pieces? read c hc
      · exact .inr (.inl rfl)
      · exact .inr (.inl rfl)
      · exact isAddressChar_of_pieces? readLast c hc

end Ipv6

namespace Host

theorem parse_nil : parse [] = .error .emptyHost := by decide +kernel

theorem named_ne_empty (name : String) : named name ≠ .ok empty := by
  unfold named
  split
  · simp
  · rename_i nonempty
    split
    · split <;> simp [empty]
    · simpa [empty] using nonempty

theorem parse_ne_empty (cs : List Char) : parse cs ≠ .ok empty := by
  unfold parse
  split
  · unfold bracketed
    split
    · split <;> simp [empty]
    · simp
  · split
    · exact named_ne_empty _
    · simp

/-- A name without delimiters, or an address in brackets. -/
inductive IsText : List Char → Prop
  | name {cs : List Char} (free : ∀ c ∈ cs, isBarred c = false) : IsText cs
  | address {inner : List Char} (chars : ∀ c ∈ inner, Ipv6.IsAddressChar c) :
      IsText ('[' :: (inner ++ [']']))

theorem isText_of_parse {cs : List Char} {host : Host} (h : parse cs = .ok host) : IsText cs := by
  by_cases brackets : IsBracketed cs
  · obtain ⟨rest, rfl⟩ : ∃ rest, cs = '[' :: rest := List.head?_eq_some_iff.mp brackets.1
    simp only [parse, bracketed] at h
    split at h
    · rename_i closed
      obtain ⟨inner, rfl⟩ := List.getLast?_eq_some_iff.mp closed
      rw [List.dropLast_concat] at h
      split at h
      · rename_i address read
        exact .address (Ipv6.isAddressChar_of_parse read)
      · cases h
    · cases h
  · refine .name fun c hc => ?_
    by_contra barred
    exact parse_barred (by simpa using barred) hc brackets host h

theorem not_mem_of_isText {cs : List Char} (h : IsText cs) {c : Char} (barred : isBarred c = true)
    (noDigit : Ascii.hexValue c = none) (other : c ∉ ['[', ']', ':']) : c ∉ cs := by
  cases h with
  | name free =>
    intro mem
    rw [free c mem] at barred
    cases barred
  | @address inner chars =>
    intro mem
    simp only [List.mem_cons, List.not_mem_nil, or_false, not_or] at other
    simp only [List.mem_cons, List.mem_append, List.not_mem_nil, or_false, other.1, other.2.1,
      false_or] at mem
    rcases chars c mem with digit | rfl | rfl
    · simp [noDigit] at digit
    · exact other.2.2 rfl
    · exact absurd barred (by decide)

end Host

namespace Url

theorem cutLast_of_not_mem {sep : Char} {cs : List Char} (h : sep ∉ cs) :
    cutLast sep cs = none := by
  simp [cutLast, h]

theorem cutLast_append {sep : Char} {after : List Char} (h : sep ∉ after) (before : List Char) :
    cutLast sep (before ++ sep :: after) = some (before, after) := by
  have absent : sep ∉ after.reverse := by simpa using h
  have back : (before ++ sep :: after).reverse = after.reverse ++ sep :: before.reverse := by simp
  rw [cutLast, if_pos (by simp), back, takeWhile_ne_append absent, dropWhile_ne_append absent]
  simp

def IsStop (tail : List Char) : Prop := ∀ c, tail.head? = some c → c = ':'

theorem cutHost_of_isStop {tail : List Char} (stop : IsStop tail) :
    cutHost false tail = ([], tail) := by
  cases tail with
  | nil => rfl
  | cons c rest => simp [cutHost, stop c rfl]

theorem cutHost_of_isText {cs tail : List Char} (h : Host.IsText cs) (stop : IsStop tail) :
    cutHost false (cs ++ tail) = (cs, tail) := by
  cases h with
  | name free =>
    induction cs with
    | nil => exact cutHost_of_isStop stop
    | cons c cs ih =>
      have own := free c (by simp)
      have colon : c ≠ ':' := by
        rintro rfl
        cases own
      have bracket : c ≠ '[' := by
        rintro rfl
        cases own
      have more := ih fun d hd => free d (by simp [hd])
      simp [cutHost, colon, bracket, more]
  | @address inner chars =>
    -- inside the brackets a colon ends nothing
    have inside : cutHost true (inner ++ ']' :: tail) = (inner ++ [']'], tail) := by
      induction inner with
      | nil => simp [cutHost, cutHost_of_isStop stop]
      | cons c inner ih =>
        have own := chars c (by simp)
        have other : c ≠ '[' ∧ c ≠ ']' :=
          ⟨fun same => Ipv6.not_isAddressChar_bracket.1 (same ▸ own),
            fun same => Ipv6.not_isAddressChar_bracket.2 (same ▸ own)⟩
        have more := ih fun d hd => chars d (by simp [hd])
        simp [cutHost, other.1, other.2, more]
    simp [cutHost, inside]

/-- Nothing, or a colon and a port number, which may be missing behind the colon. -/
def IsPort (tail : List Char) : Prop :=
  tail = [] ∨ ∃ digits, tail = ':' :: digits ∧ digits.all Char.isDigit = true ∧
    Decimal.ofDigits digits ≤ 65535

def portOf : List Char → Option Nat
  | ':' :: d :: ds => some (Decimal.ofDigits (d :: ds))
  | _ => none

@[simp] theorem portOf_nil : portOf [] = none := rfl

@[simp] theorem portOf_colon : portOf [':'] = none := rfl

/-- Behind a host stands no number, or digits behind a colon. -/
theorem IsPort.cases {tail : List Char} (h : IsPort tail) :
    (portOf tail = none ∧ (tail = [] ∨ tail = [':'])) ∨
      ∃ digits, tail = ':' :: digits ∧ digits ≠ [] ∧ digits.all Char.isDigit = true ∧
        Decimal.ofDigits digits ≤ 65535 ∧ portOf tail = some (Decimal.ofDigits digits) := by
  rcases h with rfl | ⟨digits, rfl, all, small⟩
  · exact .inl ⟨rfl, .inl rfl⟩
  · cases digits with
    | nil => exact .inl ⟨rfl, .inr rfl⟩
    | cons d ds => exact .inr ⟨_, rfl, by simp, all, small, rfl⟩

theorem isStop_of_isPort {tail : List Char} (h : IsPort tail) : IsStop tail := by
  rcases h with rfl | ⟨digits, rfl, -, -⟩ <;> simp [IsStop]

theorem hostOf_web (cs : List Char) : hostOf .web cs = Host.parse cs := by
  cases cs with
  | nil => exact Host.parse_nil.symm
  | cons c rest => rfl

section
variable {scheme : String} (web : kindOf scheme = .web)
include web

theorem hostAndPort_eq (cs : List Char) :
    hostAndPort scheme cs = (Host.parse (cutHost false cs).1).bind fun host =>
      match (cutHost false cs).2 with
      | ':' :: digits => (portNumber digits).map fun r => (host, effectivePort scheme r.1, r.2)
      | after => .ok (host, none, after) := by
  simp only [hostAndPort, web, hostOf_web, bind, Except.bind]
  cases parsed : Host.parse (cutHost false cs).1 with
  | error e => rfl
  | ok host =>
    have named : host ≠ Host.empty := fun eq => Host.parse_ne_empty _ (eq ▸ parsed)
    cases after : (cutHost false cs).2 with
    | nil => rfl
    | cons c digits =>
      obtain rfl := colon_of_cutHost after
      simp only [if_neg named]
      cases portNumber digits <;> rfl

theorem hostAndPort_of_parse {name tail : List Char} {host : Host}
    (parsed : Host.parse name = .ok host) (port : IsPort tail) :
    hostAndPort scheme (name ++ tail) = .ok (host, effectivePort scheme (portOf tail), []) := by
  have cut := cutHost_of_isText (Host.isText_of_parse parsed) (isStop_of_isPort port)
  rw [hostAndPort_eq web, cut, parsed]
  rcases port with rfl | ⟨digits, rfl, all, small⟩
  · rfl
  · have whole : digits.takeWhile Char.isDigit = digits :=
      List.takeWhile_eq_self_iff.mpr (List.all_eq_true.mp all)
    have rest : digits.dropWhile Char.isDigit = [] :=
      List.dropWhile_eq_nil_iff.mpr (List.all_eq_true.mp all)
    have number : portNumber digits = .ok (portOf (':' :: digits), []) := by
      simp only [portNumber, whole, rest, Nat.not_lt.mpr small]
      cases digits <;> rfl
    simp only [Except.bind, number, Except.map]

theorem eq_of_hostAndPort {cs : List Char} (noSlash : '\\' ∉ cs) {r : Host × Option Nat × List Char}
    (h : hostAndPort scheme cs = .ok r) :
    ∃ name tail, cs = name ++ tail ∧ Host.parse name = .ok r.1 ∧ IsPort tail := by
  have whole := cutHost_append false cs
  rw [hostAndPort_eq web] at h
  cases parsed : Host.parse (cutHost false cs).1 with
  | error e => simp [parsed, Except.bind] at h
  | ok host =>
    simp only [parsed, Except.bind] at h
    refine ⟨(cutHost false cs).1, (cutHost false cs).2, whole.symm, ?_⟩
    cases after : (cutHost false cs).2 with
    | nil =>
      simp only [after] at h
      rw [parsed, ← Except.ok.inj h]
      exact ⟨rfl, .inl rfl⟩
    | cons c digits =>
      obtain rfl := colon_of_cutHost after
      simp only [after] at h
      cases number : portNumber digits with
      | error e => simp [number, Except.map] at h
      | ok port =>
        have inside : '\\' ∉ digits := fun mem => noSlash (by rw [← whole, after]; simp [mem])
        have digit := isDigit_of_portNumber number inside
        rw [number] at h
        rw [parsed, ← Except.ok.inj h]
        refine ⟨rfl, .inr ⟨digits, rfl, List.all_eq_true.mpr digit, ?_⟩⟩
        by_contra big
        rw [portNumber, List.takeWhile_eq_self_iff.mpr digit] at number
        simp [Nat.not_le.mp big] at number

end

/-- What an authority ends at, what credentials end at, and what is dropped from any URL. -/
def isDelimiter (c : Char) : Bool := ['/', '\\', '?', '#', '@', '\t', '\n', '\r'].contains c

def rootOf (scheme host : String) : String := scheme ++ "://" ++ host ++ "/"

theorem clean_of_firm {s : String} {c d : Char} {cs : List Char} (whole : s.toList = c :: cs)
    (last : s.toList.reverse.head? = some d) (firm : isEdge c = false ∧ isEdge d = false)
    (kept : ∀ c ∈ s.toList, isDropped c = false) : clean s = s.toList := by
  obtain ⟨more, back⟩ := List.head?_eq_some_iff.mp last
  have start : s.toList.dropWhile isEdge = s.toList := by rw [whole]; simp [firm.1]
  have finish : s.toList.reverse.dropWhile isEdge = s.toList.reverse := by rw [back]; simp [firm.2]
  rw [clean, start, finish, List.reverse_reverse, List.filter_eq_self]
  intro c hc
  rw [kept c hc]
  rfl

section
variable {host : String} (clear : ∀ c ∈ host.toList, isDelimiter c = false)
include clear

theorem clean_rootOf {scheme : String} (http : scheme = "http" ∨ scheme = "https") :
    clean (rootOf scheme host) = scheme.toList ++ ':' :: '/' :: '/' :: (host.toList ++ ['/']) := by
  have whole : (rootOf scheme host).toList =
      scheme.toList ++ ':' :: '/' :: '/' :: (host.toList ++ ['/']) := by
    simp [rootOf]
  have plain : ∀ c ∈ host.toList, isDropped c = false := by
    intro c hc
    by_contra dropped
    simp only [isDropped, Bool.not_eq_false, Bool.or_eq_true, decide_eq_true_eq] at dropped
    rcases dropped with (rfl | rfl) | rfl <;> exact absurd (clear _ hc) (by decide)
  have scheme' : ∀ c ∈ scheme.toList, isDropped c = false := by
    rcases http with rfl | rfl <;> simp [isDropped]
  have first : ∃ cs, (rootOf scheme host).toList = 'h' :: cs := by
    rcases http with rfl | rfl <;> simp [rootOf]
  obtain ⟨cs, first⟩ := first
  rw [← whole]
  refine clean_of_firm first (d := '/') (by simp [whole]) (by decide) fun c hc => ?_
  rw [whole] at hc
  simp only [List.mem_append, List.mem_cons, List.not_mem_nil, or_false] at hc
  rcases hc with hc | rfl | rfl | rfl | hc | rfl
  · exact scheme' c hc
  · rfl
  · rfl
  · rfl
  · exact plain c hc
  · rfl

theorem parse_rootOf {scheme : String} (http : scheme = "http" ∨ scheme = "https")
    (some_ : host ≠ "") :
    (parse (rootOf scheme host)).map (fun u => (u.host?, u.port?)) =
      (hostAndPort scheme host.toList).map fun r => (some r.1, r.2.1) := by
  have web : kindOf scheme = .web := by rcases http with rfl | rfl <;> decide
  have cut : cutScheme (clean (rootOf scheme host)) =
      some (scheme, '/' :: '/' :: (host.toList ++ ['/'])) := by
    have own : cutScheme (scheme.toList ++ [':']) = some (scheme, []) := by
      rcases http with rfl | rfl <;> decide
    rw [clean_rootOf clear http]
    simpa using cutScheme_append own ('/' :: '/' :: (host.toList ++ ['/']))
  have noSlash : ∀ c ∈ host.toList, isSlash .web c = false ∧ endsAuthority .web c = false := by
    intro c hc
    have own := clear c hc
    simp only [isDelimiter, List.contains_eq_mem, List.mem_cons, List.not_mem_nil, or_false,
      decide_eq_false_iff_not, not_or] at own
    simp [isSlash, endsAuthority, own]
  have slashes : ('/' :: '/' :: (host.toList ++ ['/'])).dropWhile (isSlash .web) =
      host.toList ++ ['/'] := by
    obtain ⟨c, cs, eq⟩ := List.exists_cons_of_ne_nil (String.toList_eq_nil_iff.not.mpr some_)
    have first := (noSlash c (by simp [eq])).1
    have slash : isSlash .web '/' = true := by decide
    simp [eq, first, slash]
  have keeps : ∀ c ∈ host.toList, (!endsAuthority .web c) = true := fun c hc => by
    rw [(noSlash c hc).2]
    rfl
  have ends : endsAuthority .web '/' = true := by decide
  have text : (host.toList ++ ['/']).takeWhile (!endsAuthority .web ·) = host.toList :=
    takeWhile_append_cons keeps (by rw [ends]; rfl) []
  have rest : (host.toList ++ ['/']).dropWhile (!endsAuthority .web ·) = ['/'] :=
    dropWhile_append_cons keeps (by rw [ends]; rfl) []
  have user : cutLast '@' host.toList = none :=
    cutLast_of_not_mem fun mem => absurd (clear _ mem) (by decide)
  simp only [parse, cut, afterScheme, web, slashes, afterSlashes_eq, text, rest, authorityOf, user]
  cases hostAndPort scheme host.toList <;> rfl

end

end Url
end SignedRest
