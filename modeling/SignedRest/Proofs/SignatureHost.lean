import SignedRest.Proofs.RedirectedUrl

/-! What a signature host stands for. It is cut twice, once at its last colon and once at its
first, and what neither cut takes for a port or a name is dropped without a word. -/
namespace SignedRest

namespace Decimal

/-- A number is made of digits, behind a plus sign or not. -/
theorem digits_of_unsigned? {limit n : Nat} {cs : List Char} (h : unsigned? limit cs = some n) :
    ∃ front digits, cs = front ++ digits ∧ digits ≠ [] ∧ digits.all Char.isDigit = true ∧
      ofDigits digits = n ∧ n < limit := by
  obtain ⟨⟨digits, rfl | rfl, some_, all, value⟩, small⟩ := unsigned?_eq_some_iff.mp h
  · exact ⟨[], cs, rfl, some_, all, value, small⟩
  · exact ⟨['+'], digits, rfl, some_, all, value, small⟩

theorem unsigned?_digits {limit : Nat} {digits : List Char} (some_ : digits ≠ [])
    (all : digits.all Char.isDigit = true) (small : ofDigits digits < limit) :
    unsigned? limit digits = some (ofDigits digits) :=
  unsigned?_eq_some_iff.mpr ⟨⟨digits, .inl rfl, some_, all, rfl⟩, small⟩

end Decimal

namespace OAuth1

open Url (IsPort portOf cutLast)

section
variable {h : String}

theorem splitPort_fst (none_ : (splitPort h).2 = none) : (splitPort h).1 = h := by
  unfold splitPort at none_ ⊢
  split
  · split
    · split
      · simp_all
      · rfl
    · rfl
  · rfl

theorem splitPort_eq_some {n : Nat} (some_ : (splitPort h).2 = some n) :
    ∃ name port, h.toList = name ++ ':' :: port ∧ (splitPort h).1 = String.ofList name ∧
      (':' ∉ name ∨ name.getLast? = some ']') ∧ Decimal.unsigned? 65536 port = some n := by
  unfold splitPort at some_ ⊢
  split at some_
  · rename_i name port cut
    split at some_
    · rename_i whole
      split at some_
      · rename_i m number
        cases some_
        refine ⟨name, port, Url.cutLast_eq_some cut, ?_, by simpa using whole, number⟩
        rw [if_pos whole]
      · cases some_
    · cases some_
  · cases some_

theorem splitPort_of_digits {name digits : List Char} (whole : h.toList = name ++ ':' :: digits)
    (form : ':' ∉ name ∨ name.getLast? = some ']') (some_ : digits ≠ [])
    (all : digits.all Char.isDigit = true) (small : Decimal.ofDigits digits ≤ 65535) :
    splitPort h = (String.ofList name, some (Decimal.ofDigits digits)) := by
  have noColon : ':' ∉ digits := fun mem => by
    have digit := List.all_eq_true.mp all ':' mem
    revert digit
    decide
  have cut : cutLast ':' h.toList = some (name, digits) := by
    rw [whole, Url.cutLast_append noColon]
  have number := Decimal.unsigned?_digits some_ all (Nat.lt_succ_of_le small)
  have cond : (!name.contains ':' || name.getLast? = some ']') = true := by simpa using form
  simp only [splitPort, cut, if_pos cond, number]

/-- A port is only taken off a text that ends in a digit. -/
theorem last_of_splitPort {n : Nat} (some_ : (splitPort h).2 = some n) :
    ∃ c, h.toList.getLast? = some c ∧ c.isDigit = true := by
  obtain ⟨name, port, whole, -, -, number⟩ := splitPort_eq_some some_
  obtain ⟨front, digits, rfl, nonempty, all, -, -⟩ := Decimal.digits_of_unsigned? number
  refine ⟨digits.getLast nonempty, ?_, List.all_eq_true.mp all _ (List.getLast_mem nonempty)⟩
  rw [whole, List.getLast?_append, List.getLast?_cons, List.getLast?_append,
    List.getLast?_eq_some_getLast nonempty]
  rfl

end

def IsName (cs : List Char) : Prop :=
  ':' ∉ cs ∨ ∃ inner, cs = '[' :: (inner ++ [']']) ∧ ']' ∉ inner

/-- A name, and at most a port behind it. -/
def IsPlain (h : String) : Prop := ∃ name tail, h.toList = name ++ tail ∧ IsName name ∧ IsPort tail

def namesPort (h : String) : Bool :=
  match cutLast ':' h.toList with
  | some (_, port) => !port.isEmpty && port.all Char.isDigit
  | none => false

/-- The URL has the host that the text names as an authority, and the port if it names one. -/
def Honoured (u : Url) (h : String) (r : Url) : Prop :=
  ∃ v, Url.parse (Url.rootOf u.scheme h) = .ok v ∧ r.host? = v.host? ∧
    r.port? = if namesPort h then v.port? else u.port?

theorem isName_of_isText {cs : List Char} (text : Host.IsText cs) : IsName cs := by
  cases text with
  | name free =>
    refine .inl fun mem => ?_
    have own := free ':' mem
    revert own
    decide
  | @address inner chars =>
    exact .inr ⟨inner, rfl, fun mem => Ipv6.not_isAddressChar_bracket.2 (chars ']' mem)⟩

theorem beforeColon_of_isName {cs : List Char} (name : IsName cs) : Url.beforeColon cs = cs := by
  rcases name with plain | ⟨inner, rfl, -⟩
  · have whole : cs.takeWhile (· ≠ ':') = cs :=
      List.takeWhile_eq_self_iff.mpr fun c hc => by simpa using ne_of_mem_of_not_mem hc plain
    rw [Url.beforeColon, whole, ite_self]
  · have last : ('[' :: (inner ++ [']'])).getLast? = some ']' := by
      rw [← List.cons_append, List.getLast?_concat]
    simp [Url.beforeColon, last]

theorem last_of_isName {cs : List Char} (name : IsName cs) :
    ':' ∉ cs ∨ cs.getLast? = some ']' := by
  refine name.imp_right ?_
  rintro ⟨inner, rfl, -⟩
  rw [← List.cons_append, List.getLast?_concat]

/-- Brackets that a colon is the end of are no address. -/
theorem not_parse_beforeColon {inner : List Char} (closed : ']' ∉ inner) (colon : ':' ∈ inner)
    (rest : List Char) (host : Host) :
    Host.parse (('[' :: (inner ++ rest)).takeWhile (· ≠ ':')) ≠ .ok host := by
  intro parsed
  have text := Host.isText_of_parse parsed
  have start : ('[' :: (inner ++ rest)).takeWhile (· ≠ ':') =
      '[' :: inner.takeWhile (· ≠ ':') := by
    have inside := Url.takeWhile_append_of_stopped (p := (· ≠ ':')) ⟨':', colon, by simp⟩ rest
    simp only [List.takeWhile_cons]
    simpa using inside
  rw [start] at text
  generalize eq : '[' :: inner.takeWhile (· ≠ ':') = cs at text
  cases text with
  | name free =>
    have first := free '[' (by simp [← eq])
    revert first
    decide
  | address chars =>
    have tails := (List.cons_eq_cons.mp eq).2
    have mem : ']' ∈ inner.takeWhile (· ≠ ':') := by rw [tails]; simp
    exact closed ((List.takeWhile_sublist _).subset mem)

section
variable {h : String} {name tail : List Char} (whole : h.toList = name ++ tail)
  (form : IsName name) (port : IsPort tail)
include whole form port

/-- A text with a colon in it, and without a number behind its name, does not end in a digit. -/
theorem not_isDigit_last (none_ : portOf tail = none) (colon : ':' ∈ h.toList) {c : Char}
    (last : h.toList.getLast? = some c) : c.isDigit = false := by
  rcases port.cases with ⟨-, rfl | rfl⟩ | ⟨digits, -, -, -, -, number⟩
  · rw [List.append_nil] at whole
    have closed := (last_of_isName form).resolve_left (not_not.mpr (whole ▸ colon))
    rw [whole, closed] at last
    cases last
    decide
  · rw [whole, List.getLast?_concat] at last
    cases last
    decide
  · rw [number] at none_
    cases none_

theorem splitPort_of_plain :
    (splitPort h).2 = portOf tail ∧
      (splitPort h).1 = if (portOf tail).isSome then String.ofList name else h := by
  rcases port.cases with ⟨number, -⟩ | ⟨digits, rfl, some_, all, small, number⟩
  · -- a port is only taken off behind a digit
    have none_ : (splitPort h).2 = none := by
      cases read : (splitPort h).2 with
      | none => rfl
      | some n =>
        obtain ⟨c, last, digit⟩ := last_of_splitPort read
        obtain ⟨front, digits, colon, -⟩ := splitPort_eq_some read
        rw [not_isDigit_last whole form port number (by simp [colon]) last] at digit
        cases digit
    rw [number]
    exact ⟨none_, splitPort_fst none_⟩
  · rw [number, splitPort_of_digits whole (last_of_isName form) some_ all small]
    exact ⟨rfl, rfl⟩

theorem namesPort_of_plain : namesPort h = (portOf tail).isSome := by
  unfold namesPort
  rcases port.cases with ⟨number, -⟩ | ⟨digits, rfl, some_, all, small, number⟩
  · rw [number]
    split
    · rename_i before digits cut
      have eq := Url.cutLast_eq_some cut
      cases digits with
      | nil => rfl
      | cons d ds =>
        have last : h.toList.getLast? = some ((d :: ds).getLast (by simp)) := by
          rw [eq, List.getLast?_append, List.getLast?_cons_cons,
            List.getLast?_eq_some_getLast (by simp)]
          rfl
        have other := not_isDigit_last whole form port number (by simp [eq]) last
        have notAll : (d :: ds).all Char.isDigit = false :=
          List.all_eq_false.mpr ⟨_, List.getLast_mem (by simp), by simp [other]⟩
        simp only [notAll, Bool.and_false, Option.isSome_none]
    · rfl
  · have noColon : ':' ∉ digits := fun mem =>
      absurd (List.all_eq_true.mp all ':' mem) (by decide)
    have cut : cutLast ':' h.toList = some (name, digits) := by
      rw [whole, Url.cutLast_append noColon]
    simp [cut, some_, all, number]

/-- A plain text is cut in the right place, unless a bare colon stands behind brackets. -/
theorem hostText_of_plain (open_ : tail = [':'] → ':' ∉ name) : hostText h = name := by
  have first := (splitPort_of_plain whole form port).2
  rcases port.cases with ⟨number, bare⟩ | ⟨digits, rfl, -, -, -, number⟩
  · rw [number, Option.isSome_none, if_neg (by simp)] at first
    rw [hostText, first]
    rcases bare with rfl | rfl
    · rw [whole, List.append_nil, beforeColon_of_isName form]
    · have last : h.toList.getLast? ≠ some ']' := by
        rw [whole, List.getLast?_concat]
        decide
      have cut : Url.beforeColon h.toList = h.toList.takeWhile (· ≠ ':') := by
        simp [Url.beforeColon, last]
      rw [cut, whole]
      exact takeWhile_ne_append (open_ rfl) []
  · rw [number, Option.isSome_some, if_pos rfl] at first
    rw [hostText, first, String.toList_ofList, beforeColon_of_isName form]

/-- Then what is cut off names no host. -/
theorem not_mem_of_parse {host : Host} (parsed : Host.parse (hostText h) = .ok host)
    (bare : tail = [':']) : ':' ∉ name := by
  intro colon
  obtain ⟨inner, rfl, closed⟩ := form.resolve_left (not_not.mpr colon)
  subst bare
  have last : h.toList.getLast? ≠ some ']' := by
    rw [whole, List.getLast?_concat]
    decide
  have first := (splitPort_of_plain whole form port).2
  have inside : ':' ∈ inner := by simpa using colon
  rw [hostText, first, Url.portOf_colon, Option.isSome_none, if_neg (by simp), Url.beforeColon,
    if_neg (by simp [last]), whole, List.cons_append, List.append_assoc] at parsed
  exact not_parse_beforeColon closed inside _ host parsed

end

theorem readTarget_eq_ok_iff {h : String} {t : Target} :
    readTarget h = .ok t ↔ Host.parse (hostText h) = .ok t.host ∧ t.port = (splitPort h).2 := by
  by_cases empty : (hostText h).isEmpty = true
  · have refused : Host.parse (hostText h) ≠ .ok t.host := by
      rw [List.isEmpty_iff.mp empty, Host.parse_nil]
      simp
    simp only [readTarget, empty, if_true, refused, false_and, iff_false]
    split <;> simp
  · have nonempty : (splitPort h).1 ≠ "" := fun none_ => empty (by rw [hostText, none_]; rfl)
    rw [readTarget, if_neg nonempty, if_neg empty]
    cases Host.parse (hostText h) with
    | error e => simp [Except.map]
    | ok host =>
      obtain ⟨host', port⟩ := t
      simp [Except.map, eq_comm]

theorem beforeColon_sublist (cs : List Char) : (Url.beforeColon cs).Sublist cs := by
  unfold Url.beforeColon
  split
  · exact List.Sublist.refl cs
  · exact List.takeWhile_sublist _

/-- A text that is read as a target is read as a plain one, which what is not read is left out
of. -/
theorem exists_plain {h : String} {t : Target} (read : readTarget h = .ok t) :
    ∃ h', IsPlain h' ∧ h'.toList.Sublist h.toList ∧ readTarget h' = .ok t := by
  obtain ⟨parsed, port⟩ := readTarget_eq_ok_iff.mp read
  have form := isName_of_isText (Host.isText_of_parse parsed)
  have plain : ∀ {tail : List Char}, IsPort tail → tail ≠ [':'] → portOf tail = t.port →
      (hostText h ++ tail).Sublist h.toList →
      ∃ h', IsPlain h' ∧ h'.toList.Sublist h.toList ∧ readTarget h' = .ok t := by
    intro tail isPort some_ number sublist
    have whole : (String.ofList (hostText h ++ tail)).toList = hostText h ++ tail :=
      String.toList_ofList
    refine ⟨String.ofList (hostText h ++ tail), ⟨_, _, whole, form, isPort⟩, ?_, ?_⟩
    · rwa [whole]
    · refine readTarget_eq_ok_iff.mpr ⟨?_, ?_⟩
      · rw [hostText_of_plain whole form isPort fun bare => absurd bare some_, parsed]
      · rw [(splitPort_of_plain whole form isPort).1, number]
  cases number : (splitPort h).2 with
  | none =>
    refine plain (.inl rfl) (by simp) (by rw [port, number, Url.portOf_nil]) ?_
    rw [List.append_nil, hostText, splitPort_fst number]
    exact beforeColon_sublist _
  | some n =>
    obtain ⟨name, digits, whole, first, -, value⟩ := splitPort_eq_some number
    obtain ⟨front, digits, rfl, some_, all, eq, small⟩ := Decimal.digits_of_unsigned? value
    refine plain (.inr ⟨digits, rfl, all, ?_⟩) (by simpa using some_) ?_ ?_
    · omega
    · obtain ⟨d, ds, rfl⟩ := List.exists_cons_of_ne_nil some_
      rw [port, number, portOf, eq]
    · have front_ : (hostText h).Sublist name := by
        rw [hostText, first, String.toList_ofList]
        exact beforeColon_sublist name
      rw [whole]
      exact front_.append ((List.sublist_append_right front digits).cons_cons ':')

theorem scheme_of_isHttp {u : Url} (http : u.isHttp = true) :
    u.scheme = "http" ∨ u.scheme = "https" := by
  simpa [Url.isHttp] using http

/-- No delimiter that would end the authority or begin one, and nothing that is dropped. -/
def IsClear (h : String) : Prop := ∀ c ∈ h.toList, Url.isDelimiter c = false

theorem ne_empty_of_readTarget {h : String} {t : Target} (read : readTarget h = .ok t) :
    h ≠ "" := by
  rintro rfl
  cases read

/-- A host in plain text has no delimiters. -/
theorem isClear_of_isText {h : String} {name tail : List Char} (whole : h.toList = name ++ tail)
    (text : Host.IsText name) (port : IsPort tail) : IsClear h := by
  have delimiters : ∀ c, Url.isDelimiter c = true → isBarred c = true ∧ Ascii.hexValue c = none ∧
      c ∉ ['[', ']', ':'] ∧ c.isDigit = false := by
    intro c hc
    simp only [Url.isDelimiter, List.contains_eq_mem, List.mem_cons, List.not_mem_nil, or_false,
      decide_eq_true_eq] at hc
    rcases hc with rfl | rfl | rfl | rfl | rfl | rfl | rfl | rfl <;> decide
  intro c hc
  by_contra delimiter
  obtain ⟨barred, noDigit, other, notDigit⟩ := delimiters c (by simpa using delimiter)
  rw [whole, List.mem_append] at hc
  rcases hc with hc | hc
  · exact Host.not_mem_of_isText text barred noDigit other hc
  · rcases port with rfl | ⟨digits, rfl, all, -⟩
    · cases hc
    · rcases List.mem_cons.mp hc with rfl | hc
      · exact other (by simp)
      · rw [List.all_eq_true.mp all c hc] at notDigit
        cases notDigit

section
variable {u : Url} (http : u.isHttp = true)
include http

theorem honoured_of_isPlain {a : Url.Authority} (ha : u.authority = some a) {h : String}
    {t : Target} (read : readTarget h = .ok t) (plain : IsPlain h) :
    Honoured u h (u.withoutTail.withAuthority (t.authority u.scheme a)) := by
  obtain ⟨name, tail, whole, form, port⟩ := plain
  obtain ⟨parsed, number⟩ := readTarget_eq_ok_iff.mp read
  have cut := hostText_of_plain whole form port (not_mem_of_parse whole form port parsed)
  rw [cut] at parsed
  have clear := isClear_of_isText whole (Host.isText_of_parse parsed) port
  have root := Url.parse_rootOf clear (scheme_of_isHttp http) (ne_empty_of_readTarget read)
  rw [whole, Url.hostAndPort_of_parse (Url.kind_of_isHttp http) parsed port] at root
  obtain ⟨v, reads, parts⟩ : ∃ v, Url.parse (Url.rootOf u.scheme h) = .ok v ∧
      (v.host?, v.port?) = (some t.host, Url.effectivePort u.scheme (portOf tail)) := by
    cases found : Url.parse (Url.rootOf u.scheme h) with
    | error e =>
      rw [found] at root
      cases root
    | ok v =>
      rw [found] at root
      exact ⟨v, rfl, Except.ok.inj root⟩
  obtain ⟨host, number'⟩ := Prod.mk.inj parts
  refine ⟨v, reads, host.symm, ?_⟩
  have own : u.port? = a.port := by simp [Url.port?, ha]
  rw [namesPort_of_plain whole form port, number', own]
  rw [(splitPort_of_plain whole form port).1] at number
  cases named : portOf tail <;>
    simp [Url.port?, Url.withAuthority, Target.authority, Target.portOr, number, named]

theorem isPlain_of_honoured {h : String} (clear : IsClear h) (some_ : h ≠ "") {r : Url}
    (honoured : Honoured u h r) : IsPlain h := by
  obtain ⟨v, reads, -⟩ := honoured
  have root := Url.parse_rootOf clear (scheme_of_isHttp http) some_
  rw [reads] at root
  cases found : Url.hostAndPort u.scheme h.toList with
  | error e =>
    rw [found] at root
    cases root
  | ok parts =>
    have noSlash : '\\' ∉ h.toList := fun mem => absurd (clear _ mem) (by decide)
    obtain ⟨name, tail, whole, parsed, port⟩ :=
      Url.eq_of_hostAndPort (Url.kind_of_isHttp http) noSlash found
    exact ⟨name, tail, whole, isName_of_isText (Host.isText_of_parse parsed), port⟩

end

/-- A signature host takes the place of host and port in full exactly if it is a name with at most
a port behind it. Any other one stands for such a text, which part of it is left out of. -/
theorem signatureHost_honoured_iff {url : String} {u : Url} (parsed : Url.parse url = .ok u)
    (http : u.isHttp = true) {h base : String} {query : List Pair}
    (done : normalizeUrl url (some h) = .ok (base, query)) :
    ∃ r, redirectTo u.withoutTail h = .ok r ∧ base = r.write ∧
      (IsPlain h → Honoured u h r) ∧ (IsClear h → Honoured u h r → IsPlain h) ∧
      ∃ h', IsPlain h' ∧ h'.toList.Sublist h.toList ∧
        normalizeUrl url (some h') = .ok (base, query) ∧ Honoured u h' r := by
  have web := Url.kind_of_isHttp http
  obtain ⟨a, l, ha, path, -⟩ := Url.parts_of_web parsed web
  have redirected := redirectTo_of_web (u := u.withoutTail) web ha (Url.path_withoutTail path)
  have normalized : ∀ text, normalizeUrl url (some text) =
      (redirectTo u.withoutTail text).map fun r => (r.write, u.queryPairs) :=
    fun text => normalizeUrl_of_parse parsed (some text)
  cases read : readTarget h with
  | error e =>
    rw [normalized, redirected, read] at done
    cases done
  | ok t =>
    obtain ⟨h', plain, sublist, read'⟩ := exists_plain read
    have target : redirectTo u.withoutTail h =
        .ok (u.withoutTail.withAuthority (t.authority u.scheme a)) := by
      rw [redirected, read]
      rfl
    have target' : redirectTo u.withoutTail h' = redirectTo u.withoutTail h := by
      rw [redirected, redirected, read, read']
    have written := done
    rw [normalized, target] at written
    refine ⟨_, target, (Prod.mk.inj (Except.ok.inj written)).1.symm,
      honoured_of_isPlain http ha read, fun clear =>
        isPlain_of_honoured http clear (ne_empty_of_readTarget read), h', plain, sublist, ?_,
      honoured_of_isPlain http ha read' plain⟩
    rw [normalized, target', ← normalized, done]

/-- An address without brackets counts up to its first colon only. -/
theorem bareAddress_cut :
    let u : Url := ⟨"http", some ⟨"", none, .domain "example.com", some 8080⟩, .segments [""], none,
      none⟩
    (Url.parse "http://example.com:8080/" = .ok u ∧ u.isHttp = true ∧
      normalizeUrl "http://example.com:8080/" (some "fe80::1") =
        .ok ("http://fe80:8080/", [])) ∧
    ∃ r, "http://fe80:8080/" = r.write ∧ ¬ Honoured u "fe80::1" r ∧ ¬ IsPlain "fe80::1" ∧
      ∃ h', h' ≠ "fe80::1" ∧ h'.toList.Sublist "fe80::1".toList ∧
        normalizeUrl "http://example.com:8080/" (some h') = .ok ("http://fe80:8080/", []) := by
  intro u
  have parsed : Url.parse "http://example.com:8080/" = .ok u := by decide +kernel
  have done : normalizeUrl "http://example.com:8080/" (some "fe80::1") =
      .ok ("http://fe80:8080/", []) := by decide +kernel
  have refused : Url.parse (Url.rootOf u.scheme "fe80::1") = .error .invalidPort := by
    decide +kernel
  refine ⟨⟨parsed, rfl, done⟩, ?_⟩
  obtain ⟨r, -, written, honoured, -, h', plain, sublist, same, -⟩ :=
    signatureHost_honoured_iff parsed rfl done
  have not_ : ¬ Honoured u "fe80::1" r := by
    rintro ⟨v, reads, -⟩
    rw [refused] at reads
    cases reads
  refine ⟨r, written, not_, fun plain => not_ (honoured plain), h', ?_, sublist, same⟩
  rintro rfl
  exact not_ (honoured plain)

end OAuth1
end SignedRest
