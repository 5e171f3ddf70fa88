import SignedRest.Proofs.QueryArrival

/-! Where a function ends up that is joined to a web address by text. It is the rest of the path if
the address has neither query nor fragment, and belongs to these otherwise; and a blank at the end
of a bare host becomes part of the host. -/
namespace SignedRest

namespace Url

def joined (base function : String) : List Char :=
  if base.toList.getLast? = some '/' || function.toList.head? = some '/' then function.toList
  else '/' :: function.toList

/-- What counts of it, and of the base's loose end before it. -/
def added (base function : String) : List Char := looseEnd base ++ atEnd (joined base function)

section
variable {base function : String}

theorem joinPath_eq (some_ : function ≠ "") :
    joinPath base (some function) = base ++ String.ofList (joined base function) := by
  simp only [joinPath, some_, if_false, joined, Bool.or_eq_true, decide_eq_true_eq]
  split
  · rw [String.ofList_toList]
  · rw [String.ofList_cons, String.append_assoc, String.ofList_toList]
    rfl

theorem looseEnd_of_slash (slash : base.toList.getLast? = some '/') : looseEnd base = [] := by
  obtain ⟨front, whole⟩ := List.getLast?_eq_some_iff.mp slash
  have edge : isEdge '/' = false := by decide
  simp [looseEnd, whole, edge]

theorem joined_of_not_slash (slash : base.toList.getLast? ≠ some '/') (function : String) :
    ∃ rest, joined base function = '/' :: rest := by
  by_cases own : function.toList.head? = some '/'
  · obtain ⟨rest, whole⟩ := List.head?_eq_some_iff.mp own
    exact ⟨rest, by simp [joined, whole]⟩
  · exact ⟨function.toList, by simp [joined, own, slash]⟩

theorem added_of_slash (slash : base.toList.getLast? = some '/') :
    added base function = atEnd function.toList := by
  simp [added, looseEnd_of_slash slash, joined, slash]

theorem added_of_not_slash (slash : base.toList.getLast? ≠ some '/') (function : String) :
    ∃ rest, added base function = looseEnd base ++ '/' :: rest := by
  obtain ⟨rest, whole⟩ := joined_of_not_slash slash function
  exact ⟨atEnd rest, by rw [added, whole, atEnd_cons (by decide)]⟩

theorem clean_joinPath (some_ : function ≠ "") (h : clean base ≠ []) :
    clean (joinPath base (some function)) = clean base ++ added base function := by
  rw [joinPath_eq some_]
  by_cases counts : ∃ c ∈ joined base function, isEdge c = false
  · rw [clean_append_text counts h, added, List.append_assoc]
  · -- then there is nothing but what is dropped behind a slash
    have edges : ∀ c ∈ joined base function, isEdge c = true := fun c hc => by
      by_contra visible
      exact counts ⟨c, hc, by simpa using visible⟩
    have slash : base.toList.getLast? = some '/' := by
      by_contra slash
      obtain ⟨rest, whole⟩ := joined_of_not_slash slash function
      have visible := edges '/' (by simp [whole])
      revert visible
      decide
    have nothing : atEnd (joined base function) = [] := atEnd_append_edges edges []
    rw [clean_append_edges edges h, added, nothing, looseEnd_of_slash slash]
    simp

theorem plain_added (plain : ∀ c ∈ function.toList, endsPath c = false) :
    ∀ c ∈ added base function, endsPath c = false := by
  intro c hc
  rcases List.mem_append.mp hc with hc | hc
  · exact looseEnd_plain base c hc
  · have mem : c ∈ '/' :: function.toList := by
      have all := mem_of_mem_atEnd hc
      unfold joined at all
      split at all
      · exact List.mem_cons_of_mem _ all
      · exact all
    rcases List.mem_cons.mp mem with rfl | mem
    · decide
    · exact plain c mem

theorem getLast?_of_append_cons {front rest : List Char} {c d : Char}
    (h : (front ++ c :: rest).getLast? = some d) (other : c ≠ d) : rest.getLast? = some d := by
  cases rest with
  | nil =>
    rw [List.getLast?_concat] at h
    exact absurd (Option.some.inj h) other
  | cons e rest =>
    rw [List.getLast?_append, List.getLast?_cons_cons] at h
    simpa using h

theorem getLast?_clean (slash : base.toList.getLast? = some '/') :
    (clean base).getLast? = some '/' := by
  obtain ⟨front, whole⟩ := List.getLast?_eq_some_iff.mp slash
  have stop : ['/'].takeWhile isEdge = [] := by decide
  have edge : ∃ c ∈ ['/'], isEdge c = false := ⟨'/', by simp, by decide⟩
  have last : atEnd ['/'] = ['/'] := by decide
  rw [clean_eq, fromStart, whole, dropWhile_append_of_stop stop, atEnd_append edge, last,
    List.getLast?_concat]

end

/-- Text without the sign of an escape is what was escaped. -/
theorem toList_escape_eq_iff {keep : UInt8 → Bool} (small : ∀ b, keep b = true → b.toNat < 0x80)
    {cs text : List Char} (ascii : ∀ c ∈ text, c.toNat < 0x80)
    (kept : ∀ c ∈ text, keep (UInt8.ofNat c.toNat) = true) (sign : '%' ∉ text) :
    (escape keep cs).toList = text ↔ cs = text := by
  constructor
  · rintro rfl
    have all : ∀ b ∈ Utf8.encode (String.ofList cs), keep b = true := by
      intro b hb
      by_contra refused
      apply sign
      rw [escape, String.toList_ofList, Percent.encodeBytes, List.mem_flatMap]
      exact ⟨b, hb, by simp [refused, Percent.encodeByte]⟩
    have bytes : Utf8.encode (String.ofList cs) = Utf8.narrow (escape keep cs).toList := by
      have single : ∀ b ∈ Utf8.encode (String.ofList cs),
          (if keep b then [Char.ofNat b.toNat] else Percent.encodeByte b).map
            (fun c => UInt8.ofNat c.toNat) = [b] := by
        intro b hb
        rw [if_pos (all b hb)]
        exact congrArg (fun byte => [byte]) (Percent.narrow_ofNat b (small b (all b hb)))
      rw [escape, String.toList_ofList, Percent.encodeBytes, Utf8.narrow, List.map_flatMap,
        List.flatMap_def, List.map_congr_left single, ← List.flatMap_def, List.flatMap_singleton']
    rw [Form.encode_eq_narrow_iff ascii, String.toList_ofList] at bytes
    exact bytes
  · rintro rfl
    rw [escape_kept ascii kept, String.toList_ofList]

/-- The signs of a form stand for themselves in a query. -/
theorem idle_escape_iff {query added : List Char} :
    Form.Idle query (escape Kind.web.inQuery added).toList ↔ Form.Idle query added := by
  have small : ∀ b, Kind.web.inQuery b = true → b.toNat < 0x80 :=
    Percent.forall_byte (by decide +kernel)
  have signs : ∀ text : List Char, (∀ c ∈ text, c = '&' ∨ c = '=') →
      ((escape Kind.web.inQuery added).toList = text ↔ added = text) := by
    intro text own
    refine toList_escape_eq_iff small (fun c hc => ?_) (fun c hc => ?_) fun mem => ?_
    · rcases own c hc with rfl | rfl <;> decide
    · rcases own c hc with rfl | rfl <;> decide
    · rcases own '%' mem with same | same <;> cases same
  have amps : ∀ n, ∀ c ∈ List.replicate n '&', c = '&' ∨ c = '=' := fun n c hc =>
    .inl (List.eq_of_mem_replicate hc)
  have valued : ∀ n, ∀ c ∈ '=' :: List.replicate n '&', c = '&' ∨ c = '=' := fun n =>
    List.forall_mem_cons.mpr ⟨.inr rfl, amps n⟩
  simp only [Form.Idle, signs _ (amps _), signs _ (valued _)]

variable {base function : String} {u : Url}

/-- A tail takes the function in. -/
theorem parse_joinPath_tail (p : Halves (clean base) u) (nonempty : p.tail ≠ [])
    (some_ : function ≠ "") :
    parse (joinPath base (some function)) =
      .ok (p.bare.withTail (p.tail ++ added base function)) := by
  refine p.parse_tail ?_ (isTail_append p.isTail nonempty _)
  rw [clean_joinPath some_ p.clean_ne_nil, cutScheme_append p.cut, List.append_assoc]

theorem isSome_fragment (u : Url) (tail : List Char) :
    (u.withTail tail).fragment.isSome = true ↔ '#' ∈ tail := by
  by_cases mem : '#' ∈ tail
  · obtain ⟨front, rest, rfl, first⟩ := List.eq_append_cons_of_mem mem
    have keep : ∀ c ∈ front, (c ≠ '#' : Bool) = true := by
      intro c hc
      rw [decide_eq_true_eq]
      rintro rfl
      exact first hc
    have stop : (front ++ '#' :: rest).dropWhile (· ≠ '#') = '#' :: rest := by
      rw [List.dropWhile_append_of_pos keep]
      rfl
    simp only [withTail, cutTail, stop, Option.isSome_some, mem]
  · have none_ : tail.dropWhile (· ≠ '#') = [] := by
      rw [List.dropWhile_eq_nil_iff]
      intro c hc
      rw [decide_eq_true_eq]
      rintro rfl
      exact mem hc
    simp only [withTail, cutTail, none_, Option.isSome_none, mem, Bool.false_eq_true]

/-- A slash at the end of the base is one at the end of its halves. -/
theorem Halves.getLast? (p : Halves (clean base) u) (slash : base.toList.getLast? = some '/') :
    (p.body ++ p.tail).getLast? = some '/' := by
  obtain ⟨-, whole⟩ := cutScheme_eq_some p.cut
  have last := getLast?_clean slash
  rw [whole] at last
  exact getLast?_of_append_cons last (by decide)

/-- A fragment is longer, and everything else as it was. -/
theorem parse_joinPath_fragment (p : Halves (clean base) u) (hash : '#' ∈ base.toList)
    (some_ : function ≠ "") :
    u.fragment.isSome = true ∧
      ∃ fragment, parse (joinPath base (some function)) = .ok { u with fragment := fragment } := by
  have mem := p.hash_mem_tail hash
  have whole := p.whole
  have joins := parse_joinPath_tail p (List.ne_nil_of_mem mem) some_
  rw [withTail_append p.bare mem, ← whole] at joins
  exact ⟨(congrArg (·.fragment.isSome) whole).trans ((isSome_fragment ..).mpr mem), _, joins⟩

/-- Pairs stay the same behind a query only where the function is not noticed. -/
theorem queryPairs_joined (p : Halves (clean base) u) (web : u.kind = .web) {q : List Char}
    (tail : p.tail = '?' :: q) (hash : '#' ∉ q) (noHash : '#' ∉ added base function) :
    (p.bare.withTail (p.tail ++ added base function)).queryPairs = u.queryPairs ↔
      base.toList.getLast? = some '/' ∧
        Form.Idle (escape Kind.web.inQuery q).toList (atEnd function.toList) := by
  have kind : p.bare.kind = .web := (congrArg Url.kind p.whole).symm.trans web
  have old := congrArg queryPairs p.whole
  have apart : '#' ∉ q ++ added base function := by simp [hash, noHash]
  rw [tail, queryPairs_withTail _ hash, kind] at old
  rw [old, tail, List.cons_append, queryPairs_withTail _ apart, kind, escape_append]
  by_cases slash : base.toList.getLast? = some '/'
  · -- the slash is the query's last character
    have last := p.getLast? slash
    rw [tail] at last
    obtain ⟨front, rfl⟩ := List.getLast?_eq_some_iff.mp
      (getLast?_of_append_cons last (by decide))
    have sign : escape Kind.web.inQuery ['/'] = "/" := by decide
    rw [added_of_slash slash, escape_append, sign, Form.decodeString_slash_eq_iff, idle_escape_iff]
    simp [slash]
  · obtain ⟨rest, whole⟩ := added_of_not_slash slash function
    simp only [slash, false_and, iff_false]
    have sign : Utf8.encode (escape Kind.web.inQuery ['/']) = [0x2F] := by decide
    have text : escape Kind.web.inQuery (added base function) =
        escape Kind.web.inQuery (looseEnd base) ++ (escape Kind.web.inQuery ['/'] ++
          escape Kind.web.inQuery rest) := by
      rw [whole, ← escape_append, ← escape_append]
      rfl
    have ascii : ∀ b ∈ Utf8.narrow (looseEnd base), b < 0x80 := by
      intro b hb
      obtain ⟨c, hc, rfl⟩ := List.mem_map.mp hb
      exact ofNat_lt_of_isLow (looseEnd_low base c hc)
    rw [Form.decodeString, Form.decodeString, Utf8.encode_append, text, Utf8.encode_append,
      Utf8.encode_append, sign, encode_escape_loose (looseEnd_low base)]
    exact Form.decode_append_slash_ne ascii _ _

/-- A query is longer, and but for it everything is as it was. -/
theorem parse_joinPath_query (p : Halves (clean base) u) (web : u.kind = .web) {q : List Char}
    (tail : p.tail = '?' :: q) (hash : '#' ∉ q) (some_ : function ≠ "")
    (plain : ∀ c ∈ function.toList, endsPath c = false) :
    ∃ old new, u.query = some old ∧ u.fragment = none ∧
      parse (joinPath base (some function)) = .ok { u with query := some new } ∧
      ({ u with query := some new }.queryPairs = u.queryPairs ↔
        base.toList.getLast? = some '/' ∧ Form.Idle old.toList (atEnd function.toList)) := by
  have noHash : '#' ∉ added base function := fun mem => absurd (plain_added plain _ mem) (by decide)
  have apart : '#' ∉ q ++ added base function := by simp [hash, noHash]
  have kind : p.bare.kind = .web := (congrArg Url.kind p.whole).symm.trans web
  have pairs := queryPairs_joined p web tail hash noHash
  have joins := parse_joinPath_tail p (by simp [tail]) some_
  have whole := p.whole
  rw [tail, withTail, cutTail_query _ hash, kind] at whole
  rw [tail, List.cons_append, withTail, cutTail_query _ apart, kind] at joins pairs
  have longer : { u with query := some (escape Kind.web.inQuery (q ++ added base function)) } =
      { p.bare with
        query := some (escape Kind.web.inQuery (q ++ added base function)), fragment := none } :=
    congrArg (fun w : Url =>
      { w with query := some (escape Kind.web.inQuery (q ++ added base function)) }) whole
  rw [← longer] at joins pairs
  exact ⟨_, _, congrArg (·.query) whole, congrArg (·.fragment) whole, joins, pairs⟩

/-- A slash behind the authority, so that nothing that follows belongs to it. -/
def closesAuthority (url : String) : Bool :=
  match cutScheme (clean url) with
  | some (_, rest) => (rest.dropWhile (isSlash .web)).any (isSlash .web)
  | none => false

theorem endsAuthority_of_plain {kind : Kind} {c : Char} (plain : endsPath c = false) :
    endsAuthority kind c = isSlash kind c := by
  simp only [endsPath, Bool.or_eq_false_iff] at plain
  simp only [endsAuthority, plain, Bool.or_false]

theorem afterSlashes_append_path {scheme : String} (web : kindOf scheme = .web)
    {cs more : List Char} (plain : ∀ c ∈ cs ++ more, endsPath c = false)
    (same : (cs ++ more).takeWhile (!endsAuthority .web ·) =
      cs.takeWhile (!endsAuthority .web ·)) {bare : Url} (h : afterSlashes scheme cs = .ok bare) :
    ∃ path, afterSlashes scheme (cs ++ more) = .ok { bare with path := path } := by
  obtain ⟨own, -⟩ := List.forall_mem_append.mp plain
  obtain ⟨a, left, read, rfl⟩ := afterSlashes_of_plain own h
  have special : cs.takeWhile (!endsAuthority .web ·) = ['@'] → kindOf scheme ≠ .other := by
    simp [web]
  rw [web, authorityOf_closed special] at read
  rw [afterSlashes_plain scheme plain, web, same, authorityOf_closed special, read]
  exact ⟨_, rfl⟩

theorem afterSlashes_nil {scheme : String} (web : kindOf scheme = .web) (u : Url) :
    afterSlashes scheme [] ≠ .ok u := by
  have none_ : ∀ {sep}, cutLast sep [] = none := rfl
  intro read
  rw [afterSlashes_plain scheme (by simp), web] at read
  simp [authorityOf, none_, hostAndPort, cutHost, web, hostOf, bind, Except.bind, Except.map]
    at read

theorem afterSlashes_append_refused {scheme : String} (web : kindOf scheme = .web)
    {cs loose rest : List Char} (low : ∀ c ∈ loose, isLow c = true) (nonempty : loose ≠ [])
    (open_ : cs.any (isSlash .web) = false)
    (plain : ∀ c ∈ cs ++ (loose ++ '/' :: rest), endsPath c = false) (v : Url) :
    afterSlashes scheme (cs ++ (loose ++ '/' :: rest)) ≠ .ok v := by
  have own : ∀ c ∈ cs, isSlash .web c = false := by simpa using open_
  have inside : ∀ c ∈ cs ++ loose, (!endsAuthority .web c) = true := by
    refine List.forall_mem_append.mpr ⟨fun c hc => ?_, fun c hc => ?_⟩
    · rw [endsAuthority_of_plain (plain c (List.mem_append_left _ hc)), own c hc]
      rfl
    · rw [not_endsAuthority (low c hc)]
      rfl
  have noSlash : '\\' ∉ cs := fun mem => absurd (own '\\' mem) (by decide)
  have stop : ('/' :: rest).takeWhile (!endsAuthority .web ·) = [] := rfl
  have text : (cs ++ loose ++ '/' :: rest).takeWhile (!endsAuthority .web ·) = cs ++ loose := by
    rw [takeWhile_append_of_stop stop, List.takeWhile_eq_self_iff.mpr inside]
  intro read
  obtain ⟨a, left, authority, -⟩ := afterSlashes_of_plain plain read
  rw [web, ← List.append_assoc, text] at authority
  exact authorityOf_append_loose low nonempty web noSlash _ _ authority

def Halves.behind (p : Halves (clean base) u) : List Char := p.body.dropWhile (isSlash .web)

theorem Halves.plain_behind (p : Halves (clean base) u) : ∀ c ∈ p.behind, endsPath c = false :=
  fun c hc => p.plain c ((List.dropWhile_sublist _).subset hc)

theorem Halves.plain_behind_append (p : Halves (clean base) u)
    (plain : ∀ c ∈ function.toList, endsPath c = false) :
    ∀ c ∈ p.behind ++ added base function, endsPath c = false :=
  List.forall_mem_append.mpr ⟨p.plain_behind, plain_added plain⟩

theorem Halves.behind_ne_nil (p : Halves (clean base) u) (web : kindOf p.scheme = .web) :
    p.behind ≠ [] := by
  intro none_
  have read := p.read
  simp only [afterScheme, web] at read
  rw [← Halves.behind, none_] at read
  exact afterSlashes_nil web _ read

section
variable (p : Halves (clean base) u) (bare : p.tail = [])
include bare

theorem Halves.unmarked : u.query = none ∧ u.fragment = none := by
  have whole := p.whole
  rw [bare] at whole
  exact ⟨congrArg (·.query) whole, congrArg (·.fragment) whole⟩

theorem Halves.read_behind (web : kindOf p.scheme = .web) :
    afterSlashes p.scheme p.behind = .ok u := by
  have read := p.read
  simp only [afterScheme, web] at read
  rw [← Halves.behind] at read
  obtain ⟨a, left, -, same⟩ := afterSlashes_of_plain p.plain_behind read
  have whole : u = p.bare := by
    refine p.whole.trans ?_
    rw [bare, same]
    rfl
  rwa [← whole] at read

theorem closesAuthority_eq : closesAuthority base = p.behind.any (isSlash .web) := by
  have cut := p.cut
  rw [bare, List.append_nil] at cut
  rw [closesAuthority, cut, Halves.behind]

theorem closesAuthority_of_slash (web : kindOf p.scheme = .web)
    (slash : base.toList.getLast? = some '/') : closesAuthority base = true := by
  have last := p.getLast? slash
  have halves : p.body = p.body.takeWhile (isSlash .web) ++ p.behind :=
    List.takeWhile_append_dropWhile.symm
  rw [bare, List.append_nil, halves, List.getLast?_append] at last
  rw [closesAuthority_eq p bare, List.any_eq_true]
  refine ⟨'/', List.mem_of_getLast? ?_, by decide⟩
  cases own : p.behind.getLast? with
  | none => exact absurd (List.getLast?_eq_none_iff.mp own) (p.behind_ne_nil web)
  | some c => simpa [own] using last

theorem parse_joinPath_plain (web : kindOf p.scheme = .web) (some_ : function ≠ "") :
    parse (joinPath base (some function)) =
      afterSlashes p.scheme (p.behind ++ added base function) := by
  have cut := p.cut
  have nonempty : (p.body.dropWhile (isSlash .web)).isEmpty = false :=
    List.isEmpty_eq_false_iff.mpr (p.behind_ne_nil web)
  rw [bare, List.append_nil] at cut
  rw [parse, clean_joinPath some_ p.clean_ne_nil, cutScheme_append cut]
  simp only [afterScheme, web, List.dropWhile_append, nonempty, Bool.false_eq_true, if_false]
  rfl

variable (web : kindOf p.scheme = .web) (some_ : function ≠ "")
  (plain : ∀ c ∈ function.toList, endsPath c = false)
include web some_ plain

/-- Nothing but a path is added if a slash comes before it or the base has no loose end. -/
theorem parse_joinPath_path (firm : looseEnd base = [] ∨ closesAuthority base = true) :
    ∃ path, parse (joinPath base (some function)) = .ok { u with path := path } := by
  have same : (p.behind ++ added base function).takeWhile (!endsAuthority .web ·) =
      p.behind.takeWhile (!endsAuthority .web ·) := by
    by_cases closed : closesAuthority base = true
    · rw [closesAuthority_eq p bare] at closed
      obtain ⟨c, hc, slash⟩ := List.any_eq_true.mp closed
      refine takeWhile_append_of_stopped ⟨c, hc, ?_⟩ _
      rw [endsAuthority_of_plain (p.plain_behind c hc), slash]
      rfl
    · have noSlash := fun slash => closed (closesAuthority_of_slash p bare web slash)
      obtain ⟨rest, text⟩ := added_of_not_slash noSlash function
      rw [text, firm.resolve_right closed]
      exact takeWhile_append_of_stop rfl _
  rw [parse_joinPath_plain p bare web some_]
  exact afterSlashes_append_path web (p.plain_behind_append plain) same (p.read_behind bare web)

/-- Otherwise the loose end becomes part of the authority, which cannot have it. -/
theorem firm_of_parse_joinPath {v : Url}
    (parsed : parse (joinPath base (some function)) = .ok v) :
    looseEnd base = [] ∨ closesAuthority base = true := by
  by_contra refused
  obtain ⟨loose, closed⟩ := not_or.mp refused
  have noSlash := fun slash => closed (closesAuthority_of_slash p bare web slash)
  obtain ⟨rest, text⟩ := added_of_not_slash noSlash function
  have plain' := p.plain_behind_append plain
  rw [closesAuthority_eq p bare, Bool.not_eq_true] at closed
  rw [parse_joinPath_plain p bare web some_, text] at parsed
  rw [text] at plain'
  exact afterSlashes_append_refused web (looseEnd_low base) loose closed plain' v parsed

end

/-- The same resource but for its path. -/
structure SameButPath (u v : Url) : Prop where
  scheme : v.scheme = u.scheme
  host : v.host? = u.host?
  port : v.port? = u.port?
  query : v.queryPairs = u.queryPairs

/-- The part that a function becomes part of: the last one that the URL has. -/
def Lengthened (u v : Url) : Prop :=
  match u.fragment, u.query with
  | some _, _ => v = { u with fragment := v.fragment }
  | none, some _ => v = { u with query := v.query }
  | none, none => v = { u with path := v.path }

/-- Where a function does no harm: behind a fragment, which takes it in; behind a query only if it
is not noticed there; and otherwise unless it makes the base's loose end part of the host. -/
def Harmless (base function : String) (u : Url) : Prop :=
  match u.fragment, u.query with
  | some _, _ => True
  | none, some query =>
    base.toList.getLast? = some '/' ∧ Form.Idle query.toList (atEnd function.toList)
  | none, none => looseEnd base = [] ∨ closesAuthority base = true

end Url

open Url in
/-- A function that is joined to a web address changes the last part that the address has, and no
other: its path, its query or its fragment. The address keeps its scheme, its host, its port and
its pairs exactly where this does no harm. -/
theorem joinPath_harmless_iff {base function : String} {u : Url} (parsed : Url.parse base = .ok u)
    (http : u.isHttp = true) (some_ : function ≠ "")
    (plain : ∀ c ∈ function.toList, endsPath c = false) :
    (∀ v, Url.parse (joinPath base (some function)) = .ok v → Lengthened u v) ∧
    ((∃ v, Url.parse (joinPath base (some function)) = .ok v ∧ SameButPath u v) ↔
      Harmless base function u) := by
  have web := kind_of_isHttp http
  obtain ⟨p⟩ := halves_of_web parsed web
  by_cases hash : '#' ∈ base.toList
  · obtain ⟨marked, fragment, joins⟩ := parse_joinPath_fragment p hash some_
    obtain ⟨own, marked⟩ := Option.isSome_iff_exists.mp marked
    simp only [Lengthened, Harmless, marked, joins, Except.ok.injEq, forall_eq', exists_eq_left',
      iff_true, true_and]
    exact ⟨rfl, rfl, rfl, rfl⟩
  · rcases p.tail_cases hash with ⟨bare, -⟩ | ⟨q, tail, noHash, -⟩
    · have schemeWeb : kindOf p.scheme = .web := kind_of_parse parsed web p.cut
      have reads := parse_joinPath_path p bare schemeWeb some_ plain
      have firm {v : Url} := firm_of_parse_joinPath p bare schemeWeb some_ plain (v := v)
      obtain ⟨query, fragment⟩ := p.unmarked bare
      simp only [Lengthened, Harmless, query, fragment]
      refine ⟨fun v joins => ?_, fun ⟨v, joins, _⟩ => firm joins, fun harmless => ?_⟩
      · obtain ⟨path, own⟩ := reads (firm joins)
        obtain rfl := Except.ok.inj (own.symm.trans joins)
        rw [query, fragment]
      · obtain ⟨path, own⟩ := reads harmless
        exact ⟨_, own, rfl, rfl, rfl, rfl⟩
    · obtain ⟨old, new, query, unmarked, joins, pairs⟩ :=
        parse_joinPath_query p web tail noHash some_ plain
      simp only [Lengthened, Harmless, unmarked, query, joins, Except.ok.injEq, forall_eq',
        exists_eq_left', ← pairs, true_and]
      exact ⟨SameButPath.query, fun same => ⟨rfl, rfl, rfl, same⟩⟩

/-- The same function behind a path, a query and a bare host with a blank at its end. -/
theorem users_joined :
    (∃ v, Url.parse (joinPath "https://h/f" (some "users")) = .ok v ∧
      (plainUrl none none).SameButPath v) ∧
    (¬ ∃ v, Url.parse (joinPath "https://h/f?k=v" (some "users")) = .ok v ∧
      (plainUrl (some "k=v") none).SameButPath v) ∧
    ∃ u, Url.parse "http://h " = .ok u ∧
      ∀ v, Url.parse (joinPath "http://h " (some "users")) = .ok v → ¬ u.SameButPath v := by
  have plain : ∀ c ∈ "users".toList, Url.endsPath c = false := fun c hc => by
    have all : "users".toList.all (!Url.endsPath ·) = true := by decide
    simpa using List.all_eq_true.mp all c hc
  have some_ : "users" ≠ "" := by decide
  have bare : Url.parse "https://h/f" = .ok (plainUrl none none) := by decide +kernel
  have queried : Url.parse "https://h/f?k=v" = .ok (plainUrl (some "k=v") none) := by
    decide +kernel
  have loose : Url.parse "http://h " =
      .ok ⟨"http", some ⟨"", none, .domain "h", none⟩, .segments [""], none, none⟩ := by
    decide +kernel
  refine ⟨(joinPath_harmless_iff bare rfl some_ plain).2.mpr (.inr (by decide +kernel)),
    fun kept => ?_, _, loose, fun v joins kept => ?_⟩
  · have slash := ((joinPath_harmless_iff queried rfl some_ plain).2.mp kept).1
    revert slash
    decide +kernel
  · rcases (joinPath_harmless_iff loose rfl some_ plain).2.mp ⟨v, joins, kept⟩ with firm | closed
    · revert firm
      decide +kernel
    · revert closed
      decide +kernel

end SignedRest
