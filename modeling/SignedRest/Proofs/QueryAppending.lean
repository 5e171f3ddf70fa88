import SignedRest.Request
import SignedRest.Proofs.FormPairs
import SignedRest.Proofs.UrlTail

/-! Pairs put behind a URL by text reach its query, and change nothing else, if the text is one
that can be continued: it has no fragment, and no blank at its end that only counts once
something follows. -/
namespace SignedRest.Url

/-- The blanks and controls at the end that are dropped there, and nowhere else. -/
def looseEnd (url : String) : List Char :=
  (url.toList.reverse.takeWhile isEdge).reverse.filter (!isDropped ·)

/-- Texts that a query can be put behind. Schemes that are neither `file` nor web ones may have a
lone `@` for their authority, but not before a query. -/
structure TakesQuery (url : String) : Prop where
  noFragment : '#' ∉ url.toList
  firm : looseEnd url = []
  notLone : ∀ scheme, cutScheme (clean url) = some (scheme, ['/', '/', '@']) →
    kindOf scheme ≠ .other

theorem isEdge_of_isDropped {c : Char} (h : isDropped c = true) : isEdge c = true := by
  simp only [isDropped, Bool.or_eq_true, decide_eq_true_eq] at h
  rcases h with (rfl | rfl) | rfl <;> decide

theorem takeWhile_eq_nil_of_forall {α : Type} {p : α → Bool} {list : List α}
    (h : ∀ a ∈ list, p a = false) : list.takeWhile p = [] := by
  cases list with
  | nil => rfl
  | cons a list => simp [h a (by simp)]

theorem takeWhile_append_of_stopped {α : Type} {p : α → Bool} {list : List α}
    (h : ∃ a ∈ list, p a = false) (more : List α) :
    (list ++ more).takeWhile p = list.takeWhile p := by
  induction list with
  | nil => simp at h
  | cons a list ih =>
    by_cases ha : p a = true
    · obtain ⟨b, hb, stop⟩ := h
      rcases List.mem_cons.mp hb with rfl | hb
      · rw [ha] at stop
        cases stop
      · simp [ha, ih ⟨b, hb, stop⟩]
    · simp [ha]

def fromStart (url : String) : List Char := url.toList.dropWhile isEdge

theorem fromStart_halves (url : String) :
    ((fromStart url).reverse.dropWhile isEdge).reverse ++
      ((fromStart url).reverse.takeWhile isEdge).reverse = fromStart url := by
  rw [← List.reverse_append, List.takeWhile_append_dropWhile, List.reverse_reverse]

theorem fromStart_stops {url : String} (h : clean url ≠ []) :
    ∃ c ∈ (fromStart url).reverse, isEdge c = false := by
  cases ht : fromStart url with
  | nil =>
    rw [fromStart] at ht
    exact absurd (by simp [clean, ht]) h
  | cons c rest =>
    have head := List.head?_dropWhile_not isEdge url.toList
    rw [← fromStart, ht] at head
    exact ⟨c, by simp, by simpa using head⟩

theorem looseEnd_eq {url : String} (h : clean url ≠ []) :
    ((fromStart url).reverse.takeWhile isEdge).reverse.filter (!isDropped ·) = looseEnd url := by
  have whole := List.takeWhile_append_dropWhile (p := isEdge) (l := url.toList)
  rw [← fromStart] at whole
  rw [looseEnd, ← whole, List.reverse_append, takeWhile_append_of_stopped (fromStart_stops h)]

def atEnd (cs : List Char) : List Char :=
  (cs.reverse.dropWhile isEdge).reverse.filter (!isDropped ·)

theorem not_isDropped {c : Char} (visible : isEdge c = false) : isDropped c = false := by
  cases dropped : isDropped c with
  | false => rfl
  | true =>
    rw [isEdge_of_isDropped dropped] at visible
    cases visible

theorem atEnd_append {b : List Char} (counts : ∃ c ∈ b, isEdge c = false) (a : List Char) :
    atEnd (a ++ b) = a.filter (!isDropped ·) ++ atEnd b := by
  obtain ⟨c, hc, visible⟩ := counts
  have rest : (b.reverse.dropWhile isEdge).isEmpty = false := by
    rw [List.isEmpty_eq_false_iff, ne_eq, List.dropWhile_eq_nil_iff]
    intro all
    rw [all c (List.mem_reverse.mpr hc)] at visible
    cases visible
  rw [atEnd, List.reverse_append, List.dropWhile_append, rest, if_neg (by simp),
    List.reverse_append, List.reverse_reverse, List.filter_append, atEnd]

theorem atEnd_append_edges {b : List Char} (edges : ∀ c ∈ b, isEdge c = true) (a : List Char) :
    atEnd (a ++ b) = atEnd a := by
  have all : ∀ c ∈ b.reverse, isEdge c = true := fun c hc => edges c (List.mem_reverse.mp hc)
  rw [atEnd, List.reverse_append, List.dropWhile_append_of_pos all, atEnd]

theorem atEnd_cons {c : Char} (visible : isEdge c = false) (cs : List Char) :
    atEnd (c :: cs) = c :: atEnd cs := by
  have stop : [c].takeWhile isEdge = [] := by simp [visible]
  rw [atEnd, List.reverse_cons, dropWhile_append_of_stop stop, List.reverse_append,
    List.reverse_singleton, List.singleton_append, List.filter_cons_of_pos, atEnd]
  rw [not_isDropped visible]
  rfl

theorem mem_of_mem_atEnd {c : Char} {cs : List Char} (h : c ∈ atEnd cs) : c ∈ cs := by
  have mem := List.mem_reverse.mp (List.mem_filter.mp h).1
  exact List.mem_reverse.mp ((List.dropWhile_sublist _).subset mem)

theorem atEnd_of_visible {cs : List Char} (visible : ∀ c ∈ cs, isEdge c = false) :
    atEnd cs = cs := by
  have none_ : cs.reverse.takeWhile isEdge = [] :=
    takeWhile_eq_nil_of_forall fun c hc => visible c (List.mem_reverse.mp hc)
  rw [atEnd, dropWhile_of_stop none_, List.reverse_reverse]
  exact List.filter_eq_self.mpr fun c hc => by simp [not_isDropped (visible c hc)]

theorem clean_eq (url : String) : clean url = atEnd (fromStart url) := rfl

theorem fromStart_append {url : String} (h : clean url ≠ []) (x : List Char) :
    fromStart (url ++ String.ofList x) = fromStart url ++ x := by
  have some_ : (fromStart url).isEmpty = false := by
    rw [List.isEmpty_eq_false_iff]
    rintro none_
    exact h (by rw [clean_eq, none_]; rfl)
  rw [fromStart, String.toList_append, String.toList_ofList, List.dropWhile_append, ← fromStart,
    some_, if_neg (by simp)]

/-- What follows a URL makes its loose end count. -/
theorem clean_append_text {url : String} {x : List Char} (counts : ∃ c ∈ x, isEdge c = false)
    (h : clean url ≠ []) :
    clean (url ++ String.ofList x) = clean url ++ looseEnd url ++ atEnd x := by
  have halves := congrArg (List.filter (!isDropped ·)) (fromStart_halves url)
  rw [List.filter_append, looseEnd_eq h] at halves
  rw [clean_eq, fromStart_append h, atEnd_append counts, ← halves, ← atEnd, ← clean_eq]

theorem clean_append_edges {url : String} {x : List Char} (edges : ∀ c ∈ x, isEdge c = true)
    (h : clean url ≠ []) : clean (url ++ String.ofList x) = clean url := by
  rw [clean_eq, fromStart_append h, atEnd_append_edges edges, ← clean_eq]

theorem clean_append {url : String} {x : List Char} (hx : ∀ c ∈ x, isEdge c = false)
    (nonempty : x ≠ []) (h : clean url ≠ []) :
    clean (url ++ String.ofList x) = clean url ++ looseEnd url ++ x := by
  obtain ⟨c, hc⟩ := List.exists_mem_of_ne_nil x nonempty
  rw [clean_append_text ⟨c, hc, hx c hc⟩ h, atEnd_of_visible hx]

theorem cutScheme_eq_some {cs rest : List Char} {scheme : String}
    (h : cutScheme cs = some (scheme, rest)) :
    cs.dropWhile isSchemeChar = ':' :: rest ∧ cs = cs.takeWhile isSchemeChar ++ ':' :: rest := by
  have whole := List.takeWhile_append_dropWhile (p := isSchemeChar) (l := cs)
  unfold cutScheme at h
  split at h
  · rename_i c name rest' start stop
    split at h
    · obtain ⟨-, rfl⟩ := Prod.mk.inj (Option.some.inj h)
      exact ⟨stop, by rw [← stop, whole]⟩
    · cases h
  · cases h

theorem cutScheme_append {cs rest : List Char} {scheme : String}
    (h : cutScheme cs = some (scheme, rest)) (x : List Char) :
    cutScheme (cs ++ x) = some (scheme, rest ++ x) := by
  obtain ⟨stop, whole⟩ := cutScheme_eq_some h
  have colon : ∃ c ∈ cs, isSchemeChar c = false :=
    ⟨':', by rw [whole]; simp, by decide⟩
  have front : (cs ++ x).takeWhile isSchemeChar = cs.takeWhile isSchemeChar :=
    takeWhile_append_of_stopped colon x
  have back : (cs ++ x).dropWhile isSchemeChar = ':' :: (rest ++ x) := by
    rw [List.dropWhile_append, stop]
    rfl
  unfold cutScheme at h ⊢
  rw [front, back]
  rw [stop] at h
  split at h
  · rename_i c name rest' start stop'
    obtain rfl := (List.cons.inj stop').2
    split at h
    · rename_i alpha
      obtain ⟨rfl, -⟩ := Prod.mk.inj (Option.some.inj h)
      rw [start]
      simp [alpha]
    · cases h
  · cases h

/-- A text and the URL it spells, cut where the tail begins. -/
structure Halves (text : List Char) (u : Url) where
  scheme : String
  body : List Char
  tail : List Char
  bare : Url
  cut : cutScheme text = some (scheme, body ++ tail)
  plain : ∀ c ∈ body, endsPath c = false
  isTail : IsTail tail
  notLone : body = ['/', '/', '@'] → kindOf scheme ≠ .other
  read : afterScheme scheme body = .ok bare
  whole : u = bare.withTail tail

theorem lone_refused {scheme : String} (other : kindOf scheme = .other) {tail : List Char}
    (ht : IsTail tail) (nonempty : tail ≠ []) :
    afterScheme scheme (['/', '/', '@'] ++ tail) = .error .emptyHost := by
  have stop : tail.takeWhile (!endsAuthority .other ·) = [] :=
    stop_of_isTail ht fun c hc => by simp [endsAuthority_of_endsPath hc]
  have user : cutLast '@' ['@'] = some ([], []) := by decide
  have text : ('@' :: tail).takeWhile (!endsAuthority .other ·) = ['@'] := by
    simpa [endsAuthority, isSlash, Kind.isSpecial] using stop
  have rest : ('@' :: tail).dropWhile (!endsAuthority .other ·) = tail := by
    simpa [endsAuthority, isSlash, Kind.isSpecial] using dropWhile_of_stop stop
  simp only [List.cons_append, List.nil_append, afterScheme, other, afterSlashes_eq, text, rest]
  cases tail with
  | nil => exact absurd rfl nonempty
  | cons c tail => simp [authorityOf, user, Except.map]

theorem halves_of_parse {url : String} {u : Url} (h : parse url = .ok u)
    (notLone : ∀ scheme, cutScheme (clean url) = some (scheme, ['/', '/', '@']) →
      kindOf scheme ≠ .other) :
    Nonempty (Halves (clean url) u) := by
  unfold parse at h
  split at h
  · rename_i scheme rest cut
    have whole := List.takeWhile_append_dropWhile (p := (!endsPath ·)) (l := rest)
    have plain : ∀ c ∈ rest.takeWhile (!endsPath ·), endsPath c = false := fun c hc => by
      simpa using List.mem_takeWhile_imp hc
    have isTail := isTail_dropWhile rest
    have lone : rest.takeWhile (!endsPath ·) = ['/', '/', '@'] → kindOf scheme ≠ .other := by
      intro body other
      rw [body] at whole
      by_cases nonempty : rest.dropWhile (!endsPath ·) = []
      · rw [nonempty] at whole
        exact notLone scheme (by rw [cut, ← whole]; rfl) other
      · rw [← whole, lone_refused other isTail nonempty] at h
        cases h
    rw [← whole, afterScheme_append plain isTail lone] at h
    cases read : afterScheme scheme (rest.takeWhile (!endsPath ·)) with
    | error e => simp [read, Except.map] at h
    | ok bare =>
      rw [read] at h
      exact ⟨scheme, _, _, bare, by rw [cut, whole], plain, isTail, lone, read,
        (Except.ok.inj h).symm⟩
  · cases h

theorem Halves.clean_ne_nil {url : String} {u : Url} (p : Halves (clean url) u) :
    clean url ≠ [] := by
  intro h
  have cut : ∃ read, cutScheme (clean url) = some read := ⟨_, p.cut⟩
  rw [h] at cut
  simp [cutScheme] at cut

/-- Another tail in the place of the one that a text has. -/
theorem Halves.parse_tail {text : List Char} {u : Url} (p : Halves text u) {other : String}
    {tail : List Char} (cut : cutScheme (clean other) = some (p.scheme, p.body ++ tail))
    (ht : IsTail tail) : parse other = .ok (p.bare.withTail tail) := by
  rw [parse, cut]
  simp only
  rw [afterScheme_append p.plain ht p.notLone, p.read]
  rfl

structure QueryText (q : List Char) : Prop where
  ascii : ∀ c ∈ q, c.toNat < 0x80
  visible : ∀ c ∈ q, isEdge c = false
  kept : ∀ (k : Kind), ∀ c ∈ q, k.inQuery (UInt8.ofNat c.toNat) = true
  noHash : '#' ∉ q

theorem queryText_form (pairs : List (String × String)) :
    QueryText (Form.encode pairs).toList := by
  have bytes : ∀ b : UInt8, b.toNat < 0x80 → (Form.isTextChar (Char.ofNat b.toNat) = true ∨
      Char.ofNat b.toNat = '=' ∨ Char.ofNat b.toNat = '&') →
      isEdge (Char.ofNat b.toNat) = false ∧ inWebQuery b = true ∧ inQuery b = true ∧
        Char.ofNat b.toNat ≠ '#' := Percent.forall_byte (by decide +kernel)
  have all : ∀ c ∈ (Form.encode pairs).toList, isEdge c = false ∧
      inWebQuery (UInt8.ofNat c.toNat) = true ∧ inQuery (UInt8.ofNat c.toNat) = true ∧ c ≠ '#' := by
    intro c hc
    have ascii := Form.encode_ascii hc
    have small : (UInt8.ofNat c.toNat).toNat < 0x80 := by
      rw [UInt8.toNat_ofNat']
      omega
    have same := Percent.ofNat_narrow ascii
    have h := bytes _ small
    rw [same] at h
    exact h (Form.mem_encode hc)
  refine ⟨fun c hc => Form.encode_ascii hc, fun c hc => (all c hc).1, fun k c hc => ?_,
    fun hc => (all '#' hc).2.2.2 rfl⟩
  unfold Kind.inQuery
  split
  · exact (all c hc).2.1
  · exact (all c hc).2.2.1

theorem escape_append (keep : UInt8 → Bool) (a b : List Char) :
    escape keep (a ++ b) = escape keep a ++ escape keep b := by
  simp [escape, String.ofList_append]

theorem escape_kept {keep : UInt8 → Bool} {q : List Char} (ascii : ∀ c ∈ q, c.toNat < 0x80)
    (kept : ∀ c ∈ q, keep (UInt8.ofNat c.toNat) = true) : escape keep q = String.ofList q := by
  rw [escape, Utf8.encode_ascii ascii]
  congr 1
  induction q with
  | nil => rfl
  | cons c q ih =>
    have same := Percent.ofNat_narrow (ascii c (by simp))
    have rest := ih (fun d hd => ascii d (by simp [hd])) fun d hd => kept d (by simp [hd])
    simp only [Percent.encodeBytes, Utf8.narrow, List.map_cons, List.flatMap_cons,
      kept c (by simp), if_true, same, List.singleton_append] at rest ⊢
    rw [rest]

theorem cutTail_query (kind : Kind) {q : List Char} (h : '#' ∉ q) :
    cutTail kind ('?' :: q) = (some (escape kind.inQuery q), none) := by
  have all : ∀ c ∈ '?' :: q, (c ≠ '#' : Bool) = true := by
    intro c hc
    simp only [ne_eq, decide_not, Bool.not_eq_true', decide_eq_false_iff_not]
    rintro rfl
    rcases List.mem_cons.mp hc with hc | hc
    · cases hc
    · exact h hc
  simp only [cutTail, List.takeWhile_eq_self_iff.mpr all, List.dropWhile_eq_nil_iff.mpr all]

theorem mem_clean_of_visible {url : String} {c : Char} (visible : isEdge c = false) :
    c ∈ clean url ↔ c ∈ url.toList := by
  have kept : isDropped c = false := not_isDropped visible
  have trim : ∀ list : List Char, c ∈ list.dropWhile isEdge ↔ c ∈ list := by
    intro list
    induction list with
    | nil => rfl
    | cons d list ih =>
      by_cases hd : isEdge d = true
      · have other : c ≠ d := by
          rintro rfl
          rw [hd] at visible
          cases visible
        simp [hd, ih, other]
      · simp [hd]
  simp [clean, kept, trim]

/-- Without a fragment the tail is empty or a query. -/
theorem Halves.tail_cases {url : String} {u : Url} (p : Halves (clean url) u)
    (noFragment : '#' ∉ url.toList) :
    (p.tail = [] ∧ '?' ∉ url.toList) ∨
      ∃ q, p.tail = '?' :: q ∧ '#' ∉ q ∧ '?' ∈ url.toList := by
  obtain ⟨-, whole⟩ := cutScheme_eq_some p.cut
  have hash : '#' ∉ clean url := fun h => noFragment ((mem_clean_of_visible (by decide)).mp h)
  have mark : '?' ∈ url.toList ↔ '?' ∈ p.tail := by
    have scheme : '?' ∉ (clean url).takeWhile isSchemeChar := fun h =>
      absurd (List.mem_takeWhile_imp h) (by decide)
    have body : '?' ∉ p.body := fun h => absurd (p.plain _ h) (by decide)
    rw [← mem_clean_of_visible (by decide)]
    refine (congrArg ('?' ∈ ·) whole).to_iff.trans ?_
    simp [scheme, body]
  have isTail := p.isTail
  cases ht : p.tail with
  | nil =>
    refine .inl ⟨rfl, ?_⟩
    rw [mark, ht]
    simp
  | cons c rest =>
    have tail : ∀ d ∈ c :: rest, d ∈ clean url := by
      intro d hd
      rw [whole, ht]
      simp [List.mem_cons.mp hd]
    have ends : endsPath c = true := by
      rw [ht] at isTail
      cases hc : endsPath c with
      | true => rfl
      | false => simp [IsTail, hc] at isTail
    rcases endsPath_cases ends with rfl | rfl
    · refine .inr ⟨rest, rfl, fun h => hash (tail _ (by simp [h])), ?_⟩
      rw [mark, ht]
      simp
    · exact absurd (tail _ (by simp)) hash

theorem queryPairs_withTail (u : Url) {q : List Char} (h : '#' ∉ q) :
    (u.withTail ('?' :: q)).queryPairs = Form.decodeString (escape u.kind.inQuery q) := by
  simp [withTail, queryPairs, cutTail_query _ h]

theorem parse_append {url : String} {u : Url} (p : Halves (clean url) u) (firm : looseEnd url = [])
    {x : List Char} (visible : ∀ c ∈ x, isEdge c = false) (nonempty : x ≠ [])
    (isTail : IsTail (p.tail ++ x)) :
    parse (url ++ String.ofList x) = .ok (p.bare.withTail (p.tail ++ x)) := by
  refine p.parse_tail ?_ isTail
  rw [clean_append visible nonempty p.clean_ne_nil, firm, List.append_nil, cutScheme_append p.cut,
    List.append_assoc]

theorem encode_eq_empty_iff (pairs : List (String × String)) :
    Form.encode pairs = "" ↔ pairs = [] := by
  constructor
  · intro h
    have read := Form.decodeString_encode pairs
    rw [h] at read
    exact read.symm
  · rintro rfl
    rfl

def separator (url : String) : Char := if '?' ∈ url.toList then '&' else '?'

theorem appendQuery_eq (url : String) {query : String} (nonempty : query ≠ "") :
    appendQuery url query = url ++ String.ofList (separator url :: query.toList) := by
  by_cases mark : '?' ∈ url.toList
  · simp [appendQuery, separator, nonempty, mark, String.ofList_cons, String.append_assoc]
  · simp [appendQuery, separator, nonempty, mark, String.ofList_cons, String.append_assoc]

theorem separated_visible (url : String) (pairs : List (String × String)) :
    ∀ c ∈ separator url :: (Form.encode pairs).toList, isEdge c = false := by
  refine List.forall_mem_cons.mpr ⟨?_, (queryText_form pairs).visible⟩
  unfold separator
  split <;> decide

theorem appendQuery_eq_self_iff (url query : String) :
    appendQuery url query = url ↔ query = "" := by
  constructor
  · intro h
    by_contra nonempty
    rw [appendQuery_eq url nonempty] at h
    have longer := congrArg (·.toList.length) h
    simp at longer
  · rintro rfl
    rfl

theorem escape_form (kind : Kind) (pairs : List (String × String)) :
    escape kind.inQuery (Form.encode pairs).toList = Form.encode pairs := by
  have text := queryText_form pairs
  rw [escape_kept text.ascii (text.kept kind), String.ofList_toList]

theorem queryPairs_form (u : Url) (pairs : List (String × String)) :
    (u.withTail ('?' :: (Form.encode pairs).toList)).queryPairs = pairs := by
  rw [queryPairs_withTail u (queryText_form pairs).noHash, escape_form, Form.decodeString_encode]

theorem queryPairs_append_form (u : Url) {q : List Char} (h : '#' ∉ q)
    (pairs : List (String × String)) :
    (u.withTail ('?' :: (q ++ '&' :: (Form.encode pairs).toList))).queryPairs =
      Form.decodeString (escape u.kind.inQuery q) ++ pairs := by
  have noHash : '#' ∉ q ++ '&' :: (Form.encode pairs).toList := by
    simp [h, (queryText_form pairs).noHash]
  have amp : ∀ k : Kind, escape k.inQuery ['&'] = "&" := by
    intro k
    cases k <;> decide
  rw [queryPairs_withTail u noHash, escape_append, ← List.singleton_append, escape_append, amp,
    escape_form, Form.decodeString_append_amp, Form.decodeString_encode]

/-- Pairs appended by text arrive behind the query's own, and nothing else changes. -/
theorem parse_appendQuery {url : String} {u : Url} (h : parse url = .ok u)
    (pairs : List (String × String)) (ready : pairs = [] ∨ TakesQuery url) :
    ∃ v, parse (appendQuery url (Form.encode pairs)) = .ok v ∧ v.withoutTail = u.withoutTail ∧
      v.queryPairs = u.queryPairs ++ pairs := by
  by_cases none_ : pairs = []
  · subst none_
    exact ⟨u, by simpa [appendQuery] using h, rfl, by simp⟩
  have ready := ready.resolve_left none_
  have nonempty : Form.encode pairs ≠ "" := (encode_eq_empty_iff pairs).not.mpr none_
  obtain ⟨p⟩ := halves_of_parse h ready.notLone
  have isTail : IsTail (p.tail ++ separator url :: (Form.encode pairs).toList) := by
    rcases p.tail_cases ready.noFragment with ⟨ht, mark⟩ | ⟨q, ht, -, -⟩
    · rw [ht, separator, if_neg mark]
      rfl
    · rw [ht]
      rfl
  have parsed := parse_append p ready.firm (separated_visible url pairs) (by simp) isTail
  rw [← appendQuery_eq url nonempty] at parsed
  refine ⟨_, parsed, (congrArg withoutTail p.whole).symm, ?_⟩
  rw [congrArg queryPairs p.whole]
  rcases p.tail_cases ready.noFragment with ⟨ht, mark⟩ | ⟨q, ht, hash, mark⟩
  · rw [ht, separator, if_neg mark]
    exact queryPairs_form _ _
  · rw [ht, separator, if_pos mark, queryPairs_withTail _ hash]
    exact queryPairs_append_form _ hash _

end SignedRest.Url
