import SignedRest.Proofs.FormEnds
import SignedRest.Proofs.LooseEnd

/-! What becomes of pairs that are put behind a web address by text when it cannot take them: a
fragment swallows them, and a loose end makes another query or another path out of the one that
was there. -/
namespace SignedRest.Url

theorem scheme_of_afterSlashes {scheme : String} {cs : List Char} {u : Url}
    (h : afterSlashes scheme cs = .ok u) : u.scheme = scheme := by
  rw [afterSlashes_eq] at h
  cases read : authorityOf scheme (!(cs.dropWhile (!endsAuthority (kindOf scheme) ·)).isEmpty)
      (cs.takeWhile (!endsAuthority (kindOf scheme) ·)) with
  | error e =>
    rw [read] at h
    cases h
  | ok r =>
    rw [read] at h
    exact congrArg Url.scheme (Except.ok.inj h).symm

theorem scheme_of_afterFile {cs : List Char} {u : Url} (h : afterFile cs = .ok u) :
    u.scheme = "file" := by
  have plain : ∀ {host : Host} {text tail : List Char},
      Except.ok (ε := UrlError) (fileUrl host text tail) = .ok u → u.scheme = "file" :=
    fun eq => congrArg Url.scheme (Except.ok.inj eq).symm
  unfold afterFile at h
  simp only at h
  split at h
  · rename_i rest _
    split at h
    · split at h
      · exact plain h
      · cases read : fileHost (rest.takeWhile (!isSlash .file ·)) with
        | error e => simp [read, bind, Except.bind] at h
        | ok host =>
          rw [read] at h
          exact plain h
    · exact plain h
  · exact plain h

theorem kind_of_afterScheme {scheme : String} {cs : List Char} {u : Url}
    (h : afterScheme scheme cs = .ok u) (web : u.kind = .web) : kindOf scheme = .web := by
  cases kind : kindOf scheme with
  | web => rfl
  | file =>
    simp only [afterScheme, kind] at h
    rw [Url.kind, scheme_of_afterFile h] at web
    exact absurd web (by decide)
  | other =>
    have same : u.scheme = scheme := by
      simp only [afterScheme, kind] at h
      split at h
      · exact scheme_of_afterSlashes h
      · exact congrArg Url.scheme (Except.ok.inj h).symm
    rw [Url.kind, same, kind] at web
    cases web

/-- A web address is not taken for one that ends in a lone `@`. -/
theorem kind_of_parse {url : String} {u : Url} (h : parse url = .ok u) (web : u.kind = .web)
    {scheme : String} {rest : List Char} (cut : cutScheme (clean url) = some (scheme, rest)) :
    kindOf scheme = .web := by
  rw [parse, cut] at h
  exact kind_of_afterScheme h web

theorem halves_of_web {url : String} {u : Url} (h : parse url = .ok u) (web : u.kind = .web) :
    Nonempty (Halves (clean url) u) := by
  refine halves_of_parse h fun scheme cut => ?_
  simp [kind_of_parse h web cut]

theorem looseEnd_low (url : String) : ∀ c ∈ looseEnd url, isLow c = true := by
  intro c h
  have edge : isEdge c = true :=
    List.mem_takeWhile_imp (List.mem_reverse.mp (List.mem_filter.mp h).1)
  exact edge

theorem ofNat_lt_of_isLow {c : Char} (low : isLow c = true) : UInt8.ofNat c.toNat < 0x80 := by
  have small : c.toNat ≤ 0x20 := of_decide_eq_true low
  rw [UInt8.lt_iff_toNat_lt, Utf8.toNat_ofNat_of_lt (by omega)]
  exact Nat.lt_of_le_of_lt small (by decide)

theorem looseEnd_plain (url : String) : ∀ c ∈ looseEnd url, endsPath c = false := by
  intro c hc
  cases ends : endsPath c with
  | false => rfl
  | true =>
    have high : isLow c = false := by rcases endsPath_cases ends with rfl | rfl <;> decide
    exact absurd hc (not_mem_loose (looseEnd_low url) high)

theorem isTail_append {tail : List Char} (h : IsTail tail) (nonempty : tail ≠ [])
    (more : List Char) : IsTail (tail ++ more) := by
  cases tail with
  | nil => exact absurd rfl nonempty
  | cons c rest =>
    cases ends : endsPath c with
    | true => simp [IsTail, ends]
    | false => simp [IsTail, ends] at h

/-- Behind a query or a fragment whatever is put belongs to it, with the loose end before it. -/
theorem parse_append_tail {url : String} {u : Url} (p : Halves (clean url) u)
    (nonempty : p.tail ≠ []) {x : List Char} (visible : ∀ c ∈ x, isEdge c = false)
    (some_ : x ≠ []) :
    parse (url ++ String.ofList x) = .ok (p.bare.withTail (p.tail ++ (looseEnd url ++ x))) := by
  refine p.parse_tail ?_ (isTail_append p.isTail nonempty _)
  rw [clean_append visible some_ p.clean_ne_nil, List.append_assoc, cutScheme_append p.cut,
    List.append_assoc]

theorem Halves.hash_mem_tail {url : String} {u : Url} (p : Halves (clean url) u)
    (fragment : '#' ∈ url.toList) : '#' ∈ p.tail := by
  obtain ⟨-, whole⟩ := cutScheme_eq_some p.cut
  have mem := (mem_clean_of_visible (by decide)).mpr fragment
  have scheme : '#' ∉ (clean url).takeWhile isSchemeChar := fun h =>
    absurd (List.mem_takeWhile_imp h) (by decide)
  have body : '#' ∉ p.body := fun h => absurd (p.plain _ h) (by decide)
  rw [whole] at mem
  simpa [scheme, body] using mem

theorem withTail_append (u : Url) {tail : List Char} (fragment : '#' ∈ tail) (more : List Char) :
    u.withTail (tail ++ more) =
      { u.withTail tail with fragment := (u.withTail (tail ++ more)).fragment } := by
  have same : (tail ++ more).takeWhile (· ≠ '#') = tail.takeWhile (· ≠ '#') :=
    takeWhile_append_of_stopped ⟨'#', fragment, by decide⟩ more
  simp only [withTail, cutTail, same]

theorem queryPairs_withTail_append (u : Url) {tail : List Char} (fragment : '#' ∈ tail)
    (more : List Char) : (u.withTail (tail ++ more)).queryPairs = (u.withTail tail).queryPairs := by
  rw [withTail_append u fragment more]
  rfl

theorem encode_escape_loose {loose : List Char} (low : ∀ c ∈ loose, isLow c = true) (kind : Kind) :
    Utf8.encode (escape kind.inQuery loose) = Form.escaped (Utf8.narrow loose) := by
  have never : ∀ b : UInt8, b.toNat ≤ 0x20 → inWebQuery b = false ∧ inQuery b = false :=
    Percent.forall_byte (by decide +kernel)
  have refused : ∀ b : UInt8, b.toNat ≤ 0x20 → kind.inQuery b = false := fun b hb => by
    unfold Kind.inQuery
    split
    · exact (never b hb).1
    · exact (never b hb).2
  rw [escape_loose low refused, Utf8.encode_ascii]
  · rfl
  · intro c hc
    obtain ⟨b, -, hc⟩ := List.mem_flatMap.mp hc
    exact Percent.isEncodedChar_ascii (Percent.isEncodedChar_of_mem_encodeByte (by simpa using hc))

/-- Pairs that differ from others in more than their order, also after some are left out: all but
those of names that start with a blank or a control may be. -/
def Garbled (old new : List (String × String)) : Prop :=
  ∀ keep : String → Bool, (∀ p ∈ old, keep p.1 = true) →
    (∀ c name, isLow c = true → keep (String.ofList (c :: name)) = true) →
    ¬ (new.filter (keep ·.1)).Perm old

theorem garbled_append_loose {loose : List Char} (low : ∀ c ∈ loose, isLow c = true)
    (nonempty : loose ≠ []) (kind : Kind) (text : String) :
    Garbled (Form.decodeString text) (Form.decodeString (text ++ escape kind.inQuery loose)) := by
  intro keep all own
  obtain ⟨c, rest, rfl⟩ := List.exists_cons_of_ne_nil nonempty
  have first := low c (by simp)
  have small : c.toNat ≤ 0x20 := of_decide_eq_true first
  have ascii := ofNat_lt_of_isLow first
  have shown := Utf8.decodeLossy_cons ascii (Utf8.narrow rest)
  rw [Percent.ofNat_narrow (by omega)] at shown
  rw [Form.decodeString, Form.decodeString, Utf8.encode_append, encode_escape_loose low]
  refine Form.not_perm_append_escaped ascii (Utf8.narrow rest) all ?_
  simp only [shown]
  exact own c _ first

def OtherPath (u v : Url) : Prop :=
  ∃ scheme a l l', u = ⟨scheme, some a, .segments l, none, none⟩ ∧
    v = ⟨scheme, some a, .segments l', none, none⟩ ∧
    (Path.segments l').write ≠ (Path.segments l).write

theorem OtherPath.write_ne {u v : Url} (h : OtherPath u v) : v.write ≠ u.write := by
  obtain ⟨scheme, a, l, l', rfl, rfl, differ⟩ := h
  intro same
  apply differ
  have written : ∀ l, write ⟨scheme, some a, .segments l, none, none⟩ =
      scheme ++ ":" ++ a.write ++ (Path.segments l).write := by
    intro l
    simp [write, writeBase, guard]
  rw [written, written] at same
  have texts := congrArg String.toList same
  simp only [String.toList_append] at texts
  exact String.toList_injective (List.append_cancel_left texts)

theorem otherPath_append {url : String} {u v : Url} (p : Halves (clean url) u)
    (web : kindOf p.scheme = .web) (bare : p.tail = []) (loose : looseEnd url ≠ []) {q : List Char}
    (visible : ∀ c ∈ '?' :: q, isEdge c = false)
    (h : parse (url ++ String.ofList ('?' :: q)) = .ok v) :
    OtherPath u.withoutTail v.withoutTail ∧ ∃ w : Url, v = w.withTail ('?' :: q) := by
  have low := looseEnd_low url
  have plain : ∀ c ∈ p.body ++ looseEnd url, endsPath c = false :=
    List.forall_mem_append.mpr ⟨p.plain, looseEnd_plain url⟩
  have cut : cutScheme (clean (url ++ String.ofList ('?' :: q))) =
      some (p.scheme, p.body ++ looseEnd url ++ '?' :: q) := by
    rw [clean_append visible (by simp) p.clean_ne_nil, List.append_assoc, cutScheme_append p.cut,
      bare, List.append_nil, List.append_assoc]
  have isTail : IsTail ('?' :: q) := rfl
  rw [parse, cut] at h
  simp only at h
  rw [afterScheme_append plain isTail (by simp [web])] at h
  cases read : afterScheme p.scheme (p.body ++ looseEnd url) with
  | error e =>
    rw [read] at h
    cases h
  | ok w =>
    rw [read] at h
    obtain rfl := Except.ok.inj h
    obtain ⟨a, l, l', hu, hw, differ⟩ :=
      afterScheme_append_loose low loose web p.plain p.read read
    refine ⟨⟨p.scheme, a, l, l', ?_, ?_, differ⟩, w, rfl⟩
    · rw [congrArg withoutTail p.whole, hu]
      rfl
    · rw [hw]
      rfl

/-- A web address that takes no query loses the pairs, or garbles the query that it had, or its
path. -/
theorem appendQuery_refused {url : String} {u v : Url} (hu : parse url = .ok u)
    (web : u.kind = .web) {pairs : List (String × String)} (some_ : pairs ≠ [])
    (hv : parse (appendQuery url (Form.encode pairs)) = .ok v) (refused : ¬ TakesQuery url) :
    v.queryPairs = u.queryPairs ∨
      (∃ query, v.queryPairs = query ++ pairs ∧ Garbled u.queryPairs query) ∨
        v.queryPairs = pairs ∧ OtherPath u.withoutTail v.withoutTail := by
  obtain ⟨p⟩ := halves_of_web hu web
  have visible := separated_visible url pairs
  rw [appendQuery_eq url ((encode_eq_empty_iff pairs).not.mpr some_)] at hv
  have own := congrArg queryPairs p.whole
  by_cases fragment : '#' ∈ url.toList
  · have hash := p.hash_mem_tail fragment
    rw [parse_append_tail p (List.ne_nil_of_mem hash) visible (by simp)] at hv
    refine .inl ?_
    rw [← Except.ok.inj hv, queryPairs_withTail_append _ hash]
    exact own.symm
  have schemeWeb : kindOf p.scheme = .web := kind_of_parse hu web p.cut
  have loose : looseEnd url ≠ [] := fun firm => refused ⟨fragment, firm, fun scheme cut => by
    simp [kind_of_parse hu web cut]⟩
  rcases p.tail_cases fragment with ⟨ht, mark⟩ | ⟨q, ht, hash, mark⟩
  · rw [separator, if_neg mark] at hv visible
    obtain ⟨other, w, rfl⟩ := otherPath_append p schemeWeb ht loose visible hv
    exact .inr (.inr ⟨queryPairs_form w pairs, other⟩)
  · rw [parse_append_tail p (by simp [ht]) visible (by simp), ht, separator, if_pos mark] at hv
    have low := looseEnd_low url
    have noHash : '#' ∉ q ++ looseEnd url := by
      simp [hash, not_mem_loose low (show isLow '#' = false by decide)]
    have pairs' := queryPairs_append_form p.bare noHash pairs
    rw [List.append_assoc, ← List.cons_append, Except.ok.inj hv] at pairs'
    refine .inr (.inl ⟨_, pairs', ?_⟩)
    rw [own, ht, queryPairs_withTail _ hash, escape_append]
    exact garbled_append_loose low loose _ _

end SignedRest.Url
