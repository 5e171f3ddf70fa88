import SignedRest.Proofs.QueryRefused

/-! Where parameters end up that are sent behind a web address: in the query of the same
resource, behind the pairs that were there, if the address takes a query. Behind any other one
some of this is lost. -/
namespace SignedRest

namespace Url

theorem segments_pathAfter (kind : Kind) (cs : List Char) :
    ∃ l, pathAfter kind cs = .segments l := by
  unfold pathAfter
  split <;> split <;> exact ⟨_, rfl⟩

theorem segments_of_afterSlashes {scheme : String} {cs : List Char} {u : Url}
    (h : afterSlashes scheme cs = .ok u) : ∃ l, u.path = .segments l := by
  rw [afterSlashes_eq] at h
  cases read : authorityOf scheme (!(cs.dropWhile (!endsAuthority (kindOf scheme) ·)).isEmpty)
      (cs.takeWhile (!endsAuthority (kindOf scheme) ·)) with
  | error e =>
    rw [read] at h
    cases h
  | ok r =>
    rw [read] at h
    obtain rfl := Except.ok.inj h
    exact segments_pathAfter ..

/-- Nothing that a web address can say for its path keeps it from being cut into segments. -/
theorem segments_of_web {url : String} {u : Url} (h : parse url = .ok u) (web : u.kind = .web) :
    ∃ l, u.path = .segments l := by
  cases cut : cutScheme (clean url) with
  | none => simp [parse, cut] at h
  | some read =>
    have kind : kindOf read.1 = .web := kind_of_parse h web cut
    simp only [parse, cut, afterScheme, kind] at h
    exact segments_of_afterSlashes h

theorem path_eq_of_stripped {p : Path} {l : List String} (h : p.stripped = .segments l) :
    p = .segments l := by
  cases p with
  | segments list => exact h
  | verbatim text => cases h

theorem kind_of_isHttp {u : Url} (h : u.isHttp = true) : u.kind = .web := by
  simp only [isHttp, Bool.or_eq_true, decide_eq_true_eq] at h
  rcases h with h | h <;> rw [kind, h] <;> decide

/-- The same resource, with these pairs behind those of its query. -/
structure Extends (u v : Url) (pairs : List (String × String)) : Prop where
  scheme : v.scheme = u.scheme
  host : v.host? = u.host?
  port : v.port? = u.port?
  path : v.path = u.path
  query : v.queryPairs = u.queryPairs ++ pairs

variable {url : String} {u : Url} {pairs : List (String × String)}

theorem takesQuery_of_web (h : parse url = .ok u) (web : u.kind = .web) :
    TakesQuery url ↔ '#' ∉ url.toList ∧ looseEnd url = [] := by
  refine ⟨fun takes => ⟨takes.noFragment, takes.firm⟩, fun ⟨noFragment, firm⟩ => ?_⟩
  refine ⟨noFragment, firm, fun scheme cut => ?_⟩
  simp [kind_of_parse h web cut]

theorem extends_of_takesQuery (h : parse url = .ok u) (web : u.kind = .web)
    (takes : TakesQuery url) :
    ∃ v, parse (appendQuery url (Form.encode pairs)) = .ok v ∧ u.Extends v pairs := by
  obtain ⟨v, parsed, same, query⟩ := parse_appendQuery h pairs (.inr takes)
  obtain ⟨l, path⟩ := segments_of_web h web
  have authority : v.authority = u.authority := congrArg (·.authority) same
  have stripped : v.path.stripped = u.path.stripped := congrArg Url.path same
  refine ⟨v, parsed, congrArg (·.scheme) same, ?_, ?_, ?_, query⟩
  · rw [host?, authority, host?]
  · rw [port?, authority, port?]
  · rw [path] at stripped ⊢
    exact path_eq_of_stripped stripped

/-- What a fragment or a loose end does shows in the path or in the query. -/
theorem takesQuery_of_extends (h : parse url = .ok u) (web : u.kind = .web) (some_ : pairs ≠ [])
    {v : Url} (parsed : parse (appendQuery url (Form.encode pairs)) = .ok v)
    (extended : u.Extends v pairs) : TakesQuery url := by
  by_contra refused
  rcases appendQuery_refused h web some_ parsed refused with lost | ⟨query, arrived, garbled⟩ |
    ⟨-, other⟩
  · have all := extended.query
    rw [lost] at all
    exact some_ (List.append_right_eq_self.mp all.symm)
  · have same : query = u.queryPairs := by
      rw [extended.query] at arrived
      exact (List.append_cancel_right arrived).symm
    refine garbled (fun _ => true) (fun _ _ => rfl) (fun _ _ _ => rfl) ?_
    rw [same, List.filter_eq_self.mpr fun _ _ => rfl]
  · obtain ⟨scheme, a, l, l', left, right, differ⟩ := other
    have paths : v.path.stripped = u.path.stripped := by rw [extended.path]
    have old : u.path.stripped = .segments l := congrArg Url.path left
    have new : v.path.stripped = .segments l' := congrArg Url.path right
    rw [old, new] at paths
    exact differ (by rw [paths])

end Url

theorem Params.pairs_ne_nil {ps : Params} (some_ : ps.items ≠ []) (texts : ps.areTexts = true) :
    ps.pairs ≠ [] := by
  obtain ⟨p, items, eq⟩ := List.exists_cons_of_ne_nil some_
  have first : p.isText = true := List.all_eq_true.mp texts p (by simp [eq])
  obtain ⟨text, own⟩ := Option.isSome_iff_exists.mp first
  have pair : p.pair? = some (p.name, text) := by simp [Param.pair?, own]
  simp [pairs, eq, pair]

/-- Texts that are sent without a body go behind the URL, and arrive exactly if it has no fragment
and nothing at its end that only counts once something follows. -/
theorem query_arrives_iff {url : String} {u : Url} (parsed : Url.parse url = .ok u)
    (http : u.isHttp = true) {m : Method} (bodiless : m.hasBody = false) {ps : Params}
    (some_ : ps.items ≠ []) (texts : ps.areTexts = true) (boundary : String) :
    ∃ sent, encodeParams m url ps boundary = .ok (sent, none) ∧
      ((∃ v, Url.parse sent = .ok v ∧ u.Extends v ps.pairs) ↔
        '#' ∉ url.toList ∧ Url.looseEnd url = []) := by
  have web := Url.kind_of_isHttp http
  have encoded : encodeParams m url ps boundary = .ok (appendQuery url (formText ps), none) := by
    simp [encodeParams, Encoding.choose, texts, bodiless]
  have pairs : ps.pairs ≠ [] := Params.pairs_ne_nil some_ texts
  refine ⟨appendQuery url (formText ps), encoded, ?_⟩
  rw [← Url.takesQuery_of_web parsed web]
  constructor
  · rintro ⟨v, arrived, extended⟩
    exact Url.takesQuery_of_extends parsed web pairs arrived extended
  · exact Url.extends_of_takesQuery parsed web

def plainUrl (query fragment : Option String) : Url :=
  ⟨"https", some ⟨"", none, .domain "h", none⟩, .segments ["f"], query, fragment⟩

/-- The same parameters behind a query, and behind a fragment, which swallows them. -/
theorem arrive_behind_query :
    let ps := Params.empty.addText "a b" "\u00FC&="
    (∃ sent, encodeParams .get "https://h/f?k=v" ps "" = .ok (sent, none) ∧
      ∃ v, Url.parse sent = .ok v ∧ (plainUrl (some "k=v") none).Extends v ps.pairs) ∧
    ∃ sent, encodeParams .get "https://h/f#top" ps "" = .ok (sent, none) ∧
      ¬ ∃ v, Url.parse sent = .ok v ∧ (plainUrl none (some "top")).Extends v ps.pairs := by
  intro ps
  have some_ : ps.items ≠ [] := by decide
  have texts : ps.areTexts = true := by decide
  have bodiless : Method.get.hasBody = false := by decide
  have queried : Url.parse "https://h/f?k=v" = .ok (plainUrl (some "k=v") none) := by
    decide +kernel
  have marked : Url.parse "https://h/f#top" = .ok (plainUrl none (some "top")) := by
    decide +kernel
  obtain ⟨sent, encoded, arrives⟩ := query_arrives_iff queried rfl bodiless some_ texts ""
  obtain ⟨lost, encoded', arrives'⟩ := query_arrives_iff marked rfl bodiless some_ texts ""
  refine ⟨⟨sent, encoded, arrives.mpr (by decide)⟩, lost, encoded', fun arrived => ?_⟩
  exact absurd (arrives'.mp arrived).1 (by decide)

end SignedRest
