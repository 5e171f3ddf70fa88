import SignedRest.OAuth1.Verification
import SignedRest.Proofs.AuthorizationHeader
import SignedRest.Proofs.HeaderLookup
import SignedRest.Proofs.QueryAppending
import SignedRest.Proofs.SignedCall

/-! What a server sees of a signed request: the parameters that it gathers are those that were
signed, wherever they travelled, unless they stand behind a URL that cannot take a query. -/
namespace SignedRest.OAuth1

def bareOf (u : Url) (signatureHost : Option String) : Except Error Url :=
  match signatureHost with
  | none => .ok u.withoutTail
  | some host => redirectTo u.withoutTail host

theorem normalizeUrl_of_parse {url : String} {u : Url} (h : Url.parse url = .ok u)
    (signatureHost : Option String) :
    normalizeUrl url signatureHost =
      (bareOf u signatureHost).map fun bare => (bare.write, u.queryPairs) := by
  cases signatureHost with
  | none => simp [normalizeUrl, bareOf, h, mapError_ok, Except.map, bind, Except.bind, pure,
      Except.pure]
  | some host =>
    simp only [normalizeUrl, bareOf, h, mapError_ok, bind, Except.bind]
    cases redirectTo u.withoutTail host <;> rfl

theorem parse_of_normalizeUrl {url : String} {signatureHost : Option String} {base : String}
    {query : List Pair} (h : normalizeUrl url signatureHost = .ok (base, query)) :
    ∃ u, Url.parse url = .ok u ∧ query = u.queryPairs := by
  cases parsed : Url.parse url with
  | error e => simp [normalizeUrl, parsed, mapError_error, bind, Except.bind] at h
  | ok u =>
    rw [normalizeUrl_of_parse parsed] at h
    cases bare : bareOf u signatureHost with
    | error e => simp [bare, Except.map] at h
    | ok b =>
      rw [bare] at h
      exact ⟨u, rfl, (Prod.mk.inj (Except.ok.inj h)).2.symm⟩

theorem normalizeUrl_congr {url url' : String} {u v : Url} {signatureHost : Option String}
    {base : String} {query : List Pair} (h : normalizeUrl url signatureHost = .ok (base, query))
    (hu : Url.parse url = .ok u) (hv : Url.parse url' = .ok v)
    (same : v.withoutTail = u.withoutTail) :
    normalizeUrl url' signatureHost = .ok (base, v.queryPairs) := by
  have bare : bareOf v signatureHost = bareOf u signatureHost := by simp [bareOf, same]
  rw [normalizeUrl_of_parse hu] at h
  rw [normalizeUrl_of_parse hv, bare]
  cases hb : bareOf u signatureHost with
  | error e => simp [hb, Except.map] at h
  | ok b =>
    rw [hb] at h
    obtain ⟨rfl, -⟩ := Prod.mk.inj (Except.ok.inj h)
    rfl

open Verification

theorem formType_ne_multipart (boundary : String) (ps : Params) :
    (Multipart.payload boundary ps).contentType ≠ (Payload.form "").contentType := by
  intro h
  have multipart : "multipart/form-data; boundary=".toList.head? = some 'm' := by decide
  have form : "application/x-www-form-urlencoded".toList.head? = some 'a' := by decide
  have head : ("multipart/form-data; boundary=" ++ boundary).toList.head? =
      "application/x-www-form-urlencoded".toList.head? := congrArg (·.toList.head?) h
  rw [String.toList_append, List.head?_append, multipart, form] at head
  cases head

theorem bodyPairs_of_none {r : Request} (h : r.payload = none) : bodyPairs r = [] := by
  simp [bodyPairs, Request.body, h]

section
variable {r : Request} {headers : Headers}

theorem bodyPairs_of_form (hr : r.headers = Call.requestHeaders headers r.payload)
    {ps : Params} (h : r.payload = some (.form (formText ps))) : bodyPairs r = ps.pairs := by
  have type : r.header? "Content-Type" = some (Payload.form "").contentType := by
    rw [Request.header?, hr, h]
    exact Call.contentType_requestHeaders headers (.form (formText ps))
  have read := Form.decodeString_encode ps.pairs
  rw [bodyPairs, if_pos type, Request.body, h]
  exact read

theorem bodyPairs_of_multipart (hr : r.headers = Call.requestHeaders headers r.payload)
    {boundary : String} {ps : Params} (h : r.payload = some (Multipart.payload boundary ps)) :
    bodyPairs r = [] := by
  have type : r.header? "Content-Type" = some (Multipart.payload boundary ps).contentType := by
    rw [Request.header?, hr, h]
    exact Call.contentType_requestHeaders headers (Multipart.payload boundary ps)
  rw [bodyPairs, type, if_neg]
  exact fun eq => formType_ne_multipart boundary ps (Option.some.inj eq)

/-- What query and body hold together: the pairs of the URL, and the parameters if all of them
are texts. -/
theorem carried {url boundary base : String} {query : List Pair} {ps : Params}
    {signatureHost : Option String}
    (encoded : encodeParams r.method url ps boundary = .ok (r.url, r.payload))
    (hr : r.headers = Call.requestHeaders headers r.payload)
    (normalized : normalizeUrl url signatureHost = .ok (base, query))
    (ready : r.url = url ∨ Url.TakesQuery url) :
    ∃ query', normalizeUrl r.url signatureHost = .ok (base, query') ∧
      query' ++ bodyPairs r = query ++ if ps.areTexts then ps.pairs else [] := by
  rcases encodeParams_eq_ok encoded with ⟨texts, -, sent, payload⟩ | ⟨texts, -, sent, payload⟩ |
    ⟨mixed, -, sent, payload⟩
  · obtain ⟨u, parsed, rfl⟩ := parse_of_normalizeUrl normalized
    have ready : ps.pairs = [] ∨ Url.TakesQuery url := by
      refine ready.imp_left fun same => ?_
      rw [sent, Url.appendQuery_eq_self_iff] at same
      exact (Url.encode_eq_empty_iff ps.pairs).mp same
    obtain ⟨v, reparsed, same, pairs⟩ := Url.parse_appendQuery parsed ps.pairs ready
    refine ⟨v.queryPairs, ?_, ?_⟩
    · rw [sent]
      exact normalizeUrl_congr normalized parsed reparsed same
    · rw [bodyPairs_of_none payload, pairs, texts, if_pos rfl, List.append_nil]
  · refine ⟨query, by rw [sent, normalized], ?_⟩
    rw [bodyPairs_of_form hr payload, texts, if_pos rfl]
  · refine ⟨query, by rw [sent, normalized], ?_⟩
    rw [bodyPairs_of_multipart hr payload, mixed, if_neg (by simp)]

end

theorem not_sameLetters_authorization :
    ¬ Ascii.sameLetters "Authorization" Call.contentType = true := by decide

theorem headerPairs_of_get? {r : Request} {headers : Headers}
    (hr : r.headers = Call.requestHeaders headers r.payload) :
    headerPairs r =
      ((headers.get? "Authorization").map Authorization.params).getD [] := by
  rw [headerPairs, Request.header?, hr,
    Call.lookup?_requestHeaders not_sameLetters_authorization]
  cases headers.get? "Authorization" <;> rfl

theorem ne_realm_of_isProtocolName {name : String} (h : isProtocolName name = true) :
    name ≠ "realm" := by
  rintro rfl
  revert h
  decide

/-- The parameters that a header takes out of a call. -/
def takenPairs (ps : Params) : List Pair := ps.pairs.filter (isProtocolName ·.1)

theorem takenPairs_eq (ps : Params) :
    (ps.drain isProtocolParam).1.filterMap Param.pair? = takenPairs ps :=
  Params.filterMap_filter_name isProtocolName ps.items

theorem authorization_moveToHeader (realm : Option String) (d : Draft) :
    (moveToHeader realm d).headers.get? "Authorization" =
      some (Authorization.write realm (takenPairs d.params)) := by
  rw [← takenPairs_eq]
  exact Headers.get?_add d.headers "Authorization" _

theorem params_write_takenPairs (realm : Option String) (ps : Params) :
    Authorization.params (Authorization.write realm (takenPairs ps)) = takenPairs ps :=
  Authorization.params_write realm fun _ hp =>
    ne_realm_of_isProtocolName (List.mem_filter.mp hp).2

theorem headerPairs_moveToHeader {r : Request} {realm : Option String} {d : Draft}
    (hr : r.headers = Call.requestHeaders (moveToHeader realm d).headers r.payload) :
    headerPairs r = takenPairs d.params := by
  rw [headerPairs_of_get? hr, authorization_moveToHeader, Option.map_some, Option.getD_some,
    params_write_takenPairs]

section
variable {signed pairs : List Pair} {signature : String}
  (absent : ∀ p ∈ signed, p.1 ≠ signatureName)
  (travels : pairs.Perm (signed ++ [(signatureName, signature)]))
include absent travels

theorem filter_signature :
    pairs.filter (·.1 = signatureName) = [(signatureName, signature)] := by
  have none_ : signed.filter (·.1 = signatureName) = [] := by simpa using absent
  have perm := travels.filter (·.1 = signatureName)
  rw [List.filter_append, none_] at perm
  simpa using perm

theorem filter_signed : (pairs.filter (·.1 ≠ signatureName)).Perm signed := by
  have all : signed.filter (·.1 ≠ signatureName) = signed := by simpa using absent
  have perm := travels.filter (·.1 ≠ signatureName)
  rw [List.filter_append, all] at perm
  simpa using perm

end

section
variable {s : Signer} {e : Endpoint} {m : Moment} {d : Draft} {r : Request}

theorem absent_of_signing (sg : Signing s e m d)
    (unsigned : d.params.get? signatureName = none)
    (unsignedQuery : ∀ p ∈ sg.query, p.1 ≠ signatureName) :
    ∀ p ∈ signedPairs (s.controlled m d).params sg.query, p.1 ≠ signatureName := by
  intro p hp
  have absent : (s.controlled m d).params.get? signatureName = none := by
    rw [Signer.controlled, get?_addControls (by decide)]
    exact unsigned
  rcases List.mem_append.mp hp with hp | hp
  · exact Params.name_ne_of_mem_pairs absent (List.mem_filter.mp hp).1
  · exact unsignedQuery p hp

theorem resolveUrl_place (p : Placement) (d : Draft) (e : Endpoint) :
    (place p d).resolveUrl e = d.resolveUrl e := by cases p <;> rfl

theorem method_place (p : Placement) (d : Draft) : (place p d).method = d.method := by
  cases p <;> rfl

def Signing.draft (sg : Signing s e m d) : Draft :=
  (s.controlled m d).addText signatureName sg.signature

theorem Signing.pairs_draft (sg : Signing s e m d) (unsigned : d.params.get? signatureName = none) :
    sg.draft.params.pairs =
        (s.controlled m d).params.pairs ++ [(signatureName, sg.signature)] ∧
      sg.draft.params.areTexts = (s.controlled m d).params.areTexts := by
  have absent : (s.controlled m d).params.get? signatureName = none := by
    rw [Signer.controlled, get?_addControls (by decide)]
    exact unsigned
  exact ⟨Params.pairs_addText_of_absent absent _, Params.areTexts_addText_of_absent absent _⟩

theorem signedPairs_of_texts {ps : Params} (h : ps.areTexts = true) (query : List Pair) :
    signedPairs ps query = ps.pairs ++ query := by
  simp [signedPairs, h]

theorem signedPairs_of_mixed {ps : Params} (h : ps.areTexts = false) (query : List Pair) :
    signedPairs ps query = takenPairs ps ++ query := by
  simp [signedPairs, takenPairs, h]

theorem takenPairs_draft (sg : Signing s e m d) (unsigned : d.params.get? signatureName = none) :
    takenPairs sg.draft.params =
      takenPairs (s.controlled m d).params ++ [(signatureName, sg.signature)] := by
  have own : isProtocolName signatureName = true := by decide
  rw [takenPairs, (sg.pairs_draft unsigned).1, List.filter_append, takenPairs]
  simp [own]

theorem seen_of_params {query' : List Pair} (sg : Signing s e m d)
    (unsigned : d.params.get? signatureName = none) (texts : d.params.areTexts = true)
    (noHeader : headerPairs r = [])
    (together : query' ++ bodyPairs r =
      sg.query ++ if sg.draft.params.areTexts then sg.draft.params.pairs else []) :
    (seen r query').Perm
      (signedPairs (s.controlled m d).params sg.query ++ [(signatureName, sg.signature)]) := by
  have controls : (s.controlled m d).params.areTexts = true :=
    areTexts_addControls texts s.credentials m
  obtain ⟨pairs, same⟩ := sg.pairs_draft unsigned
  rw [same, controls, if_pos rfl, pairs] at together
  rw [seen, noHeader, List.append_nil, together, signedPairs_of_texts controls,
    ← List.append_assoc]
  exact List.perm_append_comm.append_right _

theorem seen_of_header {query' : List Pair} (sg : Signing s e m d)
    (unsigned : d.params.get? signatureName = none) {realm : Option String}
    (header : headerPairs r = takenPairs sg.draft.params)
    (together : query' ++ bodyPairs r =
      sg.query ++ if (moveToHeader realm sg.draft).params.areTexts
        then (moveToHeader realm sg.draft).params.pairs else []) :
    (seen r query').Perm
      (signedPairs (s.controlled m d).params sg.query ++ [(signatureName, sg.signature)]) := by
  have isText : ∀ p : Param, isProtocolParam p = true → p.isText = true := fun p hp =>
    (Bool.and_eq_true_iff.mp hp).1
  have kept : (moveToHeader realm sg.draft).params.areTexts = (s.controlled m d).params.areTexts :=
    (Params.areTexts_drain isText).trans (sg.pairs_draft unsigned).2
  rw [kept] at together
  rw [seen, together, header]
  by_cases texts : (s.controlled m d).params.areTexts = true
  · -- taken and kept are everything
    have all := Params.pairs_drain_perm sg.draft.params isProtocolParam
    rw [takenPairs_eq, (sg.pairs_draft unsigned).1] at all
    rw [texts, if_pos rfl, signedPairs_of_texts texts, List.append_assoc]
    have behind := (List.perm_append_comm.trans all).append_left sg.query
    refine behind.trans ?_
    rw [← List.append_assoc]
    exact List.perm_append_comm.append_right _
  · -- what the header takes is all that was signed of the parameters
    rw [if_neg texts, List.append_nil, takenPairs_draft sg unsigned,
      signedPairs_of_mixed (by simpa using texts), ← List.append_assoc]
    exact List.perm_append_comm.append_right _

/-- Whatever the placement, exactly the signed parameters arrive, and the signature. -/
theorem seen_perm {query' : List Pair} (sg : Signing s e m d)
    (unsigned : d.params.get? signatureName = none)
    (plain : s.placement = .params →
      d.params.areTexts = true ∧ d.headers.get? "Authorization" = none)
    (hr : r.headers = Call.requestHeaders (place s.placement sg.draft).headers r.payload)
    (together : query' ++ bodyPairs r =
      sg.query ++ if (place s.placement sg.draft).params.areTexts
        then (place s.placement sg.draft).params.pairs else []) :
    (seen r query').Perm
      (signedPairs (s.controlled m d).params sg.query ++ [(signatureName, sg.signature)]) := by
  cases placed : s.placement with
  | params =>
    rw [placed] at hr together
    obtain ⟨texts, noHeader⟩ := plain placed
    refine seen_of_params sg unsigned texts ?_ together
    have own : (place .params sg.draft).headers.get? "Authorization" = none := noHeader
    rw [headerPairs_of_get? hr, own]
    rfl
  | header realm =>
    rw [placed] at hr together
    exact seen_of_header sg unsigned (headerPairs_moveToHeader hr) together

end

/-- What a signer asks of a call: it has no signature yet, neither among its parameters nor in
the query of its URL, and parameters that travel with the others are texts that no header of the
caller's own competes with. -/
structure Signable (s : Signer) (e : Endpoint) (d : Draft) : Prop where
  unsigned : d.params.get? signatureName = none
  unsignedQuery : ∀ url u, d.resolveUrl e = .ok url → Url.parse url = .ok u →
    ∀ p ∈ u.queryPairs, p.1 ≠ signatureName
  plain : s.placement = .params →
    d.params.areTexts = true ∧ d.headers.get? "Authorization" = none

theorem signing_of_prepare {s : Signer} {e : Endpoint} {m : Moment} {c : Call} {r : Request}
    (fresh : c.stage = .unprepared)
    (prepared : (Call.prepare ⟨e, some s.hook⟩ m c).result = .ok r) :
    ∃ sg : Signing s e m c.draft,
      Call.requestOf e m none (place s.placement sg.draft) = .ok r := by
  obtain ⟨custom, hooked, made⟩ := Call.prepare_eq_ok fresh prepared
  obtain ⟨rfl, agreed, left⟩ := Call.runHook_ofPrepare hooked
  obtain ⟨sg⟩ := signing_of_ok agreed
  refine ⟨sg, ?_⟩
  rw [← made]
  exact congrArg _ (left.trans sg.left).symm

section
variable {s : Signer} {e : Endpoint} {m : Moment} {d : Draft} {r : Request}

theorem Signable.query_unsigned (signable : Signable s e d) (sg : Signing s e m d) :
    ∀ p ∈ sg.query, p.1 ≠ signatureName := by
  obtain ⟨u, parsed, query⟩ := parse_of_normalizeUrl sg.normalized
  rw [query]
  exact signable.unsignedQuery sg.url u sg.resolved parsed

theorem Signable.filter_query (signable : Signable s e d) (sg : Signing s e m d) :
    sg.query.filter (·.1 ≠ signatureName) = sg.query := by
  simpa using signable.query_unsigned sg

theorem Signable.absent (signable : Signable s e d) (sg : Signing s e m d) :
    ∀ p ∈ signedPairs (s.controlled m d).params sg.query, p.1 ≠ signatureName :=
  absent_of_signing sg signable.unsigned (signable.query_unsigned sg)

/-- How the parameters of a signed call travel. -/
theorem Signing.travel (sg : Signing s e m d)
    (made : Call.requestOf e m none (place s.placement sg.draft) = .ok r) :
    encodeParams r.method sg.url (place s.placement sg.draft).params m.boundary =
        .ok (r.url, r.payload) ∧
      r.method = d.method ∧
      r.headers = Call.requestHeaders (place s.placement sg.draft).headers r.payload := by
  obtain ⟨url, resolved, encoded, method, headers⟩ := Call.requestOf_eq_ok made
  rw [resolveUrl_place] at resolved
  obtain rfl := Except.ok.inj (resolved.symm.trans sg.resolved)
  rw [← method] at encoded
  rw [method_place] at method
  exact ⟨encoded, method, headers⟩

/-- The parameters do not travel behind the URL, or it is one that takes them. -/
def Signing.Ready (sg : Signing s e m d) (r : Request) : Prop :=
  r.url = sg.url ∨ Url.TakesQuery sg.url

/-- Then a server comes to see what was signed. -/
theorem Signing.seen_of_ready (signable : Signable s e d) (sg : Signing s e m d)
    (made : Call.requestOf e m none (place s.placement sg.draft) = .ok r)
    (ready : sg.Ready r) :
    ∃ query, normalizeUrl r.url s.signatureHost = .ok (sg.base, query) ∧
      (seen r query).Perm (signedPairs (s.controlled m d).params sg.query ++
        [(signatureName, sg.signature)]) := by
  obtain ⟨encoded, -, headers⟩ := sg.travel made
  obtain ⟨query, normalized, together⟩ := carried encoded headers sg.normalized ready
  exact ⟨query, normalized, seen_perm sg signable.unsigned signable.plain headers together⟩

end

end SignedRest.OAuth1
