import SignedRest.Proofs.RedirectedUrl

/-! The base string that a server builds is the one that was signed exactly if the parameters
travel behind a URL that takes them, or not behind a URL at all. -/
namespace SignedRest.OAuth1

open Verification
open Url (OtherPath)

/-- The base string that a server builds for a request. -/
def rebuilt (signatureHost : Option String) (r : Request) : Except Error String :=
  (normalizeUrl r.url signatureHost).map fun (base, query) =>
    baseString r.method.name base ((seen r query).filter (·.1 ≠ signatureName))

section
variable {s : Signer} {e : Endpoint} {m : Moment} {d : Draft} {r : Request}

def Signing.text (sg : Signing s e m d) : String :=
  baseString d.method.name sg.base (signedPairs (s.controlled m d).params sg.query)

theorem rebuilt_eq_ok {signatureHost : Option String} {method base : String}
    {signed : List Pair} (h : rebuilt signatureHost r = .ok (baseString method base signed)) :
    ∃ query, normalizeUrl r.url signatureHost = .ok (base, query) ∧
      ((seen r query).filter (·.1 ≠ signatureName)).Perm signed := by
  cases normalized : normalizeUrl r.url signatureHost with
  | error e =>
    rw [rebuilt, normalized] at h
    cases h
  | ok found =>
    obtain ⟨base', query⟩ := found
    rw [rebuilt, normalized] at h
    obtain ⟨-, rfl, perm⟩ := (baseString_eq_iff ..).mp (Except.ok.inj h)
    exact ⟨query, rfl, perm.symm⟩

/-- A query that leads to what was signed holds what was there and what was added. -/
theorem query_perm (signable : Signable s e d) (sg : Signing s e m d)
    (headers : r.headers = Call.requestHeaders (place s.placement sg.draft).headers r.payload)
    (texts : (place s.placement sg.draft).params.areTexts = true) (payload : r.payload = none)
    {query : List Pair} (perm : ((seen r query).filter (·.1 ≠ signatureName)).Perm
      (signedPairs (s.controlled m d).params sg.query)) :
    (query.filter (·.1 ≠ signatureName)).Perm
      (sg.query ++ (place s.placement sg.draft).params.pairs.filter (·.1 ≠ signatureName)) := by
  have noBody := bodyPairs_of_none payload
  have together : (sg.query ++ (place s.placement sg.draft).params.pairs) ++ bodyPairs r =
      sg.query ++ if (place s.placement sg.draft).params.areTexts
        then (place s.placement sg.draft).params.pairs else [] := by
    rw [noBody, texts, if_pos rfl, List.append_nil]
  have travels := filter_signed (signable.absent sg)
    (seen_perm sg signable.unsigned signable.plain headers together)
  have both := perm.trans travels.symm
  rw [seen, seen, noBody, List.append_nil, List.append_nil, List.filter_append, List.filter_append,
    List.perm_append_right_iff, List.filter_append, signable.filter_query sg] at both
  exact both

/-- Some parameter besides the signature travels with the others, if any does. -/
theorem exists_other_pair (unsigned : d.params.get? signatureName = none)
    (sg : Signing s e m d) (some_ : (place s.placement sg.draft).params.pairs ≠ []) :
    ∃ p ∈ (place s.placement sg.draft).params.pairs, p.1 ≠ signatureName := by
  cases placed : s.placement with
  | params =>
    have pairs : (place .params sg.draft).params.pairs = sg.draft.params.pairs := rfl
    have other : "oauth_signature_method" ≠ signatureName := by decide
    rw [pairs, (sg.pairs_draft unsigned).1]
    exact ⟨_, List.mem_append_left _ (mem_addControls ..), other⟩
  | header realm =>
    rw [placed] at some_
    obtain ⟨p, hp⟩ := List.exists_mem_of_ne_nil _ some_
    refine ⟨p, hp, fun same => ?_⟩
    -- the header has taken the signature
    obtain ⟨q, hq, pair⟩ := List.mem_filterMap.mp hp
    have text : q.isText = true := by
      obtain ⟨value, text, -⟩ := Option.map_eq_some_iff.mp pair
      rw [Param.isText, text]
      rfl
    have own : isProtocolName q.name = true := by
      rw [← Params.name_of_pair? pair, same]
      decide
    have kept := (List.mem_filter.mp hq).2
    rw [isProtocolParam, text, own] at kept
    cases kept

theorem otherPath_redirectTo {u v b c : Url} (h : OtherPath u v) (web : u.kind = .web)
    {host : String} (hb : redirectTo u host = .ok b) (hc : redirectTo v host = .ok c) :
    OtherPath b c := by
  obtain ⟨scheme, a, l, l', rfl, rfl, differ⟩ := h
  have redirected := fun l => redirectTo_of_web (u := ⟨scheme, some a, .segments l, none, none⟩) web
    rfl rfl host
  rw [redirected] at hb hc
  cases read : readTarget host with
  | error e =>
    rw [read] at hb
    cases hb
  | ok t =>
    rw [read] at hb hc
    obtain rfl := Except.ok.inj hb
    obtain rfl := Except.ok.inj hc
    exact ⟨scheme, _, l, l', rfl, rfl, differ⟩

theorem base_ne_of_otherPath {url url' base base' : String} {query query' : List Pair} {u v : Url}
    {signatureHost : Option String} (hu : Url.parse url = .ok u) (hv : Url.parse url' = .ok v)
    (web : u.kind = .web) (h : OtherPath u.withoutTail v.withoutTail)
    (normalized : normalizeUrl url signatureHost = .ok (base, query))
    (normalized' : normalizeUrl url' signatureHost = .ok (base', query')) : base' ≠ base := by
  have bare : ∀ {w : Url} {text : String} {pairs : List Pair},
      (bareOf w signatureHost).map (fun bare => (bare.write, w.queryPairs)) = .ok (text, pairs) →
        ∃ b, bareOf w signatureHost = .ok b ∧ text = b.write := by
    intro w text pairs eq
    cases found : bareOf w signatureHost with
    | error e => simp [found, Except.map] at eq
    | ok b =>
      rw [found] at eq
      exact ⟨b, rfl, (Prod.mk.inj (Except.ok.inj eq)).1.symm⟩
  rw [normalizeUrl_of_parse hu] at normalized
  rw [normalizeUrl_of_parse hv] at normalized'
  obtain ⟨b, hb, rfl⟩ := bare normalized
  obtain ⟨c, hc, rfl⟩ := bare normalized'
  cases signatureHost with
  | none =>
    obtain rfl := Except.ok.inj hb
    obtain rfl := Except.ok.inj hc
    exact h.write_ne
  | some host => exact (otherPath_redirectTo h web hb hc).write_ne

theorem rebuilt_of_ready (signable : Signable s e d) (sg : Signing s e m d)
    (made : Call.requestOf e m none (place s.placement sg.draft) = .ok r)
    (ready : sg.Ready r) :
    rebuilt s.signatureHost r = .ok sg.text := by
  obtain ⟨query, normalized, travels⟩ := sg.seen_of_ready signable made ready
  rw [rebuilt, normalized]
  refine congrArg Except.ok ((baseString_eq_iff ..).mpr ⟨?_, rfl, ?_⟩)
  · rw [(sg.travel made).2.1]
  · exact (filter_signed (signable.absent sg) travels).symm

theorem low_ne_signatureName {c : Char} (low : isLow c = true) (name : List Char) :
    String.ofList (c :: name) ≠ signatureName := by
  have first : signatureName.toList.head? = some 'o' := by decide
  intro same
  rw [← same, String.toList_ofList, List.head?_cons] at first
  rw [Option.some.inj first] at low
  exact absurd low (by decide)

section
variable {sg : Signing s e m d}
  (made : Call.requestOf e m none (place s.placement sg.draft) = .ok r) {u : Url}
  (parsed : Url.parse sg.url = .ok u) (web : u.kind = .web)
include made parsed web

/-- Where the parameters land behind a web address that does not take them: nowhere, behind a
query that was not signed, or behind a path that was not. -/
theorem landing (refused : ¬ sg.Ready r) {base : String} {query : List Pair}
    (normalized : normalizeUrl r.url s.signatureHost = .ok (base, query)) :
    ((place s.placement sg.draft).params.areTexts = true ∧ r.payload = none ∧
      (place s.placement sg.draft).params.pairs ≠ []) ∧
      (query = sg.query ∨
        (∃ front, query = front ++ (place s.placement sg.draft).params.pairs ∧
          Url.Garbled sg.query front) ∨
        query = (place s.placement sg.draft).params.pairs ∧ base ≠ sg.base) := by
  obtain ⟨moved, refused⟩ := not_or.mp refused
  obtain ⟨encoded, -, -⟩ := sg.travel made
  obtain ⟨texts, sent, payload⟩ : (place s.placement sg.draft).params.areTexts = true ∧
      r.url = appendQuery sg.url (formText (place s.placement sg.draft).params) ∧
      r.payload = none := by
    rcases encodeParams_eq_ok encoded with ⟨texts, -, sent, payload⟩ | ⟨-, -, sent, -⟩ |
      ⟨-, -, sent, -⟩
    · exact ⟨texts, sent, payload⟩
    · exact absurd sent moved
    · exact absurd sent moved
  have some_ : (place s.placement sg.draft).params.pairs ≠ [] := by
    intro none_
    rw [formText, none_] at sent
    exact moved sent
  obtain ⟨v, reparsed, rfl⟩ := parse_of_normalizeUrl normalized
  have own : u.queryPairs = sg.query := by
    obtain ⟨u', parsed', own⟩ := parse_of_normalizeUrl sg.normalized
    obtain rfl := Except.ok.inj (parsed.symm.trans parsed')
    exact own.symm
  have landed := reparsed
  rw [sent, formText] at landed
  have cases := Url.appendQuery_refused parsed web some_ landed refused
  rw [own] at cases
  refine ⟨⟨texts, payload, some_⟩, cases.imp_right (Or.imp_right ?_)⟩
  rintro ⟨alone, path⟩
  exact ⟨alone, base_ne_of_otherPath parsed reparsed web path sg.normalized normalized⟩

theorem ready_of_rebuilt (signable : Signable s e d)
    (same : rebuilt s.signatureHost r = .ok sg.text) : sg.Ready r := by
  by_contra refused
  obtain ⟨query, normalized, perm⟩ := rebuilt_eq_ok same
  obtain ⟨⟨texts, payload, some_⟩, landed⟩ := landing made parsed web refused normalized
  have arrived := query_perm signable sg (sg.travel made).2.2 texts payload perm
  have unsigned := signable.query_unsigned sg
  rcases landed with rfl | ⟨front, rfl, garbled⟩ | ⟨-, path⟩
  · obtain ⟨p, hp, other⟩ := exists_other_pair signable.unsigned sg some_
    have mem : p ∈ (place s.placement sg.draft).params.pairs.filter (·.1 ≠ signatureName) :=
      List.mem_filter.mpr ⟨hp, by simpa using other⟩
    have length := arrived.length_eq
    have positive := List.length_pos_of_mem mem
    rw [signable.filter_query sg, List.length_append] at length
    omega
  · rw [List.filter_append, List.perm_append_right_iff] at arrived
    refine garbled (· ≠ signatureName) (by simpa using unsigned) (fun c name low => ?_) arrived
    simpa using low_ne_signatureName low name
  · exact path rfl

end

/-- Another base string was rebuilt, but it has the signature that was sent. -/
def Signing.Mistaken (sg : Signing s e m d) (r : Request) : Prop :=
  ∃ other, rebuilt s.signatureHost r = .ok other ∧ other ≠ sg.text ∧
    sign s.credentials.method other s.credentials.consumerSecret s.credentials.tokenSecret =
      .ok sg.signature

theorem accepts_iff {signatureHost : Option String} {c : SignatureMethod}
    {consumerSecret : String} {tokenSecret : Option String} :
    accepts c consumerSecret tokenSecret signatureHost r = true ↔
      ∃ base query other signature, normalizeUrl r.url signatureHost = .ok (base, query) ∧
        rebuilt signatureHost r = .ok other ∧
        sign c other consumerSecret tokenSecret = .ok signature ∧
        ((seen r query).filter (·.1 = signatureName)).map (·.2) = [signature] := by
  constructor
  · intro h
    cases normalized : normalizeUrl r.url signatureHost with
    | error e => simp [accepts, normalized] at h
    | ok found =>
      obtain ⟨base, query⟩ := found
      simp only [accepts, normalized] at h
      split at h
      · rename_i signature made
        exact ⟨base, query, _, signature, rfl, by rw [rebuilt, normalized]; rfl, made,
          of_decide_eq_true h⟩
      · cases h
  · rintro ⟨base, query, other, signature, normalized, same, made, sent⟩
    rw [rebuilt, normalized] at same
    obtain rfl := Except.ok.inj same
    simp only [accepts, normalized, made, sent, decide_true]

theorem accepts_of_ready (signable : Signable s e d) (sg : Signing s e m d)
    (made : Call.requestOf e m none (place s.placement sg.draft) = .ok r)
    (ready : sg.Ready r) :
    accepts s.credentials.method s.credentials.consumerSecret s.credentials.tokenSecret
      s.signatureHost r = true := by
  obtain ⟨query, normalized, travels⟩ := sg.seen_of_ready signable made ready
  refine accepts_iff.mpr ⟨sg.base, query, sg.text, sg.signature, normalized,
    rebuilt_of_ready signable sg made ready, sg.signed, ?_⟩
  rw [filter_signature (signable.absent sg) travels]
  rfl

/-- The signature is either where the parameters are, or where the header is. -/
theorem signature_placed (unsigned : d.params.get? signatureName = none) (sg : Signing s e m d)
    (headers : r.headers = Call.requestHeaders (place s.placement sg.draft).headers r.payload) :
    (s.placement = .params ∧
        (signatureName, sg.signature) ∈ (place s.placement sg.draft).params.pairs) ∨
      (signatureName, sg.signature) ∈ headerPairs r := by
  cases placed : s.placement with
  | params =>
    have pairs : (place .params sg.draft).params.pairs = sg.draft.params.pairs := rfl
    refine .inl ⟨rfl, ?_⟩
    rw [pairs, (sg.pairs_draft unsigned).1]
    simp
  | header realm =>
    rw [placed] at headers
    refine .inr ?_
    rw [headerPairs_moveToHeader headers, takenPairs_draft sg unsigned]
    simp

theorem ready_or_mistaken (signable : Signable s e d) (sg : Signing s e m d)
    (made : Call.requestOf e m none (place s.placement sg.draft) = .ok r) {u : Url}
    (parsed : Url.parse sg.url = .ok u) (web : u.kind = .web)
    (accepted : accepts s.credentials.method s.credentials.consumerSecret
      s.credentials.tokenSecret s.signatureHost r = true) : sg.Ready r ∨ sg.Mistaken r := by
  by_cases ready : sg.Ready r
  · exact .inl ready
  obtain ⟨base, query, other, signature, normalized, rebuilt_, signed, sent⟩ :=
    accepts_iff.mp accepted
  have headers := (sg.travel made).2.2
  have differ : other ≠ sg.text := by
    rintro rfl
    exact ready (ready_of_rebuilt made parsed web signable rebuilt_)
  have found : (signatureName, sg.signature) ∈ seen r query → signature = sg.signature := by
    intro mem
    have own : (signatureName, sg.signature) ∈ (seen r query).filter (·.1 = signatureName) :=
      List.mem_filter.mpr ⟨mem, by simp⟩
    have value := List.mem_map_of_mem (f := (·.2)) own
    rw [sent] at value
    exact (List.mem_singleton.mp value).symm
  obtain ⟨⟨texts, payload, some_⟩, landed⟩ := landing made parsed web ready normalized
  suffices mem : (signatureName, sg.signature) ∈ seen r query by
    refine .inr ⟨other, rebuilt_, differ, ?_⟩
    rw [signed, found mem]
  rcases signature_placed signable.unsigned sg headers with ⟨placed, mem⟩ | mem
  · rcases landed with rfl | ⟨front, rfl, -⟩ | ⟨rfl, -⟩
    · -- the fragment has swallowed the signature
      have own : headerPairs r = [] := by
        rw [headerPairs_of_get? headers, placed]
        have value : (place .params sg.draft).headers.get? "Authorization" = none :=
          (signable.plain placed).2
        rw [value]
        rfl
      have none_ : sg.query.filter (·.1 = signatureName) = [] := by
        simpa using signable.query_unsigned sg
      rw [seen, own, bodyPairs_of_none payload, List.append_nil, List.append_nil, none_] at sent
      cases sent
    · simp [seen, mem]
    · simp [seen, mem]
  · simp [seen, mem]

end

/-- A server accepts every signed call whose parameters do not travel behind its URL, or travel
behind one that takes a query. Of web addresses it rebuilds what was signed for no others, and
accepts no others either, unless two base strings have one signature. -/
theorem prepared_accepted {s : Signer} {e : Endpoint} {m : Moment} {c : Call} {r : Request}
    (fresh : c.stage = .unprepared) (signable : Signable s e c.draft)
    (prepared : (Call.prepare ⟨e, some s.hook⟩ m c).result = .ok r) :
    ∃ sg : Signing s e m c.draft,
      (sg.Ready r →
        rebuilt s.signatureHost r = .ok sg.text ∧
          accepts s.credentials.method s.credentials.consumerSecret s.credentials.tokenSecret
            s.signatureHost r = true) ∧
      ((∃ u, Url.parse sg.url = .ok u ∧ u.kind = .web) →
        (rebuilt s.signatureHost r = .ok sg.text ↔ sg.Ready r) ∧
          (accepts s.credentials.method s.credentials.consumerSecret s.credentials.tokenSecret
            s.signatureHost r = true → sg.Ready r ∨ sg.Mistaken r)) := by
  obtain ⟨sg, made⟩ := signing_of_prepare fresh prepared
  have signed := fun ready => rebuilt_of_ready signable sg made ready
  refine ⟨sg, fun ready => ⟨signed ready, accepts_of_ready signable sg made ready⟩, ?_⟩
  rintro ⟨u, parsed, web⟩
  exact ⟨⟨ready_of_rebuilt made parsed web signable, signed⟩,
    ready_or_mistaken signable sg made parsed web⟩

def photosSigner : Signer :=
  .ofCredentials ⟨"dpf43f3p2l4k3l03", "kd94hf93k423kf44", none, none, .plaintext⟩

def photosEndpoint : Endpoint :=
  .ofConfig (.ofTemplate "http://photos.example.net/photos?size=large")

def photosDraft : Draft := Draft.empty.addText "file" "vacation.jpg"

theorem photos_accepted :
    let m : Moment := ⟨⟨1191242096, 0⟩, "kllo9940pd9333jh", "boundary"⟩
    Signable photosSigner photosEndpoint photosDraft ∧
      ∃ r, (Call.prepare ⟨photosEndpoint, some photosSigner.hook⟩ m
          ⟨photosDraft, .unprepared⟩).result = .ok r ∧
        accepts .plaintext "kd94hf93k423kf44" none none r = true := by
  intro m
  have resolved : photosDraft.resolveUrl photosEndpoint =
      .ok "http://photos.example.net/photos?size=large" := by decide +kernel
  have signable : Signable photosSigner photosEndpoint photosDraft := by
    refine ⟨by decide, ?_, fun _ => by decide⟩
    intro url u found parsed
    obtain rfl := Except.ok.inj (resolved.symm.trans found)
    have pairs : (Url.parse "http://photos.example.net/photos?size=large").toOption.map
        Url.queryPairs = some [("size", "large")] := by decide +kernel
    rw [parsed] at pairs
    rw [Option.some.inj pairs]
    decide
  have takes : Url.TakesQuery "http://photos.example.net/photos?size=large" := by
    refine ⟨by decide, by decide, fun scheme cut => ?_⟩
    have http : Url.cutScheme (Url.clean "http://photos.example.net/photos?size=large") =
        some ("http", "//photos.example.net/photos?size=large".toList) := by decide +kernel
    rw [http] at cut
    obtain ⟨rfl, -⟩ := Prod.mk.inj (Option.some.inj cut)
    decide
  have prepares : (Call.prepare ⟨photosEndpoint, some photosSigner.hook⟩ m
      ⟨photosDraft, .unprepared⟩).result.isOk = true := by decide +kernel
  cases prepared : (Call.prepare ⟨photosEndpoint, some photosSigner.hook⟩ m
      ⟨photosDraft, .unprepared⟩).result with
  | error e =>
    rw [prepared] at prepares
    cases prepares
  | ok r =>
    obtain ⟨sg, accepted, -⟩ := prepared_accepted rfl signable prepared
    have same : sg.url = _ := Except.ok.inj (sg.resolved.symm.trans resolved)
    rw [← same] at takes
    exact ⟨signable, r, rfl, (accepted (.inr takes)).2⟩

end SignedRest.OAuth1
