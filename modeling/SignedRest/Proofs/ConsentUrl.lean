import SignedRest.OAuth1.Client
import SignedRest.OAuth2.Settings
import SignedRest.Proofs.BaseString
import SignedRest.Proofs.FormPairs

/-! The URL that a user is sent to for consent. Its parameters are percent-encoded and put behind
the endpoint by text. Whoever reads the text behind the first `?` as a form gets the endpoint's own
pairs and then these, whatever their values hold. -/
namespace SignedRest

namespace Form

open OAuth1 (written amp_not_mem_written)

theorem not_mem_encode_bytes {c : Char} (ascii : c.toNat < 0x80)
    (escaped : Percent.isEncodedChar c = false) (s : String) :
    UInt8.ofNat c.toNat ∉ Utf8.encode (Percent.encode s) := by
  have chars : ∀ d ∈ (Percent.encode s).toList, d.toNat < 0x80 := fun d hd =>
    Percent.isEncodedChar_ascii (Percent.isEncodedChar_of_mem_encode hd)
  rw [← String.ofList_toList (s := Percent.encode s), Utf8.encode_ascii chars,
    mem_narrow chars ascii]
  exact Percent.not_mem_encode escaped s

/-- No blank is written as `+`, so that none is misread. -/
theorem decodeText_encode (s : String) : decodeText (Utf8.encode (Percent.encode s)) = s := by
  have plus : 0x2B ∉ Utf8.encode (Percent.encode s) :=
    not_mem_encode_bytes (c := '+') (by decide) (by decide) s
  have same : (Utf8.encode (Percent.encode s)).map (fun b => if b = 0x2B then 0x20 else b) =
      Utf8.encode (Percent.encode s) := by
    refine (List.map_congr_left fun b hb => ?_).trans (List.map_id _)
    refine if_neg ?_
    rintro rfl
    exact plus hb
  rw [decodeText, same]
  exact Percent.decodeText_encode s

theorem decodeString_written (p : String × String) :
    decodeString (String.ofList (written p)) = [p] := by
  have equals : Utf8.encode "=" = [0x3D] := by decide
  have text : String.ofList (written p) = Percent.encode p.1 ++ ("=" ++ Percent.encode p.2) := by
    simp [written, String.ofList_append, String.ofList_cons]
  have bytes : Utf8.encode (String.ofList (written p)) =
      Utf8.encode (Percent.encode p.1) ++ 0x3D :: Utf8.encode (Percent.encode p.2) := by
    rw [text, Utf8.encode_append, Utf8.encode_append, equals, List.singleton_append]
  have absent {c : Char} := not_mem_encode_bytes (c := c)
  have amp : ∀ s, 0x26 ∉ Utf8.encode (Percent.encode s) := absent (c := '&') (by decide) (by decide)
  have split : splitPair (Utf8.encode (Percent.encode p.1) ++
      0x3D :: Utf8.encode (Percent.encode p.2)) =
        (Utf8.encode (Percent.encode p.1), Utf8.encode (Percent.encode p.2)) :=
    splitPair_of_not_mem (absent (c := '=') (by decide) (by decide) p.1)
  rw [decodeString, bytes, decode_of_not_mem (by simp [amp]) (by simp), readPart]
  simp only [split, decodeText_encode]

/-- Pairs written with escapes are read back as they were, in their order. -/
theorem decodeString_intercalate_written (pairs : List (String × String)) :
    decodeString (String.ofList (['&'].intercalate (pairs.map written))) = pairs := by
  induction pairs with
  | nil => rfl
  | cons p pairs ih =>
    cases pairs with
    | nil =>
      rw [List.map_singleton, List.intercalate_singleton]
      exact decodeString_written p
    | cons q rest =>
      have text : String.ofList (['&'].intercalate ((p :: q :: rest).map written)) =
          String.ofList (written p) ++
            ("&" ++ String.ofList (['&'].intercalate ((q :: rest).map written))) := by
        simp [List.intercalate_cons_cons, String.ofList_append, String.ofList_cons]
      rw [text, decodeString_append_amp, decodeString_written, ih, List.singleton_append]

theorem hash_not_mem_intercalate_written (pairs : List (String × String)) :
    '#' ∉ ['&'].intercalate (pairs.map written) := by
  have single : ∀ p, '#' ∉ written p := fun p => by
    simp [written, Percent.not_mem_encode (c := '#') (by decide)]
  induction pairs with
  | nil => simp
  | cons p pairs ih =>
    cases pairs with
    | nil => simpa using single p
    | cons q rest =>
      rw [List.map_cons, List.map_cons, List.intercalate_cons_cons]
      simpa [single p] using ih

end Form

def queryText (url : String) : Option String := (cutAt ['?'] url.toList).map (String.ofList ·.2)

def textPairs (url : String) : List (String × String) :=
  ((queryText url).map Form.decodeString).getD []

theorem queryText_append {front : List Char} (first : '?' ∉ front) (rest : List Char) :
    queryText (String.ofList (front ++ '?' :: rest)) = some (String.ofList rest) := by
  have cut : cutAt ['?'] (front ++ (['?'] ++ rest)) = some (front, rest) :=
    cutAt_append_of_absent (by simp) (fun inside => first (inside.subset (by simp))) rest
  rw [queryText, String.toList_ofList]
  exact congrArg (Option.map (String.ofList ·.2)) cut

theorem queryText_eq_none {url : String} (absent : '?' ∉ url.toList) : queryText url = none := by
  have none_ : cutAt ['?'] url.toList = none := by
    by_contra found
    obtain ⟨⟨before, after⟩, cut⟩ := Option.ne_none_iff_exists'.mp found
    have whole := ((cutAt_eq_some_iff (by simp)).mp cut).1
    exact absent (by simp [whole])
  rw [queryText, none_, Option.map_none]

/-- A URL with more behind it than it had, which a reader finds behind the pairs that it had. -/
structure Continues (url longer : String) (pairs : List (String × String)) : Prop where
  front : url.toList <+: longer.toList
  noFragment : '#' ∉ longer.toList
  behind : textPairs longer = textPairs url ++ pairs

theorem continues_written {url : String} (noFragment : '#' ∉ url.toList)
    (pairs : List (String × String)) :
    Continues url (url ++ (if url.toList.contains '?' then "&" else "?") ++
      String.ofList (['&'].intercalate (pairs.map OAuth1.written))) pairs := by
  have read := Form.decodeString_intercalate_written pairs
  have hash := Form.hash_not_mem_intercalate_written pairs
  generalize ['&'].intercalate (pairs.map OAuth1.written) = text at read hash
  by_cases mark : '?' ∈ url.toList
  · obtain ⟨front, query, whole, first⟩ := List.eq_append_cons_of_mem mark
    have own : url = String.ofList (front ++ '?' :: query) := by
      rw [← whole, String.ofList_toList]
    have longer : url ++ "&" ++ String.ofList text =
        String.ofList (front ++ '?' :: (query ++ '&' :: text)) := by
      simp [own, String.ofList_append, String.ofList_cons, String.append_assoc]
    have more : String.ofList (query ++ '&' :: text) =
        String.ofList query ++ ("&" ++ String.ofList text) := by
      simp [String.ofList_append, String.ofList_cons]
    rw [if_pos (List.contains_iff_mem.mpr mark)]
    refine ⟨by simp [String.toList_append], by simp [noFragment, hash], ?_⟩
    rw [longer, textPairs, textPairs, own, queryText_append first, queryText_append first,
      Option.map_some, Option.map_some, Option.getD_some, Option.getD_some, more,
      Form.decodeString_append_amp, read]
  · have longer : url ++ "?" ++ String.ofList text = String.ofList (url.toList ++ '?' :: text) := by
      simp [String.ofList_append, String.ofList_cons, String.append_assoc]
    rw [if_neg (by simpa using mark)]
    refine ⟨by simp [String.toList_append], by simp [noFragment, hash], ?_⟩
    rw [longer, textPairs, textPairs, queryText_append mark, queryText_eq_none mark,
      Option.map_some, Option.map_none, Option.getD_some, Option.getD_none, read,
      List.nil_append]

theorem intercalate_named {pairs : List (String × String)}
    (plain : ∀ p ∈ pairs, Percent.encode p.1 = p.1) :
    String.intercalate "&" (pairs.map fun p => p.1 ++ "=" ++ Percent.encode p.2) =
      String.ofList (['&'].intercalate (pairs.map OAuth1.written)) := by
  have texts : (pairs.map fun p => p.1 ++ "=" ++ Percent.encode p.2).map String.toList =
      pairs.map OAuth1.written := by
    rw [List.map_map]
    refine List.map_congr_left fun p hp => ?_
    simp [OAuth1.written, plain p hp]
  have amp : "&".toList = ['&'] := by simp
  rw [← String.toList_inj, String.toList_intercalate, texts, amp, String.toList_ofList]

theorem OAuth2.Settings.continues_authorizationUrl {s : OAuth2.Settings}
    (noFragment : '#' ∉ s.authUrl.toList) (verifier : String) (scope state : Option String) :
    Continues s.authUrl (s.authorizationUrl verifier scope state)
      (s.authorizationPairs verifier scope state) := by
  have names : ∀ name ∈ ["response_type", "client_id", "redirect_uri", "code_challenge",
      "code_challenge_method", "scope", "state"], Percent.encode name = name := by decide +kernel
  simp only [List.forall_mem_cons, List.not_mem_nil, false_imp_iff, implies_true, and_true] at names
  have plain : ∀ p ∈ s.authorizationPairs verifier scope state, Percent.encode p.1 = p.1 := by
    cases scope <;> cases state <;> simp [authorizationPairs, names]
  rw [authorizationUrl, intercalate_named plain]
  exact continues_written noFragment _

theorem OAuth1.Client.continues_authorizationUrl {c : OAuth1.Client} {token : String}
    (current : c.signer.credentials.token = some token) {endpoint : String}
    (noFragment : '#' ∉ endpoint.toList) :
    ∃ url, c.authorizationUrl endpoint = .ok url ∧
      Continues endpoint url [("oauth_token", token)] := by
  have plain : ∀ p ∈ [("oauth_token", token)], Percent.encode p.1 = p.1 := by
    simpa using show Percent.encode "oauth_token" = "oauth_token" by decide +kernel
  have text := intercalate_named plain
  rw [List.map_singleton, String.intercalate_singleton] at text
  have continued := continues_written noFragment [("oauth_token", token)]
  rw [← text] at continued
  refine ⟨_, ?_, continued⟩
  simp only [authorizationUrl, current, String.append_assoc]
  rfl

/-- Where a user is sent, the endpoint's own pairs are followed by those of the request, each once,
in their order and with the values they were given; and no value ends the query. -/
theorem consent_pairs :
    (∀ (s : OAuth2.Settings) (verifier : String) (scope state : Option String),
      '#' ∉ s.authUrl.toList →
        Continues s.authUrl (s.authorizationUrl verifier scope state)
          ([("response_type", "code"), ("client_id", s.clientId), ("redirect_uri", s.redirectUri),
            ("code_challenge", OAuth2.Pkce.challenge verifier), ("code_challenge_method", "S256")]
            ++ (scope.map ("scope", ·)).toList ++ (state.map ("state", ·)).toList)) ∧
    ∀ (c : OAuth1.Client) (endpoint : String), '#' ∉ endpoint.toList →
      match c.signer.credentials.token with
      | some token => ∃ url, c.authorizationUrl endpoint = .ok url ∧
        Continues endpoint url [("oauth_token", token)]
      | none => c.authorizationUrl endpoint = .error (.signing .noRequestToken) := by
  constructor
  · intro s verifier scope state noFragment
    exact OAuth2.Settings.continues_authorizationUrl noFragment verifier scope state
  · intro c endpoint noFragment
    cases current : c.signer.credentials.token with
    | some token => exact OAuth1.Client.continues_authorizationUrl current noFragment
    | none => simp only [OAuth1.Client.authorizationUrl, current]

def tenantSettings : OAuth2.Settings :=
  ⟨"https://auth.example.com/authorize?tenant=a", "https://auth.example.com/token",
    "https://app.example.com/cb?x=1#top", "a&client_id=b", "secret"⟩

def unnamedClient (token : String) : OAuth1.Client :=
  .create (.ofTemplate "https://api.example.com/")
    (.ofCredentials ⟨"key", "secret", some token, none, .hmacSha1⟩)

/-- Values that look like parameters, and one that looks like a fragment. -/
theorem tenant_pairs :
    '#' ∉ tenantSettings.authUrl.toList ∧
    textPairs (tenantSettings.authorizationUrl "verifier" none (some "x&scope=all")) =
      [("tenant", "a"), ("response_type", "code"), ("client_id", "a&client_id=b"),
        ("redirect_uri", "https://app.example.com/cb?x=1#top"),
        ("code_challenge", OAuth2.Pkce.challenge "verifier"), ("code_challenge_method", "S256"),
        ("state", "x&scope=all")] ∧
    '#' ∉ "https://auth.example.com/?".toList ∧
    ∃ url, (unnamedClient "a=b #?&").authorizationUrl "https://auth.example.com/?" = .ok url ∧
      textPairs url = [("oauth_token", "a=b #?&")] := by
  have tenant : '#' ∉ tenantSettings.authUrl.toList := by decide
  have bare : '#' ∉ "https://auth.example.com/?".toList := by decide
  have own : textPairs tenantSettings.authUrl = [("tenant", "a")] := by decide +kernel
  have none_ : textPairs "https://auth.example.com/?" = [] := by decide +kernel
  have consent := consent_pairs.1 tenantSettings "verifier" none (some "x&scope=all") tenant
  obtain ⟨url, made, continued⟩ := consent_pairs.2 (unnamedClient "a=b #?&") _ bare
  refine ⟨tenant, ?_, bare, url, made, ?_⟩
  · rw [consent.behind, own]
    rfl
  · rw [continued.behind, none_, List.nil_append]

end SignedRest
