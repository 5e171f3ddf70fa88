import Mathlib.Data.List.GetD
import SignedRest.OAuth2.Settings
import SignedRest.Proofs.Base64
import SignedRest.Proofs.Percent

/-! Challenges for code verifiers. A challenge is the digest of its verifier in forty-three
characters of which none needs an escape, so that it stands in a URL as it is; and the verifiers
that random numbers make are all those that are long and plain enough. -/
namespace SignedRest

namespace Base64

def isUrlSafe (c : Char) : Bool := c.isAlphanum || c = '-' || c = '_'

theorem isAlphanum_char {n : Nat} (h : n < 62) : (urlSafe.char n).isAlphanum = true := by
  have all : ∀ m < 62, (urlSafe.char m).isAlphanum = true := by decide
  exact all n h

theorem isUrlSafe_char {n : Nat} (h : n < 64) : isUrlSafe (urlSafe.char n) = true := by
  by_cases letter : n < 62
  · simp [isUrlSafe, isAlphanum_char letter]
  · obtain rfl | rfl : n = 62 ∨ n = 63 := by omega
    · decide
    · decide

/-- The first sixty-two characters are all the letters and digits. -/
theorem exists_char_of_isAlphanum {c : Char} (h : c.isAlphanum = true) :
    ∃ n < 62, urlSafe.char n = c := by
  have named : Char.ofNat c.toNat = c := Char.ofNat_toNat c
  rcases Percent.isAlphanum_iff.mp h with (⟨low, high⟩ | ⟨low, high⟩) | ⟨low, high⟩
  · refine ⟨c.toNat - 65, by omega, ?_⟩
    rw [Alphabet.char, if_pos (by omega), Nat.add_sub_cancel' low, named]
  · refine ⟨c.toNat - 71, by omega, ?_⟩
    rw [Alphabet.char, if_neg (by omega), if_pos (by omega), Nat.add_sub_cancel' (by omega), named]
  · refine ⟨c.toNat + 4, by omega, ?_⟩
    rw [Alphabet.char, if_neg (by omega), if_neg (by omega), if_pos (by omega),
      Nat.add_sub_cancel, named]

end Base64

namespace OAuth2

namespace Pkce

theorem toList_challenge (verifier : String) :
    (challenge verifier).toList =
      (Base64.values (Digest.sha256 (Utf8.encode verifier))).map Base64.urlSafe.char := by
  rw [challenge, String.toList_ofList, Base64.encode_bare]

theorem length_challenge (verifier : String) : (challenge verifier).length = 43 := by
  rw [← String.length_toList, toList_challenge, List.length_map, Base64.length_values,
    Digest.sha256_length]

theorem isUrlSafe_of_mem_challenge {verifier : String} {c : Char}
    (h : c ∈ (challenge verifier).toList) : Base64.isUrlSafe c = true := by
  rw [toList_challenge] at h
  obtain ⟨n, mem, rfl⟩ := List.mem_map.mp h
  exact Base64.isUrlSafe_char (Base64.values_lt mem)

theorem decode_challenge (verifier : String) :
    Base64.decode Base64.urlSafe (challenge verifier).toList =
      some (Digest.sha256 (Utf8.encode verifier)) := by
  rw [challenge, String.toList_ofList, Base64.decode_encode Base64.urlSafe_proper]

theorem encode_challenge (verifier : String) :
    Percent.encode (challenge verifier) = challenge verifier := by
  refine Percent.encode_of_unreserved fun c mem => ?_
  have safe := isUrlSafe_of_mem_challenge mem
  simp only [Base64.isUrlSafe, Bool.or_eq_true, decide_eq_true_eq] at safe
  rcases safe with (letter | rfl) | rfl
  · simp [Percent.isUnreservedChar, letter]
  · decide
  · decide

theorem alphabet_eq :
    alphabet = (List.range 62).map Base64.urlSafe.char ++ ['-', '.', '_', '~'] :=
  String.toList_ofList

theorem length_alphabet : alphabet.length = 66 := by simp [alphabet_eq]

/-- The alphabet has the unreserved characters and no others. -/
theorem mem_alphabet_iff {c : Char} : c ∈ alphabet ↔ Percent.isUnreservedChar c = true := by
  have letters : c ∈ (List.range 62).map Base64.urlSafe.char ↔ c.isAlphanum = true := by
    constructor
    · intro mem
      obtain ⟨n, small, rfl⟩ := List.mem_map.mp mem
      exact Base64.isAlphanum_char (List.mem_range.mp small)
    · intro letter
      obtain ⟨n, small, rfl⟩ := Base64.exists_char_of_isAlphanum letter
      exact List.mem_map_of_mem (List.mem_range.mpr small)
  rw [alphabet_eq, List.mem_append, letters, Percent.isUnreservedChar, Bool.or_eq_true,
    List.contains_iff_mem]

theorem getD_alphabet_mem (place : Fin 66) : alphabet.getD place 'A' ∈ alphabet := by
  have inside : place < alphabet.length := by rw [length_alphabet]; exact place.isLt
  rw [List.getD_eq_getElem alphabet 'A' inside]
  exact List.getElem_mem inside

def placeOf (c : Char) : Fin 66 := Fin.ofNat 66 (alphabet.idxOf c)

theorem getD_placeOf {c : Char} (h : c ∈ alphabet) : alphabet.getD (placeOf c) 'A' = c := by
  have inside := List.idxOf_lt_length_of_mem h
  have place : (placeOf c : Nat) = alphabet.idxOf c := by
    rw [length_alphabet] at inside
    exact Nat.mod_eq_of_lt inside
  rw [place, List.getD_eq_getElem alphabet 'A' inside, List.getElem_idxOf]

theorem unreserved_of_mem_randomVerifier {extra : Fin (maxLength - minLength + 1)}
    {places : Nat → Fin 66} {c : Char} (h : c ∈ (randomVerifier extra places).toList) :
    Percent.isUnreservedChar c = true := by
  rw [randomVerifier, String.toList_ofList] at h
  obtain ⟨i, -, rfl⟩ := List.mem_map.mp h
  exact mem_alphabet_iff.mp (getD_alphabet_mem (places i))

theorem length_randomVerifier (extra : Fin (maxLength - minLength + 1)) (places : Nat → Fin 66) :
    (randomVerifier extra places).length = minLength + extra := by
  simp [randomVerifier]

/-- Every plain text of the right length can come out. -/
theorem exists_randomVerifier {v : String} (long : minLength ≤ v.length)
    (short : v.length ≤ maxLength) (plain : ∀ c ∈ v.toList, Percent.isUnreservedChar c = true) :
    ∃ extra places, randomVerifier extra places = v := by
  have extra : v.length - minLength < maxLength - minLength + 1 := by omega
  refine ⟨⟨v.length - minLength, extra⟩, fun i => placeOf (v.toList.getD i 'A'), ?_⟩
  rw [← String.toList_inj, randomVerifier, String.toList_ofList]
  have size : minLength + (v.length - minLength) = v.toList.length := by
    rw [String.length_toList]
    omega
  apply List.ext_getElem
  · simpa using size
  · intro i h h'
    have own := mem_alphabet_iff.mpr (plain _ (List.getElem_mem h'))
    rw [List.getElem_map, List.getElem_range, List.getD_eq_getElem v.toList 'A' h']
    exact getD_placeOf own

end Pkce

theorem exists_intercalate_cons (sep first : String) (rest : List String) :
    ∃ after, sep.intercalate (first :: rest) = first ++ after := by
  cases rest with
  | nil => exact ⟨"", by simp⟩
  | cons next rest =>
    exact ⟨sep ++ sep.intercalate (next :: rest), by simp [String.append_assoc]⟩

/-- In the query the challenge stands as it is, between its name and the next one. -/
theorem Settings.exists_challenge (s : Settings) (verifier : String) (scope state : Option String) :
    ∃ before after, s.authorizationUrl verifier scope state =
      before ++ "&code_challenge=" ++ Pkce.challenge verifier ++ "&code_challenge_method=S256" ++
        after := by
  have method : Percent.encode Pkce.method = "S256" :=
    Percent.encode_of_unreserved (by simp [Pkce.method, Percent.isUnreservedChar])
  obtain ⟨after, rest⟩ := exists_intercalate_cons "&"
    ("code_challenge_method" ++ "=" ++ "S256")
    (((scope.map ("scope", ·)).toList ++ (state.map ("state", ·)).toList).map
      fun p => p.1 ++ "=" ++ Percent.encode p.2)
  refine ⟨s.authUrl ++ (if s.authUrl.toList.contains '?' then "&" else "?") ++
    ("response_type=" ++ Percent.encode "code") ++ ("&client_id=" ++ Percent.encode s.clientId) ++
      ("&redirect_uri=" ++ Percent.encode s.redirectUri), after, ?_⟩
  simp only [authorizationUrl, authorizationPairs, List.cons_append, List.nil_append,
    List.map_cons, String.intercalate_cons_cons, method, rest, Pkce.encode_challenge]
  rw [← String.toList_inj]
  simp

/-- A challenge is the digest of its verifier in forty-three plain characters, and stands in the
authorization URL as it is. Random numbers make the plain texts of forty-three to a hundred and
twenty-eight characters and no others, and none of these is changed by escaping either. -/
theorem challenge_verbatim :
    (∀ verifier : String,
      (Pkce.challenge verifier).length = 43 ∧
      (∀ c ∈ (Pkce.challenge verifier).toList, Base64.isUrlSafe c = true) ∧
      Base64.decode Base64.urlSafe (Pkce.challenge verifier).toList =
        some (Digest.sha256 (Utf8.encode verifier)) ∧
      Percent.encode (Pkce.challenge verifier) = Pkce.challenge verifier ∧
      ∀ (s : Settings) (scope state : Option String), ∃ before after,
        s.authorizationUrl verifier scope state =
          before ++ "&code_challenge=" ++ Pkce.challenge verifier ++
            "&code_challenge_method=S256" ++ after) ∧
    (∀ v : String, (∃ extra places, Pkce.randomVerifier extra places = v) ↔
      43 ≤ v.length ∧ v.length ≤ 128 ∧ ∀ c ∈ v.toList, Percent.isUnreservedChar c = true) ∧
    ∀ extra places, Percent.encode (Pkce.randomVerifier extra places) =
      Pkce.randomVerifier extra places := by
  refine ⟨fun verifier => ?_, fun v => ?_, fun extra places => ?_⟩
  · exact ⟨Pkce.length_challenge verifier, fun _ => Pkce.isUrlSafe_of_mem_challenge,
      Pkce.decode_challenge verifier, Pkce.encode_challenge verifier,
      fun s => s.exists_challenge verifier⟩
  · constructor
    · rintro ⟨extra, places, rfl⟩
      have length := Pkce.length_randomVerifier extra places
      have most := extra.isLt
      simp only [Pkce.minLength, Pkce.maxLength] at length most
      refine ⟨by omega, by omega, fun _ => Pkce.unreserved_of_mem_randomVerifier⟩
    · rintro ⟨long, short, plain⟩
      exact Pkce.exists_randomVerifier long short plain
  · exact Percent.encode_of_unreserved fun _ => Pkce.unreserved_of_mem_randomVerifier

end OAuth2
end SignedRest
