import SignedRest.Digest.Sha256
import SignedRest.Text.Base64
import SignedRest.Text.Percent

/-! How a client is registered with an OAuth 2 service, and the parameters of its requests there.
Code verifiers go with challenges derived from them (RFC 7636, method `S256`). -/
namespace SignedRest.OAuth2

namespace Pkce

def method : String := "S256"

def challenge (verifier : String) : String :=
  String.ofList (Base64.encode Base64.urlSafe [] (Digest.sha256 (Utf8.encode verifier)))

def alphabet : List Char :=
  "ABCDEFGHIJKLMNOPQRSTUVWXYZabcdefghijklmnopqrstuvwxyz0123456789-._~".toList

def minLength : Nat := 43
def maxLength : Nat := 128

/-- The verifier that a random generator's numbers make: how many characters beyond the fewest,
and the place of each in the alphabet. -/
def randomVerifier (extra : Fin (maxLength - minLength + 1)) (places : Nat → Fin 66) : String :=
  String.ofList ((List.range (minLength + extra)).map fun i => alphabet.getD (places i) 'A')

end Pkce

structure Settings where
  authUrl : String
  tokenUrl : String
  redirectUri : String
  clientId : String
  clientSecret : String
  deriving DecidableEq, Repr

namespace Settings

def authorizationPairs (s : Settings) (verifier : String) (scope state : Option String) :
    List (String × String) :=
  [("response_type", "code"), ("client_id", s.clientId), ("redirect_uri", s.redirectUri),
    ("code_challenge", Pkce.challenge verifier), ("code_challenge_method", Pkce.method)]
    ++ (scope.map ("scope", ·)).toList ++ (state.map ("state", ·)).toList

def authorizationUrl (s : Settings) (verifier : String) (scope state : Option String) : String :=
  let query := String.intercalate "&"
    ((s.authorizationPairs verifier scope state).map fun p => p.1 ++ "=" ++ Percent.encode p.2)
  let separator := if s.authUrl.toList.contains '?' then "&" else "?"
  s.authUrl ++ separator ++ query

/-- The fields that exchange an authorization code. -/
def codeFields (s : Settings) (code verifier : String) : List (String × String) :=
  [("client_id", s.clientId), ("client_secret", s.clientSecret),
    ("grant_type", "authorization_code"), ("code", code), ("redirect_uri", s.redirectUri),
    ("code_verifier", verifier)]

/-- The fields that exchange a refresh token. -/
def refreshFields (s : Settings) (refreshToken : String) : List (String × String) :=
  [("client_id", s.clientId), ("refresh_token", refreshToken),
    ("redirect_uri", s.redirectUri), ("grant_type", "refresh_token")]

end Settings
end SignedRest.OAuth2
