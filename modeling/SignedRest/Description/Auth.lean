import SignedRest.Description.Basic
import SignedRest.OAuth1.Client
import SignedRest.OAuth2.Client

/-! Credentials, signers and tokens described without their secrets. -/
namespace SignedRest.Description

def hidden : String := text OAuth1.redacted

def signatureMethod : OAuth1.SignatureMethod → String
  | .hmacSha1 => "HmacSha1"
  | .plaintext => "Plaintext"

/-- Of a token its beginning is shown, of secrets whether there are any. -/
def credentials (c : OAuth1.Credentials) : String :=
  record "OAuth1Credentials" [("consumer_key", text c.consumerKey), ("consumer_secret", hidden),
    ("token", option (text ∘ OAuth1.redact) c.token),
    ("token_secret", option (fun _ => hidden) c.tokenSecret),
    ("method", signatureMethod c.method)]

def placement : OAuth1.Placement → String
  | .params => "Params"
  | .header realm => record "Header" [("realm", option text realm)]

def signer (s : OAuth1.Signer) : String :=
  record "OAuth1Signer" [("credentials", credentials s.credentials),
    ("placement", placement s.placement), ("signature_host", option text s.signatureHost)]

def oauth1Client (c : OAuth1.Client) : String :=
  record "OAuth1Proxy" [("proxy", endpoint c.endpoint true), ("signer", signer c.signer)]

def settings (s : OAuth2.Settings) : String :=
  record "OAuth2Settings" [("auth_url", text s.authUrl), ("token_url", text s.tokenUrl),
    ("redirect_uri", text s.redirectUri), ("client_id", text s.clientId),
    ("client_secret", hidden)]

def tokenState (t : OAuth2.TokenState) : String :=
  record "OAuth2TokenState" [("access_token", option (fun _ => hidden) t.accessToken),
    ("refresh_token", option (fun _ => hidden) t.refreshToken),
    ("expiration_date", option Rfc3339.write t.expiration)]

end SignedRest.Description
