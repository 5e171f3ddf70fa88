import SignedRest.OAuth1.Signature

/-! Who signs, and how: consumer and token credentials, and where the protocol parameters
travel. -/
namespace SignedRest.OAuth1

structure Credentials where
  consumerKey : String
  consumerSecret : String
  token : Option String
  tokenSecret : Option String
  method : SignatureMethod
  deriving DecidableEq, Repr

def Credentials.ofConsumer (key secret : String) : Credentials :=
  ⟨key, secret, none, none, .hmacSha1⟩

/-- The parameters travel with those of the request or in the `Authorization` header. -/
inductive Placement
  | params
  | header (realm : Option String)
  deriving DecidableEq, Repr

structure Signer where
  credentials : Credentials
  placement : Placement
  /-- The host to sign for, where it is not the one that is asked. -/
  signatureHost : Option String
  /-- Whether a server has confirmed the callback. -/
  isOAuth10a : Bool
  /-- Whether signing is logged. -/
  debug : Bool
  deriving DecidableEq, Repr

def Signer.ofCredentials (c : Credentials) : Signer := ⟨c, .params, none, false, false⟩

def redacted : String := "<redacted>"

/-- The first four characters of a token that has more than eight. -/
def redact (token : String) : String :=
  if 8 < token.toList.length then String.ofList (token.toList.take 4) ++ "..." else redacted

end SignedRest.OAuth1
