import SignedRest.OAuth1.Authorization
import SignedRest.Request

/-! Signed requests from the server's side: the parameters are gathered from the three places
where they may stand, and the signature is made again. -/
namespace SignedRest.OAuth1.Verification

def signatureName : String := "oauth_signature"

def bodyPairs (r : Request) : List Pair :=
  if r.header? "Content-Type" = some (Payload.form "").contentType then Form.decode r.body else []

def headerPairs (r : Request) : List Pair :=
  match r.header? "Authorization" with
  | some value => Authorization.params value
  | none => []

/-- All parameters that a server sees, given those of the URL. -/
def seen (r : Request) (query : List Pair) : List Pair := query ++ bodyPairs r ++ headerPairs r

/-- The one signature sent is the one that the secrets make for everything else. -/
def accepts (c : SignatureMethod) (consumerSecret : String) (tokenSecret : Option String)
    (signatureHost : Option String) (r : Request) : Bool :=
  match normalizeUrl r.url signatureHost with
  | .error _ => false
  | .ok (url, query) =>
    let sent := (seen r query).filter (·.1 = signatureName)
    let signed := (seen r query).filter (·.1 ≠ signatureName)
    match sign c (baseString r.method.name url signed) consumerSecret tokenSecret with
    | .ok signature => sent.map (·.2) = [signature]
    | .error _ => false

end SignedRest.OAuth1.Verification
