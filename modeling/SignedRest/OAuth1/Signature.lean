import SignedRest.Decimal.Unsigned
import SignedRest.Digest.Sha1
import SignedRest.Error
import SignedRest.Text.Base64
import SignedRest.Url.Change

/-! Signatures of OAuth 1.0 (RFC 5849, section 3.4): the base string, which both sides build for
themselves, and the keyed digest of it. -/
namespace SignedRest.OAuth1

inductive SignatureMethod
  | hmacSha1
  | plaintext
  deriving DecidableEq, Repr

def SignatureMethod.name : SignatureMethod → String
  | .hmacSha1 => "HMAC-SHA1"
  | .plaintext => "PLAINTEXT"

abbrev Pair := String × String

/-- A host and a port behind its last colon. Text with further colons is all host, unless they
stand in brackets. -/
def splitPort (host : String) : String × Option Nat :=
  match Url.cutLast ':' host.toList with
  | some (name, port) =>
    if !name.contains ':' || name.getLast? = some ']' then
      match Decimal.unsigned? 65536 port with
      | some n => (String.ofList name, some n)
      | none => (host, none)
    else (host, none)
  | none => (host, none)

def redirectTo (u : Url) (host : String) : Except Error Url := do
  let u ← (u.setHost (splitPort host).1).mapError .url
  match (splitPort host).2 with
  | none => pure u
  | some port =>
    match u.setPort? port with
    | some u => pure u
    | none => .error (.signing (.portNotSettable u.write))

/-- The URL of the base string, without query and fragment, and the pairs of the query. -/
def normalizeUrl (url : String) (signatureHost : Option String) :
    Except Error (String × List Pair) := do
  let parsed ← (Url.parse url).mapError .url
  let bare ← match signatureHost with
    | none => pure parsed.withoutTail
    | some host => redirectTo parsed.withoutTail host
  pure (bare.write, parsed.queryPairs)

/-- Pairs are compared by name, then by value, character by character. -/
def notAfter (a b : Pair) : Bool := a.1 < b.1 || (a.1 = b.1 && !(b.2 < a.2))

def encodePair (p : Pair) : Pair := (Percent.encode p.1, Percent.encode p.2)

/-- The pairs escaped, sorted and joined. -/
def encodedParams (pairs : List Pair) : String :=
  String.intercalate "&"
    (((pairs.map encodePair).mergeSort notAfter).map fun p => p.1 ++ "=" ++ p.2)

def baseString (method url : String) (pairs : List Pair) : String :=
  Ascii.upper method ++ "&" ++ Percent.encode url ++ "&" ++ Percent.encode (encodedParams pairs)

/-- The key of the digest. -/
def signingKey (consumerSecret : String) (tokenSecret : Option String) : String :=
  Percent.encode consumerSecret ++ "&" ++ Percent.encode (tokenSecret.getD "")

def sign (method : SignatureMethod) (base consumerSecret : String)
    (tokenSecret : Option String) : Except Error String :=
  if consumerSecret = "" then .error (.signing .noConsumerSecret)
  else match method with
    | .hmacSha1 =>
      .ok (String.ofList (Base64.encode Base64.standard ['=']
        (Digest.hmacSha1 (Utf8.encode (signingKey consumerSecret tokenSecret)) (Utf8.encode base))))
    | .plaintext => .ok (consumerSecret ++ "&" ++ tokenSecret.getD "")

end SignedRest.OAuth1
