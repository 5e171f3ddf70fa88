import SignedRest.Call.Hook
import SignedRest.OAuth1.Authorization
import SignedRest.OAuth1.Credentials

/-! Calls signed on their way: the control parameters are added, everything that a server can
see is signed, and the parameters go where the signer places them. -/
namespace SignedRest.OAuth1

def keyPrefix : List Char := ['o', 'a', 'u', 't', 'h', '_']

def isProtocolName (name : String) : Bool := keyPrefix.isPrefixOf name.toList

def addMissing (ps : Params) (name value : String) : Params :=
  if (ps.get? name).isSome then ps else ps.addText name value

/-- The parameters that every signed call has. Time and nonce may have been given before. -/
def addControls (c : Credentials) (m : Moment) (ps : Params) : Params :=
  let ps := ps.addText "oauth_version" "1.0"
  let ps := addMissing ps "oauth_timestamp" (toString m.now.secs)
  let ps := addMissing ps "oauth_nonce" m.nonce
  let ps := ps.addText "oauth_consumer_key" c.consumerKey
  let ps := ps.addText "oauth_signature_method" c.method.name
  match c.token with
  | some token => ps.addText "oauth_token" token
  | none => ps

/-- What is signed: a multipart body is not, but for the protocol parameters. -/
def signedPairs (ps : Params) (query : List Pair) : List Pair :=
  ps.pairs.filter (fun p => ps.areTexts || isProtocolName p.1) ++ query

/-- The base string as it is logged, without the token. -/
def shownBase (method url : String) (pairs : List Pair) : String :=
  baseString method url
    (pairs.map fun p => if p.1 = "oauth_token" then (p.1, redacted) else p)

def isProtocolParam (p : Param) : Bool := p.isText && isProtocolName p.name

/-- Takes the protocol parameters out of the call and into its header. -/
def moveToHeader (realm : Option String) (d : Draft) : Draft :=
  let (taken, kept) := d.params.drain isProtocolParam
  { d with params := kept }.addHeader "Authorization"
    (Authorization.write realm (taken.filterMap Param.pair?))

def place : Placement → Draft → Draft
  | .params, d => d
  | .header realm, d => moveToHeader realm d

def Signer.signCall (s : Signer) (e : Endpoint) (m : Moment) : Action Draft Unit := do
  if s.credentials.consumerSecret = "" then Action.fail (.signing .noConsumerSecret)
  Action.modify fun d => { d with params := addControls s.credentials m d.params }
  let d ← Action.get
  let url ← Action.ofExcept (d.resolveUrl e)
  let (baseUrl, query) ← Action.ofExcept (normalizeUrl url s.signatureHost)
  let pairs := signedPairs d.params query
  let signature ← Action.ofExcept (sign s.credentials.method
    (baseString d.method.name baseUrl pairs) s.credentials.consumerSecret
    s.credentials.tokenSecret)
  if s.debug then Action.log (.signed (shownBase d.method.name baseUrl pairs))
  Action.modify fun d => place s.placement (d.addText "oauth_signature" signature)

def Signer.hook (s : Signer) : Hook := .ofPrepare s.signCall

end SignedRest.OAuth1
