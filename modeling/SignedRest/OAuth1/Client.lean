import SignedRest.Call.Invoke
import SignedRest.OAuth1.Signing

/-! The steps by which a token is obtained: a request token, the user's consent, and the access
token in exchange. A step installs a token and its secret together or changes nothing. -/
namespace SignedRest.OAuth1

structure TokenResponse where
  token : String
  tokenSecret : String
  /-- The other fields, each name once. -/
  remain : List Pair
  deriving DecidableEq, Repr

/-- Each name once, with its last value. -/
def lastValues : List Pair → List Pair
  | [] => []
  | p :: rest => if rest.any (·.1 = p.1) then lastValues rest else p :: lastValues rest

def readToken (body : Bytes) : Except Error TokenResponse :=
  let fields := Form.decode body
  match Form.lastValue? fields "oauth_token", Form.lastValue? fields "oauth_token_secret" with
  | some token, some secret =>
    .ok ⟨token, secret,
      (lastValues fields).filter fun p => p.1 ≠ "oauth_token" && p.1 ≠ "oauth_token_secret"⟩
  | none, _ => .error (.invalidResponse (.missingField "oauth_token"))
  | _, none => .error (.invalidResponse (.missingField "oauth_token_secret"))

def TokenResponse.confirms (r : TokenResponse) : Bool :=
  Form.lastValue? r.remain "oauth_callback_confirmed" = some "true"

structure Client where
  endpoint : Endpoint
  signer : Signer

namespace Client

/-- The signer logs what the endpoint is configured to log. -/
def create (config : Config) (signer : Signer) : Client :=
  ⟨.ofConfig config, { signer with debug := config.debug.oauth }⟩

def service (c : Client) : Service := ⟨c.endpoint, some c.signer.hook⟩

def withToken (c : Client) (token secret : Option String) : Client :=
  let credentials := { c.signer.credentials with token := token, tokenSecret := secret }
  { c with signer := { c.signer with credentials := credentials } }

def authorizationUrl (c : Client) (endpoint : String) : Except Error String :=
  match c.signer.credentials.token with
  | none => .error (.signing .noRequestToken)
  | some token =>
    let separator := if endpoint.toList.contains '?' then "&" else "?"
    .ok (endpoint ++ separator ++ "oauth_token=" ++ Percent.encode token)

def tokenCall (function : String) (extra : Option Pair) : Call :=
  Call.empty.edit fun d =>
    let d := { d with method := .post, function := some function }
    match extra with
    | some (name, value) => d.addText name value
    | none => d

/-- Installs the token of a response. -/
def install (c : Client) (r : TokenResponse) : Client :=
  let c := c.withToken (some r.token) (some r.tokenSecret)
  if r.confirms then { c with signer := { c.signer with isOAuth10a := true } } else c

def applyResponse (body : Bytes) : Action Client TokenResponse := do
  let r ← Action.ofExcept (readToken body)
  Action.modify (install · r)
  let c ← Action.get
  if c.signer.debug then Action.log (.storedToken (redact r.token))
  pure r

/-- Sends a call of its own and applies the reply. -/
def tokenStep (m : Moment) (mode : Http.Mode) (network : Http.Network) (function : String)
    (extra : Option Pair) : Action Client TokenResponse := do
  let response ← Action.apart fun c =>
    Call.invoke c.service m mode false network (tokenCall function extra)
  applyResponse response.payload

def requestToken (m : Moment) (mode : Http.Mode) (network : Http.Network) (function : String)
    (callback : Option String) : Action Client TokenResponse :=
  tokenStep m mode network function (callback.map ("oauth_callback", ·))

def accessToken (m : Moment) (mode : Http.Mode) (network : Http.Network) (function : String)
    (verifier : Option String) : Action Client TokenResponse :=
  tokenStep m mode network function (verifier.map ("oauth_verifier", ·))

end Client
end SignedRest.OAuth1
