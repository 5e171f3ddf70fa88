import SignedRest.Call.Invoke
import SignedRest.OAuth2.Settings
import SignedRest.OAuth2.Token

/-! Calls with a bearer token, and the grants that obtain tokens. A grant takes its request from
the tokens of one moment and puts the new tokens in at a later one, all at once; in between,
anything else may happen to the client. -/
namespace SignedRest.OAuth2

/-- Refuses expired tokens, and sends an access token along where there is one. -/
def bearer (tokens : TokenState) (_ : Endpoint) (m : Moment) : Action Draft Unit := do
  if tokens.isExpiredAt m.now then Action.fail .accessTokenExpired
  match tokens.accessToken with
  | some token => Action.modify (·.addHeader "Authorization" ("Bearer " ++ token))
  | none => pure ()

structure Client where
  endpoint : Endpoint
  tokenEndpoint : Endpoint
  settings : Settings
  tokens : TokenState

namespace Client

/-- The token endpoint is configured like the other, but for its URL. -/
def create (config : Config) (settings : Settings) (tokens : TokenState) : Client :=
  ⟨.ofConfig config,
    .ofConfig { config with template := settings.tokenUrl, bindingRequired := false },
    settings, tokens⟩

def service (c : Client) : Service := ⟨c.endpoint, some (.ofPrepare (bearer c.tokens))⟩

/-- Grants go to the token endpoint without any token. -/
def tokenService (c : Client) : Service := ⟨c.tokenEndpoint, none⟩

/-- A grant that has been started. -/
structure Grant where
  fields : List (String × String)
  /-- The refresh token to keep when the reply has none. -/
  keep : Option String
  deriving DecidableEq, Repr

def codeGrant (c : Client) (code verifier : String) : Grant :=
  ⟨c.settings.codeFields code verifier, none⟩

def refreshGrant (c : Client) : Except Error Grant :=
  match c.tokens.refreshToken with
  | some token => .ok ⟨c.settings.refreshFields token, some token⟩
  | none => .error .noRefreshToken

def Grant.call (g : Grant) : Call :=
  Call.empty.edit fun d =>
    g.fields.foldl (fun d f => d.addText f.1 f.2) { d with method := .post }

def Grant.tokens (g : Grant) (payload : Bytes) (now : Instant) : Except Error TokenState :=
  (readTokens payload now).map fun t => { t with refreshToken := t.refreshToken <|> g.keep }

def applyReply (g : Grant) (payload : Bytes) (now : Instant) : Action Client TokenState := do
  let tokens ← Action.ofExcept (g.tokens payload now)
  let c ← Action.get
  if c.endpoint.config.debug.oauth then
    Action.log (.storedTokens tokens.expiration tokens.refreshToken.isSome)
  Action.modify fun c => { c with tokens := tokens }
  pure tokens

def sendGrant (m : Moment) (mode : Http.Mode) (network : Http.Network) (g : Grant) :
    Action Client Response :=
  Action.apart fun c => Call.invoke c.tokenService m mode false network g.call

def runGrant (m : Moment) (mode : Http.Mode) (network : Http.Network) (g : Grant) :
    Action Client TokenState := do
  let response ← sendGrant m mode network g
  applyReply g response.payload m.now

def fetchTokens (m : Moment) (mode : Http.Mode) (network : Http.Network)
    (code verifier : String) : Action Client TokenState := do
  let c ← Action.get
  runGrant m mode network (c.codeGrant code verifier)

def refreshTokens (m : Moment) (mode : Http.Mode) (network : Http.Network) :
    Action Client TokenState := do
  let c ← Action.get
  let g ← Action.ofExcept c.refreshGrant
  runGrant m mode network g

end Client

inductive GrantKind
  | fetch (code verifier : String)
  | refresh
  deriving DecidableEq, Repr

def GrantKind.start (c : Client) : GrantKind → Except Error Client.Grant
  | fetch code verifier => .ok (c.codeGrant code verifier)
  | refresh => c.refreshGrant

/-- A grant whose request has been handed over. -/
structure Pending where
  grant : Client.Grant
  call : Call
  request : Request
  deriving DecidableEq, Repr

namespace Client

/-- Makes the request of a grant and hands it over. -/
def ask (kind : GrantKind) (m : Moment) (mode : Http.Mode) : Action Client Pending := do
  let c ← Action.get
  let g ← Action.ofExcept (kind.start c)
  let begun := Call.begin c.tokenService m g.call
  Action.emit begun.events
  let r ← Action.ofExcept begun.result
  match Call.clientFault c.tokenEndpoint.config with
  | some e => do
    let _ ← Action.apart fun _ =>
      Call.finish c.tokenEndpoint.config.debug r (.error e) begun.state
    Action.fail e
  | none => do
    Action.emit [.handedOver mode r]
    pure ⟨g, begun.state, r⟩

/-- Takes in what came of a grant's request. -/
def answer (p : Pending) (now : Instant) (happenings : List Http.Happening)
    (result : Except Error Response) : Action Client TokenState := do
  Action.emit (happenings.map .http)
  let response ← Action.apart fun c =>
    Call.finish c.tokenEndpoint.config.debug p.request result p.call
  applyReply p.grant response.payload now

def grantTokens (kind : GrantKind) (m : Moment) (mode : Http.Mode) (network : Http.Network) :
    Action Client TokenState := fun c =>
  (ask kind m mode >>= fun p =>
    let config := c.tokenEndpoint.config
    let sent := Http.sendBy config (network.clients config) mode p.request
    answer p m.now sent.1 (sent.2.mapError Interruption.error)) c

end Client
end SignedRest.OAuth2
