import SignedRest.Error
import SignedRest.Json.Fields
import SignedRest.Json.Writer
import SignedRest.Time.Rfc3339

/-! The tokens that a client holds, their expiry, and the replies that they come from. -/
namespace SignedRest.OAuth2

structure TokenState where
  accessToken : Option String
  refreshToken : Option String
  /-- When the access token stops being accepted. -/
  expiration : Option Instant
  deriving DecidableEq, Repr

inductive TokenStatus
  | unauthenticated
  | authenticated
  | expired
  deriving DecidableEq, Repr

def TokenStatus.name : TokenStatus → String
  | .unauthenticated => "Unauthenticated"
  | .authenticated => "Authenticated"
  | .expired => "Expired"

namespace TokenState

def empty : TokenState := ⟨none, none, none⟩

/-- The expiration has passed; without one a token never expires. -/
def isExpiredAt (t : TokenState) (now : Instant) : Bool := t.expiration.any now.after

def statusAt (t : TokenState) (now : Instant) : TokenStatus :=
  if t.accessToken.isNone then .unauthenticated
  else if t.isExpiredAt now then .expired
  else .authenticated

def keys : List String := ["access_token", "refresh_token", "expiration_date"]

def instant? (s : Json.Source) : Option (Option Instant) := do
  match ← s.text? with
  | none => pure none
  | some text => (Rfc3339.read text).map some

def ofJson? (bs : Bytes) : Option TokenState := do
  match ← (← Json.Source.parse bs).fields keys with
  | [access, refresh, expiration] =>
    pure ⟨← access.text?, ← refresh.text?, ← instant? expiration⟩
  | _ => none

def jsonText (s : Option String) : Json := (s.map Json.string).getD .null

def toJson (t : TokenState) : String :=
  Json.writeOrdered (keys.zip
    [jsonText t.accessToken, jsonText t.refreshToken, jsonText (t.expiration.map Rfc3339.write)])

end TokenState

structure TokenReply where
  accessToken : Option String
  refreshToken : Option String
  /-- Seconds until the access token expires. -/
  expiresIn : Option Int
  /-- When the access token was made, in seconds since the start of 1970. -/
  createdAt : Option Int
  deriving DecidableEq, Repr

def TokenReply.ofJson? (bs : Bytes) : Option TokenReply := do
  let source ← Json.Source.parse bs
  match ← source.fields ["access_token", "refresh_token", "expires_in", "created_at"] with
  | [access, refresh, expiresIn, createdAt] =>
    pure ⟨← access.text?, ← refresh.text?, ← expiresIn.integer?, ← createdAt.integer?⟩
  | _ => none

/-- When a token made then and living so long expires. -/
def expirationOf (now : Instant) (expiresIn createdAt : Option Int) :
    Except Error (Option Instant) :=
  match expiresIn with
  | none => .ok none
  | some lifetime => do
    let base ← match createdAt with
      | none => pure now
      | some seconds =>
        match Instant.ofSeconds? seconds with
        | some t => pure t
        | none => .error (.invalidResponse (.createdAt seconds))
    match (Instant.span? lifetime).bind base.addSeconds? with
    | some t => pure (some t)
    | none => .error (.invalidResponse (.expiresIn lifetime))

def readTokens (body : Bytes) (now : Instant) : Except Error TokenState :=
  if body.all Ascii.isSpace then .error .emptyPayload
  else
    match TokenReply.ofJson? body with
    | none => .error (.invalidResponse .unreadableJson)
    | some reply =>
      match reply.accessToken with
      | none => .error (.invalidResponse (.missingField "access_token"))
      | some access =>
        (expirationOf now reply.expiresIn reply.createdAt).map fun expiration =>
          ⟨some access, reply.refreshToken, expiration⟩

end SignedRest.OAuth2
