import SignedRest.Http.Message
import SignedRest.Request
import SignedRest.Url.Join

/-! Requests as they are given to a client, and as the network sees them. Whether a request can be
sent at all is decided here, before a connection is opened. -/
namespace SignedRest.Http

inductive Outgoing
  | whole (bytes : Bytes)
  /-- Taken piece by piece, and only once. -/
  | stream (pieces : List Bytes)
  deriving DecidableEq, Repr

def Outgoing.bytes : Outgoing → Bytes
  | whole bytes => bytes
  | stream pieces => pieces.flatten

/-- What a client is asked to send. -/
structure Submission where
  method : Method
  url : String
  headers : List (String × String)
  body : Option Outgoing
  /-- The time that this request may take, in milliseconds. -/
  limit : Option Nat
  deriving DecidableEq, Repr

namespace Submission

def bytes (s : Submission) : Bytes := (s.body.map (·.bytes)).getD []

def pieces (s : Submission) : List Bytes :=
  match s.body with
  | some (.stream pieces) => pieces
  | _ => []

def isStream (s : Submission) : Bool :=
  match s.body with
  | some (.stream _) => true
  | _ => false

end Submission

structure Wire where
  method : String
  url : Url
  headers : List (String × String)
  body : Bytes
  /-- The body cannot be sent a second time. -/
  isStream : Bool
  deriving DecidableEq, Repr

namespace Wire

/-- Marks that a URL may have in its host and a request line may not. -/
def isPlainHost (h : Host) : Bool :=
  !h.write.toList.any (['"', '\x60', '\x7b', '\x7d'].contains ·)

def maxUrlBytes : Nat := 65534

def isSendable (u : Url) : Bool :=
  u.isHttp && u.host?.any isPlainHost && u.write.utf8ByteSize ≤ maxUrlBytes

def agentHeader (agent : Option String) (headers : List (String × String)) :
    List (String × String) :=
  match agent with
  | some a => if (Headers.lookup? headers "User-Agent").isSome then [] else [("user-agent", a)]
  | none => []

/-- The request that goes out, if URL and headers are sound. -/
def ofSubmission? (agent : Option String) (s : Submission) : Option Wire :=
  match Url.parse s.url with
  | .error _ => none
  | .ok url =>
    if isSendable url && s.headers.all isHeader then
      some ⟨s.method.name, url.withoutFragment,
        s.headers.map (fun h => (Ascii.lower h.1, h.2)) ++ agentHeader agent s.headers,
        s.bytes, s.isStream⟩
    else none

def dropHeaders (w : Wire) (names : List String) : Wire :=
  { w with headers := w.headers.filter fun h => !names.contains h.1 }

def keepsMethod (status : Nat) : Bool := status = 307 || status = 308

/-- Whether a status sends the request on. Where the body would have to go along, it must be one
that can be sent again. -/
def isRedirect (w : Wire) (status : Nat) : Bool :=
  [301, 302, 303].contains status || keepsMethod status && !w.isStream

/-- The same request for another status of redirection: most of them turn it into a `GET`
without a body. -/
def reshaped (w : Wire) (status : Nat) : Wire :=
  if keepsMethod status then w
  else
    let method := if w.method = "GET" || w.method = "HEAD" then w.method else "GET"
    let bare := w.dropHeaders
      ["transfer-encoding", "content-encoding", "content-type", "content-length"]
    { bare with method := method, body := [], isStream := false }

def portOf (u : Url) : Option Nat := u.port? <|> Url.defaultPort u.scheme

def sameServer (a b : Url) : Bool := a.host? = b.host? && portOf a = portOf b

/-- Where the request comes from, without credentials. A secure page does not tell an open one. -/
def referer? (source target : Url) : Option String :=
  if source.scheme = "https" && target.scheme = "http" then none
  else
    let authority := source.authority.map fun a => { a with username := "", password := none }
    some { source with authority := authority, fragment := none }.write

def withReferer (w : Wire) (target : Url) : Wire :=
  match referer? w.url target with
  | some source =>
    let others := w.dropHeaders ["referer"]
    { others with headers := others.headers ++ [("referer", source)] }
  | none => w

/-- What another server does not get. -/
def credentialHeaders : List String :=
  ["authorization", "cookie", "cookie2", "proxy-authorization", "www-authenticate"]

def redirected (w : Wire) (status : Nat) (target : Url) : Wire :=
  let next := { (w.reshaped status).withReferer target with url := target.withoutFragment }
  if sameServer w.url target then next else next.dropHeaders credentialHeaders

end Wire
end SignedRest.Http
