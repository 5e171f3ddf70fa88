import SignedRest.Host.Basic
import SignedRest.Text.Form

/-! URLs in their parts. The texts are kept as they are written, escapes included, so that
writing a URL only joins them. -/
namespace SignedRest

namespace Url

structure Authority where
  username : String
  password : Option String
  host : Host
  port : Option Nat
  deriving DecidableEq, Repr

/-- Segments have a slash in front of each. A path of the other kind belongs to a URL that
nothing is relative to. -/
inductive Path
  | segments (list : List String)
  | verbatim (text : String)
  deriving DecidableEq, Repr

end Url

structure Url where
  scheme : String
  authority : Option Url.Authority
  path : Url.Path
  query : Option String
  fragment : Option String
  deriving DecidableEq, Repr

namespace Url

inductive Kind
  | file | web | other
  deriving DecidableEq, Repr

def Kind.isSpecial : Kind → Bool
  | .other => false
  | _ => true

def defaultPort (scheme : String) : Option Nat :=
  if scheme = "http" || scheme = "ws" then some 80
  else if scheme = "https" || scheme = "wss" then some 443
  else if scheme = "ftp" then some 21
  else none

def kindOf (scheme : String) : Kind :=
  if scheme = "file" then .file else if (defaultPort scheme).isSome then .web else .other

def kind (u : Url) : Kind := kindOf u.scheme

def isHttp (u : Url) : Bool := u.scheme = "http" || u.scheme = "https"

def effectivePort (scheme : String) (port : Option Nat) : Option Nat :=
  port.filter (some · != defaultPort scheme)

def host? (u : Url) : Option Host := u.authority.map (·.host)
def port? (u : Url) : Option Nat := u.authority.bind (·.port)

def withoutFragment (u : Url) : Url := { u with fragment := none }

def queryPairs (u : Url) : List (String × String) :=
  match u.query with
  | some q => Form.decodeString q
  | none => []

def Authority.credentials (a : Authority) : String :=
  match a.password with
  | some password => a.username ++ ":" ++ password ++ "@"
  | none => if a.username = "" then "" else a.username ++ "@"

def Authority.write (a : Authority) : String :=
  "//" ++ a.credentials ++ a.host.write ++
    match a.port with
    | some port => ":" ++ toString port
    | none => ""

def Path.write : Path → String
  | .segments list => String.join (list.map ("/" ++ ·))
  | .verbatim text => text

/-- What keeps a path with an empty first segment from being read as an authority. -/
def guard (u : Url) : String :=
  match u.authority, u.path with
  | none, .segments ("" :: _ :: _) => "/."
  | _, _ => ""

def writeBase (u : Url) : String :=
  u.scheme ++ ":" ++ (u.authority.map (·.write)).getD "" ++ u.guard ++ u.path.write

def write (u : Url) : String :=
  u.writeBase ++ (u.query.map ("?" ++ ·)).getD "" ++ (u.fragment.map ("#" ++ ·)).getD ""

def keepVisible (except : List Char) (b : UInt8) : Bool :=
  Host.isVisible b && !except.contains (Char.ofNat b.toNat)

def inFragment : UInt8 → Bool := keepVisible [' ', '"', '<', '>', '\x60']
def inPath : UInt8 → Bool := keepVisible [' ', '"', '<', '>', '\x60', '#', '?', '\x7b', '\x7d']

def inUserinfo : UInt8 → Bool :=
  keepVisible [' ', '"', '<', '>', '\x60', '#', '?', '\x7b', '\x7d', '/', ':', ';', '=', '@',
    '[', '\\', ']', '^', '|']

def inQuery : UInt8 → Bool := keepVisible [' ', '"', '#', '<', '>']
def inWebQuery : UInt8 → Bool := keepVisible [' ', '"', '#', '<', '>', '\x27']

def Kind.inQuery (k : Kind) : UInt8 → Bool := if k.isSpecial then inWebQuery else Url.inQuery

def escape (keep : UInt8 → Bool) (cs : List Char) : String :=
  String.ofList (Percent.encodeBytes keep (Utf8.encode (String.ofList cs)))

end Url
end SignedRest
