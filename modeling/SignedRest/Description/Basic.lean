import SignedRest.Endpoint
import SignedRest.Time.Rfc3339
import SignedRest.Unicode.Printable

/-! Values described in one line, for people: records by the names of their fields, and texts in
quotes with everything escaped that does not show by itself. -/
namespace SignedRest.Description

def escapeChar (c : Char) : List Char :=
  if c = '"' then ['\\', '"']
  else if c = '\\' then ['\\', '\\']
  else if c = '\n' then ['\\', 'n']
  else if c = '\r' then ['\\', 'r']
  else if c = '\t' then ['\\', 't']
  else if c.toNat = 0 then ['\\', '0']
  else if Unicode.isPrintable c then [c]
  else ['\\', 'u', '\x7b'] ++ Nat.toDigits 16 c.toNat ++ ['\x7d']

def text (s : String) : String := "\"" ++ String.ofList (s.toList.flatMap escapeChar) ++ "\""

def flag (b : Bool) : String := if b then "true" else "false"

def option (describe : α → String) : Option α → String
  | none => "None"
  | some a => "Some(" ++ describe a ++ ")"

def record (name : String) (fields : List (String × String)) : String :=
  name ++ " \x7b " ++ String.intercalate ", " (fields.map fun f => f.1 ++ ": " ++ f.2) ++ " \x7d"

/-- Zeros at the end of a fraction are left out, and then the point. -/
def fraction (digits : List Char) : List Char :=
  match (digits.reverse.dropWhile (· = '0')).reverse with
  | [] => []
  | ds => '.' :: ds

/-- A time in milliseconds, in the largest unit that it has one of. -/
def duration (ms : Nat) : String :=
  if ms = 0 then "0ns"
  else if ms < 1000 then toString ms ++ "ms"
  else toString (ms / 1000) ++ String.ofList (fraction (Rfc3339.padded 3 (ms % 1000))) ++ "s"

def debugFlags (d : DebugFlags) : String :=
  record "DebugFlags" [("calls", flag d.calls), ("oauth", flag d.oauth), ("xml", flag d.xml)]

def config (c : Config) : String :=
  record "Config" [("url_format", text c.template), ("binding_required", flag c.bindingRequired),
    ("user_agent", option text c.userAgent), ("timeout", duration c.timeoutMs),
    ("connect_timeout", duration c.connectTimeoutMs),
    ("upload_timeout", duration c.uploadTimeoutMs), ("ssl_strict", flag c.strictTls),
    ("debug", debugFlags c.debug)]

def endpoint (e : Endpoint) (hasHook : Bool) : String :=
  record "Proxy" [("config", config e.config), ("bound", flag e.bound.isSome),
    ("hook", flag hasHook)]

end SignedRest.Description
