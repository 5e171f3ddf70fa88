import SignedRest.Json.Writer
import SignedRest.Params
import SignedRest.Text.Utf8

/-! The body of a request and the type that it is sent with, and parameters as the parts of a
`multipart/form-data` body. Texts become fields; binary parameters become file parts with a content
type. -/
namespace SignedRest

structure Payload where
  contentType : String
  body : Bytes
  deriving DecidableEq, Repr

namespace Payload

def form (text : String) : Payload := ⟨"application/x-www-form-urlencoded", Utf8.encode text⟩

def json (value : Json) : Payload := ⟨"application/json", Utf8.encode value.write⟩

end Payload

namespace Multipart

def crlf : Bytes := [0x0D, 0x0A]

/-- Quotes and line ends cannot stand in a quoted name. -/
def escapeChar (c : Char) : List Char :=
  if c = '"' then ['%', '2', '2']
  else if c = '\r' then ['%', '0', 'D']
  else if c = '\n' then ['%', '0', 'A']
  else [c]

def escape (s : String) : String := String.ofList (s.toList.flatMap escapeChar)

def disposition (p : Param) : String :=
  "Content-Disposition: form-data; name=\"" ++ escape p.name ++ "\"" ++
    match p.fileName? with
    | some file => "; filename=\"" ++ escape file ++ "\""
    | none => ""

def headerLines (p : Param) : List String :=
  disposition p ::
    match p.contentType? with
    | some contentType => ["Content-Type: " ++ contentType]
    | none => []

def headerBlock (p : Param) : Bytes := (headerLines p).flatMap (Utf8.encode · ++ crlf)

def delimiter (boundary : String) : Bytes := Utf8.encode ("--" ++ boundary)

def part (boundary : String) (p : Param) : Bytes :=
  delimiter boundary ++ crlf ++ headerBlock p ++ crlf ++ p.content ++ crlf

def body (boundary : String) (params : List Param) : Bytes :=
  params.flatMap (part boundary) ++ Utf8.encode ("--" ++ boundary ++ "--") ++ crlf

def payload (boundary : String) (params : Params) : Payload :=
  ⟨"multipart/form-data; boundary=" ++ boundary, body boundary params.items⟩

end Multipart
end SignedRest
