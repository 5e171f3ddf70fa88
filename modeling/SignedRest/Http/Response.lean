import SignedRest.Error
import SignedRest.Http.Message
import SignedRest.Json.Basic
import SignedRest.Json.Reader
import SignedRest.Xml.Reader

/-! Responses, and their payload read as text, JSON or XML. -/
namespace SignedRest

structure Response where
  status : Nat
  reason : String
  headers : List (String × Bytes)
  payload : Bytes
  deriving DecidableEq, Repr

namespace Response

def isSuccess (r : Response) : Bool := Http.isSuccess r.status

def text (r : Response) : String := Utf8.decodeLossy r.payload

def checkStatus (r : Response) : Except Error Unit :=
  if r.isSuccess then .ok () else .error (.http r.status r.reason r.text)

/-- The first value of a header, if it is text. What is no header name names none. -/
def header? (r : Response) (name : String) : Option String :=
  if !Ascii.isToken name then none
  else (r.headers.find? (fun h => Ascii.sameLetters h.1 name)).bind (Http.text? ·.2)

def json (r : Response) : Except Error Json :=
  match Json.parse r.payload with
  | some value => .ok value
  | none => .error .json

def get? (r : Response) (path : String) : Option Json :=
  (Json.parse r.payload).bind (Json.lookup · path)

def getText? (r : Response) (path : String) : Option String := (r.get? path).bind Json.text?

def xmlTraced (r : Response) : List Xml.Opening × Except Error Xml.Node :=
  match Utf8.decode r.payload with
  | .error (index, fault) => ([], .error (.invalidResponse (.notUtf8 index fault)))
  | .ok text => ((Xml.Node.parseTraced text).1, (Xml.Node.parseTraced text).2.mapError .ofXml)

def xml (r : Response) : Except Error Xml.Node := r.xmlTraced.2

end Response
end SignedRest
