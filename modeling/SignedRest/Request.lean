import SignedRest.Error
import SignedRest.Headers
import SignedRest.Multipart
import SignedRest.Text.Form

/-! Requests as they are handed over for sending, and how parameters get into them: behind the
URL, in a form, or in the parts of a multipart body. -/
namespace SignedRest

/-- Names of methods are compared letter by letter: `post` is not `POST`. -/
structure Method where
  name : String
  isToken : Ascii.isToken name = true
  deriving DecidableEq, Repr

namespace Method

def ofName? (name : String) : Option Method :=
  if h : Ascii.isToken name = true then some ⟨name, h⟩ else none

def get : Method := ⟨"GET", by decide⟩
def head : Method := ⟨"HEAD", by decide⟩
def post : Method := ⟨"POST", by decide⟩
def put : Method := ⟨"PUT", by decide⟩
def patch : Method := ⟨"PATCH", by decide⟩

def hasBody (m : Method) : Bool := m = post || m = put || m = patch

end Method

structure Request where
  method : Method
  url : String
  headers : List (String × String)
  payload : Option Payload
  deriving DecidableEq, Repr

namespace Request

def header? (r : Request) (name : String) : Option String := Headers.lookup? r.headers name

def body (r : Request) : Bytes := (r.payload.map (·.body)).getD []

end Request

/-- The base and a function path, with a slash in between where neither has one. -/
def joinPath (base : String) (function : Option String) : String :=
  match function with
  | none => base
  | some f =>
    if f = "" then base
    else if base.toList.getLast? = some '/' || f.toList.head? = some '/' then base ++ f
    else base ++ "/" ++ f

/-- The URL with more pairs behind its query, or with a query of its own. -/
def appendQuery (url query : String) : String :=
  if query = "" then url
  else if url.toList.contains '?' then url ++ "&" ++ query
  else url ++ "?" ++ query

inductive Encoding
  | query | form | multipart
  deriving DecidableEq, Repr

/-- One binary parameter is enough for a multipart body. -/
def Encoding.choose (m : Method) (ps : Params) : Encoding :=
  if !ps.areTexts then .multipart else if m.hasBody then .form else .query

def formText (ps : Params) : String := Form.encode ps.pairs

def encodeParams (m : Method) (url : String) (ps : Params) (boundary : String) :
    Except Error (String × Option Payload) :=
  match Encoding.choose m ps with
  | .query => .ok (appendQuery url (formText ps), none)
  | .form => .ok (url, some (.form (formText ps)))
  | .multipart =>
    if m.hasBody then .ok (url, some (Multipart.payload boundary ps))
    else .error (.requestBuild (.binaryParams m.name))

end SignedRest
