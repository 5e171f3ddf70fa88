import SignedRest.Text.Utf8
import SignedRest.Host.Basic
import SignedRest.Xml.Fault

/-! Everything that can go wrong with an endpoint and its calls, by cause. The wording is in one
place, at the end. -/
namespace SignedRest

inductive SigningFault
  | noConsumerSecret
  | noRequestToken
  | portNotSettable (url : String)
  deriving DecidableEq, Repr

inductive ResponseFault
  | missingField (name : String)
  | unreadableJson
  | createdAt (seconds : Int)
  | expiresIn (seconds : Int)
  | noResponse
  | notUtf8 (index : Nat) (fault : Utf8.Fault)
  | unclosedElement
  | noRootElement
  deriving DecidableEq, Repr

inductive BindingFault
  | wrongCount (expected got : Nat)
  | unbound (template : String)
  deriving DecidableEq, Repr

inductive BuildFault
  | binaryParams (method : String)
  | refused (reason : String)
  deriving DecidableEq, Repr

inductive TransportFault
  | connect | timeout | redirect | request | body | decode | other
  deriving DecidableEq, Repr

inductive Error
  | signing (fault : SigningFault)
  | invalidResponse (fault : ResponseFault)
  | emptyPayload
  | noRefreshToken
  | accessTokenExpired
  | transport (fault : TransportFault)
  /-- A status that is no success. -/
  | http (status : Nat) (reason body : String)
  | cancelled
  | binding (fault : BindingFault)
  | callReused
  | requestBuild (fault : BuildFault)
  | json
  | url (fault : UrlError)
  | xml (fault : Xml.MarkupFault)
  deriving DecidableEq, Repr

def Error.ofXml : Xml.Fault → Error
  | .markup f => .xml f
  | .unclosed => .invalidResponse .unclosedElement
  | .noRoot => .invalidResponse .noRootElement

def SigningFault.message : SigningFault → String
  | .noConsumerSecret => "consumer secret is not set"
  | .noRequestToken => "no request token has been obtained"
  | .portNotSettable url => "cannot set port on " ++ url

def ResponseFault.message : ResponseFault → String
  | .missingField name => name ++ " not found in token response"
  | .unreadableJson => "token response is not valid JSON"
  | .createdAt seconds => "invalid created_at " ++ toString seconds
  | .expiresIn seconds => "invalid expires_in " ++ toString seconds
  | .noResponse => "call has no response"
  | .notUtf8 index fault => "XML payload is not UTF-8: " ++ fault.message index
  | .unclosedElement => "unclosed XML element"
  | .noRootElement => "XML document has no root element"

def BindingFault.message : BindingFault → String
  | .wrongCount expected got =>
    "URL template expects " ++ toString expected ++ " value(s), got " ++ toString got
  | .unbound template => "proxy URL " ++ template ++ " has not been bound"

def BuildFault.message : BuildFault → String
  | .binaryParams method => "binary parameters cannot be sent with " ++ method
  | .refused reason => reason

/-- The text of an error, without what a library says of an error of its own. -/
def Error.message : Error → String
  | .signing f => "signing failed: " ++ f.message
  | .invalidResponse f => "invalid response: " ++ f.message
  | .emptyPayload => "empty response payload"
  | .noRefreshToken => "no refresh token available"
  | .accessTokenExpired => "access token has expired"
  | .transport _ => "transport error"
  | .http status reason _ => "HTTP error " ++ toString status ++ " " ++ reason
  | .cancelled => "call cancelled"
  | .binding f => "binding error: " ++ f.message
  | .callReused => "call has already been invoked"
  | .requestBuild f => "failed to build request: " ++ f.message
  | .json => "JSON error"
  | .url f => "URL parse error: " ++ f.message
  | .xml _ => "XML error"

section
variable {α ε ε' : Type} (f : ε → ε')

theorem mapError_ok (a : α) : (Except.ok a).mapError f = .ok a := rfl

theorem mapError_error (e : ε) : (Except.error e : Except ε α).mapError f = .error (f e) := rfl

theorem mapError_eq_ok {f : ε → ε'} {x : Except ε α} {a : α} (h : x.mapError f = .ok a) :
    x = .ok a := by
  cases x with
  | error e => cases h
  | ok b => exact congrArg Except.ok (Except.ok.inj h)

end

/-- A result that depends on another one is had only with that. -/
theorem exceptBind_eq_ok {ε α β : Type} {x : Except ε α} {f : α → Except ε β} {b : β}
    (h : x.bind f = .ok b) : ∃ a, x = .ok a ∧ f a = .ok b := by
  cases x with
  | error e => cases h
  | ok a => exact ⟨a, rfl, h⟩

end SignedRest
