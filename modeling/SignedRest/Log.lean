import SignedRest.Error
import SignedRest.Time.Rfc3339

/-! What is logged: records by what they report, and their text. -/
namespace SignedRest

inductive CallState
  | unprepared
  | prepared
  | inFlight
  | completed
  | failed
  | cancelled
  deriving DecidableEq, Repr

namespace CallState

def name : CallState → String
  | .unprepared => "Unprepared"
  | .prepared => "Prepared"
  | .inFlight => "InFlight"
  | .completed => "Completed"
  | .failed => "Failed"
  | .cancelled => "Cancelled"

def isFinal : CallState → Bool
  | .completed | .failed | .cancelled => true
  | _ => false

end CallState

inductive Record
  | reused (state : CallState)
  | completed (method url : String) (status : Nat)
  | failed (method url : String) (error : Error)
  | signed (baseString : String)
  | storedToken (token : String)
  | storedTokens (expiration : Option Instant) (refresh : Bool)
  | element (isEmpty : Bool) (depth : Nat) (name : String)
  deriving DecidableEq, Repr

namespace Record

inductive Level
  | warn | debug
  deriving DecidableEq, Repr

def level : Record → Level
  | reused _ => .warn
  | _ => .debug

def target : Record → String
  | reused _ | completed .. | failed .. => "restproxy::call"
  | signed _ | storedToken _ | storedTokens .. => "restproxy::oauth"
  | element .. => "restproxy::xml"

def message : Record → String
  | reused _ => "call has already been invoked"
  | completed .. => "call completed"
  | failed .. => "call failed"
  | signed _ => "signed OAuth1 call"
  | storedToken _ => "stored OAuth1 token"
  | storedTokens .. => "stored OAuth2 tokens"
  | element isEmpty _ _ => if isEmpty then "empty" else "open"

inductive FieldValue
  | text (s : String)
  | number (n : Nat)
  | flag (b : Bool)
  | instant (t : Option Instant)
  deriving DecidableEq, Repr

def fields : Record → List (String × FieldValue)
  | reused state => [("state", .text state.name)]
  | completed method url status =>
    [("method", .text method), ("url", .text url), ("status", .number status)]
  | failed method url error =>
    [("method", .text method), ("url", .text url), ("error", .text error.message)]
  | signed baseString => [("base_string", .text baseString)]
  | storedToken token => [("token", .text token)]
  | storedTokens expiration refresh =>
    [("expiration", .instant expiration), ("refresh", .flag refresh)]
  | element _ depth name => [("depth", .number depth), ("element", .text name)]

end Record
end SignedRest
