import SignedRest.Decimal.Unsigned

/-! JSON values. Objects are kept sorted by key, so an object has one form, and a number is
an integer of at most 64 bits or a double given by its bits. A value inside a value is addressed by
a path of keys and indices with slashes between. -/
namespace SignedRest

namespace Json

inductive Number
  | integer (n : Int)
  | double (bits : UInt64)
  deriving DecidableEq, Repr

end Json

inductive Json
  | null
  | bool (b : Bool)
  | number (n : Json.Number)
  | string (s : String)
  | array (items : List Json)
  | object (members : List (String × Json))
  deriving Repr, Inhabited

namespace Json

/-- Puts a member in its place by key; a later value of a key replaces an earlier one. -/
def insertMember (key : String) (value : Json) : List (String × Json) → List (String × Json)
  | [] => [(key, value)]
  | (k, v) :: rest =>
    if key < k then (key, value) :: (k, v) :: rest
    else if key = k then (key, value) :: rest
    else (k, v) :: insertMember key value rest

def ofMembers (members : List (String × Json)) : Json :=
  .object (members.foldl (fun sorted m => insertMember m.1 m.2 sorted) [])

def member? : Json → String → Option Json
  | .object members, key => (members.find? (·.1 == key)).map (·.2)
  | _, _ => none

def text? : Json → Option String
  | .string s => some s
  | _ => none

/-- A decimal index below 2^64, which a plus sign may precede. -/
def index? (s : String) : Option Nat := Decimal.unsigned? (Nat.pow 2 64) s.toList

def descend (v : Json) (segment : String) : Option Json :=
  match v with
  | .object _ => v.member? segment
  | .array items => (index? segment).bind (items[·]?)
  | _ => none

/-- The segments of a path; empty ones address nothing. -/
def segments (path : String) : List String :=
  ((path.toList.splitOn '/').filter (!·.isEmpty)).map String.ofList

def lookup (root : Json) (path : String) : Option Json := (segments path).foldlM descend root

end Json
end SignedRest
