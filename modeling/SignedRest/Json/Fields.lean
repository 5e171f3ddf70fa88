import SignedRest.Json.Reader

/-! Records read from a JSON source. A record is an object with known keys, of which each may
occur once, or an array of exactly its fields. What unknown keys hold is not looked at. -/
namespace SignedRest.Json.Source

def fieldsOfMembers (keys : List String) (members : List (List Piece × Source)) :
    Option (List Source) := do
  let named ← members.mapM fun (k, v) => (Piece.text k).map fun name => (name, v)
  keys.mapM fun key =>
    match named.filter (·.1 = key) with
    | [] => some .null
    | [(_, v)] => some v
    | _ => none

def fields (keys : List String) : Source → Option (List Source)
  | .object members => fieldsOfMembers keys members
  | .array items => if items.length = keys.length then some items else none
  | _ => none

def text? : Source → Option (Option String)
  | .null => some none
  | .string s => (Piece.text s).map some
  | _ => none

def integer? : Source → Option (Option Int)
  | .null => some none
  | .number d =>
    match d.value with
    | some (.integer n) => if -Int.pow 2 63 ≤ n ∧ n < Int.pow 2 63 then some (some n) else none
    | _ => none
  | _ => none

end SignedRest.Json.Source
