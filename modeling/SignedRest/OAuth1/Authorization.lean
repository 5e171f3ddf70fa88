import SignedRest.OAuth1.Signature
import SignedRest.Text.Cut

/-! The value of an `Authorization` header that carries protocol parameters. The realm is a
quoted string; names and values of parameters are percent-encoded. Reading takes any fields with
quoted values, and leaves it to the caller what they mean. -/
namespace SignedRest.OAuth1.Authorization

def escapeChar (c : Char) : List Char := if c = '\\' || c = '"' then ['\\', c] else [c]

def quote (s : String) : String := "\"" ++ String.ofList (s.toList.flatMap escapeChar) ++ "\""

def realmField (realm : String) : String := "realm=" ++ quote realm

def paramField (p : Pair) : String :=
  Percent.encode p.1 ++ "=\"" ++ Percent.encode p.2 ++ "\""

def fields (realm : Option String) (pairs : List Pair) : List String :=
  (realm.map realmField).toList ++ pairs.map paramField

def write (realm : Option String) (pairs : List Pair) : String :=
  "OAuth " ++ String.intercalate ", " (fields realm pairs)

/-- The text up to the closing quote; a backslash makes the next character stand for itself. -/
def readQuoted : List Char → Option (List Char × List Char)
  | [] => none
  | '"' :: rest => some ([], rest)
  | '\\' :: c :: rest => (readQuoted rest).map fun (text, after) => (c :: text, after)
  | c :: rest => (readQuoted rest).map fun (text, after) => (c :: text, after)

theorem readQuoted_length {cs : List Char} {r : List Char × List Char}
    (h : readQuoted cs = some r) : r.2.length < cs.length := by
  fun_induction readQuoted cs generalizing r <;> simp_all <;> grind

def readField (cs : List Char) : Option (Pair × List Char) :=
  match cutAt ['=', '"'] cs with
  | none => none
  | some (name, rest) =>
    (readQuoted rest).map fun (value, after) =>
      ((String.ofList name, String.ofList value), after)

theorem readField_length {cs : List Char} {r : Pair × List Char} (h : readField cs = some r) :
    r.2.length < cs.length := by
  unfold readField at h
  split at h
  · cases h
  · rename_i name rest eq
    obtain ⟨⟨value, after⟩, more, same⟩ := Option.map_eq_some_iff.mp h
    cases same
    exact Nat.lt_trans (readQuoted_length more) (cutAt_length (by simp) eq)

def readFields (cs : List Char) : Option (List Pair) :=
  match _h : readField cs with
  | none => none
  | some (p, []) => some [p]
  | some (p, ',' :: ' ' :: rest) => (readFields rest).map (p :: ·)
  | some _ => none
termination_by cs.length
decreasing_by
  have := readField_length _h
  simp only [List.length_cons] at this ⊢
  omega

def read (value : String) : Option (List Pair) :=
  (dropWord "OAuth ".toList value.toList).bind fun cs =>
    if cs.isEmpty then some [] else readFields cs

def decodePair (p : Pair) : Pair := (Percent.decodeText p.1, Percent.decodeText p.2)

def isRealm (p : Pair) : Bool := p.1 = "realm"

/-- The parameters of a header: every field but the realm, decoded. -/
def params (value : String) : List Pair :=
  (((read value).getD []).filter (!isRealm ·)).map decodePair

end SignedRest.OAuth1.Authorization
