import SignedRest.Xml.Entity
import SignedRest.Xml.Node
import SignedRest.Xml.Token

/-! Documents read into their root element. The first root is the answer; what follows it must
still be sound. Reading also tells which elements were opened, and how deep. -/
namespace SignedRest.Xml

def isKeyEnd (c : Char) : Bool := c = '=' || isSpace c

def attributes (done : List (String × String)) (cs : List Char) :
    Except MarkupFault (List (String × String)) :=
  match _start : cs.dropWhile isSpace with
  | [] => .ok done
  | c :: rest =>
    match _eq : (rest.dropWhile (!isKeyEnd ·)).dropWhile isSpace with
    | '=' :: more =>
      let key := String.ofList (c :: rest.takeWhile (!isKeyEnd ·))
      if done.any (·.1 = key) then .error (.attribute .duplicated)
      else
        match _value : more.dropWhile isSpace with
        | [] => .error (.attribute .expectedValue)
        | q :: quoted =>
          if q = '\x27' || q = '"' then
            match _quote : quoted.dropWhile (· ≠ q) with
            | [] => .error (.attribute .expectedQuote)
            | _ :: after => do
              let value ← (unescape (quoted.takeWhile (· ≠ q))).mapError .entity
              attributes (done ++ [(key, String.ofList value)]) after
          else .error (.attribute .unquotedValue)
    | _ => .error (.attribute .expectedEq)
termination_by cs.length
decreasing_by
  have h₁ := (List.dropWhile_sublist isSpace (l := cs)).length_le
  have h₂ := (List.dropWhile_sublist isSpace (l := rest.dropWhile (!isKeyEnd ·))).length_le
  have h₃ := (List.dropWhile_sublist (!isKeyEnd ·) (l := rest)).length_le
  have h₄ := (List.dropWhile_sublist isSpace (l := more)).length_le
  have h₅ := (List.dropWhile_sublist (fun c : Char => decide (c ≠ q)) (l := quoted)).length_le
  rw [_start] at h₁
  rw [_eq] at h₂
  rw [_value] at h₄
  rw [_quote] at h₅
  simp only [List.length_cons] at *
  omega

def elementOf (name attrs : List Char) : Except MarkupFault Node :=
  (attributes [] attrs).map fun list => .element (String.ofList name) list none []

structure Opening where
  isEmpty : Bool
  depth : Nat
  name : String
  deriving DecidableEq, Repr

/-- The open elements, innermost first, and the root once it is closed. -/
structure Reading where
  opened : List Node
  root : Option Node

namespace Reading

def start : Reading := ⟨[], none⟩

/-- A finished element goes into the one around it, or becomes the root. -/
def attach (r : Reading) (n : Node) : Reading :=
  match r.opened with
  | parent :: rest => { r with opened := parent.addChild n :: rest }
  | [] => { r with root := some (r.root.getD n) }

/-- Text outside the root counts for nothing. -/
def addText (r : Reading) (text : List Char) : Reading :=
  match r.opened with
  | parent :: rest => { r with opened := parent.addText (String.ofList text) :: rest }
  | [] => r

def close (r : Reading) (name : List Char) : Except MarkupFault Reading :=
  match r.opened with
  | n :: rest =>
    if n.name = String.ofList name then .ok ({ r with opened := rest }.attach n)
    else .error .endMismatch
  | [] => .error .endMismatch

def step (r : Reading) : Token → Except MarkupFault (Reading × List Opening)
  | .opening name attrs => do
    let n ← elementOf name attrs
    pure ({ r with opened := n :: r.opened }, [⟨false, r.opened.length, n.name⟩])
  | .empty name attrs => do
    let n ← elementOf name attrs
    pure (r.attach n, [⟨true, r.opened.length, n.name⟩])
  | .closing name => (r.close name).map (·, [])
  | .text raw => (unescape raw).mapError .entity |>.map fun text => (r.addText text, [])
  | .literal text => .ok (r.addText text, [])
  | .remark => .ok (r, [])
  | .fault f => .error f

def finish (r : Reading) : Except Fault Node :=
  match r.opened, r.root with
  | _ :: _, _ => .error .unclosed
  | [], some n => .ok n
  | [], none => .error .noRoot

/-- The elements started until the end or the first fault, and the outcome. -/
def run (r : Reading) : List Token → List Opening × Except Fault Node
  | [] => ([], r.finish)
  | t :: rest =>
    match r.step t with
    | .error f => ([], .error (.markup f))
    | .ok (r, opened) => (opened ++ (r.run rest).1, (r.run rest).2)

end Reading

def Node.parseTraced (s : String) : List Opening × Except Fault Node :=
  Reading.start.run (Token.ofText s.toList)

def Node.parse (s : String) : Except Fault Node := (Node.parseTraced s).2

end SignedRest.Xml
