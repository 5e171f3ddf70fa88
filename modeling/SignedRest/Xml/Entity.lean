import SignedRest.Xml.Fault
import SignedRest.Text.Ascii

/-! Characters written by name or number between `&` and `;`. -/
namespace SignedRest.Xml

def byteCount (cs : List Char) : Nat := cs.foldl (fun n c => n + c.utf8Size) 0

def digitsIn (base : Nat) (invalid : EntityFault) (cs : List Char) : Except EntityFault Nat :=
  cs.foldlM (fun n c =>
    match (Ascii.hexValue c).filter (· < base) with
    | some d => .ok (n * base + d)
    | none => .error invalid) 0

/-- The number after `#`: hexadecimal behind an `x`, else decimal. -/
def codePoint (cs : List Char) : Except EntityFault Nat :=
  match cs with
  | 'x' :: ds =>
    if 6 < byteCount ds then .error .tooLongHexadecimal
    else digitsIn 16 .invalidHexadecimal ds
  | ds =>
    if 7 < byteCount ds then .error .tooLongDecimal else digitsIn 10 .invalidDecimal ds

def numbered (cs : List Char) : Except EntityFault Char := do
  let n ← codePoint cs
  if n = 0 then .error .null
  else if n.isValidChar then .ok (Char.ofNat n)
  else .error .invalidCodepoint

def named? (cs : List Char) : Option Char :=
  if cs = ['l', 't'] then some '<'
  else if cs = ['g', 't'] then some '>'
  else if cs = ['a', 'm', 'p'] then some '&'
  else if cs = ['a', 'p', 'o', 's'] then some '\x27'
  else if cs = ['q', 'u', 'o', 't'] then some '"'
  else none

def entity (cs : List Char) : Except EntityFault Char :=
  match cs with
  | '#' :: number => numbered number
  | name =>
    match named? name with
    | some c => .ok c
    | none => .error .unrecognized

def isEntityEnd (c : Char) : Bool := c = '&' || c = ';'

def unescape : List Char → Except EntityFault (List Char)
  | [] => .ok []
  | c :: rest =>
    if c = '&' then
      match _h : rest.dropWhile (!isEntityEnd ·) with
      | ';' :: more => do
        let e ← entity (rest.takeWhile (!isEntityEnd ·))
        let text ← unescape more
        pure (e :: text)
      | _ => .error .unterminated
    else (unescape rest).map (c :: ·)
termination_by cs => cs.length
decreasing_by
  all_goals simp_wf
  have := (List.dropWhile_sublist (!isEntityEnd ·) (l := rest)).length_le
  rw [_h] at this
  simp only [List.length_cons] at this
  omega

end SignedRest.Xml
