import SignedRest.Multipart
import SignedRest.Text.Cut

/-! Multipart bodies taken apart: what stands between the delimiters, and in it the header lines
up to the first empty one. -/
namespace SignedRest.Multipart

structure Part where
  lines : List Bytes
  content : Bytes
  deriving DecidableEq, Repr

def readLines (bs : Bytes) : Option (List Bytes × Bytes) :=
  match _h : cutAt crlf bs with
  | none => none
  | some ([], rest) => some ([], rest)
  | some (line, rest) => (readLines rest).map fun (lines, rest) => (line :: lines, rest)
termination_by bs.length
decreasing_by exact cutAt_length (by decide) _h

theorem readLines_length {bs : Bytes} {r : List Bytes × Bytes} (h : readLines bs = some r) :
    r.2.length < bs.length := by
  fun_induction readLines bs generalizing r with
  | case1 => cases h
  | case2 bs rest eq =>
    cases h
    exact cutAt_length (by decide) eq
  | case3 bs line rest _ eq ih =>
    obtain ⟨⟨_, _⟩, more, same⟩ := Option.map_eq_some_iff.mp h
    cases same
    have later := ih more
    exact Nat.lt_trans later (cutAt_length (by decide) eq)

def readPart (boundary : String) (bs : Bytes) : Option (Part × Bytes) := do
  let (lines, rest) ← readLines bs
  let (content, rest) ← cutAt (crlf ++ delimiter boundary) rest
  pure (⟨lines, content⟩, rest)

theorem readPart_length {boundary : String} {bs : Bytes} {r : Part × Bytes}
    (h : readPart boundary bs = some r) : r.2.length < bs.length := by
  obtain ⟨⟨lines, rest⟩, eqLines, h⟩ := Option.bind_eq_some_iff.mp h
  obtain ⟨⟨content, after⟩, eqContent, h⟩ := Option.bind_eq_some_iff.mp h
  cases h
  have first := readLines_length eqLines
  have second := cutAt_length (by simp [crlf]) eqContent
  exact Nat.lt_trans second first

/-- The parts behind a delimiter; two hyphens there close the body. -/
def readParts (boundary : String) (bs : Bytes) : Option (List Part) :=
  if [0x2D, 0x2D].isPrefixOf bs then some []
  else
    match bs with
    | 0x0D :: 0x0A :: rest =>
      match _h : readPart boundary rest with
      | none => none
      | some (part, rest) => (readParts boundary rest).map (part :: ·)
    | _ => none
termination_by bs.length
decreasing_by
  have := readPart_length _h
  simp only [List.length_cons] at this ⊢
  omega

def read (boundary : String) (body : Bytes) : Option (List Part) :=
  (dropWord (delimiter boundary) body).bind (readParts boundary)

namespace Part

def quote : Bytes := [0x22]

def disposition? (p : Part) : Option (Bytes × Option Bytes) := do
  let line ← p.lines.head?
  let rest ← dropWord (Utf8.encode "Content-Disposition: form-data; name=\"") line
  let (name, rest) ← cutAt quote rest
  if rest.isEmpty then pure (name, none)
  else do
    let rest ← dropWord (Utf8.encode "; filename=\"") rest
    let (file, rest) ← cutAt quote rest
    if rest.isEmpty then pure (name, some file) else none

def contentTypes (p : Part) : List Bytes :=
  p.lines.filterMap (dropWord (Utf8.encode "Content-Type: "))

end Part
end SignedRest.Multipart
