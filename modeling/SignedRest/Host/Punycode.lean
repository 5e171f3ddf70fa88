/-! Code points beyond ASCII written with ASCII letters and digits, after the ASCII ones of the
same text: each is a difference from the one before it, in digits of a base-36 system whose
thresholds follow the differences seen so far. -/
namespace SignedRest.Punycode

def digitChar (d : Nat) : Char := if d < 26 then Char.ofNat (97 + d) else Char.ofNat (22 + d)

def digitValue (c : Char) : Option Nat :=
  if c.isLower then some (c.toNat - 97)
  else if c.isUpper then some (c.toNat - 65)
  else if c.isDigit then some (c.toNat - 22)
  else none

/-- The least digit that ends a number at position `k`. -/
def threshold (k bias : Nat) : Nat := if k ≤ bias then 1 else min 26 (k - bias)

theorem threshold_pos (k bias : Nat) : 0 < threshold k bias := by
  unfold threshold
  split <;> omega

def reduce (delta k : Nat) : Nat × Nat :=
  if 455 < delta then reduce (delta / 35) (k + 36) else (delta, k)
termination_by delta

/-- The bias after a difference, when `count` code points are written. -/
def adapt (delta count : Nat) (isFirst : Bool) : Nat :=
  let d := if isFirst then delta / 700 else delta / 2
  let (rest, k) := reduce (d + d / count) 0
  k + 36 * rest / (rest + 38)

def writeNumber (bias k q : Nat) : List Char :=
  let t := threshold k bias
  if q < t then [digitChar q]
  else digitChar (t + (q - t) % (36 - t)) :: writeNumber bias (k + 36) ((q - t) / (36 - t))
termination_by q
decreasing_by
  have := threshold_pos k bias
  exact Nat.lt_of_le_of_lt (Nat.div_le_self _ _) (by omega)

structure Writing where
  out : List Char
  delta : Nat
  bias : Nat
  written : Nat

def Writing.pass (plain m : Nat) (w : Writing) (c : Char) : Writing :=
  if c.toNat < m then { w with delta := w.delta + 1 }
  else if c.toNat = m then
    ⟨w.out ++ writeNumber w.bias 36 w.delta, 0, adapt w.delta (w.written + 1) (w.written = plain),
      w.written + 1⟩
  else w

/-- Places the code points, given in ascending order, the next of which is at least `n`. -/
def Writing.place (text : List Char) (plain : Nat) : List Nat → Nat → Writing → Writing
  | [], _, w => w
  | m :: more, n, w =>
    let w := { w with delta := w.delta + (m - n) * (w.written + 1) }
    let w := text.foldl (Writing.pass plain m) w
    Writing.place text plain more (m + 1) { w with delta := w.delta + 1 }

def insertDistinct (x : Nat) : List Nat → List Nat
  | [] => [x]
  | y :: ys => if x < y then x :: y :: ys else if x = y then y :: ys else y :: insertDistinct x ys

def encode (text : List Char) : List Char :=
  let plain := text.filter (·.toNat < 128)
  let others := (text.filter (128 ≤ ·.toNat)).foldl (fun l c => insertDistinct c.toNat l) []
  let w := Writing.place text plain.length others 128 ⟨[], 0, 72, plain.length⟩
  plain ++ (if plain.isEmpty then [] else ['-']) ++ w.out

/-- Reads one number from position `k` on, added to `i`; it must fit 32 bits. -/
def readNumber (bias : Nat) : List Char → (k weight i : Nat) → Option (Nat × List Char)
  | [], _, _, _ => none
  | c :: rest, k, weight, i =>
    match digitValue c with
    | none => none
    | some d =>
      let t := threshold k bias
      if Nat.pow 2 32 ≤ i + d * weight then none
      else if d < t then some (i + d * weight, rest)
      else if Nat.pow 2 32 ≤ weight * (36 - t) then none
      else readNumber bias rest (k + 36) (weight * (36 - t)) (i + d * weight)

theorem readNumber_length {bias : Nat} {cs : List Char} {k weight i : Nat} {r : Nat × List Char}
    (h : readNumber bias cs k weight i = some r) : r.2.length < cs.length := by
  fun_induction readNumber bias cs k weight i <;> simp_all <;> grind

/-- Reads the insertions one after the other; `n` is the latest code point and `i` the place
after it. -/
def readInsertions (cs out : List Char) (n i bias : Nat) : Option (List Char) :=
  if cs.isEmpty then some out
  else
    match _h : readNumber bias cs 36 1 i with
    | none => none
    | some (j, rest) =>
      let count := out.length + 1
      let code := n + j / count
      if code.isValidChar then
        readInsertions rest (out.take (j % count) ++ Char.ofNat code :: out.drop (j % count)) code
          (j % count + 1) (adapt (j - i) count (i = 0))
      else none
termination_by cs.length
decreasing_by exact readNumber_length _h

/-- The text of an encoded form: what stands before the last hyphen is plain. -/
def decode (cs : List Char) : Option (List Char) :=
  let tail := (cs.reverse.takeWhile (· != '-')).reverse
  let plain := cs.take (cs.length - tail.length - 1)
  if plain.isEmpty then readInsertions cs [] 128 0 72 else readInsertions tail plain 128 0 72

end SignedRest.Punycode
