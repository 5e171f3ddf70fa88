import SignedRest.Text.Ascii

/-! The grammar of JSON, apart from what its strings and numbers mean: bytes become tokens, and
tokens a tree whose strings still hold their escapes. Nothing here checks that a string is
UTF-8 or that a number fits a word. -/
namespace SignedRest.Json

/-- One byte of a string, or a UTF-16 unit that was written as an escape. -/
inductive Piece
  | byte (b : UInt8)
  | unit (u : Nat)
  deriving DecidableEq, Repr

structure Digits where
  negative : Bool
  whole : List Nat
  fraction : List Nat
  /-- Whether the exponent is negative, and its digits. -/
  exponent : Option (Bool × List Nat)
  deriving DecidableEq, Repr

inductive Source
  | null
  | bool (b : Bool)
  | number (d : Digits)
  | string (s : List Piece)
  | array (items : List Source)
  | object (members : List (List Piece × Source))
  deriving Repr

inductive Mark
  | openArray | closeArray | openObject | closeObject | comma | colon
  deriving DecidableEq, Repr

inductive Token
  | mark (m : Mark)
  | atom (v : Source)
  deriving Repr

namespace Source

def hexByte (b : UInt8) : Option Nat := Ascii.hexValue (Char.ofNat b.toNat)

def escaped (e : UInt8) : Option UInt8 :=
  if e = 0x22 || e = 0x5C || e = 0x2F then some e
  else if e = 0x62 then some 0x08
  else if e = 0x66 then some 0x0C
  else if e = 0x6E then some 0x0A
  else if e = 0x72 then some 0x0D
  else if e = 0x74 then some 0x09
  else none

def stringBody : Bytes → Option (List Piece × Bytes)
  | [] => none
  | c :: rest =>
    if c = 0x22 then some ([], rest)
    else if c = 0x5C then
      match rest with
      | 0x75 :: h₁ :: h₂ :: h₃ :: h₄ :: rest =>
        match hexByte h₁, hexByte h₂, hexByte h₃, hexByte h₄, stringBody rest with
        | some a, some b, some c, some d, some (s, after) =>
          some (.unit (((a * 16 + b) * 16 + c) * 16 + d) :: s, after)
        | _, _, _, _, _ => none
      | e :: rest =>
        match escaped e, stringBody rest with
        | some b, some (s, after) => some (.byte b :: s, after)
        | _, _ => none
      | [] => none
    else if c < 0x20 then none
    else (stringBody rest).map fun (s, after) => (.byte c :: s, after)

theorem stringBody_length {bs after : Bytes} {s : List Piece}
    (h : stringBody bs = some (s, after)) : after.length < bs.length := by
  fun_induction stringBody bs generalizing s after <;> simp_all <;> grind

def digits (bs : Bytes) : List Nat × Bytes :=
  ((bs.takeWhile Ascii.isDigit).map fun b => b.toNat - 48, bs.dropWhile Ascii.isDigit)

theorem digits_length (bs : Bytes) : (digits bs).2.length ≤ bs.length :=
  (List.dropWhile_sublist _).length_le

theorem digits_length_lt {bs after : Bytes} {ds : List Nat} (h : digits bs = (ds, after))
    (nonempty : ds ≠ []) : after.length < bs.length := by
  obtain ⟨taken, left⟩ := Prod.mk.inj h
  have whole := congrArg List.length
    (List.takeWhile_append_dropWhile (p := Ascii.isDigit) (l := bs))
  have count : (bs.takeWhile Ascii.isDigit).length = ds.length := by rw [← taken, List.length_map]
  have : 0 < ds.length := List.length_pos_iff.mpr nonempty
  rw [List.length_append, count, left] at whole
  omega

def signPart : Bytes → Bool × Bytes
  | [] => (false, [])
  | s :: rest =>
    if s = 0x2D then (true, rest) else if s = 0x2B then (false, rest) else (false, s :: rest)

theorem signPart_length (bs : Bytes) : (signPart bs).2.length ≤ bs.length := by
  cases bs with
  | nil => simp [signPart]
  | cons s rest =>
    simp only [signPart]
    split
    · simp
    · split <;> simp

def exponentPart : Bytes → Option (Option (Bool × List Nat) × Bytes)
  | [] => some (none, [])
  | e :: rest =>
    if e = 0x65 || e = 0x45 then
      match digits (signPart rest).2 with
      | ([], _) => none
      | (ds, after) => some (some ((signPart rest).1, ds), after)
    else some (none, e :: rest)

theorem exponentPart_length {bs : Bytes} {r : Option (Bool × List Nat) × Bytes}
    (h : exponentPart bs = some r) : r.2.length ≤ bs.length := by
  cases bs with
  | nil =>
    cases h
    exact Nat.le_refl _
  | cons e rest =>
    simp only [exponentPart] at h
    split at h
    · have short := signPart_length rest
      split at h
      · cases h
      · rename_i ds after more eq
        have := digits_length (signPart rest).2
        rw [eq] at this
        cases h
        simp only [List.length_cons] at this ⊢
        omega
    · cases h
      exact Nat.le_refl _

def fractionPart : Bytes → Option (List Nat × Bytes)
  | [] => some ([], [])
  | p :: rest =>
    if p = 0x2E then
      match digits rest with
      | ([], _) => none
      | (ds, after) => some (ds, after)
    else some ([], p :: rest)

theorem fractionPart_length {bs : Bytes} {r : List Nat × Bytes} (h : fractionPart bs = some r) :
    r.2.length ≤ bs.length := by
  cases bs with
  | nil =>
    cases h
    exact Nat.le_refl _
  | cons p rest =>
    simp only [fractionPart] at h
    split at h
    · split at h
      · cases h
      · rename_i ds after more eq
        have := digits_length rest
        rw [eq] at this
        cases h
        simp only [List.length_cons] at this ⊢
        omega
    · cases h
      exact Nat.le_refl _

/-- No digit may follow a leading zero. -/
def isWhole : List Nat → Bool
  | [] => false
  | 0 :: _ :: _ => false
  | _ => true

def numberBody (negative : Bool) (bs : Bytes) : Option (Digits × Bytes) :=
  if isWhole (digits bs).1 then
    match fractionPart (digits bs).2 with
    | none => none
    | some (fraction, rest) =>
      match exponentPart rest with
      | none => none
      | some (exponent, after) => some (⟨negative, (digits bs).1, fraction, exponent⟩, after)
  else none

theorem numberBody_length {negative : Bool} {bs : Bytes} {r : Digits × Bytes}
    (h : numberBody negative bs = some r) : r.2.length < bs.length := by
  unfold numberBody at h
  split at h
  · rename_i whole
    have first : (digits bs).2.length < bs.length := by
      refine @digits_length_lt bs (digits bs).2 (digits bs).1 rfl ?_
      intro none
      simp [none, isWhole] at whole
    split at h
    · cases h
    · rename_i fraction rest eqFraction
      have := fractionPart_length eqFraction
      split at h
      · cases h
      · rename_i exponent after eqExponent
        have := exponentPart_length eqExponent
        cases h
        simp only at *
        omega
  · cases h

def word? (w bs : Bytes) : Option Bytes := if w.isPrefixOf bs then some (bs.drop w.length) else none

theorem word?_length {w bs after : Bytes} (h : word? w bs = some after) :
    after.length ≤ bs.length := by
  unfold word? at h
  split at h
  · cases h
    rw [List.length_drop]
    exact Nat.sub_le ..
  · cases h

def mark? (c : UInt8) : Option Mark :=
  if c = 0x5B then some .openArray
  else if c = 0x5D then some .closeArray
  else if c = 0x7B then some .openObject
  else if c = 0x7D then some .closeObject
  else if c = 0x2C then some .comma
  else if c = 0x3A then some .colon
  else none

def token? (c : UInt8) (rest : Bytes) : Option (Token × Bytes) :=
  match mark? c with
  | some m => some (.mark m, rest)
  | none =>
    if c = 0x22 then (stringBody rest).map fun (s, after) => (.atom (.string s), after)
    else if c = 0x6E then (word? [0x75, 0x6C, 0x6C] rest).map fun after => (.atom .null, after)
    else if c = 0x74 then
      (word? [0x72, 0x75, 0x65] rest).map fun after => (.atom (.bool true), after)
    else if c = 0x66 then
      (word? [0x61, 0x6C, 0x73, 0x65] rest).map fun after => (.atom (.bool false), after)
    else if c = 0x2D then
      (numberBody true rest).map fun (d, after) => (.atom (.number d), after)
    else (numberBody false (c :: rest)).map fun (d, after) => (.atom (.number d), after)

theorem length_of_map {x : Option α} {f : α → Token × Bytes} {r : Token × Bytes} {n : Nat}
    (bound : ∀ a, x = some a → (f a).2.length ≤ n) (h : x.map f = some r) : r.2.length ≤ n := by
  obtain ⟨a, eq, rfl⟩ := Option.map_eq_some_iff.mp h
  exact bound a eq

theorem token?_length {c : UInt8} {rest : Bytes} {r : Token × Bytes}
    (h : token? c rest = some r) : r.2.length ≤ rest.length := by
  unfold token? at h
  split at h
  · cases h
    exact Nat.le_refl _
  · split at h
    · exact length_of_map (fun _ eq => Nat.le_of_lt (stringBody_length eq)) h
    · split at h
      · exact length_of_map (fun _ eq => word?_length eq) h
      · split at h
        · exact length_of_map (fun _ eq => word?_length eq) h
        · split at h
          · exact length_of_map (fun _ eq => word?_length eq) h
          · split at h
            · exact length_of_map (fun _ eq => Nat.le_of_lt (numberBody_length eq)) h
            · exact length_of_map (fun _ eq => Nat.le_of_lt_succ (numberBody_length eq)) h

def isBlank (b : UInt8) : Bool := b = 0x20 || b = 0x09 || b = 0x0A || b = 0x0D

/-- All tokens of the input. -/
def tokens : Bytes → Option (List Token)
  | [] => some []
  | c :: rest =>
    if isBlank c then tokens rest
    else
      match _h : token? c rest with
      | none => none
      | some (t, after) => (tokens after).map (t :: ·)
termination_by bs => bs.length
decreasing_by
  · exact Nat.lt_succ_self _
  · exact Nat.lt_succ_of_le (token?_length _h)

/-- A container that is still open, its parts so far in reverse. -/
inductive Frame
  | array (done : List Source)
  | object (done : List (List Piece × Source))
  | member (done : List (List Piece × Source)) (key : List Piece)

inductive Expect
  | value
  | valueOrClose
  | key
  | keyOrClose
  | colon
  | after (v : Source)

abbrev Reading := List Frame × Expect

def start : Reading := ([], .value)

def stepValue (frames : List Frame) : Token → Option Reading
  | .atom v => some (frames, .after v)
  | .mark .openArray => some (.array [] :: frames, .valueOrClose)
  | .mark .openObject => some (.object [] :: frames, .keyOrClose)
  | _ => none

def stepKey : List Frame → Token → Option Reading
  | .object done :: frames, .atom (.string k) => some (.member done k :: frames, .colon)
  | _, _ => none

def stepAfter (v : Source) : List Frame → Token → Option Reading
  | .array done :: frames, .mark .comma => some (.array (v :: done) :: frames, .value)
  | .array done :: frames, .mark .closeArray =>
    some (frames, .after (.array (v :: done).reverse))
  | .member done k :: frames, .mark .comma => some (.object ((k, v) :: done) :: frames, .key)
  | .member done k :: frames, .mark .closeObject =>
    some (frames, .after (.object ((k, v) :: done).reverse))
  | _, _ => none

def step : Reading → Token → Option Reading
  | (frames, .value), t => stepValue frames t
  | (.array [] :: frames, .valueOrClose), .mark .closeArray => some (frames, .after (.array []))
  | (frames, .valueOrClose), t => stepValue frames t
  | (frames, .key), t => stepKey frames t
  | (.object [] :: frames, .keyOrClose), .mark .closeObject =>
    some (frames, .after (.object []))
  | (frames, .keyOrClose), t => stepKey frames t
  | (frames, .colon), .mark .colon => some (frames, .value)
  | (_, .colon), _ => none
  | (frames, .after v), t => stepAfter v frames t

def parse (bs : Bytes) : Option Source :=
  match tokens bs with
  | none => none
  | some ts =>
    match ts.foldlM step start with
    | some ([], .after v) => some v
    | _ => none

end Source
end SignedRest.Json
