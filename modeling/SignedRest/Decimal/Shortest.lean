/-! The shortest decimal digits that read back as a given double. All arithmetic is on naturals:
the double is `m * 2^q`, and a decimal reads back as it when it lies in the interval of reals that
round to it. -/
namespace SignedRest.Decimal

/-- A positive double as `m * 2^(q - 1074)`. -/
structure Binary where
  m : Nat
  q : Nat

def Binary.ofBits (bits : UInt64) : Binary :=
  let biased := bits.toNat / Nat.pow 2 52 % 2048
  let low := bits.toNat % Nat.pow 2 52
  if biased = 0 then ⟨low, 0⟩ else ⟨low + Nat.pow 2 52, biased - 1⟩

/-- Digits `d₁ d₂ … dₙ` with the point before the first one, times a power of ten. -/
structure Digits where
  value : Nat
  count : Nat
  /-- The power of ten by which `0.d₁d₂…` is multiplied. -/
  point : Int

def scaled (a : Nat) (e : Int) : Nat × Nat :=
  if 0 ≤ e then (a * Nat.pow 10 e.natAbs, 1) else (a, Nat.pow 10 e.natAbs)

/-- The exact value times four, over `den`: numerator of the value, of the lower end and of the
upper end of the interval that rounds to it. -/
structure Span where
  low : Nat
  mid : Nat
  high : Nat
  den : Nat
  closed : Bool

def Binary.span (b : Binary) : Span :=
  let up := Nat.pow 2 b.q
  let lowStep := if b.m = Nat.pow 2 52 ∧ 0 < b.q then 1 else 2
  ⟨(4 * b.m - lowStep) * up, 4 * b.m * up, (4 * b.m + 2) * up, 4 * Nat.pow 2 1074, b.m % 2 = 0⟩

def Span.holds (s : Span) (n : Nat) (e : Int) : Bool :=
  let (num, den) := scaled n e
  let x := num * s.den
  if s.closed then s.low * den ≤ x && x ≤ s.high * den else s.low * den < x && x < s.high * den

/-- The distance of `n * 10^e` from the value, over a denominator common to one `e`. -/
def Span.distance (s : Span) (n : Nat) (e : Int) : Nat :=
  let (num, den) := scaled n e
  ((num * s.den : Int) - s.mid * den).natAbs

def Span.floor (s : Span) (e : Int) : Nat :=
  if 0 ≤ e then s.mid / (s.den * Nat.pow 10 e.natAbs) else s.mid * Nat.pow 10 e.natAbs / s.den

/-- Searches the power of ten `p` with `10^(p-1) ≤ value < 10^p`, upwards from `p`. -/
def Span.point (s : Span) : (fuel : Nat) → Int → Int
  | 0, p => p
  | fuel + 1, p => if s.floor p = 0 then p else s.point fuel (p + 1)

/-- Tries `count` digits and then more, to seventeen; of two hits the nearer one wins, and the
even one of two equally near. -/
def Span.search (s : Span) (p : Int) : (left count : Nat) → Digits
  | 0, count => ⟨s.floor (p - count), count, p⟩
  | left + 1, count =>
    let e := p - count
    let n := s.floor e
    let below := s.holds n e
    let above := s.holds (n + 1) e
    if below && above then
      let closer := s.distance n e < s.distance (n + 1) e
      let tie := s.distance n e = s.distance (n + 1) e
      if closer || (tie && n % 2 = 0) then ⟨n, count, p⟩ else ⟨n + 1, count, p⟩
    else if below then ⟨n, count, p⟩
    else if above then ⟨n + 1, count, p⟩
    else s.search p left (count + 1)

/-- The digits of a positive finite double. -/
def shortest (bits : UInt64) : Digits :=
  let s := (Binary.ofBits bits).span
  s.search (s.point 640 (-323)) 17 1

end SignedRest.Decimal
