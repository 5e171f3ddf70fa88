/-! Instants: whole seconds since the start of 1970 and a fraction in nanoseconds. A leap second
is the second before it with a fraction of one second or more. Years run from -262143 to 262142. -/
namespace SignedRest

structure Instant where
  secs : Int
  nanos : Nat
  deriving DecidableEq, Repr, Inhabited

namespace Instant

def minSecs : Int := -8334601228800
def maxSecs : Int := 8210266876799

def inRange (secs : Int) : Bool := minSecs ≤ secs && secs ≤ maxSecs

theorem inRange_iff {secs : Int} : inRange secs = true ↔ minSecs ≤ secs ∧ secs ≤ maxSecs := by
  simp [inRange]

def ofSeconds? (secs : Int) : Option Instant := if inRange secs then some ⟨secs, 0⟩ else none

/-- The most seconds that an instant can be asked to move by; in milliseconds they just fit
64 bits. -/
def maxSpan : Int := 9223372036854775

def span? (seconds : Int) : Option Int :=
  if -maxSpan ≤ seconds ∧ seconds ≤ maxSpan then some seconds else none

/-- A leap second as an ordinary one: seen from later it is the second before it, and seen from
earlier the one after it. -/
def leaving (t : Instant) (delta : Int) : Instant :=
  if t.nanos < 1000000000 || delta = 0 then t
  else ⟨if delta < 0 then t.secs + 1 else t.secs, t.nanos - 1000000000⟩

def addSeconds? (t : Instant) (delta : Int) : Option Instant :=
  let start := t.leaving delta
  if inRange (start.secs + delta) then some ⟨start.secs + delta, start.nanos⟩ else none

def after (a b : Instant) : Bool := b.secs < a.secs || (a.secs = b.secs && b.nanos < a.nanos)

/-- Days from 1970-01-01 to a date, counted in years that start in March. -/
def daysOfDate (year : Int) (month day : Nat) : Int :=
  let y := if month ≤ 2 then year - 1 else year
  let era := y.fdiv 400
  let yearOfEra := (y - era * 400).toNat
  let dayOfYear := (153 * ((month + 9) % 12) + 2) / 5 + day - 1
  era * 146097 + (yearOfEra * 365 + yearOfEra / 4 - yearOfEra / 100 + dayOfYear : Nat) - 719468

def dateOfDays (days : Int) : Int × Nat × Nat :=
  let z := days + 719468
  let era := z.fdiv 146097
  let dayOfEra := (z - era * 146097).toNat
  let yearOfEra := (dayOfEra - dayOfEra / 1460 + dayOfEra / 36524 - dayOfEra / 146096) / 365
  let dayOfYear := dayOfEra - (365 * yearOfEra + yearOfEra / 4 - yearOfEra / 100)
  let m := (5 * dayOfYear + 2) / 153
  let month := if m < 10 then m + 3 else m - 9
  let year := yearOfEra + era * 400
  (if month ≤ 2 then year + 1 else year, month, dayOfYear - (153 * m + 2) / 5 + 1)

def isLeapYear (year : Int) : Bool := year % 4 = 0 && (year % 100 ≠ 0 || year % 400 = 0)

def daysInMonth (year : Int) (month : Nat) : Nat :=
  if month = 2 then (if isLeapYear year then 29 else 28)
  else if month = 4 || month = 6 || month = 9 || month = 11 then 30 else 31

def isDate (year : Int) (month day : Nat) : Bool :=
  -262143 ≤ year && year ≤ 262142 && 1 ≤ month && month ≤ 12 && 1 ≤ day
    && day ≤ daysInMonth year month

end Instant
end SignedRest
