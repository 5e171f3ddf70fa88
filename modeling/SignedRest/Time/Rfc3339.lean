import SignedRest.Time.Instant
import SignedRest.Text.Cut

/-! Instants as RFC 3339 text. Writing gives universal time with no, three, six or nine digits
of fraction. Reading is lenient about blanks, single digits and the case of the letters, and
takes any offset below one day. -/
namespace SignedRest.Rfc3339

def padded (width n : Nat) : List Char :=
  List.replicate (width - (Nat.toDigits 10 n).length) '0' ++ Nat.toDigits 10 n

def year (y : Int) : List Char :=
  if 0 ≤ y ∧ y ≤ 9999 then padded 4 y.toNat
  else (if y < 0 then '-' else '+') :: padded 4 y.natAbs

/-- The shortest of the four forms that loses nothing. -/
def fraction (nanos : Nat) : List Char :=
  if nanos = 0 then []
  else if nanos % 1000000 = 0 then '.' :: padded 3 (nanos / 1000000)
  else if nanos % 1000 = 0 then '.' :: padded 6 (nanos / 1000)
  else '.' :: padded 9 nanos

def write (t : Instant) : String :=
  let days := t.secs.fdiv 86400
  let second := (t.secs - days * 86400).toNat
  let (y, month, day) := Instant.dateOfDays days
  let leap := 1000000000 ≤ t.nanos
  String.ofList <|
    year y ++ '-' :: padded 2 month ++ '-' :: padded 2 day ++ 'T' :: padded 2 (second / 3600)
      ++ ':' :: padded 2 (second / 60 % 60)
      ++ ':' :: padded 2 (second % 60 + if leap then 1 else 0)
      ++ fraction (if leap then t.nanos - 1000000000 else t.nanos) ++ ['Z']

abbrev Reader (α : Type) := List Char → Option (α × List Char)

def natOfDigits (ds : List Char) : Nat := ds.foldl (fun n c => n * 10 + (c.toNat - 48)) 0

def number (width : Nat) : Reader Nat := fun cs =>
  let ds := (cs.take width).takeWhile Char.isDigit
  if ds.isEmpty then none else some (natOfDigits ds, cs.drop ds.length)

def longNumber : Reader Nat := fun cs =>
  let ds := cs.takeWhile Char.isDigit
  if ds.isEmpty then none else some (natOfDigits ds, cs.drop ds.length)

/-- Four digits at most, or a sign and any number of digits. -/
def signedYear : Reader Int
  | '-' :: cs => (longNumber cs).map fun (n, rest) => (-(n : Int), rest)
  | '+' :: cs => (longNumber cs).map fun (n, rest) => ((n : Int), rest)
  | cs => (number 4 cs).map fun (n, rest) => ((n : Int), rest)

def mark (c : Char) (cs : List Char) : Option (List Char) :=
  match skipBlanks cs with
  | d :: rest => if d = c then some rest else none
  | [] => none

/-- A point and its digits, of which nine count; nothing when there is no point. -/
def nanoseconds : Reader Nat
  | '.' :: cs =>
    let ds := cs.takeWhile Char.isDigit
    if ds.isEmpty then none
    else
      let used := ds.take 9
      some (natOfDigits used * Nat.pow 10 (9 - used.length), cs.drop ds.length)
  | cs => some (0, cs)

def twoDigits (top : Char) : Reader Nat
  | a :: b :: rest =>
    if '0' ≤ a && a ≤ top && b.isDigit then some (natOfDigits [a, b], rest) else none
  | _ => none

def hoursMinutes : Reader Nat := fun cs => do
  let (hours, cs) ← twoDigits '9' cs
  let (minutes, cs) ← twoDigits '5' (cs.dropWhile fun c => c = ':' || isBlank c)
  pure (hours * 3600 + minutes * 60, cs)

def offset (cs : List Char) : Option (Int × List Char) :=
  if (cs.take 3).map Char.toUpper = ['U', 'T', 'C'] then some (0, cs.drop 3)
  else
    match cs with
    | [] => none
    | c :: rest =>
      if c = 'Z' || c = 'z' then some (0, rest)
      else if c = '+' then (hoursMinutes rest).map fun (n, rest) => ((n : Int), rest)
      else if c = '-' || c = '\u2212' then
        (hoursMinutes rest).map fun (n, rest) => (-(n : Int), rest)
      else none

/-- The instant of a local date and time at an offset; a sixtieth second is a leap second. -/
def instant? (y : Int) (month day hour minute second nanos : Nat) (shift : Int) :
    Option Instant :=
  if Instant.isDate y month day && hour < 24 && minute < 60 && second ≤ 60
      && shift.natAbs < 86400 then
    let s := if second = 60 then 59 else second
    let secs := Instant.daysOfDate y month day * 86400 + (hour * 3600 + minute * 60 + s : Nat)
      - shift
    if Instant.inRange secs then
      some ⟨secs, if second = 60 then nanos + 1000000000 else nanos⟩
    else none
  else none

def read (text : String) : Option Instant := do
  let (y, cs) ← signedYear (skipBlanks text.toList)
  let (month, cs) ← number 2 (skipBlanks (← mark '-' cs))
  let (day, cs) ← number 2 (skipBlanks (← mark '-' cs))
  let cs ← match cs with
    | c :: rest => if c = 'T' || c = 't' || c = ' ' then some rest else none
    | [] => none
  let (hour, cs) ← number 2 (skipBlanks cs)
  let (minute, cs) ← number 2 (skipBlanks (← mark ':' cs))
  let (second, cs) ← number 2 (skipBlanks (← mark ':' cs))
  let (nanos, cs) ← nanoseconds cs
  let (shift, cs) ← offset (skipBlanks cs)
  if (skipBlanks cs).isEmpty then instant? y month day hour minute second nanos shift else none

end SignedRest.Rfc3339
