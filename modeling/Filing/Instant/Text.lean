import Filing.Instant.Basic
import Filing.Text.Blank

/-!
# Instants as text

The form of RFC 3339, and plain dates.

* `Instant.toText` — the form that instants are written in;
* `Instant.rfc3339?` — the strict form, with any offset from universal time;
* `Instant.ofField?` — the strict form, where a year may also carry a sign;
* `Instant.ofText?` — what people may type: the strict form, or a date, with white space around it.

A date stands for its first instant.
-/

set_option autoImplicit false

namespace Filing.Instant

open Text

/-! ## Writing -/

/-- The fraction of a second in none, three, six or nine digits, whichever is the least exact. -/
def fractionText (nano : Nat) : List Char :=
  if nano = 0 then []
  else if nano % 1000000 = 0 then '.' :: padded 3 (nano / 1000000)
  else if nano % 1000 = 0 then '.' :: padded 6 (nano / 1000)
  else '.' :: padded 9 nano

/-- The time of day to the second; a leap second is second 60. -/
def clockText (t : Instant) : List Char :=
  let s := t.secondOfDay
  padded 2 (s / 3600) ++ ':' :: padded 2 (s / 60 % 60) ++
    ':' :: padded 2 (s % 60 + t.nano / nanosPerSecond)

/-- Date, time and fraction, followed by the given name of universal time. -/
def toChars (t : Instant) (zone : List Char) : List Char :=
  t.date.toChars ++ 'T' :: t.clockText ++ fractionText (t.nano % nanosPerSecond) ++ zone

/-- The text of an instant, which ends in `Z`. -/
def toText (t : Instant) : String :=
  String.ofList (t.toChars ['Z'])

/-- The text of an instant, which ends in the offset `+00:00`. -/
def toOffsetText (t : Instant) : String :=
  String.ofList (t.toChars "+00:00".toList)

/-! ## Reading: parts -/

/-- Exactly `n` digits and what stands after them. -/
def digitsExactly? : Nat → List Char → Nat → Option (Nat × List Char)
  | 0, cs, value => some (value, cs)
  | n + 1, c :: rest, value => (digit? c).bind fun d => digitsExactly? n rest (10 * value + d)
  | _ + 1, [], _ => none

/-- At least one digit and at most `n`, as many as there are, and what stands after them. -/
def digitsUpTo? (n : Nat) (cs : List Char) : Option (Nat × List Char) :=
  let ds := (cs.take n).takeWhile Char.isDigit
  (number? ds).map fun value => (value, cs.drop ds.length)

/-- What stands after the given character. -/
def after? (c : Char) : List Char → Option (List Char)
  | d :: rest => if d = c then some rest else none
  | [] => none

/-- A month and a day of two digits each, the first after a hyphen. -/
def monthDay? (cs : List Char) : Option ((Nat × Nat) × List Char) := do
  let (month, cs) ← digitsExactly? 2 (← after? '-' cs) 0
  let (day, cs) ← digitsExactly? 2 (← after? '-' cs) 0
  return ((month, day), cs)

/-- The first nine digits of a fraction, in nanoseconds. -/
def nanos (ds : List Char) : Nat :=
  ((digits? (ds.take 9) 0).getD 0) * powTen (9 - ds.length)

/-- An optional point with at least one digit after it. -/
def fraction? : List Char → Option (Nat × List Char)
  | '.' :: cs =>
    let ds := cs.takeWhile Char.isDigit
    if ds.isEmpty then none else some (nanos ds, cs.dropWhile Char.isDigit)
  | cs => some (0, cs)

/-- A time of day: seconds, nanoseconds.  Second 60 is a leap second. -/
def clock? (cs : List Char) : Option ((Nat × Nat) × List Char) := do
  let (hour, cs) ← digitsExactly? 2 cs 0
  let (minute, cs) ← digitsExactly? 2 (← after? ':' cs) 0
  let (second, cs) ← digitsExactly? 2 (← after? ':' cs) 0
  let (nano, cs) ← fraction? cs
  guard (hour ≤ 23 && minute ≤ 59 && second ≤ 60)
  let start := 3600 * hour + 60 * minute
  return (if second = 60 then (start + 59, nano + nanosPerSecond) else (start + second, nano), cs)

/-- An offset from universal time in minutes; a minus sign may be a hyphen or U+2212. -/
def offset? : List Char → Option (Int × List Char)
  | [] => none
  | c :: cs =>
    if c = 'Z' ∨ c = 'z' then some (0, cs)
    else if c = '+' ∨ c = '-' ∨ c = '\u2212' then do
      let (hour, cs) ← digitsExactly? 2 cs 0
      let (minute, cs) ← digitsExactly? 2 (← after? ':' cs) 0
      guard (hour ≤ 23 && minute ≤ 59)
      let minutes : Int := 60 * hour + minute
      return (if c = '+' then minutes else -minutes, cs)
    else none

/-! ## Reading: instants -/

/-- The calendar has the date, in a year that instants are kept for. -/
def hasDate (d : Date) : Bool :=
  d.isReal && firstYear ≤ d.year && d.year ≤ lastYear

/-- The instant of a date and a time of day at an offset from universal time.  There has to be such
a date, and it has to lie in a year that instants are kept for, both as written and in universal
time. -/
def ofLocal? (d : Date) (clock : Nat × Nat) (offset : Int) : Option Instant :=
  if hasDate d then
    some ⟨d.dayNumber * secondsPerDay + clock.1 - 60 * offset, clock.2⟩ |>.filter isKept
  else none

/-- The rest of an instant after its year: nothing may stand after it. -/
def afterYear? (year : Int) (cs : List Char) : Option Instant := do
  let ((month, day), cs) ← monthDay? cs
  let cs ← (after? 'T' cs).or ((after? 't' cs).or (after? ' ' cs))
  let (clock, cs) ← clock? cs
  let (offset, cs) ← offset? cs
  guard cs.isEmpty
  ofLocal? ⟨year, month, day⟩ clock offset

/-- An instant in the strict form: a year of four digits, parts of two digits. -/
def rfc3339? (cs : List Char) : Option Instant := do
  let (year, cs) ← digitsExactly? 4 cs 0
  afterYear? year cs

/-- A year: with a sign any number of digits, without one at most four. -/
def year? : List Char → Option (Int × List Char)
  | '-' :: cs => (digitsUpTo? cs.length cs).map fun p => (-(p.1 : Int), p.2)
  | '+' :: cs => (digitsUpTo? cs.length cs).map fun p => ((p.1 : Int), p.2)
  | cs => (digitsUpTo? 4 cs).map fun p => ((p.1 : Int), p.2)

/-- The instant of a data field: the strict form, or the same with a signed year. -/
def ofField? (s : String) : Option Instant :=
  (rfc3339? s.toList).or <|
    if s.toList.head? = some '+' ∨ s.toList.head? = some '-' then
      (year? s.toList).bind fun p => afterYear? p.1 p.2
    else none

/-- A plain date.  White space may stand before each number, and month and day may be one digit. -/
def date? (cs : List Char) : Option Date := do
  let (year, cs) ← year? (dropBlanks cs)
  let (month, cs) ← digitsUpTo? 2 (dropBlanks (← after? '-' cs))
  let (day, cs) ← digitsUpTo? 2 (dropBlanks (← after? '-' cs))
  guard cs.isEmpty
  some ⟨year, month, day⟩ |>.filter hasDate

/-- The instant that somebody typed: the strict form or a plain date, with white space around. -/
def ofText? (s : String) : Option Instant :=
  let cs := trimChars s.toList
  (rfc3339? cs).or ((date? cs).map startOfDay)

end Filing.Instant
