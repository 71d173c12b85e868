import Filing.Text.Numeral

/-!
# The civil calendar

Dates of the Gregorian calendar, carried on before its introduction and after any date that will
ever be filed, and the days counted from 1 January 1970.

* `Date` — a year, a month and a day; `Date.isReal` says that there is such a day;
* `Date.dayNumber`, `Date.ofDayNumber` — between a date and the number of its day;
* `Date.toText` — `YYYY-MM-DD`.

Both conversions count years from March.  The leap day is then the last day of its year, and the
months of a year always have the same lengths.
-/

set_option autoImplicit false

namespace Filing

/-- A year, a month from 1 and a day from 1. -/
structure Date where
  year : Int
  month : Nat
  day : Nat
deriving DecidableEq

namespace Date

/-- Every fourth year is a leap year, of the full centuries only every fourth. -/
def isLeap (year : Int) : Bool :=
  year % 4 == 0 && (year % 100 != 0 || year % 400 == 0)

/-- The number of days of a month. -/
def daysInMonth (year : Int) (month : Nat) : Nat :=
  if month = 2 then if isLeap year then 29 else 28
  else if month = 4 ∨ month = 6 ∨ month = 9 ∨ month = 11 then 30
  else 31

/-- The calendar has this date. -/
def isReal (d : Date) : Bool :=
  1 ≤ d.month && d.month ≤ 12 && 1 ≤ d.day && d.day ≤ daysInMonth d.year d.month

/-! ## Counting days -/

/-- The number of days in four hundred years. -/
def daysInCycle : Nat := 146097

/-- The number of the day 1 March of the year 0, counted from 1 January 1970. -/
def marchOfYearZero : Int := -719468

/-- The days before 1 March of the year `y` of a cycle of four hundred years. -/
def daysBeforeYear (y : Nat) : Nat :=
  365 * y + y / 4 - y / 100

/-- The days before the month `m` of a year, where March is month 0. -/
def daysBeforeMonth (m : Nat) : Nat :=
  (153 * m + 2) / 5

/-- The number of a date's day, counted from 1 January 1970. -/
def dayNumber (d : Date) : Int :=
  let year := if d.month ≤ 2 then d.year - 1 else d.year
  let inCycle := (year % 400).toNat
  (year / 400) * daysInCycle + daysBeforeYear inCycle +
    (daysBeforeMonth ((d.month + 9) % 12) + (d.day - 1) : Nat) + marchOfYearZero

/-- The date of the day with the given number. -/
def ofDayNumber (n : Int) : Date :=
  let fromMarch := n - marchOfYearZero
  let cycle := fromMarch / daysInCycle
  let inCycle := (fromMarch % daysInCycle).toNat
  let year := (inCycle - inCycle / 1460 + inCycle / 36524 - inCycle / 146096) / 365
  let inYear := inCycle - daysBeforeYear year
  let month := (5 * inYear + 2) / 153
  let civilMonth := if month < 10 then month + 3 else month - 9
  { year := cycle * 400 + year + (if civilMonth ≤ 2 then 1 else 0)
    month := civilMonth
    day := inYear - daysBeforeMonth month + 1 }

/-- The place of a date in its year, from 1. -/
def dayOfYear (d : Date) : Nat :=
  (d.dayNumber - (Date.mk d.year 1 1).dayNumber).toNat + 1

/-! ## Writing -/

/-- A year in at least four digits, with a sign where four digits cannot hold it. -/
def yearText (year : Int) : List Char :=
  if 0 ≤ year ∧ year ≤ 9999 then Text.padded 4 year.toNat
  else (if year < 0 then '-' else '+') :: Text.padded 4 year.natAbs

/-- A date as year, month and day with hyphens between them. -/
def toChars (d : Date) : List Char :=
  yearText d.year ++ '-' :: Text.padded 2 d.month ++ '-' :: Text.padded 2 d.day

@[inherit_doc toChars] def toText (d : Date) : String :=
  String.ofList d.toChars

end Date

end Filing
