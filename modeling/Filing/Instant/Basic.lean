import Filing.Calendar

/-!
# Instants

An instant is a second of coordinated universal time and a nanosecond in it.  Seconds are counted
from the start of 1970 as if there had never been a leap second.  A leap second is told by its
nanosecond: from a thousand million on, the instant lies in the second inserted after the counted
one.

* `Instant` with its order, which puts a leap second between its two neighbours;
* `Instant.plus`, `Instant.minus?` — moving an instant by a span of time;
* `Instant.since` — the span between two instants.

A span of time is a whole number of nanoseconds.
-/

set_option autoImplicit false

namespace Filing

/-- The nanosecond `nano` of the second `second` after the start of 1970. -/
structure Instant where
  second : Int
  nano : Nat
deriving DecidableEq, Inhabited

namespace Instant

/-- The nanoseconds of a second. -/
def nanosPerSecond : Nat := 1000000000

/-- The seconds of a day. -/
def secondsPerDay : Nat := 86400

/-! ## Order -/

/-- The first instant is not after the second. -/
def le (a b : Instant) : Prop :=
  a.second < b.second ∨ (a.second = b.second ∧ a.nano ≤ b.nano)

/-- The first instant is before the second. -/
def lt (a b : Instant) : Prop :=
  a.second < b.second ∨ (a.second = b.second ∧ a.nano < b.nano)

instance : LE Instant := ⟨le⟩

instance : LT Instant := ⟨lt⟩

instance (a b : Instant) : Decidable (a ≤ b) :=
  inferInstanceAs (Decidable (a.second < b.second ∨ (a.second = b.second ∧ a.nano ≤ b.nano)))

instance (a b : Instant) : Decidable (a < b) :=
  inferInstanceAs (Decidable (a.second < b.second ∨ (a.second = b.second ∧ a.nano < b.nano)))

theorem le_iff {a b : Instant} :
    a ≤ b ↔ a.second < b.second ∨ (a.second = b.second ∧ a.nano ≤ b.nano) := Iff.rfl

theorem lt_iff {a b : Instant} :
    a < b ↔ a.second < b.second ∨ (a.second = b.second ∧ a.nano < b.nano) := Iff.rfl

theorem le_refl (a : Instant) : a ≤ a := Or.inr ⟨rfl, Nat.le_refl _⟩

theorem le_trans {a b c : Instant} (h : a ≤ b) (h' : b ≤ c) : a ≤ c := by
  rw [le_iff] at *
  omega

theorem le_total (a b : Instant) : a ≤ b ∨ b ≤ a := by
  rw [le_iff, le_iff]
  omega

theorem le_antisymm {a b : Instant} (h : a ≤ b) (h' : b ≤ a) : a = b := by
  obtain ⟨second, nano⟩ := a
  obtain ⟨second', nano'⟩ := b
  simp only [le_iff] at h h'
  simp only [mk.injEq]
  omega

theorem not_le {a b : Instant} : ¬a ≤ b ↔ b < a := by
  rw [le_iff, lt_iff]
  omega

theorem le_of_lt {a b : Instant} (h : a < b) : a ≤ b :=
  (le_total a b).resolve_right fun h' => not_le.2 h h'

theorem lt_of_lt_of_le {a b c : Instant} (h : a < b) (h' : b ≤ c) : a < c :=
  not_le.1 fun hca => not_le.2 h (le_trans h' hca)

/-- An optional instant is not after another one; no instant at all comes first. -/
def optionalLe : Option Instant → Option Instant → Bool
  | none, _ => true
  | some _, none => false
  | some a, some b => a ≤ b

theorem optionalLe_trans {a b c : Option Instant} (h : optionalLe a b) (h' : optionalLe b c) :
    optionalLe a c := by
  cases a with
  | none => rfl
  | some a =>
    cases b with
    | none => cases h
    | some b =>
      cases c with
      | none => cases h'
      | some c => exact decide_eq_true (le_trans (of_decide_eq_true h) (of_decide_eq_true h'))

theorem optionalLe_total (a b : Option Instant) : optionalLe a b || optionalLe b a := by
  cases a with
  | none => rfl
  | some a =>
    cases b with
    | none => rfl
    | some b => simpa [optionalLe] using le_total a b

theorem optionalLe_antisymm {a b : Option Instant} (h : optionalLe a b) (h' : optionalLe b a) :
    a = b := by
  cases a with
  | none =>
    cases b with
    | none => rfl
    | some b => cases h'
  | some a =>
    cases b with
    | none => cases h
    | some b => exact congrArg some (le_antisymm (of_decide_eq_true h) (of_decide_eq_true h'))

/-! ## Days -/

/-- The number of the day that the instant lies in. -/
def dayNumber (t : Instant) : Int :=
  t.second / secondsPerDay

/-- The date of the day that the instant lies in. -/
def date (t : Instant) : Date :=
  Date.ofDayNumber t.dayNumber

/-- The second of its day that the instant lies in. -/
def secondOfDay (t : Instant) : Nat :=
  (t.second % secondsPerDay).toNat

/-- The first instant of a date. -/
def startOfDay (d : Date) : Instant :=
  ⟨d.dayNumber * secondsPerDay, 0⟩

/-- The first and the last year that instants are kept for. -/
def firstYear : Int := -262143

@[inherit_doc firstYear] def lastYear : Int := 262142

/-- The instant lies in a year that instants are kept for. -/
def isKept (t : Instant) : Bool :=
  firstYear ≤ t.date.year && t.date.year ≤ lastYear

/-! ## Spans of time -/

/-- A span of whole seconds, minutes and thousandths of a second, in nanoseconds. -/
def seconds (n : Int) : Int := n * nanosPerSecond

@[inherit_doc seconds] def minutes (n : Int) : Int := seconds (60 * n)

@[inherit_doc seconds] def millis (n : Int) : Int := n * 1000000

/-- The longest span: the thousandths of a second that fit in sixty-four binary digits. -/
def longestSpan : Int := millis Text.maxSigned

/-- The instant after a span of nanoseconds.  From inside a leap second, a whole second or more
onwards is counted from the second that the leap second extends, and a whole second or more
backwards from the second after it. -/
def plus (t : Instant) (span : Int) : Instant :=
  let whole := span.tdiv nanosPerSecond
  let part := span.tmod nanosPerSecond
  let second : Int := nanosPerSecond
  if second ≤ t.nano ∧ whole = 0 ∧ t.nano + part < 2 * second then
    ⟨t.second, (t.nano + part).toNat⟩
  else
    let start : Int := if second ≤ t.nano ∧ whole < 0 then t.second + 1 else t.second
    let nano := (if second ≤ t.nano then t.nano - second else t.nano) + part
    ⟨start + whole + nano / second, (nano % second).toNat⟩

/-- The instant a span earlier, if it lies in a year that instants are kept for. -/
def minus? (t : Instant) (span : Int) : Option Instant :=
  some (t.plus (-span)) |>.filter isKept

/-- The nanoseconds from the second instant to the first.  A leap second that ends inside the day's
stretch between the two counts as one second more. -/
def since (a b : Instant) : Int :=
  let passed : Int :=
    if b.secondOfDay < a.secondOfDay ∧ nanosPerSecond ≤ b.nano then 1
    else if a.secondOfDay < b.secondOfDay ∧ nanosPerSecond ≤ a.nano then -1
    else 0
  seconds (a.second - b.second + passed) + (a.nano - b.nano)

/-- The whole minutes from the second instant to the first, toward zero. -/
def minutesSince (a b : Instant) : Int :=
  (a.since b).tdiv (minutes 1)

end Instant

end Filing
