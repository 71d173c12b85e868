import Filing.Instant.Basic
import Filing.Proofs.Calendar

/-!
# Time that has passed

Outside leap seconds an instant is a number: the nanoseconds since the start of 1970.  Comparing two
instants, moving one and taking the span between two is then comparing, adding and subtracting.

* `Instant.Plain` — the instant lies in no leap second; `Instant.count` — its number;
* `Instant.lt_iff_count`, `Instant.count_plus`, `Instant.since_eq_count` — the three translations;
* `Instant.minus?_eq_some_iff` — moving back, by its result;
* `Instant.abs_since_le` — **instants in years that are kept are never further apart than the
  longest span**;
* `Instant.minutesSince_spec` — whole minutes are rounded down.

In a leap second there is no such number: its nanoseconds are those of the second that follows.
-/

set_option autoImplicit false

namespace Filing.Instant

/-- The instant lies in no leap second. -/
def Plain (t : Instant) : Prop := t.nano < nanosPerSecond

instance (t : Instant) : Decidable t.Plain :=
  inferInstanceAs (Decidable (t.nano < nanosPerSecond))

/-- The nanoseconds from the start of 1970 to an instant outside leap seconds. -/
def count (t : Instant) : Int := seconds t.second + t.nano

variable {t u : Instant} {span : Int}

/-! ## Instants as numbers -/

theorem le_iff_count (ht : t.Plain) (hu : u.Plain) : t ≤ u ↔ t.count ≤ u.count := by
  rw [Plain, nanosPerSecond] at ht hu
  rw [le_iff, count, count, seconds, seconds, nanosPerSecond]
  omega

theorem lt_iff_count (ht : t.Plain) (hu : u.Plain) : t < u ↔ t.count < u.count := by
  rw [← not_le, le_iff_count hu ht, Int.not_le]

theorem eq_of_count_eq (ht : t.Plain) (hu : u.Plain) (h : t.count = u.count) : t = u :=
  le_antisymm ((le_iff_count ht hu).2 (Int.le_of_eq h))
    ((le_iff_count hu ht).2 (Int.le_of_eq h.symm))

/-- An instant that is moved, second and nanosecond each on its own. -/
theorem plus_eq (ht : t.Plain) (span : Int) :
    t.plus span =
      ⟨t.second + span.tdiv nanosPerSecond + (t.nano + span.tmod nanosPerSecond) / nanosPerSecond,
        ((t.nano + span.tmod nanosPerSecond) % nanosPerSecond).toNat⟩ := by
  have hnano : ¬((nanosPerSecond : Int) ≤ t.nano) := by
    rw [Plain] at ht
    omega
  simp only [plus, hnano, false_and, if_false]

theorem plain_plus (ht : t.Plain) (span : Int) : (t.plus span).Plain := by
  rw [plus_eq ht, Plain, nanosPerSecond]
  dsimp only
  omega

theorem count_plus (ht : t.Plain) (span : Int) : (t.plus span).count = t.count + span := by
  have hspan : (nanosPerSecond : Int) * span.tdiv nanosPerSecond + span.tmod nanosPerSecond =
      span := Int.mul_tdiv_add_tmod span nanosPerSecond
  rw [plus_eq ht, count, count, seconds, seconds]
  rw [nanosPerSecond] at hspan ⊢
  dsimp only
  omega

/-- Moving back, by its result. -/
theorem minus?_eq_some_iff (ht : t.Plain) :
    t.minus? span = some u ↔ u.isKept = true ∧ u.Plain ∧ u.count = t.count - span := by
  have hplain := plain_plus ht (-span)
  have hcount := count_plus ht (-span)
  rw [minus?, Option.filter_eq_some_iff, Option.some.injEq]
  constructor
  · rintro ⟨rfl, hkept⟩
    exact ⟨hkept, hplain, hcount⟩
  · rintro ⟨hkept, hu, hdiff⟩
    exact ⟨eq_of_count_eq hplain hu (hcount.trans hdiff.symm), hkept⟩

theorem since_eq_count (ht : t.Plain) (hu : u.Plain) : t.since u = t.count - u.count := by
  rw [Plain] at ht hu
  rw [since, if_neg fun h => by omega, if_neg fun h => by omega, count, count, seconds, seconds,
    seconds, nanosPerSecond]
  omega

/-! ## How far apart instants can be -/

/-- The days of the years that instants are kept for. -/
theorem abs_dayNumber_le (h : t.isKept = true) : |t.dayNumber| ≤ 97000000 := by
  obtain ⟨year, d, hd, -, hdate, hday⟩ := Date.exists_march t.dayNumber
  rw [isKept, date, hdate, Bool.and_eq_true, decide_eq_true_eq, decide_eq_true_eq, firstYear,
    lastYear] at h
  have hyear : (Date.inMarchYear year d).year = year ∨
      (Date.inMarchYear year d).year = year + 1 := by
    rw [Date.inMarchYear]
    dsimp only
    split <;> omega
  rw [Date.dayNumber_inMarchYear hd, Date.daysBeforeYear, Date.daysInCycle,
    Date.marchOfYearZero] at hday
  rw [abs_le]
  omega

theorem abs_count_le (ht : t.Plain) (h : t.isKept = true) :
    |t.count| ≤ 8400000000000000000000 := by
  have hday := abs_le.1 (abs_dayNumber_le h)
  rw [dayNumber, secondsPerDay] at hday
  rw [Plain, nanosPerSecond] at ht
  rw [count, seconds, nanosPerSecond, abs_le]
  omega

/-- **The span between two instants that are kept always fits.** -/
theorem abs_since_le (ht : t.Plain) (hu : u.Plain) (hkept : t.isKept = true)
    (hkept' : u.isKept = true) : |t.since u| ≤ longestSpan := by
  have hcount := abs_le.1 (abs_count_le ht hkept)
  have hcount' := abs_le.1 (abs_count_le hu hkept')
  have hlongest : (16800000000000000000000 : Int) ≤ longestSpan := by decide
  rw [since_eq_count ht hu, abs_le]
  omega

/-! ## Whole minutes -/

theorem minutes_eq (n : Int) : minutes n = n * minutes 1 := by
  rw [minutes, minutes, seconds, seconds, Int.mul_one, Int.mul_comm 60 n, Int.mul_assoc]

theorem lt_of_minutes_lt {m n : Int} (h : minutes m < minutes n) : m < n := by
  rw [minutes_eq m, minutes_eq n] at h
  exact Int.lt_of_mul_lt_mul_right h (by decide)

/-- The whole minutes from one instant to a later one, by the spans that they lie between. -/
theorem minutesSince_spec (ht : t.Plain) (hu : u.Plain) (h : u.count ≤ t.count) :
    minutes (t.minutesSince u) ≤ t.count - u.count ∧
      t.count - u.count < minutes (t.minutesSince u + 1) := by
  have hminute : (minutes 1 : Int) = 60000000000 := by decide
  rw [minutes_eq, minutes_eq (_ + 1), minutesSince, since_eq_count ht hu,
    Int.tdiv_eq_ediv_of_nonneg (by omega), hminute]
  omega

end Filing.Instant
