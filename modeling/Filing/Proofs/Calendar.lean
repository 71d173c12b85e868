import Filing.Calendar
import Mathlib.Tactic.IntervalCases

/-!
# Days and their dates

Each day has a date of the calendar, and no two days have the same.

A day is found by its year, counted from March, and its place in that year.  In a cycle of four
hundred years the year is found by centuries, by groups of four years in a century, and by years in
such a group.  The last year of a group has one day more, and the last group of a century has not,
but in the last century.

* `Date.exists_place` — a day of a cycle by century, group of four years, year and day;
* `Date.inMarchYear` — the date of a day of a year that starts in March;
* `Date.exists_march` — the year that starts in March, and the place in it, of each day;
* `Date.isReal_ofDayNumber`, `Date.dayNumber_ofDayNumber` — **the date of a day is one of the
  calendar, and the day can be told from it**;
* `Date.exists_eq_inMarchYear`, `Date.ofDayNumber_dayNumber` — **each date of the calendar is the
  date of its day**.
-/

set_option autoImplicit false

namespace Filing.Date

/-! ## Years of a cycle -/

section
variable {a b k d : Nat}

/-- A day of a cycle lies in the year `100 * a + 4 * b + k`, on its day `d`.  The year has a day
`365` if it is the last of its group of four, unless it is the last of its century: of the four
centuries, the last one keeps it. -/
theorem exists_place {i : Nat} (h : i < daysInCycle) :
    ∃ a b k d, a ≤ 3 ∧ b ≤ 24 ∧ k ≤ 3 ∧ d ≤ 365 ∧ (d = 365 → k = 3 ∧ (b = 24 → a = 3)) ∧
      i = 36524 * a + (1461 * b + 365 * k + d) := by
  rw [daysInCycle] at h
  by_cases hcycle : i = 146096
  · exact ⟨3, 24, 3, 365, by omega⟩
  obtain ⟨a, r, ha, hr, rfl⟩ : ∃ a r, a ≤ 3 ∧ r < 36524 ∧ i = 36524 * a + r :=
    ⟨i / 36524, i % 36524, by omega, by omega, (Nat.div_add_mod _ _).symm⟩
  obtain ⟨b, q, hb, hq, rfl⟩ : ∃ b q, b ≤ 24 ∧ q < 1461 ∧ r = 1461 * b + q :=
    ⟨r / 1461, r % 1461, by omega, by omega, (Nat.div_add_mod _ _).symm⟩
  by_cases hgroup : q = 1460
  · exact ⟨a, b, 3, 365, by omega⟩
  · exact ⟨a, b, q / 365, q % 365, by omega⟩

theorem daysBeforeYear_eq (hb : b ≤ 24) (hk : k ≤ 3) :
    daysBeforeYear (100 * a + 4 * b + k) = 36524 * a + 1461 * b + 365 * k := by
  have hgroups : (100 * a + 4 * b + k) / 4 = 25 * a + b := by omega
  have hcenturies : (100 * a + 4 * b + k) / 100 = a := by omega
  rw [daysBeforeYear, hgroups, hcenturies]
  omega

/-- The last day of a cycle is counted for a century that does not come. -/
theorem century_eq {r : Nat} (ha : a ≤ 3) (hr : r ≤ 36524) (hlast : r = 36524 → a = 3) :
    (36524 * a + r) / 36524 = a + (36524 * a + r) / 146096 := by
  rcases Nat.lt_or_eq_of_le hr with hr | rfl
  · have hcentury : (36524 * a + r) / 36524 = a := by omega
    have hcycle : (36524 * a + r) / 146096 = 0 := by omega
    rw [hcentury, hcycle, Nat.add_zero]
  · obtain rfl := hlast rfl
    rfl

/-- The leap days before a day of a cycle; the last day of a group may be counted as well. -/
theorem group_eq (ha : a ≤ 3) (hb : b ≤ 24) (hk : k ≤ 3) (hlast : d = 365 → k = 3)
    (hd : d ≤ 365) :
    ∃ q, q ≤ d ∧ d < q + 365 ∧
      (36524 * a + (1461 * b + 365 * k + d)) / 1460 = 25 * a + b + q := by
  have hsum : 36524 * a + (1461 * b + 365 * k + d) =
      (24 * a + b + 365 * k + d) + (25 * a + b) * 1460 := by omega
  refine ⟨(24 * a + b + 365 * k + d) / 1460, by omega, by omega, ?_⟩
  rw [hsum, Nat.add_mul_div_right _ _ (by decide), Nat.add_comm]

/-- The year of a day of a cycle. -/
def yearInCycle (i : Nat) : Nat :=
  (i - i / 1460 + i / 36524 - i / 146096) / 365

theorem yearInCycle_eq (ha : a ≤ 3) (hb : b ≤ 24) (hk : k ≤ 3) (hd : d ≤ 365)
    (hlast : d = 365 → k = 3 ∧ (b = 24 → a = 3)) :
    yearInCycle (36524 * a + (1461 * b + 365 * k + d)) = 100 * a + 4 * b + k := by
  obtain ⟨q, hq, hqd, hgroup⟩ := group_eq ha hb hk (fun h => (hlast h).1) hd
  have hdays : 36524 * a + (1461 * b + 365 * k + d) - (25 * a + b + q) =
      365 * (100 * a + 4 * b + k) + (d - q) - a := by omega
  rw [yearInCycle, hgroup, century_eq ha (by omega) (by omega), hdays]
  omega

end

/-! ## Days of a year -/

/-- The lengths of the months. -/
theorem lengths_of_isReal {year : Int} {month day : Nat}
    (h : (Date.mk year month day).isReal = true) :
    1 ≤ month ∧ month ≤ 12 ∧ 1 ≤ day ∧ day ≤ 31 ∧
      (month = 4 ∨ month = 6 ∨ month = 9 ∨ month = 11 → day ≤ 30) ∧
      (month = 2 → day ≤ 29 ∧ (day = 29 → isLeap year = true)) := by
  simp only [isReal, daysInMonth, Bool.and_eq_true, decide_eq_true_eq] at h
  obtain ⟨⟨⟨hfirst, hlast⟩, hday⟩, hlength⟩ := h
  refine ⟨hfirst, hlast, hday, ?_⟩
  split at hlength
  · split at hlength
    · next hleap => exact ⟨by omega, by omega, fun _ => ⟨hlength, fun _ => hleap⟩⟩
    · exact ⟨by omega, by omega, by omega⟩
  split at hlength
  · exact ⟨by omega, fun _ => hlength, by omega⟩
  · exact ⟨hlength, by omega, by omega⟩

/-- Month and day are numbers of two digits. -/
theorem twoDigits_of_isReal {d : Date} (h : d.isReal = true) : d.month < 100 ∧ d.day < 100 := by
  have hlengths := lengths_of_isReal h
  omega

/-- The month of the calendar that is month `m` of a year that starts in March. -/
def civilMonth (m : Nat) : Nat := if m < 10 then m + 3 else m - 9

/-- The date of a day, counted from zero, of a year that starts in March. -/
def inMarchYear (year : Int) (d : Nat) : Date :=
  let month := (5 * d + 2) / 153
  { year := year + (if civilMonth month ≤ 2 then 1 else 0)
    month := civilMonth month
    day := d - daysBeforeMonth month + 1 }

variable {year : Int} {d : Nat}

theorem isReal_inMarchYear (hd : d ≤ 365) (hleap : d = 365 → isLeap (year + 1) = true) :
    (inMarchYear year d).isReal = true := by
  obtain ⟨m, hm⟩ : ∃ m, m = (5 * d + 2) / 153 := ⟨_, rfl⟩
  have hlast : m ≤ 11 := by omega
  simp only [inMarchYear, ← hm, isReal, daysBeforeMonth, daysInMonth, Bool.and_eq_true,
    decide_eq_true_eq]
  by_cases hleapDay : d = 365
  · subst hleapDay hm
    simp [civilMonth, hleap rfl]
  · interval_cases m <;> simp [civilMonth] <;> (repeat' split) <;> omega

theorem dayNumber_inMarchYear (hd : d ≤ 365) :
    (inMarchYear year d).dayNumber =
      year / 400 * daysInCycle + (daysBeforeYear (year % 400).toNat + d : Nat) +
        marchOfYearZero := by
  obtain ⟨m, hm⟩ : ∃ m, m = (5 * d + 2) / 153 := ⟨_, rfl⟩
  have hstart : daysBeforeMonth m ≤ d := by
    rw [daysBeforeMonth]
    omega
  have hmonth : (civilMonth m + 9) % 12 = m := by
    rw [civilMonth]
    split <;> omega
  have hyear : (if civilMonth m ≤ 2 then year + (if civilMonth m ≤ 2 then 1 else 0) - 1
      else year + (if civilMonth m ≤ 2 then 1 else 0)) = year := by
    split <;> omega
  simp only [inMarchYear, ← hm, dayNumber, hmonth, hyear]
  omega

/-! ## The date of a day -/

/-- The day of a year that starts in March, counted in its cycle of four hundred years. -/
theorem ofDayNumber_inMarchYear (hd : d ≤ 365) (hleap : d = 365 → isLeap (year + 1) = true) :
    ofDayNumber (inMarchYear year d).dayNumber = inMarchYear year d := by
  obtain ⟨a, b, k, hb, hk, ha, hyear⟩ : ∃ a b k, b ≤ 24 ∧ k ≤ 3 ∧ a ≤ 3 ∧
      (year % 400).toNat = 100 * a + 4 * b + k :=
    ⟨(year % 400).toNat / 100, (year % 400).toNat % 100 / 4, (year % 400).toNat % 4, by omega⟩
  have hlast : d = 365 → k = 3 ∧ (b = 24 → a = 3) := by
    intro h
    have hnext := hleap h
    simp only [isLeap, Bool.and_eq_true, Bool.or_eq_true, beq_iff_eq, bne_iff_ne] at hnext
    omega
  -- the place of the day in its cycle
  obtain ⟨i, hi⟩ : ∃ i, i = 36524 * a + (1461 * b + 365 * k + d) := ⟨_, rfl⟩
  have hday : (inMarchYear year d).dayNumber - marchOfYearZero = year / 400 * daysInCycle + i := by
    rw [dayNumber_inMarchYear hd, hyear, daysBeforeYear_eq hb hk]
    omega
  have hcycle : (year / 400 * daysInCycle + i : Int) / daysInCycle = year / 400 := by
    rw [daysInCycle]
    omega
  have hinCycle : ((year / 400 * daysInCycle + i : Int) % daysInCycle).toNat = i := by
    rw [daysInCycle]
    omega
  have hyearInCycle : yearInCycle i = 100 * a + 4 * b + k := hi ▸ yearInCycle_eq ha hb hk hd hlast
  have hinYear : i - daysBeforeYear (100 * a + 4 * b + k) = d := by
    rw [daysBeforeYear_eq hb hk]
    omega
  have hsplit : year / 400 * 400 + (100 * a + 4 * b + k : Nat) = year := by
    rw [← hyear, Int.toNat_of_nonneg (Int.emod_nonneg year (by decide)), Int.mul_comm]
    exact Int.mul_ediv_add_emod year 400
  simp only [ofDayNumber, hday, hcycle, hinCycle]
  rw [← yearInCycle, hyearInCycle, hinYear, hsplit]
  rfl

/-- Each day has its place in a year that starts in March. -/
theorem exists_march (n : Int) :
    ∃ year d, d ≤ 365 ∧ (d = 365 → isLeap (year + 1) = true) ∧
      ofDayNumber n = inMarchYear year d ∧ (inMarchYear year d).dayNumber = n := by
  obtain ⟨i, hi⟩ : ∃ i : Nat, i = ((n - marchOfYearZero) % daysInCycle).toNat := ⟨_, rfl⟩
  have hcount : (i : Int) = (n - marchOfYearZero) % daysInCycle := by
    rw [hi, daysInCycle]
    omega
  obtain ⟨a, b, k, d, ha, hb, hk, hd, hlast, hplace⟩ :=
    exists_place (i := i) (by rw [daysInCycle] at hcount ⊢; omega)
  let cycle := (n - marchOfYearZero) / daysInCycle
  have hleap : d = 365 → isLeap (cycle * 400 + (100 * a + 4 * b + k : Nat) + 1) = true := by
    intro h
    obtain ⟨rfl, hcentury⟩ := hlast h
    simp only [isLeap, Bool.and_eq_true, Bool.or_eq_true, beq_iff_eq, bne_iff_ne]
    clear hplace hcount
    omega
  have hday : (inMarchYear (cycle * 400 + (100 * a + 4 * b + k : Nat)) d).dayNumber = n := by
    have hdiv : (cycle * 400 + (100 * a + 4 * b + k : Nat)) / 400 = cycle := by omega
    have hmod : ((cycle * 400 + (100 * a + 4 * b + k : Nat)) % 400).toNat =
        100 * a + 4 * b + k := by omega
    have hcycle : n - marchOfYearZero = cycle * daysInCycle + i := by
      rw [hcount, Int.mul_comm]
      exact (Int.mul_ediv_add_emod _ _).symm
    rw [dayNumber_inMarchYear hd, hdiv, hmod, daysBeforeYear_eq hb hk]
    omega
  exact ⟨_, d, hd, hleap, hday ▸ ofDayNumber_inMarchYear hd hleap, hday⟩

theorem isReal_ofDayNumber (n : Int) : (ofDayNumber n).isReal = true := by
  obtain ⟨year, d, hd, hleap, hdate, -⟩ := exists_march n
  rw [hdate]
  exact isReal_inMarchYear hd hleap

theorem dayNumber_ofDayNumber (n : Int) : (ofDayNumber n).dayNumber = n := by
  obtain ⟨year, d, -, -, hdate, hday⟩ := exists_march n
  rw [hdate, hday]

/-! ## The day of a date -/

/-- Each date of the calendar has its place in a year that starts in March. -/
theorem exists_eq_inMarchYear {date : Date} (h : date.isReal = true) :
    ∃ year d, d ≤ 365 ∧ (d = 365 → isLeap (year + 1) = true) ∧ date = inMarchYear year d := by
  obtain ⟨year, month, day⟩ := date
  obtain ⟨hfirst, hlast, hday, hlong, hshort, hfebruary⟩ := lengths_of_isReal h
  obtain ⟨m, hm⟩ : ∃ m, m = (month + 9) % 12 := ⟨_, rfl⟩
  have hcivil : civilMonth m = month := by
    rw [civilMonth]
    split <;> omega
  have hmonth : (5 * (daysBeforeMonth m + (day - 1)) + 2) / 153 = m := by
    rw [daysBeforeMonth, hm]
    clear h hm hcivil
    interval_cases month <;> omega
  have hend : daysBeforeMonth m + (day - 1) ≤ 365 ∧
      (daysBeforeMonth m + (day - 1) = 365 → month = 2 ∧ day = 29) := by
    rw [daysBeforeMonth, hm]
    clear h hm hcivil hmonth
    interval_cases month <;> omega
  refine ⟨if month ≤ 2 then year - 1 else year, daysBeforeMonth m + (day - 1), hend.1,
    fun h365 => ?_, ?_⟩
  · obtain ⟨rfl, rfl⟩ := hend.2 h365
    simpa using (hfebruary rfl).2 rfl
  · rw [inMarchYear, hmonth, hcivil, Nat.add_sub_cancel_left]
    congr 1
    · split <;> omega
    · omega

/-- **A date is the date of its day.** -/
theorem ofDayNumber_dayNumber {date : Date} (h : date.isReal = true) :
    ofDayNumber date.dayNumber = date := by
  obtain ⟨year, d, hd, hleap, rfl⟩ := exists_eq_inMarchYear h
  exact ofDayNumber_inMarchYear hd hleap

end Filing.Date
