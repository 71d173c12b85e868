import Filing.Catalog.Import
import Filing.Proofs.Blank
import Filing.Proofs.Instant

/-!
# Instants that people type

Whoever types an instant may type it as it is written anywhere else, as the clocks of another place
show it, or as a plain date, and may leave white space around it.  The strict form is tried first,
and a date only where the strict form fails, so it matters that no date is an opening of the strict
form that would be read as something else.

* `Instant.offsetChars`, `Instant.toLocalText` — the text of an instant where clocks are ahead of
  universal time or behind it;
* `Instant.date?_toChars`, `Instant.rfc3339?_date` — a date is read as a date, and not in the strict
  form;
* `Instant.ofText?_append` — only what stands between the white space counts;
* `Instant.reads_back` — **what is written for an instant is read as that instant**.
-/

set_option autoImplicit false

namespace Filing

namespace Instant

open Text

variable {t : Instant} {d : Date} {offset : Int} {rest zone : List Char} {width n : Nat}

/-! ## Offsets -/

/-- An offset from universal time in minutes, as it is written. -/
def offsetChars (offset : Int) : List Char :=
  (if offset < 0 then '-' else '+') ::
    (padded 2 (offset.natAbs / 60) ++ ':' :: padded 2 (offset.natAbs % 60))

/-- The text of an instant where clocks are ahead of universal time: what they show, and how far
they are ahead. -/
def toLocalText (t : Instant) (offset : Int) : String :=
  String.ofList ((t.ahead offset).toChars (offsetChars offset))

theorem offset?_signed {sign : Char} (hsign : sign = '+' ∨ sign = '-') {hour minute : Nat}
    (hhour : hour ≤ 23) (hminute : minute ≤ 59) :
    offset? (sign :: (padded 2 hour ++ ':' :: padded 2 minute)) =
      some (if sign = '+' then 60 * (hour : Int) + minute else -(60 * (hour : Int) + minute),
        []) := by
  have hend : digitsExactly? 2 (padded 2 minute) 0 = some (minute, []) := by
    rw [← List.append_nil (padded 2 minute)]
    exact digitsExactly?_two (Nat.lt_of_le_of_lt hminute (by decide))
  have hzulu : ¬(sign = 'Z' ∨ sign = 'z') := by rcases hsign with rfl | rfl <;> decide
  have hsigned : sign = '+' ∨ sign = '-' ∨ sign = '\u2212' := hsign.imp_right .inl
  simp only [offset?, if_neg hzulu, if_pos hsigned,
    digitsExactly?_two (Nat.lt_of_le_of_lt hhour (by decide)), after?_cons, hend, hhour, hminute,
    decide_true, Bool.and_self, guard, if_true, bind, Option.bind, pure]

theorem isZone_offsetChars (h : offset.natAbs < 24 * 60) : IsZone (offsetChars offset) offset where
  offset?_eq := by
    have hhour : offset.natAbs / 60 ≤ 23 := by omega
    have hminute : offset.natAbs % 60 ≤ 59 := by omega
    rw [offsetChars]
    split
    · next hnegative =>
      rw [offset?_signed (.inr rfl) hhour hminute, if_neg (by decide)]
      congr 2
      omega
    · next hpositive =>
      rw [offset?_signed (.inl rfl) hhour hminute, if_pos rfl]
      congr 2
      omega
  noDigitFirst := by
    rw [offsetChars]
    split <;> exact .cons rfl
  noPointFirst := by
    rw [offsetChars, List.head?_cons]
    split <;> decide

/-! ## White space -/

theorem isBlank_of_mem_padded {c : Char} (h : c ∈ padded width n) : isBlank c = false :=
  isBlank_of_isDigit (isDigit_of_mem_padded h)

theorem isBlank_of_mem_date {c : Char} (h : c ∈ d.toChars) : isBlank c = false := by
  revert c
  rw [Date.toChars, Date.yearText]
  split
  · simp only [List.forall_mem_append, List.forall_mem_cons]
    exact ⟨⟨fun _ => isBlank_of_mem_padded, rfl, fun _ => isBlank_of_mem_padded⟩, rfl,
      fun _ => isBlank_of_mem_padded⟩
  · simp only [List.forall_mem_append, List.forall_mem_cons]
    refine ⟨⟨⟨?_, fun _ => isBlank_of_mem_padded⟩, rfl, fun _ => isBlank_of_mem_padded⟩, rfl,
      fun _ => isBlank_of_mem_padded⟩
    split <;> rfl

theorem isBlank_of_mem_fractionText {c : Char} (h : c ∈ fractionText n) : isBlank c = false := by
  rw [fractionText] at h
  split at h
  · cases h
  · obtain ⟨width, m, hc⟩ : ∃ width m, c ∈ '.' :: padded width m := by
      split at h
      · exact ⟨_, _, h⟩
      split at h <;> exact ⟨_, _, h⟩
    rcases List.mem_cons.1 hc with rfl | hc
    · rfl
    · exact isBlank_of_mem_padded hc

/-- There is no white space in the text of an instant but for what the offset has. -/
theorem isBlank_of_mem_toChars (hzone : ∀ c ∈ zone, isBlank c = false) :
    ∀ c ∈ t.toChars zone, isBlank c = false := by
  simp only [toChars, clockText, List.forall_mem_append, List.forall_mem_cons]
  exact ⟨⟨⟨fun _ => isBlank_of_mem_date, rfl,
    ⟨fun _ => isBlank_of_mem_padded, rfl, fun _ => isBlank_of_mem_padded⟩, rfl,
    fun _ => isBlank_of_mem_padded⟩, fun _ => isBlank_of_mem_fractionText⟩, hzone⟩

theorem isBlank_of_mem_offsetChars : ∀ c ∈ offsetChars offset, isBlank c = false := by
  simp only [offsetChars, List.forall_mem_append, List.forall_mem_cons]
  refine ⟨?_, fun _ => isBlank_of_mem_padded, rfl, fun _ => isBlank_of_mem_padded⟩
  split <;> rfl

/-- Only what stands between the white space counts. -/
theorem ofText?_append {u v : String} (hu : isBlankText u = true) (hv : isBlankText v = true)
    (s : String) : ofText? (u ++ s ++ v) = ofText? s := by
  have htrim : trimChars (u ++ s ++ v).toList = trimChars s.toList := by
    rw [String.toList_append, String.toList_append, List.append_assoc, trimChars_append hu hv]
  rw [ofText?, ofText?, htrim]

theorem ofText?_ofList {cs : List Char} (h : ∀ c ∈ cs, isBlank c = false) :
    ofText? (String.ofList cs) = (rfc3339? cs).or ((date? cs).map startOfDay) := by
  rw [ofText?, String.toList_ofList, trimChars_eq_self h]

/-! ## Plain dates -/

/-- The years of four digits are years that instants can have. -/
theorem year_inRange {year : Int} (h : 0 ≤ year ∧ year ≤ 9999) :
    firstYear ≤ year ∧ year ≤ lastYear :=
  ⟨Int.le_trans (by decide) h.1, Int.le_trans h.2 (by decide)⟩

theorem isKept_of_fourDigits (h : 0 ≤ t.date.year ∧ t.date.year ≤ 9999) : t.isKept = true := by
  simpa [isKept] using year_inRange h

/-- A date of the calendar in a year of four digits. -/
structure FourDigits (d : Date) : Prop where
  isReal : d.isReal = true
  year_nonneg : 0 ≤ d.year
  year_le : d.year ≤ 9999

namespace FourDigits

variable (h : FourDigits d)
include h

theorem hasDate : hasDate d = true := by
  simpa [Instant.hasDate, h.isReal] using year_inRange ⟨h.year_nonneg, h.year_le⟩

theorem date_startOfDay : (startOfDay d).date = d := by
  have hday : (startOfDay d).dayNumber = d.dayNumber := by
    rw [dayNumber, startOfDay, secondsPerDay]
    dsimp only
    omega
  rw [date, hday, Date.ofDayNumber_dayNumber h.isReal]

theorem toChars_eq :
    d.toChars = padded 4 d.year.toNat ++
      '-' :: (padded 2 d.month ++ '-' :: (padded 2 d.day ++ [])) := by
  rw [Date.toChars, Date.yearText, if_pos ⟨h.year_nonneg, h.year_le⟩]
  simp

theorem year_lt : d.year.toNat < 10 ^ 4 := by
  have hyear := h.year_le
  omega

end FourDigits

/-- A number of no more digits than may be there is read to its end. -/
theorem digitsUpTo?_of_lt (hwidth : 0 < width) (h : n < 10 ^ width) :
    digitsUpTo? width (padded width n ++ rest) = some (n, rest) := by
  have htake : (padded width n ++ rest).take width = padded width n := by
    rw [List.take_append_of_le_length (Nat.le_of_eq (length_padded hwidth h).symm),
      List.take_of_length_le (Nat.le_of_eq (length_padded hwidth h))]
  have hdigits : (padded width n).takeWhile Char.isDigit = padded width n :=
    List.takeWhile_eq_self_iff.2 fun _ => isDigit_of_mem_padded
  rw [digitsUpTo?, htake, hdigits, number?_padded, Option.map_some, List.drop_left]

theorem dropBlanks_padded : dropBlanks (padded width n ++ rest) = padded width n ++ rest := by
  obtain ⟨c, cs, hcs, hc⟩ := exists_padded_eq_cons width n
  rw [hcs, List.cons_append]
  exact List.dropWhile_cons_of_neg (by simp [isBlank_of_isDigit hc])

theorem year?_padded (h : n < 10 ^ 4) : year? (padded 4 n ++ rest) = some ((n : Int), rest) := by
  obtain ⟨c, cs, hcs, hc⟩ := exists_padded_eq_cons 4 n
  have hunsigned (sign : Char) (hsign : sign.isDigit = false) (ds : List Char) :
      padded 4 n ++ rest ≠ sign :: ds := by
    intro heq
    rw [hcs, List.cons_append] at heq
    obtain rfl := (List.cons.inj heq).1
    exact absurd hc (by simp [hsign])
  rw [year?.eq_3 _ (hunsigned '-' rfl) (hunsigned '+' rfl), digitsUpTo?_of_lt (by decide) h]
  rfl

/-- **A date is read back from its text.** -/
theorem date?_toChars (h : FourDigits d) : date? d.toChars = some d := by
  have hyear : ((d.year.toNat : Nat) : Int) = d.year := Int.toNat_of_nonneg h.year_nonneg
  obtain ⟨hmonth, hday⟩ := Date.twoDigits_of_isReal h.isReal
  simp only [date?, h.toChars_eq, dropBlanks_padded, year?_padded h.year_lt, after?_cons,
    digitsUpTo?_of_lt (by decide : 0 < 2) hmonth, digitsUpTo?_of_lt (by decide : 0 < 2) hday, bind,
    Option.bind, guard, List.isEmpty_nil, if_true, hyear]
  exact Option.filter_some_pos h.hasDate

/-- A plain date is not in the strict form: there is no time of day. -/
theorem rfc3339?_date (h : FourDigits d) : rfc3339? d.toChars = none := by
  obtain ⟨hmonth, hday⟩ := Date.twoDigits_of_isReal h.isReal
  simp only [rfc3339?, h.toChars_eq, digitsExactly?_padded (by decide : 0 < 4) h.year_lt,
    afterYear?, monthDay?_append hmonth hday, after?, Option.or_none, bind, Option.bind]

/-- The first instant of a date is written as the date with midnight behind it. -/
theorem toText_startOfDay (h : FourDigits d) :
    (startOfDay d).toText = d.toText ++ "T00:00:00Z" := by
  have hsecond : (startOfDay d).secondOfDay = 0 := by
    rw [secondOfDay, startOfDay, secondsPerDay]
    dsimp only
    omega
  have hclock : (startOfDay d).clockText = "00:00:00".toList := by
    rw [clockText, hsecond, startOfDay]
    dsimp only
    decide
  rw [toText, toChars, h.date_startOfDay, hclock, Date.toText, ← String.toList_inj,
    String.toList_append, String.toList_ofList, String.toList_ofList]
  simp [startOfDay, fractionText]

theorem legible_startOfDay (h : FourDigits d) : (startOfDay d).Legible where
  kept := isKept_of_fourDigits <| by
    rw [h.date_startOfDay]
    exact ⟨h.year_nonneg, h.year_le⟩
  nano_lt := (by decide : 0 < 2 * nanosPerSecond)
  lastOfMinute := fun hleap => absurd hleap (by decide : ¬nanosPerSecond ≤ 0)

/-! ## Reading back -/

theorem ofText?_date (h : FourDigits d) : ofText? d.toText = some (startOfDay d) := by
  rw [Date.toText, ofText?_ofList fun _ => isBlank_of_mem_date, rfc3339?_date h, date?_toChars h]
  rfl

theorem ofText?_toText (h : t.Legible) (hyear : 0 ≤ t.date.year ∧ t.date.year ≤ 9999) :
    ofText? t.toText = some t := by
  have hzone : ∀ c ∈ ['Z'], isBlank c = false := List.forall_mem_singleton.2 rfl
  have hread : rfc3339? (t.toChars ['Z']) = some t := by
    simpa using rfc3339?_toChars h isZone_z (by simpa using h.kept) hyear
  rw [toText, ofText?_ofList (isBlank_of_mem_toChars hzone), hread, Option.some_or]

/-- What clocks show that are ahead of universal time is read back if they show a year of four
digits. -/
theorem ofText?_toLocalText (h : t.Legible) (hoffset : offset.natAbs < 24 * 60)
    (hyear : 0 ≤ (t.ahead offset).date.year ∧ (t.ahead offset).date.year ≤ 9999) :
    ofText? (t.toLocalText offset) = some t := by
  have hlocal : (t.ahead offset).Legible := by
    refine ⟨isKept_of_fourDigits hyear, h.nano_lt, fun hleap => ?_⟩
    have hminute := h.lastOfMinute hleap
    rw [ahead]
    dsimp only
    omega
  have hread : rfc3339? ((t.ahead offset).toChars (offsetChars offset)) = some t := by
    simpa using rfc3339?_toChars hlocal (isZone_offsetChars hoffset) (by simpa using h.kept) hyear
  rw [toLocalText, ofText?_ofList (isBlank_of_mem_toChars isBlank_of_mem_offsetChars), hread,
    Option.some_or]

/-- Fourteen hours ahead, the year has long ended when the leap second of 2016 comes. -/
example : toLocalText ⟨1483228799, 1500000000⟩ 840 = "2017-01-01T13:59:60.500+14:00" := by
  decide +kernel

end Instant

/-- An export gives its starts in the same texts as people do, although blank ones are refused
there before they are read. -/
theorem PaymentTemplate.start?_eq_ofText? (s : String) : start? s = Instant.ofText? s := by
  rw [start?]
  split
  · next hblank =>
    rw [Instant.ofText?, Text.trimChars_eq_nil hblank]
    rfl
  · rfl

namespace Instant

open Text

/-- **What is written for an instant is read as that instant.**

* The text of an instant in a year of four digits, with any white space around it, is read as the
  instant, leap seconds included.
* A plain date is read as its first instant, as if midnight stood behind it.
* So is what clocks show that are ahead of universal time or behind it by less than a day, as long
  as they show a year of four digits.
* Whatever the text, an export is read in the same way. -/
theorem reads_back :
    (∀ t : Instant, t.Legible → 0 ≤ t.date.year ∧ t.date.year ≤ 9999 →
      ∀ u v : String, isBlankText u = true → isBlankText v = true →
        ofText? (u ++ t.toText ++ v) = some t) ∧
    (∀ d : Date, d.isReal = true → 0 ≤ d.year ∧ d.year ≤ 9999 →
      ofText? d.toText = some (startOfDay d) ∧
        ofText? d.toText = ofText? (d.toText ++ "T00:00:00Z")) ∧
    (∀ (t : Instant) (offset : Int), t.Legible → offset.natAbs < 24 * 60 →
      0 ≤ (t.ahead offset).date.year ∧ (t.ahead offset).date.year ≤ 9999 →
        ∀ u v : String, isBlankText u = true → isBlankText v = true →
          ofText? (u ++ t.toLocalText offset ++ v) = some t) ∧
    ∀ s : String, PaymentTemplate.start? s = ofText? s := by
  refine ⟨fun t ht hyear u v hu hv => ?_, fun d hreal hyear => ?_,
    fun t offset ht hoffset hyear u v hu hv => ?_, PaymentTemplate.start?_eq_ofText?⟩
  · rw [ofText?_append hu hv, ofText?_toText ht hyear]
  · have hdigits : FourDigits d := ⟨hreal, hyear.1, hyear.2⟩
    have hmidnight : ofText? (d.toText ++ "T00:00:00Z") = some (startOfDay d) := by
      rw [← toText_startOfDay hdigits]
      refine ofText?_toText (legible_startOfDay hdigits) ?_
      rwa [hdigits.date_startOfDay]
    exact ⟨ofText?_date hdigits, (ofText?_date hdigits).trans hmidnight.symm⟩
  · rw [ofText?_append hu hv, ofText?_toLocalText ht hoffset hyear]

/-- Half a second into the leap second at the end of 2016. -/
def leapSecond : Instant := ⟨1483228799, 1500000000⟩

theorem reads_back_leapSecond :
    ofText? ("\t" ++ leapSecond.toText ++ "\u3000") = some leapSecond ∧
      (ofText? (Date.mk 2000 2 29).toText = some (startOfDay ⟨2000, 2, 29⟩) ∧
        ofText? (Date.mk 2000 2 29).toText =
          ofText? ((Date.mk 2000 2 29).toText ++ "T00:00:00Z")) ∧
      ofText? (" " ++ leapSecond.toLocalText 840 ++ "") = some leapSecond ∧
      PaymentTemplate.start? " 2024-5-1 " = ofText? " 2024-5-1 " := by
  have hlegible : leapSecond.Legible := ⟨by decide +kernel, by decide, by decide⟩
  exact ⟨reads_back.1 leapSecond hlegible (by decide +kernel) "\t" "\u3000" (by decide) (by decide),
    reads_back.2.1 ⟨2000, 2, 29⟩ (by decide) (by decide),
    reads_back.2.2.1 leapSecond 840 hlegible (by decide) (by decide +kernel) " " "" (by decide)
      (by decide),
    reads_back.2.2.2 " 2024-5-1 "⟩

end Instant

end Filing
