import Filing.Fes
import Filing.Proofs.Numeral

/-!
# Barcodes

A barcode ends in its number.  What stands in front of the number always has the same length, so two
barcodes of one sequence differ when their numbers do, on whatever days they were drawn.

* `Date.dayOfYear_ofDayNumber_lt` — the day of the year has no more than three digits;
* `BarcodeSequence.number_eq_of_barcode_eq` — **the number of a barcode can be read off it**.
-/

set_option autoImplicit false

namespace Filing

/-! ## Days -/

namespace Date

theorem day_ofDayNumber_le (n : Int) : (ofDayNumber n).day ≤ 31 := by
  simp only [ofDayNumber, daysBeforeMonth]
  omega

/-- Wherever the count of the days starts in a year, it does not come to a thousand within it. -/
theorem dayOfYear_ofDayNumber_lt (n : Int) : (ofDayNumber n).dayOfYear < 1000 := by
  have hday := day_ofDayNumber_le n
  generalize ofDayNumber n = d at hday ⊢
  obtain ⟨year, month, day⟩ := d
  dsimp only at hday
  simp only [dayOfYear, dayNumber, daysBeforeYear, daysBeforeMonth, daysInCycle, marchOfYearZero]
  split <;> omega

end Date

namespace BarcodeSequence

variable {lead : Char} {t t' : Instant} {number number' : UInt64}

/-- What stands in front of the number of a barcode. -/
def front (lead : Char) (day : Date) : List Char :=
  lead :: Text.padded 2 (day.year % 100).toNat ++ Text.padded 3 day.dayOfYear

theorem length_front (lead : Char) (t : Instant) : (front lead t.date).length = 6 := by
  have hyear : (Text.padded 2 (t.date.year % 100).toNat).length = 2 :=
    Text.length_padded (by decide) (by omega)
  have hday : (Text.padded 3 t.date.dayOfYear).length = 3 :=
    Text.length_padded (by decide) (Date.dayOfYear_ofDayNumber_lt t.dayNumber)
  rw [front, List.length_append, List.length_cons, hyear, hday]

/-- **The number of a barcode can be read off it.** -/
theorem number_eq_of_barcode_eq (h : barcode lead t.date number = barcode lead t'.date number') :
    number = number' := by
  have hchars : front lead t.date ++ Text.padded 5 number.toNat =
      front lead t'.date ++ Text.padded 5 number'.toNat := String.ofList_injective h
  have hlength : (front lead t.date).length = (front lead t'.date).length := by
    rw [length_front, length_front]
  obtain ⟨-, hnumber⟩ := List.append_inj hchars hlength
  exact UInt64.toNat_inj.1 (Text.padded_injective 5 hnumber)

end BarcodeSequence

end Filing
