import Filing.Instant.Text
import Filing.Proofs.Calendar
import Filing.Proofs.Numeral
import Mathlib.Data.List.TakeWhile

/-!
# Instants and their texts

The text that is written for an instant is read as that instant.  This is so for every instant that
can be read at all, leap seconds and years of any number of digits included.

* `Instant.Legible` — what instants can be read, and `Instant.exists_ofField?_iff`, which says so;
* `Instant.fraction?_fractionText`, `Instant.clock?_clockText`, `Instant.ofLocal?_date` — the parts
  of a text;
* `Instant.ahead` — what clocks show at an offset from universal time;
* `Instant.rfc3339?_toChars` — what clocks show is read back, with the offset at its end;
* `Instant.ofField?_toChars` — **an instant is read back from its text**, with any name of universal
  time at its end.
-/

set_option autoImplicit false

namespace Filing.Instant

open Text

/-- The instant has a text: it lies in a year that instants are kept for, and if it lies in a leap
second, that is the last of a minute. -/
structure Legible (t : Instant) : Prop where
  kept : t.isKept = true
  nano_lt : t.nano < 2 * nanosPerSecond
  lastOfMinute : nanosPerSecond ≤ t.nano → t.second % 60 = 59

/-! ## Parts of a text -/

section
variable {ds rest : List Char} {width n : Nat}

theorem digitsExactly?_append (h : ∀ c ∈ ds, c.isDigit = true) (value : Nat) :
    digitsExactly? ds.length (ds ++ rest) value = some (Nat.ofDigitChars 10 ds value, rest) := by
  induction ds generalizing value with
  | nil => rfl
  | cons c ds ih =>
    have hdigit : digit? c = some (c.toNat - '0'.toNat) := if_pos (h c List.mem_cons_self)
    rw [List.length_cons, List.cons_append, digitsExactly?, hdigit, Option.bind_some,
      ih fun d hd => h d (List.mem_cons_of_mem _ hd), Nat.ofDigitChars_cons]

theorem digitsExactly?_padded (hwidth : 0 < width) (h : n < 10 ^ width) :
    digitsExactly? width (padded width n ++ rest) 0 = some (n, rest) := by
  have hdigits : digitsExactly? (padded width n).length (padded width n ++ rest) 0 = _ :=
    digitsExactly?_append (fun _ => isDigit_of_mem_padded) 0
  rwa [length_padded hwidth h, ofDigitChars_padded] at hdigits

theorem digitsExactly?_two (h : n < 100) :
    digitsExactly? 2 (padded 2 n ++ rest) 0 = some (n, rest) :=
  digitsExactly?_padded (by decide) h

/-- A number without a greatest number of digits ends where its digits do. -/
theorem digitsUpTo?_padded (hrest : NoDigitFirst rest) :
    digitsUpTo? (padded width n ++ rest).length (padded width n ++ rest) = some (n, rest) := by
  have hdigits : ∀ c ∈ padded width n, c.isDigit = true := fun _ => isDigit_of_mem_padded
  rw [digitsUpTo?, List.take_length, takeWhile_isDigit hdigits hrest, number?_padded,
    Option.map_some, List.drop_left]

@[simp] theorem after?_cons (c : Char) : after? c (c :: rest) = some rest := if_pos rfl

theorem monthDay?_append {month day : Nat} (hmonth : month < 100) (hday : day < 100) :
    monthDay? ('-' :: (padded 2 month ++ '-' :: (padded 2 day ++ rest))) =
      some ((month, day), rest) := by
  simp only [monthDay?, after?_cons, digitsExactly?_two hmonth, digitsExactly?_two hday, bind,
    Option.bind, pure]

/-- A fraction of no more than nine digits. -/
theorem fraction?_padded (hwidth : 0 < width) (hle : width ≤ 9) (h : n < 10 ^ width)
    (hrest : NoDigitFirst rest) :
    fraction? ('.' :: (padded width n ++ rest)) = some (n * 10 ^ (9 - width), rest) := by
  have hdigits : ∀ c ∈ padded width n, c.isDigit = true := fun _ => isDigit_of_mem_padded
  have hnanos : nanos (padded width n) = n * 10 ^ (9 - width) := by
    have htake : (padded width n).take 9 = padded width n :=
      List.take_of_length_le (by rw [length_padded hwidth h]; exact hle)
    rw [nanos, htake, digits?_padded, Option.getD_some, length_padded hwidth h]
    rfl
  simp only [fraction?, takeWhile_isDigit hdigits hrest, dropWhile_isDigit hdigits hrest, hnanos,
    List.isEmpty_iff, padded_ne_nil, if_false]

/-- The fraction of a second is read back, in whichever number of digits it is written. -/
theorem fraction?_fractionText (h : n < nanosPerSecond) (hrest : NoDigitFirst rest)
    (hpoint : rest.head? ≠ some '.') :
    fraction? (fractionText n ++ rest) = some (n, rest) := by
  rw [nanosPerSecond] at h
  rw [fractionText]
  split
  · next hzero =>
    subst hzero
    cases rest with
    | nil => rfl
    | cons c rest =>
      have hc : c ≠ '.' := fun heq => hpoint (heq ▸ rfl)
      exact fraction?.eq_2 _ fun cs heq => hc (List.cons.inj heq).1
  split
  · rw [List.cons_append, fraction?_padded (by decide) (by decide) (by omega) hrest]
    congr 2
    omega
  split
  · rw [List.cons_append, fraction?_padded (by decide) (by decide) (by omega) hrest]
    congr 2
    omega
  · rw [List.cons_append, fraction?_padded (by decide) (by decide) (by omega) hrest]
    congr 2
    omega

theorem nanos_lt (h : ∀ c ∈ ds, c.isDigit = true) : nanos ds < nanosPerSecond := by
  have htake : ∀ c ∈ ds.take 9, c.isDigit = true := fun c hc => h c (List.mem_of_mem_take hc)
  have hlt := ofDigitChars_lt htake
  have hpow : 10 ^ (ds.take 9).length * 10 ^ (9 - ds.length) = nanosPerSecond := by
    have hlength : (ds.take 9).length + (9 - ds.length) = 9 := by
      rw [List.length_take]
      omega
    rw [← Nat.pow_add, hlength]
    rfl
  rw [nanos, digits?_eq htake, Option.getD_some]
  exact hpow ▸ Nat.mul_lt_mul_of_pos_right hlt (Nat.pow_pos (by decide))

theorem fraction?_lt {cs : List Char} {p : Nat × List Char} (h : fraction? cs = some p) :
    p.1 < nanosPerSecond := by
  rw [fraction?.eq_def] at h
  split at h
  · next cs =>
    dsimp only at h
    split at h
    · cases h
    · obtain rfl := Option.some.inj h
      exact nanos_lt fun c hc => List.mem_takeWhile_imp hc
  · obtain rfl := Option.some.inj h
    exact (by decide : 0 < nanosPerSecond)

end

/-! ## The time of day -/

theorem secondOfDay_lt (t : Instant) : t.secondOfDay < secondsPerDay := by
  rw [secondOfDay, secondsPerDay]
  omega

/-- A time of day inside a leap second is the last of a minute. -/
def IsClock (clock : Nat × Nat) : Prop :=
  clock.2 < 2 * nanosPerSecond ∧ (nanosPerSecond ≤ clock.2 → clock.1 % 60 = 59)

theorem isClock_of_clock? {cs rest : List Char} {clock : Nat × Nat}
    (h : clock? cs = some (clock, rest)) : IsClock clock := by
  simp only [clock?, bind, Option.bind_eq_some_iff, guard, pure, Option.some.injEq,
    Prod.mk.injEq] at h
  obtain ⟨⟨hour, cs⟩, -, cs, -, ⟨minute, cs⟩, -, cs, -, ⟨second, cs⟩, -, ⟨nano, cs⟩, hfraction, -,
    -, rfl, -⟩ := h
  have hnano : nano < nanosPerSecond := fraction?_lt hfraction
  rw [IsClock, nanosPerSecond] at *
  split <;> dsimp only <;> omega

variable {t : Instant} {rest : List Char}

theorem Legible.isClock (h : t.Legible) : IsClock (t.secondOfDay, t.nano) := by
  refine ⟨h.nano_lt, fun hnano => ?_⟩
  have hminute := h.lastOfMinute hnano
  rw [secondOfDay, secondsPerDay]
  omega

theorem clock?_clockText (h : t.Legible) (hrest : NoDigitFirst rest)
    (hpoint : rest.head? ≠ some '.') :
    clock? (t.clockText ++ (fractionText (t.nano % nanosPerSecond) ++ rest)) =
      some ((t.secondOfDay, t.nano), rest) := by
  have hday : t.secondOfDay < 86400 := t.secondOfDay_lt
  have hhour : t.secondOfDay / 3600 ≤ 23 := by omega
  have hminute : t.secondOfDay / 60 % 60 ≤ 59 := by omega
  obtain ⟨hnano, hleap⟩ := h.isClock
  dsimp only at hnano hleap
  -- second 60 stands for the last second of a minute and the second inserted after it
  have hsecond : t.secondOfDay % 60 + t.nano / nanosPerSecond ≤ 60 := by
    rw [nanosPerSecond] at *
    omega
  have hfraction := fraction?_fractionText
    (Nat.mod_lt t.nano (by decide : 0 < nanosPerSecond)) hrest hpoint
  simp only [clock?, clockText, List.append_assoc, List.cons_append,
    digitsExactly?_two (Nat.lt_of_le_of_lt hhour (by decide)),
    digitsExactly?_two (Nat.lt_of_le_of_lt hminute (by decide)),
    digitsExactly?_two (Nat.lt_of_le_of_lt hsecond (by decide)), after?_cons, hfraction, bind,
    Option.bind, pure, guard, hhour, hminute, hsecond, decide_true, Bool.and_self, if_true,
    Option.some.injEq, Prod.mk.injEq, and_true]
  rw [nanosPerSecond] at *
  split
  · rw [Prod.mk.injEq]
    omega
  · rw [Prod.mk.injEq]
    omega

/-! ## Instants -/

/-- What clocks show that are ahead of universal time by a number of minutes, as if they showed
universal time. -/
def ahead (t : Instant) (offset : Int) : Instant :=
  ⟨t.second + 60 * offset, t.nano⟩

@[simp] theorem ahead_zero (t : Instant) : t.ahead 0 = t := by
  simp [ahead]

@[simp] theorem ahead_ahead_neg (t : Instant) (offset : Int) :
    (t.ahead offset).ahead (-offset) = t := by
  simp [ahead]

/-- Date and time of clocks that are ahead, and by how much, tell the instant. -/
theorem ofLocal?_date (h : t.Legible) {offset : Int} (hkept : (t.ahead (-offset)).isKept = true) :
    ofLocal? t.date (t.secondOfDay, t.nano) offset = some (t.ahead (-offset)) := by
  have hdate : hasDate t.date = true := by
    have hkept := h.kept
    rw [isKept, Bool.and_eq_true] at hkept
    rw [hasDate, Bool.and_eq_true, Bool.and_eq_true]
    exact ⟨⟨Date.isReal_ofDayNumber _, hkept.1⟩, hkept.2⟩
  have hsecond : t.date.dayNumber * secondsPerDay + t.secondOfDay - 60 * offset =
      t.second + 60 * -offset := by
    rw [date, Date.dayNumber_ofDayNumber, dayNumber, secondOfDay, secondsPerDay]
    omega
  rw [ofLocal?, if_pos hdate]
  dsimp only
  rw [hsecond]
  exact Option.filter_some_pos hkept

theorem Legible.of_ofLocal? {d : Date} {clock : Nat × Nat} {offset : Int}
    (h : ofLocal? d clock offset = some t) (hclock : IsClock clock) : t.Legible := by
  rw [ofLocal?] at h
  split at h
  · obtain ⟨heq, hkept⟩ := Option.filter_eq_some_iff.1 h
    obtain rfl := Option.some.inj heq
    refine ⟨hkept, hclock.1, fun hnano => ?_⟩
    have hminute := hclock.2 hnano
    rw [secondsPerDay]
    dsimp only
    omega
  · cases h

theorem Legible.of_afterYear? {year : Int} {cs : List Char} (h : afterYear? year cs = some t) :
    t.Legible := by
  simp only [afterYear?, bind, Option.bind_eq_some_iff] at h
  obtain ⟨⟨⟨month, day⟩, cs⟩, -, cs, -, ⟨clock, cs⟩, hclock, ⟨offset, cs⟩, -, -, -, hlocal⟩ := h
  exact .of_ofLocal? hlocal (isClock_of_clock? hclock)

/-- Whatever can be read from a data field is legible. -/
theorem Legible.of_ofField? {s : String} (h : ofField? s = some t) : t.Legible := by
  rw [ofField?, Option.or_eq_some_iff] at h
  rcases h with h | ⟨-, h⟩
  · obtain ⟨_, -, h⟩ := Option.bind_eq_some_iff.1 h
    exact .of_afterYear? h
  · split at h
    · obtain ⟨_, -, h⟩ := Option.bind_eq_some_iff.1 h
      exact .of_afterYear? h
    · cases h

/-! ## Reading back -/

/-- A name of an offset from universal time: it can stand after a time of day. -/
structure IsZone (zone : List Char) (offset : Int) : Prop where
  offset?_eq : offset? zone = some (offset, [])
  noDigitFirst : NoDigitFirst zone
  noPointFirst : zone.head? ≠ some '.'

theorem isZone_z : IsZone ['Z'] 0 := ⟨rfl, .cons rfl, by decide⟩

/-- The text of an instant after its year. -/
def charsAfterYear (t : Instant) (zone : List Char) : List Char :=
  '-' :: (padded 2 t.date.month ++ '-' :: (padded 2 t.date.day ++ 'T' ::
    (t.clockText ++ (fractionText (t.nano % nanosPerSecond) ++ zone))))

theorem toChars_eq (t : Instant) (zone : List Char) :
    t.toChars zone = Date.yearText t.date.year ++ t.charsAfterYear zone := by
  simp [toChars, Date.toChars, charsAfterYear]

variable {zone : List Char} {offset : Int}

theorem afterYear?_charsAfterYear (h : t.Legible) (hzone : IsZone zone offset)
    (hkept : (t.ahead (-offset)).isKept = true) :
    afterYear? t.date.year (t.charsAfterYear zone) = some (t.ahead (-offset)) := by
  have hreal : t.date.isReal = true := Date.isReal_ofDayNumber _
  obtain ⟨hmonth, hday⟩ := Date.twoDigits_of_isReal hreal
  simp only [afterYear?, charsAfterYear, monthDay?_append hmonth hday, after?_cons,
    clock?_clockText h hzone.noDigitFirst hzone.noPointFirst, hzone.offset?_eq, Option.some_or,
    List.isEmpty_nil, guard, bind, Option.bind, if_true]
  exact ofLocal?_date h hkept

theorem rfc3339?_toChars (h : t.Legible) (hzone : IsZone zone offset)
    (hkept : (t.ahead (-offset)).isKept = true)
    (hyear : 0 ≤ t.date.year ∧ t.date.year ≤ 9999) :
    rfc3339? (t.toChars zone) = some (t.ahead (-offset)) := by
  have hdigits : digitsExactly? 4 (padded 4 t.date.year.toNat ++ t.charsAfterYear zone) 0 =
      some (t.date.year.toNat, t.charsAfterYear zone) :=
    digitsExactly?_padded (by decide) (by omega)
  rw [toChars_eq, Date.yearText, if_pos hyear, rfc3339?, hdigits]
  exact Int.toNat_of_nonneg hyear.1 ▸ afterYear?_charsAfterYear h hzone hkept

/-- A text that opens with a sign is no year of four digits. -/
theorem ofField?_signed {sign : Char} (hsign : sign = '+' ∨ sign = '-') (cs : List Char) :
    ofField? (String.ofList (sign :: cs)) =
      (year? (sign :: cs)).bind fun p => afterYear? p.1 p.2 := by
  have hstrict : rfc3339? (sign :: cs) = none := by rcases hsign with rfl | rfl <;> rfl
  have hhead : (sign :: cs).head? = some '+' ∨ (sign :: cs).head? = some '-' :=
    hsign.imp (congrArg some) (congrArg some)
  rw [ofField?, String.toList_ofList, hstrict, Option.none_or, if_pos hhead]

/-- **An instant is read back from its text.** -/
theorem ofField?_toChars (h : t.Legible) (hzone : IsZone zone 0) :
    ofField? (String.ofList (t.toChars zone)) = some t := by
  have hafterYear : afterYear? t.date.year (t.charsAfterYear zone) = some t := by
    simpa using afterYear?_charsAfterYear h hzone (by simpa using h.kept)
  by_cases hyear : 0 ≤ t.date.year ∧ t.date.year ≤ 9999
  · have hstrict : rfc3339? (t.toChars zone) = some t := by
      simpa using rfc3339?_toChars h hzone (by simpa using h.kept) hyear
    rw [ofField?, String.toList_ofList, hstrict, Option.some_or]
  -- a year with a sign is read up to the hyphen after it
  have hdash : NoDigitFirst (t.charsAfterYear zone) := .cons rfl
  rw [toChars_eq, Date.yearText, if_neg hyear]
  by_cases hnegative : t.date.year < 0
  · have hvalue : -(t.date.year.natAbs : Int) = t.date.year := by omega
    rw [if_pos hnegative, List.cons_append, ofField?_signed (.inr rfl), year?,
      digitsUpTo?_padded hdash, Option.map_some, Option.bind_some, hvalue]
    exact hafterYear
  · have hvalue : (t.date.year.natAbs : Int) = t.date.year := by omega
    rw [if_neg hnegative, List.cons_append, ofField?_signed (.inl rfl), year?,
      digitsUpTo?_padded hdash, Option.map_some, Option.bind_some, hvalue]
    exact hafterYear

theorem ofField?_toText (h : t.Legible) : ofField? t.toText = some t :=
  ofField?_toChars h isZone_z

theorem exists_ofField?_iff : (∃ s, ofField? s = some t) ↔ t.Legible :=
  ⟨fun ⟨_, h⟩ => .of_ofField? h, fun h => ⟨_, ofField?_toText h⟩⟩

end Filing.Instant
