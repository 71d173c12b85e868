import Filing.Text.Numeral
import Mathlib.Data.List.Induction
import Mathlib.Data.Nat.Digits.Defs

/-!
# Digits

Numbers in base ten and what is read off their digits.

* `Text.padded_injective`, `Text.length_padded` — numbers with zeros in front;
* `Text.digits?_eq`, `Text.number?_padded` — a number is read back, with zeros in front or not;
* `Text.IsNatural`, `Text.IsInteger` — what writes a number, with
  `Text.natural?_eq_some_iff`, `Text.integer?_eq_some_iff`: it is read, and nothing else;
* `Text.NoDigitFirst` — a run of digits in front of the text ends where the text starts.
-/

set_option autoImplicit false

namespace Filing.Text

variable {width n : Nat} {cs : List Char}

/-! ## Padded numbers -/

/-- Zeros in front do not count. -/
theorem ofDigitChars_replicate_append (k : Nat) (cs : List Char) :
    Nat.ofDigitChars 10 (List.replicate k '0' ++ cs) 0 = Nat.ofDigitChars 10 cs 0 := by
  induction k with
  | zero => rfl
  | succ k ih =>
    rw [List.replicate_succ, List.cons_append, Nat.ofDigitChars_cons]
    exact ih

theorem ofDigitChars_padded (width n : Nat) : Nat.ofDigitChars 10 (padded width n) 0 = n := by
  rw [padded, ofDigitChars_replicate_append]
  exact Nat.ofDigitChars_toDigits (by decide) (by decide)

theorem padded_injective (width : Nat) : Function.Injective (padded width) := by
  intro n m h
  rw [← ofDigitChars_padded width n, h, ofDigitChars_padded]

/-- A number that fits is padded to the width. -/
theorem length_padded (hwidth : 0 < width) (h : n < 10 ^ width) :
    (padded width n).length = width := by
  have hle : (Nat.toDigits 10 n).length ≤ width :=
    (Nat.length_toDigits_le_iff (by decide) hwidth).2 h
  rw [padded, List.length_append, List.length_replicate]
  omega

theorem isDigit_of_mem_padded {c : Char} (h : c ∈ padded width n) : c.isDigit = true := by
  rcases List.mem_append.1 h with h | h
  · obtain rfl := List.eq_of_mem_replicate h
    rfl
  · exact Nat.isDigit_of_mem_toDigits (by decide) (by decide) h

theorem padded_ne_nil (width n : Nat) : padded width n ≠ [] := by
  rw [padded]
  exact List.append_ne_nil_of_right_ne_nil _ Nat.toDigits_ne_nil

theorem exists_padded_eq_cons (width n : Nat) :
    ∃ c cs, padded width n = c :: cs ∧ c.isDigit = true := by
  obtain ⟨c, cs, hcs⟩ := List.exists_cons_of_ne_nil (padded_ne_nil width n)
  have hc : c ∈ padded width n := by simp [hcs]
  exact ⟨c, cs, hcs, isDigit_of_mem_padded hc⟩

/-! ## Reading digits -/

theorem digits?_eq (h : ∀ c ∈ cs, c.isDigit = true) (value : Nat) :
    digits? cs value = some (Nat.ofDigitChars 10 cs value) := by
  induction cs generalizing value with
  | nil => rfl
  | cons c rest ih =>
    have hdigit : digit? c = some (c.toNat - '0'.toNat) := if_pos (h c List.mem_cons_self)
    rw [digits?, hdigit, Option.bind_some, ih fun d hd => h d (List.mem_cons_of_mem _ hd),
      Nat.ofDigitChars_cons]

theorem isDigit_of_digits? {value : Nat} (h : digits? cs value = some n) :
    ∀ c ∈ cs, c.isDigit = true := by
  induction cs generalizing value with
  | nil => exact List.forall_mem_nil _
  | cons c rest ih =>
    rw [digits?, digit?] at h
    split at h
    · next hc => exact List.forall_mem_cons.2 ⟨hc, ih h⟩
    · cases h

theorem digits?_toDigits (n : Nat) : digits? (Nat.toDigits 10 n) 0 = some n := by
  have hdigits : ∀ c ∈ Nat.toDigits 10 n, c.isDigit = true :=
    fun _ => Nat.isDigit_of_mem_toDigits (by decide) (by decide)
  rw [digits?_eq hdigits, Nat.ofDigitChars_ten_toDigits]

theorem digits?_padded (width n : Nat) : digits? (padded width n) 0 = some n := by
  rw [digits?_eq fun _ => isDigit_of_mem_padded, ofDigitChars_padded]

theorem number?_padded (width n : Nat) : number? (padded width n) = some n := by
  rw [← digits?_padded width n]
  exact number?.eq_2 _ (padded_ne_nil width n)

theorem digit_lt {c : Char} (h : c.isDigit = true) : c.toNat - '0'.toNat < 10 := by
  have hle : c.toNat ≤ 57 := of_decide_eq_true (Bool.and_eq_true_iff.1 h).2
  have hzero : '0'.toNat = 48 := rfl
  omega

theorem ofDigitChars_lt (h : ∀ c ∈ cs, c.isDigit = true) :
    Nat.ofDigitChars 10 cs 0 < 10 ^ cs.length := by
  induction cs using List.reverseRecOn with
  | nil => decide
  | append_singleton cs c ih =>
    have hinit := ih fun d hd => h d (List.mem_append_left _ hd)
    have hlast := digit_lt (h c (List.mem_append_right _ List.mem_cons_self))
    rw [Nat.ofDigitChars_append, Nat.ofDigitChars_cons, Nat.ofDigitChars_nil, List.length_append,
      List.length_singleton, Nat.pow_succ]
    omega

/-! ## Texts that write a number -/

/-- The characters are digits, one at least, and make the number. -/
def IsDigits (cs : List Char) (n : Nat) : Prop :=
  cs ≠ [] ∧ (∀ c ∈ cs, c.isDigit = true) ∧ Nat.ofDigitChars 10 cs 0 = n

/-- The characters write the natural number: digits, which may follow a plus sign. -/
inductive IsNatural : List Char → Nat → Prop where
  | digits {ds : List Char} {n : Nat} (h : IsDigits ds n) : IsNatural ds n
  | plus {ds : List Char} {n : Nat} (h : IsDigits ds n) : IsNatural ('+' :: ds) n

/-- The characters write the whole number: digits, which may follow a sign. -/
inductive IsInteger : List Char → Int → Prop where
  | natural {cs : List Char} {n : Nat} (h : IsNatural cs n) : IsInteger cs n
  | minus {ds : List Char} {n : Nat} (h : IsDigits ds n) : IsInteger ('-' :: ds) (-n)

theorem number?_eq_some_iff : number? cs = some n ↔ IsDigits cs n := by
  cases cs with
  | nil => simp [number?, IsDigits]
  | cons c cs =>
    rw [number?.eq_2 _ (List.cons_ne_nil c cs)]
    constructor
    · intro h
      have hdigits := isDigit_of_digits? h
      rw [digits?_eq hdigits] at h
      exact ⟨List.cons_ne_nil c cs, hdigits, Option.some.inj h⟩
    · rintro ⟨-, hdigits, rfl⟩
      exact digits?_eq hdigits 0

theorem IsDigits.head?_ne {c : Char} (h : IsDigits cs n) (hc : c.isDigit = false) :
    cs.head? ≠ some c := by
  intro hhead
  have hdigit := h.2.1 c (List.mem_of_head? hhead)
  rw [hc] at hdigit
  cases hdigit

theorem natural?_eq_some_iff {bound : Nat} :
    natural? bound cs = some n ↔ IsNatural cs n ∧ n ≤ bound := by
  rw [natural?, Option.filter_eq_some_iff, number?_eq_some_iff, decide_eq_true_iff]
  refine and_congr_left fun _ => ⟨fun h => ?_, ?_⟩
  · split at h
    · next hplus =>
      obtain ⟨ds, rfl⟩ := List.head?_eq_some_iff.1 hplus
      exact .plus h
    · exact .digits h
  · rintro (h | h)
    · rwa [if_neg (h.head?_ne rfl)]
    · exact h

theorem IsNatural.head?_ne (h : IsNatural cs n) : cs.head? ≠ some '-' := by
  cases h with
  | digits h => exact h.head?_ne rfl
  | plus h => simp

theorem integer?_eq_some_iff {low high z : Int} :
    integer? low high cs = some z ↔ IsInteger cs z ∧ low ≤ z ∧ z ≤ high := by
  rw [integer?, Option.filter_eq_some_iff, Bool.and_eq_true, decide_eq_true_iff, decide_eq_true_iff]
  refine and_congr_left fun ⟨_, hhigh⟩ => ?_
  constructor
  · intro h
    split at h
    · next hminus =>
      obtain ⟨ds, rfl⟩ := List.head?_eq_some_iff.1 hminus
      obtain ⟨_, hvalue, rfl⟩ := Option.map_eq_some_iff.1 h
      obtain ⟨n, hread, hn⟩ := Option.bind_eq_some_iff.1 hvalue
      obtain rfl := Option.some.inj hn
      exact .minus (number?_eq_some_iff.1 hread)
    · obtain ⟨_, hvalue, rfl⟩ := Option.map_eq_some_iff.1 h
      obtain ⟨n, hread, hn⟩ := Option.bind_eq_some_iff.1 hvalue
      obtain rfl := Option.some.inj hn
      exact .natural (natural?_eq_some_iff.1 hread).1
  · intro h
    cases h with
    | @natural _ n h =>
      have hread : natural? high.toNat cs = some n := natural?_eq_some_iff.2 ⟨h, by omega⟩
      rw [if_neg h.head?_ne, hread]
      rfl
    | minus h =>
      rw [if_pos List.head?_cons, List.tail_cons, number?_eq_some_iff.2 h]
      rfl

theorem natural?_eq_none_iff {bound : Nat} :
    natural? bound cs = none ↔ ¬∃ n, IsNatural cs n ∧ n ≤ bound := by
  simp only [Option.eq_none_iff_forall_ne_some, ne_eq, natural?_eq_some_iff, not_exists]

/-- A text writes one number at most. -/
theorem IsInteger.unique {y z : Int} (hy : IsInteger cs y) (hz : IsInteger cs z) : y = z := by
  have hready : integer? (min y z) (max y z) cs = some y :=
    integer?_eq_some_iff.2 ⟨hy, min_le_left y z, le_max_left y z⟩
  have hreadz : integer? (min y z) (max y z) cs = some z :=
    integer?_eq_some_iff.2 ⟨hz, min_le_right y z, le_max_right y z⟩
  exact Option.some.inj (hready.symm.trans hreadz)

/-! ## Runs of digits -/

/-- The text does not carry on a run of digits that stands in front of it. -/
def NoDigitFirst (rest : List Char) : Prop :=
  ∀ c ∈ rest.head?, c.isDigit = false

variable {rest : List Char}

theorem NoDigitFirst.nil : NoDigitFirst [] := fun _ h => nomatch h

theorem NoDigitFirst.cons {c : Char} (h : c.isDigit = false) : NoDigitFirst (c :: rest) := by
  rintro d hd
  obtain rfl := Option.some.inj hd
  exact h

theorem takeWhile_isDigit (h : ∀ c ∈ cs, c.isDigit = true) (hrest : NoDigitFirst rest) :
    (cs ++ rest).takeWhile Char.isDigit = cs := by
  rw [List.takeWhile_append_of_pos h]
  cases rest with
  | nil => simp
  | cons c rest => simp [hrest c rfl]

theorem dropWhile_isDigit (h : ∀ c ∈ cs, c.isDigit = true) (hrest : NoDigitFirst rest) :
    (cs ++ rest).dropWhile Char.isDigit = rest := by
  rw [List.dropWhile_append_of_pos h]
  cases rest with
  | nil => simp
  | cons c rest => simp [hrest c rfl]

end Filing.Text
