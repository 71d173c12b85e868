import Filing.Text.Numeral

/-!
# Numbers as they are written

A number in JSON is a whole part, a fraction and an exponent.  Whole numbers of sixty-four binary
digits are kept as they are.  Any other number is taken for one of double precision, and some are
out of its range.

* `Numeral`, `Numeral.ofChars?` — the parts of a number, and the number that a text opens with;
* `Numeral.whole?` — the whole number that is kept;
* `Numeral.isTooGreat` — the number is out of range.

The size of a number is found from its leading digits, as many as sixty-four binary digits can hold,
and from a power of ten.  Both are rounded to double precision before they are multiplied, so that
the range does not end at one exact bound.
-/

set_option autoImplicit false

namespace Filing

open Text

/-- The parts of a number as it is written. -/
structure Numeral where
  negative : Bool
  whole : List Char
  fraction : List Char
  exponentNegative : Bool
  exponent : List Char

namespace Numeral

/-! ## Reading -/

/-- A run of digits, and what stands after it. -/
def digits (cs : List Char) : List Char × List Char :=
  (cs.takeWhile Char.isDigit, cs.dropWhile Char.isDigit)

/-- The optional fraction of a number: a point and at least one digit. -/
def fractionPart? : List Char → Option (List Char × List Char)
  | '.' :: cs => some (digits cs) |>.filter (!·.1.isEmpty)
  | cs => some ([], cs)

/-- The optional exponent of a number: its mark, a sign, and at least one digit. -/
def exponentPart? : List Char → Option ((Bool × List Char) × List Char)
  | [] => some ((false, []), [])
  | c :: cs =>
    if c = 'e' ∨ c = 'E' then
      let negative := cs.head? = some '-'
      let ds := digits (if negative ∨ cs.head? = some '+' then cs.tail else cs)
      if ds.1.isEmpty then none else some ((negative, ds.1), ds.2)
    else some ((false, []), c :: cs)

/-- The number that a text opens with, and what stands after it.  A whole part of several digits
does not start with a zero. -/
def ofChars? (cs : List Char) : Option (Numeral × List Char) := do
  let negative := cs.head? = some '-'
  let (whole, cs) := digits (if negative then cs.tail else cs)
  guard (!whole.isEmpty && (whole.length == 1 || whole.head? != some '0'))
  let (fraction, cs) ← fractionPart? cs
  let ((exponentNegative, exponent), cs) ← exponentPart? cs
  return (⟨negative, whole, fraction, exponentNegative, exponent⟩, cs)

/-- The characters of a number. -/
def toChars (n : Numeral) : List Char :=
  (if n.negative then ['-'] else []) ++ n.whole ++
    (if n.fraction.isEmpty then [] else '.' :: n.fraction) ++
    (if n.exponent.isEmpty then []
      else 'e' :: (if n.exponentNegative then ['-'] else []) ++ n.exponent)

/-! ## Whole numbers -/

/-- The whole number of sixty-four binary digits that is written.  Minus zero is none. -/
def whole? (n : Numeral) : Option Int :=
  let magnitude := (digits? n.whole 0).getD 0
  if !n.fraction.isEmpty || !n.exponent.isEmpty then none
  else if n.negative then
    some (-(magnitude : Int)) |>.filter fun value => value < 0 && minSigned ≤ value
  else some (magnitude : Int) |>.filter (· ≤ maxLong)

/-! ## The range of double precision -/

/-- The number of fifty-three leading binary digits that is nearest to a whole number; of two that
are equally near, the one whose last digit is zero. -/
def nearestDouble (n : Nat) : Nat :=
  let unit := 1 <<< (n.log2 - 52)
  let below := n / unit
  let above := unit < 2 * (n % unit) || (unit == 2 * (n % unit) && below % 2 == 1)
  (if above then below + 1 else below) * unit

/-- The least whole number that is not rounded to a number of double precision. -/
def doubleBound : Nat := (1 <<< 1024) - (1 <<< 970)

/-- The greatest power of ten in double precision. -/
def maxPowerOfTen : Nat := 308

/-- The number that a run of digits carries on from another one, and the digits after those that
sixty-four binary digits can hold. -/
def leading (value : Nat) : List Char → Nat × List Char
  | [] => (value, [])
  | c :: cs =>
    match (digit? c).filter fun d => 10 * value + d ≤ maxLong with
    | some d => leading (10 * value + d) cs
    | none => (value, c :: cs)

/-- The leading digits of a number, and the power of ten that they are to be multiplied with. -/
def scaled (n : Numeral) : Nat × Int :=
  let (head, wholeRest) := leading 0 n.whole
  let (value, fractionRest) := leading head n.fraction
  let exponent : Int := (digits? n.exponent 0).getD 0
  (value, (if n.exponentNegative then -exponent else exponent) + wholeRest.length -
    (n.fraction.length - fractionRest.length : Nat))

/-- The number is too great for double precision. -/
def isTooGreat (n : Numeral) : Bool :=
  let (value, power) := n.scaled
  value != 0 && 0 ≤ power &&
    (maxPowerOfTen < power.toNat ||
      doubleBound ≤ nearestDouble value * nearestDouble (powTen power.toNat))

end Numeral

end Filing
