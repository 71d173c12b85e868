/-!
# Whole numbers as text

Reading and writing whole numbers in base ten.  Digits are `0` to `9` only: the digits of other
scripts are not digits here.

* `digit?`, `number?` — one digit, and a run of nothing but digits;
* `hexDigit?` — one digit to base sixteen;
* `natural?`, `integer?` — an optional sign and digits, inside bounds;
* `padded` — a number with zeros in front up to a least width.
-/

set_option autoImplicit false

namespace Filing.Text

/-- The value of a decimal digit. -/
def digit? (c : Char) : Option Nat :=
  if c.isDigit then some (c.toNat - '0'.toNat) else none

/-- The value of a digit to base sixteen. -/
def hexDigit? (c : Char) : Option Nat :=
  if c.isDigit then some (c.toNat - '0'.toNat)
  else if 'a' ≤ c ∧ c ≤ 'f' then some (c.toNat - 'a'.toNat + 10)
  else if 'A' ≤ c ∧ c ≤ 'F' then some (c.toNat - 'A'.toNat + 10)
  else none

/-- The value of a run of digits, the first of which counts most; nothing if a character of the run
is no digit. -/
def digits? (cs : List Char) (value : Nat) : Option Nat :=
  match cs with
  | [] => some value
  | c :: rest => (digit? c).bind fun d => digits? rest (10 * value + d)

/-- The value of at least one digit. -/
def number? : List Char → Option Nat
  | [] => none
  | cs => digits? cs 0

/-- A whole number up to `bound`: digits, which may follow a plus sign. -/
def natural? (bound : Nat) (cs : List Char) : Option Nat :=
  (number? (if cs.head? = some '+' then cs.tail else cs)).filter (· ≤ bound)

/-- A whole number from `low` to `high`: digits, which may follow a sign. -/
def integer? (low high : Int) (cs : List Char) : Option Int :=
  let value : Option Int :=
    if cs.head? = some '-' then (number? cs.tail).map fun n => -(n : Int)
    else (natural? high.toNat cs).map fun n => (n : Int)
  value.filter fun n => low ≤ n && n ≤ high

/-- The digits of a number with zeros in front of them up to `width` digits. -/
def padded (width n : Nat) : List Char :=
  let ds := Nat.toDigits 10 n
  List.replicate (width - ds.length) '0' ++ ds

/-- A power of ten. -/
def powTen (k : Nat) : Nat := Nat.pow 10 k

/-- The greatest number of eight, sixteen, thirty-two and sixty-four binary digits. -/
def maxByte : Nat := UInt8.size - 1

@[inherit_doc maxByte] def maxShort : Nat := UInt16.size - 1

@[inherit_doc maxByte] def maxWord : Nat := UInt32.size - 1

@[inherit_doc maxByte] def maxLong : Nat := UInt64.size - 1

/-- The least and the greatest number of sixty-four binary digits with a sign. -/
def minSigned : Int := Int64.minValue.toInt

@[inherit_doc minSigned] def maxSigned : Int := Int64.maxValue.toInt

end Filing.Text
