import Filing.Text.Numeral

/-!
# Decimal amounts

A decimal amount is a sign, a mantissa of at most 96 binary digits and a number of fraction digits,
at most 28.  An amount keeps the fraction digits that it was written with, so `10.50` reads as
`10.50` and not as `10.5`.

* `Decimal` — the amounts;
* `Decimal.ofText?` — reading: a plain numeral, or a numeral with an exponent of ten;
* `Decimal.toText` — writing.

A numeral may hold more fraction digits than an amount can.  The first digit that does not fit then
rounds the ones before it, a five upwards, and the digits after it are not looked at.
-/

set_option autoImplicit false

namespace Filing

open Text

/-- The greatest mantissa. -/
def Decimal.maxMantissa : Nat := (1 <<< 96) - 1

/-- The greatest number of fraction digits. -/
def Decimal.maxScale : Nat := 28

/-- The amount `± mantissa / 10 ^ scale`, written with `scale` fraction digits. -/
structure Decimal where
  negative : Bool
  mantissa : Nat
  scale : Nat
  mantissa_le : mantissa ≤ Decimal.maxMantissa
  scale_le : scale ≤ Decimal.maxScale
deriving DecidableEq

namespace Decimal

/-- The amount with these parts, if they are inside the bounds. -/
def ofParts? (negative : Bool) (mantissa scale : Nat) : Option Decimal :=
  if h : mantissa ≤ maxMantissa ∧ scale ≤ maxScale then
    some ⟨negative, mantissa, scale, h.1, h.2⟩
  else none

/-- The amount is greater than zero. -/
def isPositive (d : Decimal) : Bool :=
  !d.negative && d.mantissa != 0

/-! ## Writing -/

/-- The numeral of an amount: its sign, its whole part, and its fraction digits after a point. -/
def toText (d : Decimal) : String :=
  let ds := padded (d.scale + 1) d.mantissa
  let whole := ds.take (ds.length - d.scale)
  let fraction := ds.drop (ds.length - d.scale)
  let magnitude := if d.scale = 0 then whole else whole ++ '.' :: fraction
  String.ofList (if d.negative then '-' :: magnitude else magnitude)

/-! ## Reading a plain numeral -/

/-- How far a plain numeral has been read. -/
structure Progress where
  /-- The digits so far. -/
  mantissa : Nat
  /-- How many of them stand after the point. -/
  scale : Nat
  /-- The point has been read. -/
  pointed : Bool
  /-- A digit has been read. -/
  started : Bool
  /-- The last digit was appended to a mantissa that no longer fits in 64 binary digits once a
  further digit is appended. -/
  wide : Bool

/-- The mantissa from which on a further digit is taken to leave 64 binary digits. -/
def wideFrom : Nat := maxLong / 10 - 255

/-- What may stand after the digit that rounds: digits and separators. -/
def isTail (cs : List Char) : Bool :=
  cs.all fun c => c.isDigit || c == '_'

/-- The mantissa and the scale once the digit after them is rounded away.  A mantissa that grows
past the bound gives up its last fraction digit. -/
def roundAway (mantissa scale digit : Nat) : Option (Nat × Nat) :=
  if digit < 5 then some (mantissa, scale)
  else if mantissa + 1 ≤ maxMantissa then some (mantissa + 1, scale)
  else if scale = 0 then none
  else some ((mantissa + 5) / 10, scale - 1)

/-- The mantissa and the scale of the rest of an unsigned plain numeral.  A separator may stand
anywhere after the first digit.  Where all fraction digits are taken, the next character rounds; a
separator there counts as the digit zero, unless the last digit was appended to a wide mantissa:
then the separator is passed over. -/
def scan (p : Progress) : List Char → Option (Nat × Nat)
  | [] => if p.started then some (p.mantissa, p.scale) else none
  | c :: rest =>
    if p.pointed ∧ maxScale ≤ p.scale then
      match digit? c with
      | some d => if isTail rest then roundAway p.mantissa p.scale d else none
      | none =>
        if c = '_' then
          if p.wide then scan p rest
          else if isTail rest then some (p.mantissa, p.scale) else none
        else none
    else
      match digit? c with
      | some d =>
        if 10 * p.mantissa + d ≤ maxMantissa then
          scan ⟨10 * p.mantissa + d, if p.pointed then p.scale + 1 else 0, p.pointed, true,
            wideFrom ≤ p.mantissa⟩ rest
        else if p.pointed ∧ isTail rest then roundAway p.mantissa p.scale d
        else none
      | none =>
        if c = '.' ∧ !p.pointed then
          scan { p with pointed := true } rest
        else if c = '_' ∧ p.started then scan p rest
        else none

/-- A sign and what stands after it. -/
def splitSign : List Char → Bool × List Char
  | '-' :: rest => (true, rest)
  | '+' :: rest => (false, rest)
  | cs => (false, cs)

/-- A numeral without an exponent. -/
def plain? (cs : List Char) : Option Decimal :=
  let (negative, unsigned) := splitSign cs
  (scan ⟨0, 0, false, false, false⟩ unsigned).bind fun p => ofParts? negative p.1 p.2

/-! ## Reading a numeral with an exponent -/

/-- The quotient `n / 10 ^ k` to the nearest whole number, a half upwards. -/
def divPow (n k : Nat) : Nat :=
  (2 * n + powTen k) / (2 * powTen k)

/-- The amount times `10 ^ e`.  The digits of the amount are kept as long as they are fraction
digits. -/
def scaleUp (d : Decimal) (e : Nat) : Option Decimal :=
  if e ≤ d.scale then ofParts? d.negative d.mantissa (d.scale - e)
  else ofParts? d.negative (d.mantissa * powTen (e - d.scale)) 0

/-- The amount divided by `10 ^ e`.  Fraction digits that do not fit are rounded away. -/
def scaleDown (d : Decimal) (e : Nat) : Option Decimal :=
  if d.scale + e ≤ maxScale then ofParts? d.negative d.mantissa (d.scale + e)
  else ofParts? d.negative (divPow d.mantissa (d.scale + e - maxScale)) maxScale

/-- A numeral with an exponent of at most 28 after its first `e`. -/
def scientific? (cs : List Char) : Option Decimal :=
  let isMark (c : Char) : Bool := c == 'e' || c == 'E'
  match cs.dropWhile (!isMark ·) with
  | [] => none
  | _ :: exponent =>
    (plain? (cs.takeWhile (!isMark ·))).bind fun base =>
      let size? (ds : List Char) := (natural? maxWord ds).filter (· ≤ maxScale)
      match exponent with
      | '-' :: ds => (size? ds).bind base.scaleDown
      | ds => (size? ds).bind base.scaleUp

/-- The amount that a text spells. -/
def ofText? (s : String) : Option Decimal :=
  (plain? s.toList).or (scientific? s.toList)

end Decimal

end Filing
