import Filing.Text.Numeral

/-!
# Network addresses

Internet addresses of both versions, as they are written.

* `IpAddress` with `IpAddress.ofText?` and `IpAddress.toText`;
* `socketText` — an address with a port.

Four octets are written in base ten, without zeros in front.  Eight groups are written in base
sixteen; the longest run of at least two groups that are zero, and the first of several, is left
out; the last two groups may be read as four octets, and are written so after `::ffff:`.
-/

set_option autoImplicit false

namespace Filing

/-- An internet address: four octets or eight groups. -/
inductive IpAddress where
  | four (a b c d : UInt8)
  | six (groups : Vector UInt16 8)
deriving DecidableEq

namespace IpAddress

open Text

/-! ## Reading -/

/-- What stands after the given character. -/
def after? (c : Char) : List Char → Option (List Char)
  | d :: rest => if d = c then some rest else none
  | [] => none

/-- An octet: at most three digits, the first of which is a zero only if it is the only one. -/
def octet? (cs : List Char) : Option (UInt8 × List Char) := do
  let ds := cs.takeWhile Char.isDigit
  guard (ds.length ≤ 3 && (ds.length == 1 || ds.head? != some '0'))
  let n ← (number? ds).filter (· ≤ maxByte)
  return (UInt8.ofNat n, cs.dropWhile Char.isDigit)

/-- Four octets with points between them, and what stands after them. -/
def octets? (cs : List Char) : Option ((UInt8 × UInt8 × UInt8 × UInt8) × List Char) := do
  let (a, cs) ← octet? cs
  let (b, cs) ← octet? (← after? '.' cs)
  let (c, cs) ← octet? (← after? '.' cs)
  let (d, cs) ← octet? (← after? '.' cs)
  return ((a, b, c, d), cs)

/-- The value of digits to base sixteen. -/
def hexNumber (ds : List Char) : Nat :=
  ds.foldl (fun n c => 16 * n + (hexDigit? c).getD 0) 0

/-- A group: one to four digits to base sixteen. -/
def group? (cs : List Char) : Option (UInt16 × List Char) :=
  let ds := cs.takeWhile fun c => (hexDigit? c).isSome
  if ds.isEmpty || 4 < ds.length then none
  else some (UInt16.ofNat (hexNumber ds), cs.drop ds.length)

/-- Two octets as a group. -/
def joinOctets (a b : UInt8) : UInt16 :=
  UInt16.ofNat (256 * a.toNat + b.toNat)

/-- As many groups with colons between them as there are, up to `room`, and what stands after them.
Four octets in the place of two groups end them, which the flag says. -/
def groupList (room : Nat) (isFirst : Bool) (cs : List Char) :
    List UInt16 × Bool × List Char :=
  match room with
  | 0 => ([], false, cs)
  | room + 1 =>
    let start? := if isFirst then some cs else after? ':' cs
    match if room = 0 then none else start?.bind octets? with
    | some ((a, b, c, d), rest) => ([joinOctets a b, joinOctets c d], true, rest)
    | none =>
      match start?.bind group? with
      | none => ([], false, cs)
      | some (g, rest) =>
        let (gs, octets, rest) := groupList room false rest
        (g :: gs, octets, rest)

/-- Eight groups, of which a run of zeros may be left out, and what stands after them. -/
def groups? (cs : List Char) : Option (List UInt16 × List Char) := do
  let (head, octets, rest) := groupList 8 true cs
  if head.length = 8 then return (head, rest)
  guard !octets
  let rest ← after? ':' (← after? ':' rest)
  let (tail, _, rest) := groupList (7 - head.length) true rest
  return (head ++ List.replicate (8 - head.length - tail.length) 0 ++ tail, rest)

/-- The address that a text spells. -/
def ofText? (s : String) : Option IpAddress :=
  match octets? s.toList with
  | some ((a, b, c, d), []) => some (four a b c d)
  | some _ => none
  | none =>
    match groups? s.toList with
    | some (gs, []) => if h : gs.toArray.size = 8 then some (six ⟨gs.toArray, h⟩) else none
    | _ => none

/-! ## Writing -/

/-- A number in base ten. -/
def decimal (n : Nat) : List Char := Nat.toDigits 10 n

/-- Four octets with points between them. -/
def octetChars (a b c d : UInt8) : List Char :=
  decimal a.toNat ++ '.' :: decimal b.toNat ++ '.' :: decimal c.toNat ++ '.' :: decimal d.toNat

/-- Groups with colons between them. -/
def groupChars (gs : List UInt16) : List Char :=
  [':'].intercalate (gs.map fun g => Nat.toDigits 16 g.toNat)

/-- How many groups from an index on are zero. -/
def zerosAt (gs : List UInt16) (i : Nat) : Nat :=
  ((gs.drop i).takeWhile (· == 0)).length

/-- The index from which on most groups are zero, the first of several. -/
def longestZeros (gs : List UInt16) : Nat :=
  (List.range gs.length).foldl (fun best i => if zerosAt gs best < zerosAt gs i then i else best) 0

/-- The groups that open an address which stands for four octets. -/
def mappedLead : List UInt16 := [0, 0, 0, 0, 0, 0xFFFF]

/-- Groups as they are written. -/
def sixChars (gs : List UInt16) : List Char :=
  let start := longestZeros gs
  let zeros := zerosAt gs start
  match gs.drop 6 with
  | [g, h] =>
    if gs.take 6 = mappedLead then
      "::ffff:".toList ++ octetChars (g >>> 8).toUInt8 g.toUInt8 (h >>> 8).toUInt8 h.toUInt8
    else if 1 < zeros then
      groupChars (gs.take start) ++ ':' :: ':' :: groupChars (gs.drop (start + zeros))
    else groupChars gs
  | _ => groupChars gs

/-- The text of an address. -/
def toText : IpAddress → String
  | four a b c d => String.ofList (octetChars a b c d)
  | six gs => String.ofList (sixChars gs.toList)

/-- An address with a port; eight groups stand in brackets. -/
def socketText (address : IpAddress) (port : UInt16) : String :=
  let text := address.toText
  match address with
  | four .. => s!"{text}:{port}"
  | six _ => s!"[{text}]:{port}"

/-- The address of the machine itself. -/
def localhost : IpAddress := four 127 0 0 1

end IpAddress

end Filing
