import Filing.Http.Authority
import Filing.Text.Numeral
import Filing.Text.Utf8

/-!
# Request targets

The part of a request that says what it is about: a path of parts with slashes between them, and a
query of names with values.  A scheme and an authority may stand in front of the path.  Bytes that
cannot stand for themselves are escaped: a percent sign and two digits to base sixteen.

* `Target.ofText?` — the parts of a path as they are written, and the names and values of a query,
  if the text is a target;
* `unescape` — the bytes that a text stands for; an escape that is not finished stands for itself;
* `Target.part?` — the text of a part of a path, unless its bytes are no text.

In a query a plus sign stands for a blank, and bytes that are no text are replaced.
-/

set_option autoImplicit false

namespace Filing

open Text

/-! ## Escapes -/

/-- The value of two digits to base sixteen. -/
def escapedByte? (a b : UInt8) : Option UInt8 := do
  let high ← hexDigit? (Char.ofNat a.toNat)
  let low ← hexDigit? (Char.ofNat b.toNat)
  return UInt8.ofNat (16 * high + low)

/-- The bytes that bytes with escapes stand for. -/
def unescapeBytes : List UInt8 → List UInt8
  | [] => []
  | [a] => [a]
  | [a, b] => [a, b]
  | p :: a :: b :: rest =>
    match if p = 0x25 then escapedByte? a b else none with
    | some byte => byte :: unescapeBytes rest
    | none => p :: unescapeBytes (a :: b :: rest)

/-- The bytes that a text with escapes stands for. -/
def unescape (cs : List Char) : List UInt8 :=
  unescapeBytes (encode (String.ofList cs))

/-! ## Targets -/

/-- What a request is about. -/
structure Target where
  /-- The parts of the path, as they are written. -/
  parts : List String
  query : List (String × String)
deriving DecidableEq

namespace Target

/-- The pieces of a text between the given characters. -/
def pieces (mark : Char) : List Char → List (List Char)
  | [] => [[]]
  | c :: cs =>
    if c = mark then [] :: pieces mark cs
    else match pieces mark cs with
      | [] => [[c]]
      | p :: ps => (c :: p) :: ps

/-- A text up to the given character, and what stands after the character. -/
def splitAt (mark : Char) (cs : List Char) : List Char × List Char :=
  (cs.takeWhile (· != mark), (cs.dropWhile (· != mark)).drop 1)

/-- The text of a name or a value in a query. -/
def queryText (cs : List Char) : String :=
  String.ofList (decodeLossy (unescape (cs.map fun c => if c = '+' then ' ' else c)))

/-- The names and values of a query, with ampersands between them. -/
def queryOf (cs : List Char) : List (String × String) :=
  ((pieces '&' cs).filter (!·.isEmpty)).map fun piece =>
    let (name, value) := splitAt '=' piece
    (queryText name, queryText value)

/-- The character may stand in a path as it is. -/
def isPathChar (c : Char) : Bool :=
  0x20 < c.toNat && c != '<' && c != '>' && c.toNat != 0x60

/-- The character may stand in a query as it is. -/
def isQueryChar (c : Char) : Bool :=
  0x20 < c.toNat && c != '<' && c != '>' && c != '"'

/-- The target of a path and a query.  An empty path is the one of a single slash.  What stands
after a number sign is for the sender alone, and may hold any character. -/
def ofPath? (cs : List Char) : Option Target := do
  let (path, query) := splitAt '?' (splitAt '#' cs).1
  guard (path.all isPathChar && query.all isQueryChar)
  return ⟨(pieces '/' (if path.isEmpty then ['/'] else path)).map String.ofList, queryOf query⟩

/-- The greatest number of bytes in a target. -/
def maxSize : Nat := 65534

/-- The target that a text spells: a path and a query, with a scheme and an authority in front of
them or without both.  An authority alone is a target without any path. -/
def ofText? (s : String) : Option Target := do
  guard (s.utf8ByteSize ≤ maxSize)
  let cs := s.toList
  if cs.head? = some '/' then ofPath? cs
  else
    let (authority, rest) ← Authority.split? (← Authority.afterScheme? cs)
    guard (!authority.isEmpty)
    if Authority.hasScheme cs then ofPath? rest
    else if rest.isEmpty then some ⟨[""], []⟩
    else none

/-- The text of a part of a path. -/
def part? (raw : String) : Option String :=
  decode? (unescape raw.toList)

/-- The values of a name in a query. -/
def valuesOf (t : Target) (name : String) : List String :=
  (t.query.filter (·.1 == name)).map (·.2)

/-- The value of a name that may be absent; nothing at all if the name stands twice. -/
def possible? (t : Target) (name : String) : Option (Option String) :=
  match t.valuesOf name with
  | [] => some none
  | [value] => some (some value)
  | _ => none

/-- The value of a name that has to stand once. -/
def required? (t : Target) (name : String) : Option String :=
  (t.possible? name).join

end Target

end Filing
