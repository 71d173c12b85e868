import Filing.Json.Basic
import Filing.Json.Number

/-!
# Reading JSON text

A text is read from left to right as far as it is well-formed.  The outcome is kept as a `Reading`,
a tree in which the spot where the text stops to be JSON is marked.  Whoever looks for particular
data in the tree meets the faults in the order in which they stand in the text, and can tell text
that is no JSON from JSON that holds something else.

* `Reading` — what a text shows;
* `Reading.ofChars` — the reading of a text; what stands after a complete value is not looked at;
* `Reading.ofText?` — the reading of a text that holds one value and nothing else;
* `Reading.ofJson` — the reading of the text of a `Json` value.
-/

set_option autoImplicit false

namespace Filing

/-- A text read as JSON.  Arrays and objects say whether their closing bracket was found; in one
that is not closed, everything after the last part shown is unknown. -/
inductive Reading where
  | null
  | bool (value : Bool)
  | int (value : Int)
  /-- A number that is no whole number of sixty-four binary digits. -/
  | real (text : List Char)
  | str (value : String)
  /-- A well-formed number or text that stands for nothing: a number out of every range, half of a
  surrogate pair. -/
  | valueless
  | arr (items : List Reading) (closed : Bool)
  /-- A member name may stand for nothing. -/
  | obj (members : List (Option String × Reading)) (closed : Bool)
  /-- Here the text is no JSON. -/
  | broken
deriving Inhabited

namespace Reading

open Text

/-! ## White space, numbers -/

/-- The white space of JSON. -/
def isSpace (c : Char) : Bool :=
  c == ' ' || c == '\n' || c == '\t' || c == '\r'

/-- A text without the white space that it opens with. -/
def skipSpace (cs : List Char) : List Char :=
  cs.dropWhile isSpace

/-- What a number stands for. -/
def ofNumeral (n : Numeral) : Reading :=
  match n.whole? with
  | some value => .int value
  | none => if n.isTooGreat then .valueless else .real n.toChars

/-! ## Texts -/

/-- The character that a letter stands for after a backslash. -/
def escaped? (c : Char) : Option Char :=
  if c = '"' ∨ c = '\\' ∨ c = '/' then some c
  else if c = 'b' then some '\x08'
  else if c = 'f' then some '\x0c'
  else if c = 'n' then some '\n'
  else if c = 'r' then some '\r'
  else if c = 't' then some '\t'
  else none

/-- The code units of a text up to its closing quote, and what stands after the quote. -/
def units? : List Char → Option (List Nat × List Char)
  | [] => none
  | '"' :: cs => some ([], cs)
  | '\\' :: 'u' :: a :: b :: c :: d :: cs => do
    let unit := ((16 * (← hexDigit? a) + (← hexDigit? b)) * 16 + (← hexDigit? c)) * 16 +
      (← hexDigit? d)
    let (us, rest) ← units? cs
    return (unit :: us, rest)
  | '\\' :: c :: cs => do
    let e ← escaped? c
    let (us, rest) ← units? cs
    return (e.toNat :: us, rest)
  | c :: cs => do
    guard (32 ≤ c.toNat && c != '\\')
    let (us, rest) ← units? cs
    return (c.toNat :: us, rest)

/-- The unit opens a surrogate pair. -/
def isHigh (u : Nat) : Bool := 0xD800 ≤ u && u < 0xDC00

/-- The unit closes a surrogate pair. -/
def isLow (u : Nat) : Bool := 0xDC00 ≤ u && u < 0xE000

/-- The characters of code units; surrogates stand in pairs. -/
def pairUp : List Nat → Option (List Char)
  | [] => some []
  | u :: us =>
    if isLow u then none
    else if isHigh u then
      match us with
      | v :: rest =>
        if isLow v then
          (pairUp rest).map (Char.ofNat (0x10000 + (u - 0xD800) * 0x400 + (v - 0xDC00)) :: ·)
        else none
      | [] => none
    else (pairUp us).map (Char.ofNat u :: ·)

/-- What code units stand for. -/
def textOf (us : List Nat) : Option String :=
  (pairUp us).map String.ofList

/-! ## Values -/

/-- What stands after the given word. -/
def word? : List Char → List Char → Option (List Char)
  | [], cs => some cs
  | w :: ws, c :: cs => if w = c then word? ws cs else none
  | _ :: _, [] => none

/-- A value that is read off a word, or the spot where the word is none. -/
def ofWord (v : Reading) (word cs : List Char) : Reading × Option (List Char) :=
  match word? word cs with
  | some rest => (v, some rest)
  | none => (.broken, none)

mutual

/-- The value that a text opens with, and what stands after it, unless the text is broken before the
end of the value. -/
def value : Nat → List Char → Reading × Option (List Char)
  | 0, _ => (.broken, none)
  | fuel + 1, cs =>
    match skipSpace cs with
    | '[' :: rest =>
      match skipSpace rest with
      | ']' :: rest => (.arr [] true, some rest)
      | rest =>
        let (items, rest) := itemList fuel rest
        (.arr items rest.isSome, rest)
    | '{' :: rest =>
      match skipSpace rest with
      | '}' :: rest => (.obj [] true, some rest)
      | rest =>
        let (members, rest) := memberList fuel rest
        (.obj members rest.isSome, rest)
    | '"' :: rest =>
      match units? rest with
      | some (us, rest) => (((textOf us).map Reading.str).getD .valueless, some rest)
      | none => (.broken, none)
    | 'n' :: rest => ofWord .null "ull".toList rest
    | 't' :: rest => ofWord (.bool true) "rue".toList rest
    | 'f' :: rest => ofWord (.bool false) "alse".toList rest
    | rest =>
      match Numeral.ofChars? rest with
      | some (n, rest) => (ofNumeral n, some rest)
      | none => (.broken, none)

/-- The items of an array, of which there is one at least, and what stands after its bracket. -/
def itemList : Nat → List Char → List Reading × Option (List Char)
  | 0, _ => ([], none)
  | fuel + 1, cs =>
    match value fuel cs with
    | (v, none) => ([v], none)
    | (v, some rest) =>
      match skipSpace rest with
      | ',' :: rest =>
        let (vs, rest) := itemList fuel rest
        (v :: vs, rest)
      | ']' :: rest => ([v], some rest)
      | _ => ([v], none)

/-- The members of an object, of which there is one at least, and what stands after its brace. -/
def memberList : Nat → List Char → List (Option String × Reading) × Option (List Char)
  | 0, _ => ([], none)
  | fuel + 1, cs =>
    match skipSpace cs with
    | '"' :: rest =>
      match units? rest with
      | none => ([], none)
      | some (us, rest) =>
        match skipSpace rest with
        | ':' :: rest =>
          match value fuel rest with
          | (v, none) => ([(textOf us, v)], none)
          | (v, some rest) =>
            match skipSpace rest with
            | ',' :: rest =>
              let (ms, rest) := memberList fuel rest
              ((textOf us, v) :: ms, rest)
            | '}' :: rest => ([(textOf us, v)], some rest)
            | _ => ([(textOf us, v)], none)
        | _ => ([(textOf us, .broken)], none)
    | _ => ([], none)

end

/-- The reading of a text.  Every level of nesting takes a character and two steps. -/
def ofChars (cs : List Char) : Reading :=
  (value (2 * cs.length + 2) cs).1

/-- The reading of a text that holds one value with nothing but white space around it. -/
def ofText? (s : String) : Option Reading :=
  match value (2 * s.length + 2) s.toList with
  | (v, some rest) => if (skipSpace rest).isEmpty then some v else none
  | (_, none) => none

/-! ## Values that were written -/

mutual

/-- The reading of the text of a value. -/
def ofJson : Json → Reading
  | .null => .null
  | .bool b => .bool b
  | .int n => .int n
  | .str s => .str s
  | .arr items => .arr (ofItems items) true
  | .obj members => .obj (ofMembers members) true

/-- The readings of the items of an array. -/
def ofItems : List Json → List Reading
  | [] => []
  | v :: rest => ofJson v :: ofItems rest

/-- The readings of the members of an object. -/
def ofMembers : List (String × Json) → List (Option String × Reading)
  | [] => []
  | (name, v) :: rest => (some name, ofJson v) :: ofMembers rest

end

end Reading

end Filing
