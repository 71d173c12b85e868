import Filing.Text.Blank
import Filing.Text.Letter

/-!
# Files with variables

A file may set variables, one a line: a name, an equals sign, a value.  Empty lines and lines that
open with `#` say nothing.  A value may stand in quotes, and outside single quotes it may refer to
other variables.

* `Dotenv.lines` — the lines of a text; a quote that is open at the end of a line goes on in the
  next;
* `Dotenv.entryOf` — the variable that a line sets;
* `Dotenv.load` — the variables after a file.  The first line that cannot be read ends the file, and
  a variable that is set already stays as it is.
-/

set_option autoImplicit false

namespace Filing

/-- Names with their values. -/
abbrev Variables := List (String × String)

/-- The value of a variable. -/
def Variables.find? (vs : Variables) (name : String) : Option String :=
  (List.find? (·.1 == name) vs).map (·.2)

namespace Dotenv

open Text

/-! ## Lines -/

/-- Where a line stands after some of its characters. -/
inductive LineState where
  | plain
  /-- After white space: a `#` here opens a comment. -/
  | blank
  /-- After a backslash. -/
  | escape
  | single
  | singleEscape
  | double
  | doubleEscape
deriving DecidableEq

/-- The state after one more character; nothing where the character opens a comment. -/
def LineState.after? (c : Char) : LineState → Option LineState
  | escape => some plain
  | blank =>
    if c = '#' then none
    else if c = '\\' then some escape
    else if c = '"' then some double
    else if c = '\'' then some single
    else some plain
  | plain =>
    if isBlank c ∧ c ≠ '\n' ∧ c ≠ '\r' then some blank
    else if c = '\\' then some escape
    else if c = '"' then some double
    else if c = '\'' then some single
    else some plain
  | double => some (if c = '\\' then doubleEscape else if c = '"' then plain else double)
  | doubleEscape => some double
  | single => some (if c = '\\' then singleEscape else if c = '\'' then plain else single)
  | singleEscape => some single

/-- The characters of a line before a comment, and the state at the end of the line or nothing if
there is a comment. -/
def scan (state : LineState) : List Char → List Char × Option LineState
  | [] => ([], some state)
  | c :: cs =>
    match state.after? c with
    | none => ([], none)
    | some state => (c :: (scan state cs).1, (scan state cs).2)

/-- The physical lines of a text, each with its line end. -/
def physicalLines : List Char → List (List Char)
  | [] => []
  | c :: cs =>
    if c = '\n' then [c] :: physicalLines cs
    else match physicalLines cs with
      | [] => [[c]]
      | l :: rest => (c :: l) :: rest

/-- A line without its line end. -/
def dropLineEnd (l : List Char) : List Char :=
  match l.reverse with
  | '\n' :: '\r' :: rest => rest.reverse
  | '\n' :: rest => rest.reverse
  | _ => l

/-- The lines of a text; nothing stands for the rest of a text that ends inside a line.  `held` is
what has been read of the line so far. -/
def joinLines (state : LineState) (held : List Char) : List (List Char) → List (Option (List Char))
  | [] => if state = .plain then [] else [none]
  | l :: rest =>
    if (dropBlanks (held ++ l)).head? = some '#' then some [] :: joinLines .plain [] rest
    else match scan state l with
      | (before, none) => some (held ++ before) :: joinLines .plain [] rest
      | (_, some .plain) => some (dropLineEnd (held ++ l)) :: joinLines .plain [] rest
      | (_, some state) => joinLines state (held ++ l) rest

/-- The mark that may stand in front of a text. -/
def byteOrderMark : Char := '\ufeff'

/-- The lines of a text. -/
def lines (text : String) : List (Option (List Char)) :=
  let cs := text.toList
  joinLines .plain [] (physicalLines (if cs.head? = some byteOrderMark then cs.tail else cs))

/-! ## Values -/

/-- Where a value stands after some of its characters. -/
inductive ValueState where
  | plain (quoted : Bool)
  | single
  | escape (quoted : Bool)
  /-- Inside the name of another variable. -/
  | name (quoted inBraces : Bool) (read : List Char)
  /-- After white space: only a comment may follow. -/
  | ended

/-- The value of the variable with the given name; the empty text if there is none. -/
def refer (vs : Variables) (name : List Char) : List Char :=
  ((vs.find? (String.ofList name)).getD "").toList

/-- The character that a character stands for after a backslash. -/
def escaped? (c : Char) : Option Char :=
  if c = '\\' ∨ c = '\'' ∨ c = '"' ∨ c = '$' ∨ c = ' ' then some c
  else if c = 'n' then some '\n'
  else none

/-- The rest of a value. -/
def valueOf (vs : Variables) : ValueState → List Char → Option (List Char)
  | .plain quoted, [] => if quoted then none else some []
  | .single, [] => none
  | .escape quoted, [] => if quoted then none else some []
  | .name quoted inBraces name, [] => if quoted || inBraces then none else some (refer vs name)
  | .ended, [] => some []
  | .ended, c :: cs =>
    if c = ' ' ∨ c = '\t' then valueOf vs .ended cs
    else if c = '#' then some []
    else none
  | .escape quoted, c :: cs => do
    let e ← escaped? c
    return e :: (← valueOf vs (.plain quoted) cs)
  | .single, c :: cs =>
    if c = '\'' then valueOf vs (.plain false) cs
    else (valueOf vs .single cs).map (c :: ·)
  | .name quoted true name, c :: cs =>
    if c = '}' then (valueOf vs (.plain quoted) cs).map (refer vs name ++ ·)
    else valueOf vs (.name quoted true (name ++ [c])) cs
  | .name quoted false name, c :: cs =>
    if isLetterOrNumber c then valueOf vs (.name quoted false (name ++ [c])) cs
    else if c = '{' ∧ name = [] then valueOf vs (.name quoted true []) cs
    else if c = '$' then (valueOf vs (.name quoted false []) cs).map (refer vs name ++ ·)
    else (valueOf vs (.plain quoted) cs).map (refer vs name ++ c :: ·)
  | .plain quoted, c :: cs =>
    if c = '$' then valueOf vs (.name quoted false []) cs
    else if c = '\\' then valueOf vs (.escape quoted) cs
    else if c = '"' then valueOf vs (.plain (!quoted)) cs
    else if quoted then (valueOf vs (.plain true) cs).map (c :: ·)
    else if c = '\'' then valueOf vs .single cs
    else if c = ' ' ∨ c = '\t' then valueOf vs .ended cs
    else (valueOf vs (.plain false) cs).map (c :: ·)

/-! ## Variables -/

/-- The name that a line opens with, and what stands after it. -/
def keyOf (cs : List Char) : Option (List Char × List Char) :=
  let isPart (c : Char) : Bool := c.isAlphanum || c == '_' || c == '.'
  match cs with
  | [] => none
  | c :: _ =>
    if c.isAlpha || c == '_' then some (cs.takeWhile isPart, dropBlanks (cs.dropWhile isPart))
    else none

/-- What stands after an equals sign. -/
def afterEquals? : List Char → Option (List Char)
  | '=' :: cs => some (dropBlanks cs)
  | _ => none

/-- A name and what stands after its equals sign.  The word `export` may stand in front of a
name. -/
def assignment? (cs : List Char) : Option (List Char × List Char) := do
  let (name, rest) ← keyOf cs
  match afterEquals? rest with
  | some value => return (name, value)
  | none =>
    guard (name = "export".toList)
    let (name, rest) ← keyOf rest
    return (name, ← afterEquals? rest)

/-- The line says nothing. -/
def isIdle (cs : List Char) : Bool :=
  cs.isEmpty || cs.head? == some '#'

/-- The variable that a line sets, if it sets one; nothing at all if the line cannot be read. -/
def entryOf (vs : Variables) (line : List Char) : Option (Option (String × String)) := do
  let cs := trimChars line
  if isIdle cs then return none
  let (name, rest) ← assignment? cs
  let value ← if isIdle rest then some [] else valueOf vs (.plain false) rest
  return some (String.ofList name, String.ofList value)

/-- The variables after lines. -/
def loadLines (vs : Variables) : List (Option (List Char)) → Variables
  | [] => vs
  | none :: _ => vs
  | some line :: rest =>
    match entryOf vs line with
    | none => vs
    | some none => loadLines vs rest
    | some (some (name, value)) =>
      loadLines (if (vs.find? name).isSome then vs else vs ++ [(name, value)]) rest

/-- The variables after a file. -/
def load (vs : Variables) (text : String) : Variables :=
  loadLines vs (lines text)

end Dotenv

end Filing
