import Filing.Pattern.Basic
import Filing.Text.Blank
import Filing.Text.Letter
import Filing.Text.Numeral

/-!
# Patterns as they are written

* `Pattern.ofChars?` — the pattern that characters spell;
* `Pattern.accepts` — the characters spell a pattern to work with.

Patterns are written in braces, which hide a closing brace.  So the forms with braces never come to
an end here: counted repetitions, and characters by a number in braces.  Properties of characters
are refused in every form, as the tables for them are missing.

The flag `x` has white space and comments passed over.
-/

set_option autoImplicit false

namespace Filing.Pattern

open Text

/-! ## White space -/

/-- What stands after white space and comments, which run from a number sign to the end of a
line. -/
def skipBlanks (inComment : Bool) : List Char → List Char
  | [] => []
  | c :: cs =>
    if inComment then skipBlanks (c != '\n') cs
    else if isBlank c then skipBlanks false cs
    else if c = '#' then skipBlanks true cs
    else c :: cs

/-- What stands after white space, if white space means nothing. -/
def skip (blanks : Bool) (cs : List Char) : List Char :=
  if blanks then skipBlanks false cs else cs

/-- What stands after white space, of which there is something. -/
def skip? (blanks : Bool) (cs : List Char) : Option (List Char) :=
  some (skip blanks cs) |>.filter (!·.isEmpty)

/-! ## Escapes -/

/-- A number of the given count of digits to base sixteen, which carries on from a value, and what
stands after it. -/
def hexRun? (blanks : Bool) : Nat → Nat → List Char → Option (Nat × List Char)
  | 0, value, cs => some (value, cs)
  | n + 1, value, cs =>
    match skip blanks cs with
    | c :: rest => (hexDigit? c).bind fun d => hexRun? blanks n (16 * value + d) rest
    | [] => none

/-- The character with a number of the given count of digits, and what stands after it. -/
def numbered? (blanks : Bool) (count : Nat) (cs : List Char) : Option (Atom × List Char) := do
  let (value, rest) ← hexRun? blanks count 0 cs
  guard value.isValidChar
  return (.literal ⟨Char.ofNat value, count == 2⟩, rest)

/-- The character that a letter stands for after a backslash. -/
def control? (c : Char) : Option Char :=
  if c = 'a' then some '\x07'
  else if c = 'f' then some '\x0c'
  else if c = 't' then some '\t'
  else if c = 'n' then some '\n'
  else if c = 'r' then some '\r'
  else if c = 'v' then some '\x0b'
  else none

/-- The character stands for itself after a backslash: it is in ASCII, but no letter, no digit and
none of the marks for the ends of a word. -/
def isEscapable (c : Char) : Bool :=
  c.toNat < 128 && !c.isAlphanum && c != '<' && c != '>'

/-- What a backslash and the characters after it stand for, and what stands after them. -/
def escape? (blanks : Bool) : List Char → Option (Atom × List Char)
  | [] => none
  | c :: cs =>
    if c = 'x' then numbered? blanks 2 cs
    else if c = 'u' then numbered? blanks 4 cs
    else if c = 'U' then numbered? blanks 8 cs
    else if c ∈ ['d', 's', 'w'] then some (.shorthand false, cs)
    else if c ∈ ['D', 'S', 'W'] then some (.shorthand true, cs)
    else if c ∈ ['A', 'z'] then some (.place false, cs)
    else if c ∈ ['b', 'B', '<', '>'] then some (.place true, cs)
    else if isEscapable c then some (.literal ⟨c, false⟩, cs)
    else (control? c).map fun c => (.literal ⟨c, false⟩, cs)

/-! ## Sets -/

/-- The names of classes of ASCII. -/
def classNames : List String :=
  ["alnum", "alpha", "ascii", "blank", "cntrl", "digit", "graph", "lower", "print", "punct",
    "space", "upper", "word", "xdigit"]

/-- The class of ASCII whose name opens a text after a bracket, and what stands after it. -/
def namedClass? : List Char → Option (SetItem × List Char)
  | ':' :: cs =>
    let negated := cs.head? = some '^'
    let cs := if negated then cs.tail else cs
    match cs.dropWhile (· != ':') with
    | ':' :: ']' :: rest =>
      if String.ofList (cs.takeWhile (· != ':')) ∈ classNames then some (.named negated, rest)
      else none
    | _ => none
  | _ => none

/-- A set after its opening bracket: whether it is negated, the hyphens or the closing bracket that
stand for themselves there, and what stands after them. -/
def setOpening? (blanks : Bool) (cs : List Char) : Option (Bool × List SetItem × List Char) := do
  let cs ← skip? blanks cs
  let negated := cs.head? = some '^'
  let cs ← if negated then skip? blanks cs.tail else some cs
  let (hyphens, cs) ← hyphens? cs.length cs
  if hyphens.isEmpty ∧ cs.head? = some ']' then
    return (negated, [.literal ⟨']', false⟩], ← skip? blanks cs.tail)
  else return (negated, hyphens, cs)
where
  /-- The hyphens that a text opens with, and what stands after them. -/
  hyphens? : Nat → List Char → Option (List SetItem × List Char)
    | fuel + 1, '-' :: cs => do
      let (items, rest) ← hyphens? fuel (← skip? blanks cs)
      return (.literal ⟨'-', false⟩ :: items, rest)
    | _, cs => some ([], cs)

/-- A character or an escape in a set, and what stands after it. -/
def setAtom? (blanks : Bool) : List Char → Option (Atom × List Char)
  | [] => none
  | '\\' :: cs => escape? blanks cs
  | c :: cs => some (.literal ⟨c, false⟩, cs)

/-- An atom as a part of a set. -/
def itemOf? : Atom → Option SetItem
  | .literal l => some (.literal l)
  | .shorthand negated => some (.shorthand negated)
  | .any | .place _ => none

/-- The first character after a hyphen that means something.  Looking ahead, a number sign is passed
over without its comment. -/
def ahead (blanks : Bool) (cs : List Char) : Option Char :=
  if blanks then
    match cs.dropWhile isBlank with
    | '#' :: rest => (rest.dropWhile isBlank).head?
    | rest => rest.head?
  else cs.head?

/-- A part of a set that is no set, and what stands after it.  A hyphen makes a range unless the set
ends after it or another hyphen follows. -/
def setItem? (blanks : Bool) (cs : List Char) : Option (SetItem × List Char) := do
  let (first, rest) ← setAtom? blanks cs
  let rest ← skip? blanks rest
  let next := ahead blanks rest.tail
  if rest.head? ≠ some '-' ∨ next = some ']' ∨ next = some '-' then return (← itemOf? first, rest)
  else
    let (last, rest) ← setAtom? blanks (← skip? blanks rest.tail)
    match first, last with
    | .literal first, .literal last =>
      guard (first.char.toNat ≤ last.char.toNat)
      return (.range first last, rest)
    | _, _ => none

/-- The body of a set with one more run of parts. -/
def joinBody (left : Option SetBody) (items : List SetItem) : SetBody :=
  match left with
  | none => .union items
  | some left => .joined left (.union items)

/-- The body of a set up to its closing bracket, and what stands after the bracket.  What stands
before the last mark between bodies, and the parts after it, are given. -/
def setBody? (blanks : Bool) :
    Nat → Option SetBody → List SetItem → List Char → Option (SetBody × List Char)
  | 0, _, _, _ => none
  | fuel + 1, left, items, cs =>
    match skip blanks cs with
    | [] => none
    | ']' :: rest => some (joinBody left items, rest)
    | '[' :: rest =>
      match namedClass? rest with
      | some (item, rest) => setBody? blanks fuel left (items ++ [item]) rest
      | none => do
        let (negated, opening, rest) ← setOpening? blanks rest
        let (body, rest) ← setBody? blanks fuel none opening rest
        setBody? blanks fuel left (items ++ [.set negated body]) rest
    | c :: rest =>
      if (c == '&' || c == '-' || c == '~') && rest.head? == some c then
        setBody? blanks fuel (some (joinBody left items)) [] rest.tail
      else do
        let (item, rest) ← setItem? blanks (c :: rest)
        setBody? blanks fuel left (items ++ [item]) rest

/-- A set after its opening bracket, and what stands after it. -/
def set? (blanks : Bool) (cs : List Char) : Option (Pattern × List Char) := do
  let (negated, opening, rest) ← setOpening? blanks cs
  let (body, rest) ← setBody? blanks (cs.length + 1) none opening rest
  return (.set negated body, rest)

/-! ## Groups -/

/-- The flags that there are. -/
def flagNames : List Char := ['i', 'm', 's', 'U', 'u', 'R', 'x']

/-- The flags that characters spell: those before a hyphen are switched on, those after it off.  No
character stands twice, and a hyphen has flags after it. -/
def flagsOf? (cs : List Char) : Option Flags :=
  let off := (cs.dropWhile (· != '-')).drop 1
  if decide cs.Nodup && cs.all (fun c => c == '-' || c ∈ flagNames) &&
      !(cs.contains '-' && off.isEmpty) then
    some ⟨cs.takeWhile (· != '-'), off⟩
  else none

/-- The characters are the name of a group. -/
def isName : List Char → Bool
  | [] => false
  | c :: cs =>
    (c == '_' || isLetter c) && cs.all fun c => c ∈ ['_', '.', '[', ']'] || isLetterOrNumber c

/-- What a parenthesis opens. -/
inductive Opening where
  | group (name : Option (List Char)) (f : Flags)
  /-- Flags for the rest of the group around them, up to the closing parenthesis. -/
  | flags (f : Flags)

/-- No flags. -/
def noFlags : Flags := ⟨[], []⟩

/-- A group with a name after the bracket that opens the name, and what stands after the name. -/
def nameOpening? (cs : List Char) : Option (Opening × List Char) :=
  let name := cs.takeWhile (· != '>')
  if isName name && cs.contains '>' then
    some (.group (some name) noFlags, (cs.dropWhile (· != '>')).drop 1)
  else none

/-- Flags or a group with flags after the question mark that opens them, and what stands after the
flags. -/
def flagOpening? (cs : List Char) : Option (Opening × List Char) := do
  let inside (c : Char) : Bool := c != ':' && c != ')'
  let f ← flagsOf? (cs.takeWhile inside)
  match cs.dropWhile inside with
  | ':' :: rest => return (.group none f, rest)
  | ')' :: rest => if cs.head? = some ')' then none else return (.flags f, rest)
  | _ => none

/-- What a parenthesis opens, and what stands after the opening.  A pattern cannot look ahead or
behind. -/
def opening? (cs : List Char) : Option (Opening × List Char) :=
  match cs with
  | '?' :: 'P' :: '<' :: rest => nameOpening? rest
  | '?' :: '<' :: rest => nameOpening? rest
  | '?' :: rest => flagOpening? rest
  | _ => some (.group none noFlags, cs)

/-! ## Patterns -/

/-- The pattern of parts one after another, which are given from the last to the first. -/
def ofParts : List Pattern → Pattern
  | [p] => p
  | parts => .sequence parts.reverse

/-- The pattern of branches, which are given from the last to the first. -/
def ofBranches : List Pattern → Pattern
  | [p] => p
  | branches => .choice branches.reverse

/-- The parts with the last of them repeated.  There has to be a part, and flags cannot be
repeated. -/
def repeatLast? : List Pattern → Option (List Pattern)
  | [] | .flags _ :: _ => none
  | p :: parts => some (.repeated p :: parts)

/-- The pattern up to a closing parenthesis or the end, and what is left there.  The branches that
are done, and the parts of the branch at hand, are given from the last to the first. -/
def terms? : Nat → Bool → List Pattern → List Pattern → List Char → Option (Pattern × List Char)
  | 0, _, _, _, _ => none
  | fuel + 1, blanks, branches, parts, cs =>
    match skip blanks cs with
    | [] => some (ofBranches (ofParts parts :: branches), [])
    | ')' :: rest => some (ofBranches (ofParts parts :: branches), ')' :: rest)
    | '|' :: rest => terms? fuel blanks (ofParts parts :: branches) [] rest
    | '(' :: rest => do
      match ← opening? (skip blanks rest) with
      | (.flags f, rest) =>
        terms? fuel ((f.state 'x').getD blanks) branches (.flags f :: parts) rest
      | (.group name f, rest) =>
        let (body, rest) ← terms? fuel ((f.state 'x').getD blanks) [] [] rest
        guard !rest.isEmpty
        terms? fuel blanks branches (.group name f body :: parts) rest.tail
    | '[' :: rest => do
      let (part, rest) ← set? blanks rest
      terms? fuel blanks branches (part :: parts) rest
    | '\\' :: rest => do
      let (a, rest) ← escape? blanks rest
      terms? fuel blanks branches (.atom a :: parts) rest
    | c :: rest =>
      if c ∈ ['?', '*', '+'] then do
        let lazy := rest.head? = some '?'
        terms? fuel blanks branches (← repeatLast? parts) (if lazy then rest.tail else rest)
      else if c = '{' then none
      else
        let a : Atom :=
          if c = '.' then .any else if c = '^' ∨ c = '$' then .place false else .literal ⟨c, false⟩
        terms? fuel blanks branches (.atom a :: parts) rest

/-- The pattern that characters spell.  Every step of the reading takes a character. -/
def ofChars? (cs : List Char) : Option Pattern :=
  match terms? (cs.length + 1) false [] [] cs with
  | some (p, []) => some p
  | _ => none

/-- The characters spell a pattern to work with. -/
def accepts (cs : List Char) : Bool :=
  (ofChars? cs).any isUsable

end Filing.Pattern
