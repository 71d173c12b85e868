/-!
# Patterns

A pattern is a regular expression over characters, kept as it is written.  A log filter only has to
know which patterns it can work with, so nothing here says what a pattern matches.

* `Pattern` with its parts `Pattern.Atom`, `Pattern.SetItem`, `Pattern.SetBody`, `Pattern.Flags`;
* `Pattern.depth` — how deep a pattern is nested;
* `Pattern.names` — the names of its groups;
* `Pattern.modeAfter?` — the pattern needs nothing that cannot be had, read under a `Pattern.Mode`.

Patterns are matched character by character, without the tables that tell letters, digits and cases
of all scripts apart.  Whatever would need them is refused: the shorthands, the boundaries of words,
and letters in either case, unless the mode says that characters are bytes of ASCII.  In that mode
nothing may match a byte outside ASCII.
-/

set_option autoImplicit false

namespace Filing

namespace Pattern

/-! ## Parts -/

/-- A character that stands for itself. -/
structure Literal where
  char : Char
  /-- It is written as a byte, in two digits to base sixteen. -/
  isByte : Bool

/-- What takes up to one character of a text, apart from a set of characters. -/
inductive Atom where
  | literal (l : Literal)
  | any
  /-- A place between two characters: the end of a line or a text, or the boundary of a word. -/
  | place (ofWord : Bool)
  /-- A digit, white space or a character of a word, or any character but these. -/
  | shorthand (negated : Bool)

mutual

/-- A part of a set of characters. -/
inductive SetItem where
  | literal (l : Literal)
  | range (first last : Literal)
  /-- A class of ASCII with a name, such as `[:alpha:]`. -/
  | named (negated : Bool)
  | shorthand (negated : Bool)
  | set (negated : Bool) (body : SetBody)

/-- What a set of characters holds. -/
inductive SetBody where
  | union (items : List SetItem)
  /-- Two bodies with the mark of an intersection or a difference between them. -/
  | joined (left right : SetBody)

end

/-- Flags that are switched on and off. -/
structure Flags where
  on : List Char
  off : List Char

/-- What the flags say about one of them. -/
def Flags.state (f : Flags) (flag : Char) : Option Bool :=
  if flag ∈ f.on then some true else if flag ∈ f.off then some false else none

end Pattern

open Pattern (Atom Flags SetBody) in
/-- A regular expression. -/
inductive Pattern where
  | atom (a : Atom)
  | set (negated : Bool) (body : SetBody)
  /-- Flags for the rest of the group. -/
  | flags (f : Flags)
  | group (name : Option (List Char)) (f : Flags) (body : Pattern)
  | repeated (body : Pattern)
  /-- Patterns one after another; a single one is not wrapped. -/
  | sequence (parts : List Pattern)
  | choice (branches : List Pattern)

namespace Pattern

/-! ## Nesting, names -/

mutual

/-- How deep a part of a set is nested. -/
def SetItem.depth : SetItem → Nat
  | .set _ body => body.depth + 1
  | _ => 0

/-- How deep a body is nested.  Several parts count as a level, a single one does not. -/
def SetBody.depth : SetBody → Nat
  | .union items => (if items.length < 2 then 0 else 1) + SetBody.depthOfItems items
  | .joined left right => max left.depth right.depth + 1

/-- How deep the deepest part is nested. -/
def SetBody.depthOfItems : List SetItem → Nat
  | [] => 0
  | item :: items => max item.depth (SetBody.depthOfItems items)

end

mutual

/-- How deep a pattern is nested. -/
def depth : Pattern → Nat
  | atom _ | flags _ => 0
  | set _ body => body.depth + 1
  | group _ _ body => body.depth + 1
  | repeated body => body.depth + 1
  | sequence parts => (if parts.isEmpty then 0 else 1) + depthOfAll parts
  | choice branches => depthOfAll branches + 1

/-- How deep the deepest pattern is nested. -/
def depthOfAll : List Pattern → Nat
  | [] => 0
  | p :: ps => max p.depth (depthOfAll ps)

end

mutual

/-- The names of the groups in a pattern. -/
def names : Pattern → List (List Char)
  | atom _ | set .. | flags _ => []
  | group name _ body => name.toList ++ body.names
  | repeated body => body.names
  | sequence parts => namesOfAll parts
  | choice branches => namesOfAll branches

/-- The names of the groups in patterns. -/
def namesOfAll : List Pattern → List (List Char)
  | [] => []
  | p :: ps => p.names ++ namesOfAll ps

end

/-! ## What can be had -/

/-- How characters are taken. -/
structure Mode where
  ignoreCase : Bool
  /-- Characters are those of all scripts; otherwise they are bytes. -/
  allScripts : Bool

/-- The mode of a pattern that says nothing about it. -/
def Mode.initial : Mode := ⟨false, true⟩

/-- The mode after flags. -/
def Mode.set (m : Mode) (f : Flags) : Mode :=
  ⟨(f.state 'i').getD m.ignoreCase, (f.state 'u').getD m.allScripts⟩

/-- The character is a byte of ASCII. -/
def isAscii (l : Literal) : Bool := l.char.toNat < 128

/-- An atom can be had. -/
def hasAtom (m : Mode) : Atom → Bool
  | .literal l => if m.allScripts then !m.ignoreCase else !l.isByte || isAscii l
  | .any => m.allScripts
  | .place ofWord => !ofWord || !m.allScripts
  | .shorthand negated => !m.allScripts && !negated

/-- A character can be had as a part of a set. -/
def hasInSet (m : Mode) (l : Literal) : Bool :=
  if m.allScripts then !m.ignoreCase else isAscii l

mutual

/-- A part of a set can be had. -/
def hasItem (m : Mode) : SetItem → Bool
  | .literal l => hasInSet m l
  | .range first last => hasInSet m first && hasInSet m last
  | .named negated => if m.allScripts then !m.ignoreCase else !negated
  | .shorthand negated => !m.allScripts && !negated
  | .set negated body => (m.allScripts || !negated) && hasBody m body

/-- What a set holds can be had. -/
def hasBody (m : Mode) : SetBody → Bool
  | .union items => hasItems m items
  | .joined left right => hasBody m left && hasBody m right

/-- All parts of a set can be had. -/
def hasItems (m : Mode) : List SetItem → Bool
  | [] => true
  | item :: items => hasItem m item && hasItems m items

end

mutual

/-- The mode after a pattern that is read under a mode, if the pattern can be had.  The flags of a
group end with it. -/
def modeAfter? (m : Mode) : Pattern → Option Mode
  | atom a => some m |>.filter fun m => hasAtom m a
  | set negated body => some m |>.filter fun m => hasItem m (.set negated body)
  | flags f => some (m.set f)
  | group _ f body => (modeAfter? (m.set f) body).map fun _ => m
  | repeated body => modeAfter? m body
  | sequence parts => modeAfterAll? m parts
  | choice branches => modeAfterAll? m branches

/-- The mode after patterns, if all of them can be had. -/
def modeAfterAll? (m : Mode) : List Pattern → Option Mode
  | [] => some m
  | p :: ps => (modeAfter? m p).bind fun m => modeAfterAll? m ps

end

/-- The greatest depth of a pattern. -/
def maxDepth : Nat := 250

/-- The pattern is one to work with: it is not nested too deep, no two groups share a name, and it
needs nothing that cannot be had. -/
def isUsable (p : Pattern) : Bool :=
  p.depth ≤ maxDepth && decide p.names.Nodup && (p.modeAfter? .initial).isSome

end Pattern

end Filing
