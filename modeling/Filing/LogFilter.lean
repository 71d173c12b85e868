import Filing.Pattern.Parser

/-!
# Log filters

A log filter is a list of directives with commas between them.  A directive names a level, or a
place in the program, or both; the place may be narrowed down to a span and to values of its fields:
`place[span{field=value}]=level`.  The value of a field is a number or a pattern.

* `LogFilter.isLevel` — the names of levels;
* `LogFilter.isField` — a field with its value;
* `LogFilter.isDirective`, `LogFilter.accepts` — the well-formed directives and filters.
-/

set_option autoImplicit false

namespace Filing.LogFilter

open Text

/-! ## Levels -/

/-- The names of the levels, which have the numbers from zero on as well. -/
def levels : List String := ["off", "error", "warn", "info", "debug", "trace"]

/-- The characters name a level, or none in particular. -/
def isLevel (cs : List Char) : Bool :=
  cs.isEmpty || ((natural? maxLong cs).any (· < levels.length)) ||
    levels.any (sameIgnoringCase · (String.ofList cs))

/-! ## Fields -/

/-- The words that are numbers, in whatever case they are written. -/
def numberWords : List String := ["inf", "infinity", "nan"]

/-- The characters are an exponent: a sign that may be missing, and digits. -/
def isExponent (cs : List Char) : Bool :=
  let ds := if cs.head? = some '+' ∨ cs.head? = some '-' then cs.tail else cs
  !ds.isEmpty && ds.all Char.isDigit

/-- The characters are a number without a sign: digits with a point somewhere or none, and an
exponent that may be missing. -/
def isMagnitude (cs : List Char) : Bool :=
  let whole := cs.takeWhile Char.isDigit
  let rest := cs.dropWhile Char.isDigit
  let fraction := if rest.head? = some '.' then rest.tail.takeWhile Char.isDigit else []
  let rest := if rest.head? = some '.' then rest.tail.dropWhile Char.isDigit else rest
  !(whole ++ fraction).isEmpty &&
    match rest with
    | [] => true
    | c :: rest => (c == 'e' || c == 'E') && isExponent rest

/-- The characters are a number, which may have a sign. -/
def isNumber (cs : List Char) : Bool :=
  let magnitude := if cs.head? = some '+' ∨ cs.head? = some '-' then cs.tail else cs
  isMagnitude magnitude || numberWords.any (sameIgnoringCase · (String.ofList magnitude))

/-- The characters are the value of a field. -/
def isValue (cs : List Char) : Bool :=
  isNumber cs || Pattern.accepts cs

/-- The characters are the name of a field, which may be followed by an equals sign and a value.
What stands after a second equals sign is not looked at. -/
def isField (cs : List Char) : Bool :=
  match cs.dropWhile (· != '=') with
  | [] => true
  | _ :: value => isValue (value.takeWhile (· != '='))

/-! ## Directives -/

/-- Where a directive stands after some of its characters. -/
inductive Spot where
  | start
  /-- Inside the name of a place, or of a level that stands alone. -/
  | place
  | span
  /-- Inside a field that starts at an index. -/
  | field (first : Nat)
  | afterFields
  | afterSpan
  /-- Inside a level that starts at an index. -/
  | level (first : Nat)

/-- The character may open a directive. -/
def opens (c : Char) : Bool := isLetterOrNumber c || c == '-' || c == ':' || c == '_'

/-- What stands in a text from an index on.  Indices count the bytes of the text. -/
def textFrom : Nat → List Char → List Char
  | 0, cs => cs
  | _, [] => []
  | n + 1, c :: cs => textFrom (n + 1 - c.utf8Size) cs

/-- What stands in a text up to an index. -/
def textUpTo : Nat → List Char → List Char
  | 0, _ => []
  | _, [] => []
  | n + 1, c :: cs => c :: textUpTo (n + 1 - c.utf8Size) cs

/-- The spot after one more character, which stands at an index.  A field is looked up in the given
text. -/
def Spot.after? (text : List Char) (index : Nat) (c : Char) : Spot → Option Spot
  | start => if c = '[' then some span else if opens c then some place else none
  | place => some (if c = '=' then level (index + 1) else if c = '[' then span else place)
  | span => some (if c = ']' then afterSpan else if c = '{' then field (index + 1) else span)
  | field first =>
    if c ≠ '}' then some (field first)
    else if first ≠ index ∧ isField (textFrom first (textUpTo index text)) then some afterFields
    else none
  | afterFields => if c = ']' then some afterSpan else none
  | afterSpan => if c = '=' then some (level (index + 1)) else none
  | level first => some (level first)

/-- The spot after characters, of which the first stands at an index. -/
def walk (text : List Char) (spot : Spot) (index : Nat) : List Char → Option Spot
  | [] => some spot
  | c :: cs =>
    (spot.after? text index c).bind fun spot => walk text spot (index + c.utf8Size) cs

/-- The characters are a directive.  White space around a directive is passed over, but fields and
levels are looked up in the text as it is. -/
def isDirective (cs : List Char) : Bool :=
  match walk cs .start 0 (trimChars cs) with
  | some .place => true
  | some .afterSpan => true
  | some (.level first) => isLevel (textFrom first cs)
  | _ => false

/-- The text is a filter.  Nothing at all is passed over between commas. -/
def accepts (s : String) : Bool :=
  ((s.splitOn ",").filter (· ≠ "")).all fun d => isDirective d.toList

end Filing.LogFilter
