import Filing.Text.Blank

/-!
# Media types

The declaration of what a message holds: a type, a subtype and parameters, as in
`application/json; charset=utf-8`.  The subtype may end in a plus sign and a suffix, which tells the
notation that a special format is written in.

* `MediaType.isSendable` — a message can carry the text as a declaration, well-formed or not;
* `MediaType.ofText?` — a declaration, which has to be well-formed to its end;
* `MediaType.isJson` — the message is declared to be JSON.
-/

set_option autoImplicit false

namespace Filing

/-- A declared type. -/
structure MediaType where
  type : List Char
  /-- The subtype without its suffix. -/
  subtype : List Char
  suffix : Option (List Char)

namespace MediaType

/-- A message can carry the text as a declaration: there are no control characters in it, tabs
apart. -/
def isSendable (s : String) : Bool :=
  s.toList.all fun c => c == '\t' || (31 < c.toNat && c.toNat != 127)

/-- The character may stand in a name. -/
def isToken (c : Char) : Bool :=
  c.isAlphanum || c ∈ "!#$%&'*+-.^_\x60|~".toList

/-- A name of at least one character, and what stands after it. -/
def token? (cs : List Char) : Option (List Char × List Char) :=
  let name := cs.takeWhile isToken
  if name.isEmpty then none else some (name, cs.dropWhile isToken)

/-- What stands after the given character. -/
def after? (c : Char) : List Char → Option (List Char)
  | d :: rest => if d = c then some rest else none
  | [] => none

/-- The character may stand in quotes: it is in ASCII and no control character. -/
def isQuotable (c : Char) : Bool := 31 < c.toNat && c.toNat < 127

/-- What stands after a value in quotes, whose first character is never taken for the end. -/
def afterQuoted? : List Char → Option (List Char)
  | [] => none
  | first :: cs =>
    if isQuotable first && (cs.takeWhile (· != '"')).all isQuotable then
      (after? '"' (cs.dropWhile (· != '"')))
    else none

/-- What stands after a value and the semicolon that follows it, if anything does. -/
def afterValue? (cs : List Char) : Option (List Char) :=
  match cs with
  | '"' :: cs => do
    let rest := (← afterQuoted? cs).dropWhile (· == ' ')
    if rest.isEmpty then some [] else after? ';' rest
  | cs =>
    let rest := cs.dropWhile isToken
    if rest.isEmpty then some []
    else if rest.length = cs.length then none
    else after? ';' rest

/-- The characters are parameters; each takes at least one character. -/
def areParameters : Nat → List Char → Bool
  | 0, cs => cs.isEmpty
  | fuel + 1, cs =>
    match cs.dropWhile (· == ' ') with
    | [] => true
    | cs =>
      match (token? cs).bind fun p => (after? '=' p.2).bind afterValue? with
      | none => false
      | some rest => areParameters fuel rest

/-- A subtype, with its suffix behind the last plus sign that does not open it. -/
def splitSuffix (name : List Char) : List Char × Option (List Char) :=
  let suffix := (name.drop 1).reverse.takeWhile (· != '+')
  if (name.drop 1).contains '+' then
    (name.take (name.length - suffix.length - 1), some suffix.reverse)
  else (name, none)

/-- The declaration that a text spells. -/
def ofText? (s : String) : Option MediaType := do
  let (type, rest) ← token? s.toList
  let (name, rest) ← token? (← after? '/' rest)
  let (subtype, suffix) := splitSuffix name
  match rest with
  | [] => return ⟨type, subtype, suffix⟩
  | ';' :: rest =>
    guard (areParameters rest.length rest)
    return ⟨type, subtype, suffix⟩
  | _ => none

/-- The name, in whatever case it is written. -/
def isNamed (name : String) (cs : List Char) : Bool :=
  Text.sameIgnoringCase name (String.ofList cs)

/-- The message is declared to be JSON, or a format that is written in JSON. -/
def isJson (m : MediaType) : Bool :=
  isNamed "application" m.type && (isNamed "json" m.subtype || m.suffix.any (isNamed "json"))

end MediaType

end Filing
