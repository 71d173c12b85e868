import Filing.Text.Numeral

/-!
# JSON values and their text

The values that the library writes.  Numbers are whole: amounts of money are texts, and nothing else
needs a fraction.

* `Json` — the values;
* `Json.toText` — the text without any white space;
* `Json.toLines` — the text in lines, each level two blanks deeper.
-/

set_option autoImplicit false

namespace Filing

/-- A value to be written.  The members of an object are written in the order of the list. -/
inductive Json where
  | null
  | bool (value : Bool)
  | int (value : Int)
  | str (value : String)
  | arr (items : List Json)
  | obj (members : List (String × Json))
deriving Inhabited

namespace Json

/-- A natural number. -/
def nat (n : Nat) : Json := .int n

/-- A value that may be absent; an absent one is `null`. -/
def option {α : Type} (f : α → Json) : Option α → Json
  | some a => f a
  | none => .null

/-- A list of values. -/
def list {α : Type} (f : α → Json) (as : List α) : Json := .arr (as.map f)

/-- A member that is left out where its value is absent. -/
def memberIf {α : Type} (name : String) (f : α → Json) : Option α → List (String × Json)
  | some a => [(name, f a)]
  | none => []

/-! ## Texts and numbers -/

/-- A digit to base sixteen. -/
def hexDigit (n : Nat) : Char :=
  if n < 10 then Char.ofNat ('0'.toNat + n) else Char.ofNat ('a'.toNat + n - 10)

/-- A character inside quotes.  Quotes, backslashes and control characters are escaped, by a letter
where there is one. -/
def escape (c : Char) : List Char :=
  if c = '"' then ['\\', '"']
  else if c = '\\' then ['\\', '\\']
  else if c = '\n' then ['\\', 'n']
  else if c = '\r' then ['\\', 'r']
  else if c = '\t' then ['\\', 't']
  else if c.toNat = 8 then ['\\', 'b']
  else if c.toNat = 12 then ['\\', 'f']
  else if c.toNat < 32 then
    ['\\', 'u', '0', '0', hexDigit (c.toNat / 16), hexDigit (c.toNat % 16)]
  else [c]

/-- A text in quotes. -/
def quote (s : String) : List Char :=
  '"' :: s.toList.flatMap escape ++ ['"']

/-- A whole number in base ten. -/
def intChars (n : Int) : List Char :=
  if n < 0 then '-' :: Nat.toDigits 10 n.natAbs else Nat.toDigits 10 n.natAbs

theorem ofList_intChars (n : Int) : String.ofList (intChars n) = toString n := by
  cases n with
  | ofNat n =>
    rw [intChars, if_neg (by simp)]
    rfl
  | negSucc n =>
    rw [intChars, if_pos (Int.negSucc_lt_zero n), String.ofList_cons]
    rfl

/-! ## Values -/

mutual

/-- The text of a value without white space. -/
def toChars : Json → List Char
  | .null => "null".toList
  | .bool b => if b then "true".toList else "false".toList
  | .int n => intChars n
  | .str s => quote s
  | .arr items => '[' :: itemChars items
  | .obj members => '{' :: memberChars members

/-- The items of an array and its closing bracket. -/
def itemChars : List Json → List Char
  | [] => [']']
  | v :: rest => toChars v ++ (if rest.isEmpty then [] else [',']) ++ itemChars rest

/-- The members of an object and its closing brace. -/
def memberChars : List (String × Json) → List Char
  | [] => ['}']
  | (name, v) :: rest =>
    quote name ++ ':' :: toChars v ++ (if rest.isEmpty then [] else [',']) ++ memberChars rest

end

/-- The text of a value without white space. -/
def toText (j : Json) : String := String.ofList j.toChars

/-! ## Values in lines -/

/-- A line end and the blanks in front of the next line. -/
def lineAt (depth : Nat) : List Char :=
  '\n' :: List.replicate (2 * depth) ' '

mutual

/-- The text of a value that stands at a depth, in lines. -/
def lineChars (depth : Nat) : Json → List Char
  | .arr [] => ['[', ']']
  | .obj [] => ['{', '}']
  | .arr items => '[' :: lineItems depth items
  | .obj members => '{' :: lineMembers depth members
  | j => toChars j

/-- The items of an array at a depth, each on its own lines, and the closing bracket. -/
def lineItems (depth : Nat) : List Json → List Char
  | [] => lineAt depth ++ [']']
  | v :: rest =>
    lineAt (depth + 1) ++ lineChars (depth + 1) v ++ (if rest.isEmpty then [] else [',']) ++
      lineItems depth rest

/-- The members of an object at a depth, each on its own lines, and the closing brace. -/
def lineMembers (depth : Nat) : List (String × Json) → List Char
  | [] => lineAt depth ++ ['}']
  | (name, v) :: rest =>
    lineAt (depth + 1) ++ quote name ++ ':' :: ' ' :: lineChars (depth + 1) v ++
      (if rest.isEmpty then [] else [',']) ++ lineMembers depth rest

end

/-- The text of a value in lines, each level two blanks deeper. -/
def toLines (j : Json) : String := String.ofList (lineChars 0 j)

end Json

end Filing
