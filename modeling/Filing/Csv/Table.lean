import Filing.Csv.Record
import Filing.Text.Blank
import Filing.Text.Utf8
import Filing.Index

/-!
# Tables with a header

A table is read from bytes: its first record names the columns, and every record below it has as
many fields.  Names and fields are text and are trimmed, of the blanks of ASCII while they are still
bytes and of all white space as text.  Rows are read by the names of the columns, in whatever order
these stand.

* `Csv.Error` with its wording, and the `Position` that it names;
* `Column` — what a row is expected to have under a name;
* `table` — the rows of a table, or the first fault.
-/

set_option autoImplicit false

namespace Filing.Csv

/-- Where a record starts: its number among the data records, and the line and the byte at which the
record before it ended. -/
structure Position where
  record : Nat
  line : Nat
  byte : Nat
deriving DecidableEq, Repr

/-- Why a table cannot be read. -/
inductive Error where
  | unequalLengths (start : Position) (found expected : Nat)
  /-- The bytes of a field are text only up to an index, which counts from the first byte of the
  field that is no blank. -/
  | notText (start : Position) (field index : Nat)
  | badRow (start : Position) (reason : String)
  /-- The bytes of the table do not arrive. -/
  | interrupted (reason : String)
deriving DecidableEq, Repr

/-- The wording of an error. -/
def Error.message : Error → String
  | unequalLengths p found expected =>
    s!"CSV error: record {p.record} (line: {p.line}, byte: {p.byte}): found record with {found} " ++
      s!"fields, but the previous record has {expected} fields"
  | notText p field index =>
    s!"CSV parse error: record {p.record} (line {p.line}, field: {field}, byte: {p.byte}): " ++
      s!"invalid utf-8: invalid UTF-8 in field {field} near byte index {index}"
  | badRow p reason =>
    s!"CSV deserialize error: record {p.record} (line: {p.line}, byte: {p.byte}): {reason}"
  | interrupted reason => reason

/-! ## Rows -/

/-- What a row has under a name. -/
structure Column where
  name : String
  /-- The column has to be there. -/
  needed : Bool
  /-- What is wrong with a field of the column. -/
  fault? : String → Option String

/-- The fields of a row under the names that are expected, in the order in which they stand. -/
def pick (columns : List Column) (seen : List (String × String)) :
    List (String × String) → Except String (List (String × String))
  | [] => .ok seen
  | (name, field) :: rest =>
    match columns.find? (·.name == name) with
    | none => pick columns seen rest
    | some column =>
      if seen.any (·.1 == name) then .error s!"duplicate field `{name}`"
      else match column.fault? field with
        | some reason => .error reason
        | none => pick columns ((name, field) :: seen) rest

/-- The fields of a row under the names that are expected; a needed column has to be there. -/
def row (columns : List Column) (named : List (String × String)) :
    Except String (List (String × String)) := do
  let seen ← pick columns [] named
  match columns.find? fun c => c.needed && !seen.any (·.1 == c.name) with
  | some c => .error s!"missing field `{c.name}`"
  | none => .ok seen

/-! ## Tables -/

/-- Where a record starts, given what was left of the input then. -/
def positionOf (input rest : List UInt8) (record : Nat) : Position :=
  let byte := input.length - rest.length
  ⟨record, 1 + (input.take byte).count 10, byte⟩

/-- The byte is a blank: a space, a tab, a line end or a form feed. -/
def isBlankByte (b : UInt8) : Bool :=
  b == 32 || b == 9 || b == 10 || b == 12 || b == 13

/-- The bytes of a field without the blanks at its two ends. -/
def trimBytes (field : List UInt8) : List UInt8 :=
  ((field.dropWhile isBlankByte).reverse.dropWhile isBlankByte).reverse

/-- The text of a field, or the index up to which its bytes are text. -/
def textOf (field : List UInt8) : Except Nat String :=
  let bytes := trimBytes field
  match Text.decode bytes with
  | (cs, []) => .ok (String.ofList (Text.trimChars cs))
  | (_, rest) => .error (bytes.length - rest.length)

/-- The texts of fields, or which field is no text and up to which index it is. -/
def textsOf (index : Nat) : List (List UInt8) → Except (Nat × Nat) (List String)
  | [] => .ok []
  | f :: fs => do
    let text ← (textOf f).mapError (index, ·)
    return text :: (← textsOf (index + 1) fs)

/-- The fields of a data record under the names of the columns. -/
def namedFields (header : List String) (start : Position) (fields : List (List UInt8)) :
    Except Error (List (String × String)) :=
  if fields.length ≠ header.length then
    .error (.unequalLengths start fields.length header.length)
  else
    match textsOf 0 fields with
    | .error (field, index) => .error (.notText start field index)
    | .ok texts => .ok (header.zip texts)

/-- The rows of data records, of which the first has the given number. -/
def rowsFrom (columns : List Column) (header : List String) (input : List UInt8) (record : Nat) :
    List (List UInt8 × List (List UInt8)) →
      List (Except Error (List (String × String)))
  | [] => []
  | (rest, fields) :: more =>
    let start := positionOf input rest record
    let read := (namedFields header start fields).bind fun named =>
      (row columns named).mapError (Error.badRow start)
    read :: rowsFrom columns header input (record + 1) more

/-- The mark that some programs put in front of a text to say that it is UTF-8. -/
def byteOrderMark : List UInt8 := [0xEF, 0xBB, 0xBF]

/-- An input without the mark in front of it. -/
def skipMark (input : List UInt8) : List UInt8 :=
  if input.take 3 = byteOrderMark then input.drop 3 else input

/-- The rows of a table, each with its fields under the names of the columns or with what is wrong
with it. -/
def table (columns : List Column) (input : List UInt8) :
    List (Except Error (List (String × String))) :=
  match records .bytes (skipMark input) with
  | [] => []
  | (_, header) :: data =>
    let names := header.map fun f => String.ofList (Text.trimChars (Text.decode f).1)
    rowsFrom columns names input 1 data

end Filing.Csv
