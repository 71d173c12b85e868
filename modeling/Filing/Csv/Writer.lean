import Filing.Csv.Record

/-!
# Writing comma-separated values

A field is put in quotes only where it holds a mark, and a quote in it is doubled.  Every record
ends with a line feed.
-/

set_option autoImplicit false

namespace Filing.Csv

/-- The character has a meaning in a record. -/
def isMark (c : Char) : Bool :=
  c == ',' || c == '"' || c == '\r' || c == '\n'

/-- A field as it stands in a record. -/
def fieldChars (cs : List Char) : List Char :=
  if cs.any isMark then
    '"' :: cs.flatMap (fun c => if c = '"' then ['"', '"'] else [c]) ++ ['"']
  else cs

/-- A record with its line end. -/
def recordChars : List String → List Char
  | [] => ['\n']
  | [f] => fieldChars f.toList ++ ['\n']
  | f :: fs => fieldChars f.toList ++ ',' :: recordChars fs

/-- A header and the records below it; without records there is no header either. -/
def render (header : List String) (rows : List (List String)) : String :=
  if rows.isEmpty then "" else String.ofList ((header :: rows).flatMap recordChars)

end Filing.Csv
