import Filing.Catalog.Basic
import Filing.Csv.Table
import Filing.Csv.Writer

/-!
# Catalog exports

Forms and payment templates are exported as tables of comma-separated values.

* `FormTemplate.ofCsv` — the forms of an export, one a row; `FormTemplate.toCsv` writes one;
* `PaymentTemplate.ofCsv` — the payment templates of an export, one a line item: the rows of one fee
  code and one start make one template;
* `CatalogError` with its wording.

The first row that cannot be read decides the error.
-/

set_option autoImplicit false

namespace Filing

/-- Why a catalog export cannot be imported. -/
inductive CatalogError where
  | io (reason : String)
  | csv (error : Csv.Error)
  | invalidRow (row : Nat) (reason : String)
deriving DecidableEq

/-- The wording of an error. -/
def CatalogError.message : CatalogError → String
  | io reason => s!"failed to read catalog export: {reason}"
  | csv e => s!"invalid catalog CSV data: {e.message}"
  | invalidRow row reason => s!"catalog row {row} rejected: {reason}"

open Csv (Column)

/-- The field of a row under a name. -/
def Csv.field? (row : List (String × String)) (name : String) : Option String :=
  Index.seek name row

/-- The field of a row under a name; the empty text where the column is missing. -/
def Csv.field (row : List (String × String)) (name : String) : String :=
  (Csv.field? row name).getD ""

/-! ## Forms -/

namespace FormTemplate

/-- The answer that a field gives to a yes-or-no question. -/
def flag? (field : String) : Option Bool :=
  let answer := Text.lowerLatin (Text.trim field)
  if answer ∈ ["y", "yes", "true", "1"] then some true
  else if answer ∈ ["", "n", "no", "false", "0"] then some false
  else none

/-- What is wrong with a field that has to answer yes or no. -/
def flagFault? (field : String) : Option String :=
  match flag? field with
  | some _ => none
  | none => some s!"expected yes/no flag, found '{Text.lowerLatin (Text.trim field)}'"

/-- The columns of an export of forms. -/
def columns : List Column :=
  let fine (_ : String) : Option String := none
  [⟨"form_type", true, fine⟩, ⟨"description", true, fine⟩, ⟨"fee_code", false, fine⟩,
    ⟨"fully_electronic", true, flagFault?⟩, ⟨"fes_delivery", true, flagFault?⟩,
    ⟨"same_day", true, flagFault?⟩, ⟨"category", false, fine⟩]

/-- The form of a row. -/
def ofRow (row : List (String × String)) : FormTemplate where
  formType := Csv.field row "form_type"
  description := Csv.field row "description"
  feeCode := Text.nonBlank (Csv.field? row "fee_code")
  fullyElectronic := (flag? (Csv.field row "fully_electronic")).getD false
  fesDelivery := (flag? (Csv.field row "fes_delivery")).getD false
  sameDay := (flag? (Csv.field row "same_day")).getD false
  category := (Text.nonBlank (Csv.field? row "category")).getD generalCategory

/-- The forms of an export. -/
def ofCsv (input : List UInt8) : Except CatalogError (List FormTemplate) :=
  (Csv.table columns input).mapM fun row => (row.map ofRow).mapError .csv

/-- A form as a record of an export. -/
def toRecord (f : FormTemplate) : List String :=
  let flag (b : Bool) := if b then "true" else "false"
  [f.formType, f.description, f.feeCode.getD "", flag f.fullyElectronic, flag f.fesDelivery,
    flag f.sameDay, f.category]

/-- An export of forms. -/
def toCsv (forms : List FormTemplate) : String :=
  Csv.render (columns.map (·.name)) (forms.map toRecord)

end FormTemplate

/-! ## Payment templates -/

namespace PaymentTemplate

/-- The columns of an export of payment templates. -/
def columns : List Column :=
  let fine (_ : String) : Option String := none
  [⟨"fee_code", true, fine⟩, ⟨"active_from", true, fine⟩, ⟨"amount", true, fine⟩,
    ⟨"description", true, fine⟩, ⟨"payment_methods", false, fine⟩, ⟨"status", false, fine⟩]

/-- The instant that an export gives as a start: a timestamp or a date. -/
def start? (field : String) : Option Instant :=
  if Text.isBlankText field then none else Instant.ofText? field

/-- The methods that a field lists, with semicolons between them. -/
def methodsOf (field : String) : List String :=
  ((field.splitOn ";").map Text.trim).filter (· ≠ "")

/-- The line item of a row. -/
def itemOf (row : List (String × String)) : PaymentItem where
  amount := Csv.field row "amount"
  description := Csv.field row "description"
  methods := methodsOf (Csv.field row "payment_methods")

/-- One line item of an export: its fee code, its start, the status of its row. -/
structure Line where
  feeCode : String
  activeFrom : Instant
  status : String
  item : PaymentItem
deriving DecidableEq

/-- The line of the row with the given number. -/
def lineOf (number : Nat) (row : List (String × String)) : Except CatalogError Line :=
  let field := Csv.field row "active_from"
  match start? field with
  | none => .error (.invalidRow number s!"active_from '{field}' is not a date or timestamp")
  | some t => .ok
      ⟨Csv.field row "fee_code", t, (Csv.field? row "status").getD "active", itemOf row⟩

/-- The template has the fee code and the start of the line. -/
def takes (t : PaymentTemplate) (l : Line) : Bool :=
  t.feeCode == l.feeCode && t.activeFrom == l.activeFrom

/-- The templates with one more line: it is added to the template that takes it, or makes a new
one. -/
def addLine (l : Line) : List PaymentTemplate → List PaymentTemplate
  | [] => [⟨l.feeCode, l.activeFrom, [l.item], l.status, selfLink l.feeCode l.activeFrom⟩]
  | t :: rest =>
    if t.takes l then { t with items := t.items ++ [l.item] } :: rest else t :: addLine l rest

/-- The templates of lines. -/
def ofLines (lines : List Line) : List PaymentTemplate :=
  lines.foldl (fun ts l => addLine l ts) []

/-- The lines of rows, of which the first has the given number. -/
def linesFrom (number : Nat) :
    List (Except Csv.Error (List (String × String))) → Except CatalogError (List Line)
  | [] => .ok []
  | row :: rest => do
    let line ← (row.mapError .csv).bind (lineOf number)
    return line :: (← linesFrom (number + 1) rest)

/-- The payment templates of an export. -/
def ofCsv (input : List UInt8) : Except CatalogError (List PaymentTemplate) :=
  (linesFrom 1 (Csv.table columns input)).map ofLines

end PaymentTemplate

end Filing
