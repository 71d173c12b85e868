import Filing.Command.Folder
import Filing.Command.Transcript
import Filing.Instant.Text

/-!
# Looking up a fee

* `Surroundings` — what a command finds around it;
* `Surroundings.catalog` — a catalog, parts of which may be exported to files;
* `feeTranscript` — the fee of a form type at an instant, told in two lines.
-/

set_option autoImplicit false

namespace Filing

/-- What a command finds around it. -/
structure Surroundings where
  /-- The bytes of the file that a path leads to. -/
  read : String → Except FileFault (List UInt8)
  /-- The time on the wall. -/
  now : Instant
  /-- The identifiers that the command may use. -/
  ids : IdSupply

namespace Surroundings

/-- The bytes of an export.  A folder can be opened like a file, and fails as a table. -/
def readExport (s : Surroundings) (path : String) : Except CatalogError (List UInt8) :=
  (s.read path).mapError fun fault =>
    if fault = .isFolder then .csv (.interrupted fault.message) else .io fault.message

/-- The catalog of the exports under the given paths.  Without a path, the forms or the payment
templates are those of the standard catalog. -/
def catalog (s : Surroundings) (formsPath paymentsPath : Option String) :
    Except CatalogError Catalog := do
  let forms ← match formsPath with
    | some path => (s.readExport path).bind FormTemplate.ofCsv
    | none => .ok Catalog.standardForms
  let payments ← match paymentsPath with
    | some path => (s.readExport path).bind PaymentTemplate.ofCsv
    | none => .ok Catalog.standardPayments
  return .ofTemplates forms payments

end Surroundings

/-- A fee in words. -/
def FeeResolution.summary (fee : FeeResolution) : String :=
  match fee with
  | .notApplicable => "no fee applies"
  | .noActiveTemplate feeCode => s!"fee code {feeCode} has no template in force yet"
  | .unusable feeCode rawAmount =>
    let amount := rawAmount.getD "blank"
    s!"fee code {feeCode} has an unusable amount ({amount})"
  | .due feeCode amount =>
    match fee.payable with
    | some payable => payable.toText ++ s!" due under fee code {feeCode}"
    | none => s!"fee code {feeCode} is set to {amount}, nothing to pay"

/-- What is printed about the fee of a form type. -/
def feeTranscript (s : Surroundings) (formType : String) (asOf : Option Instant)
    (formsPath paymentsPath : Option String) : Transcript :=
  match s.catalog formsPath paymentsPath with
  | .error e => ⟨[], .failed (.catalog e)⟩
  | .ok catalog =>
    let asOf := asOf.getD s.now
    ⟨[s!"Fee for {formType} as of " ++ asOf.toOffsetText,
      "- " ++ (catalog.resolveFee formType asOf).summary], .done⟩

end Filing
