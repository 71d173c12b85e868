import Filing.Submission.Json
import Filing.Csv.Writer

/-!
# Reports

Submissions that have not moved for too long, and payments that were taken in a span of time.

* `DelayedRow`, `PaidRow` — the rows of the two reports;
* `DelayedRow.toCsv`, `PaidRow.toCsv` — the reports as comma-separated values.

What is absent is the empty text in a row.
-/

set_option autoImplicit false

namespace Filing

/-- A submission that has not moved for too long. -/
structure DelayedRow where
  submissionId : String
  confirmationReference : String
  status : Status
  formType : String
  companyNumber : String
  presenterEmail : String
  modifiedAt : Instant
  minutesDelayed : Int
deriving DecidableEq

namespace DelayedRow

/-- The row of a submission at an instant. -/
def ofSubmission (s : Submission) (now : Instant) : DelayedRow where
  submissionId := s.id
  confirmationReference := s.confirmationReference
  status := s.status
  formType := s.formType?.getD ""
  companyNumber := s.companyNumber?.getD ""
  presenterEmail := s.presenterEmail?.getD ""
  modifiedAt := s.modifiedAt
  minutesDelayed := now.minutesSince s.modifiedAt

/-- The names of the columns. -/
def header : List String :=
  ["submission_id", "confirmation_reference", "status", "form_type", "company_number",
    "presenter_email", "last_modified_at", "minutes_delayed"]

/-- The fields of a row. -/
def toRecord (r : DelayedRow) : List String :=
  [r.submissionId, r.confirmationReference, r.status.label, r.formType, r.companyNumber,
    r.presenterEmail, r.modifiedAt.toText, String.ofList (Json.intChars r.minutesDelayed)]

/-- The report as comma-separated values. -/
def toCsv (rows : List DelayedRow) : String :=
  Csv.render header (rows.map toRecord)

def toJson (r : DelayedRow) : Json :=
  .obj
    [("submission_id", .str r.submissionId),
      ("confirmation_reference", .str r.confirmationReference), ("status", r.status.toJson),
      ("form_type", .str r.formType), ("company_number", .str r.companyNumber),
      ("presenter_email", .str r.presenterEmail), ("last_modified_at", r.modifiedAt.toJson),
      ("minutes_delayed", .int r.minutesDelayed)]

end DelayedRow

/-- A payment that was taken. -/
structure PaidRow where
  submissionId : String
  confirmationReference : String
  status : Status
  formType : String
  companyNumber : String
  fee : String
  paymentReference : String
  paidAt : Option Instant
deriving DecidableEq

namespace PaidRow

/-- The reference of the first session of a submission that is paid. -/
def paymentReference? (s : Submission) : Option String :=
  (s.sessions.find? (·.state = .paid)).bind (·.reference)

/-- The row of a submission. -/
def ofSubmission (s : Submission) : PaidRow where
  submissionId := s.id
  confirmationReference := s.confirmationReference
  status := s.status
  formType := s.formType?.getD ""
  companyNumber := s.companyNumber?.getD ""
  fee := s.fee.getD ""
  paymentReference := (paymentReference? s).getD ""
  paidAt := s.paidAt

/-- The names of the columns. -/
def header : List String :=
  ["submission_id", "confirmation_reference", "status", "form_type", "company_number", "fee",
    "payment_reference", "paid_at"]

/-- The fields of a row. -/
def toRecord (r : PaidRow) : List String :=
  [r.submissionId, r.confirmationReference, r.status.label, r.formType, r.companyNumber, r.fee,
    r.paymentReference, (r.paidAt.map Instant.toText).getD ""]

/-- The report as comma-separated values. -/
def toCsv (rows : List PaidRow) : String :=
  Csv.render header (rows.map toRecord)

def toJson (r : PaidRow) : Json :=
  .obj
    [("submission_id", .str r.submissionId),
      ("confirmation_reference", .str r.confirmationReference), ("status", r.status.toJson),
      ("form_type", .str r.formType), ("company_number", .str r.companyNumber),
      ("fee", .str r.fee), ("payment_reference", .str r.paymentReference),
      ("paid_at", .option Instant.toJson r.paidAt)]

end PaidRow

end Filing
