import Filing.Report
import Filing.Proofs.Csv.Record

/-!
# Reports are read as they were rendered

Company numbers, e-mail addresses and the references of payments are whatever clients send, marks of
a table and line ends included.  A report keeps them apart all the same.

* `Report.Column` — the name of a column, and what stands in it for a submission;
* `Report.delayedColumns`, `Report.paidColumns` — the columns of the two reports;
* `Report.Shows` — a reader that trims nothing finds the names, and below them the submissions;
* `Report.unbroken` — **so it is with both reports**, whatever the submissions hold.
-/

set_option autoImplicit false

namespace Filing.Report

/-! ## Columns -/

/-- A column of a report. -/
structure Column where
  name : String
  /-- What stands in the column for a submission. -/
  text : Submission → String

/-- The columns that open both reports. -/
def sharedColumns : List Column :=
  [⟨"submission_id", fun s => s.id⟩,
    ⟨"confirmation_reference", fun s => s.confirmationReference⟩,
    ⟨"status", fun s => s.status.label⟩,
    ⟨"form_type", fun s => s.formType?.getD ""⟩,
    ⟨"company_number", fun s => s.companyNumber?.getD ""⟩]

/-- The columns of the report about submissions that have not moved, as of an instant. -/
def delayedColumns (now : Instant) : List Column :=
  sharedColumns ++
    [⟨"presenter_email", fun s => s.presenterEmail?.getD ""⟩,
      ⟨"last_modified_at", fun s => s.modifiedAt.toText⟩,
      ⟨"minutes_delayed", fun s => toString (now.minutesSince s.modifiedAt)⟩]

/-- The columns of the report about payments. -/
def paidColumns : List Column :=
  sharedColumns ++
    [⟨"fee", fun s => s.fee.getD ""⟩,
      ⟨"payment_reference", fun s =>
        ((s.sessions.find? fun p => p.state = .paid).bind fun p => p.reference).getD ""⟩,
      ⟨"paid_at", fun s => (s.paidAt.map Instant.toText).getD ""⟩]

/-- The names of columns. -/
def header (columns : List Column) : List String :=
  columns.map (·.name)

/-- The record of a submission. -/
def record (columns : List Column) (s : Submission) : List String :=
  columns.map (·.text s)

/-- The text is a table of eight columns that shows the submissions, to a reader that trims
nothing. -/
structure Shows (columns : List Column) (submissions : List Submission) (text : String) : Prop where
  /-- The names of the columns stand there once, and then one record for each submission, in their
  order. -/
  rows : Csv.rows text = header columns :: submissions.map (record columns)
  width : ∀ fields ∈ Csv.rows text, fields.length = 8

variable {columns : List Column} {submissions : List Submission}

theorem shows_render (hne : submissions ≠ []) (hlength : columns.length = 8) :
    Shows columns submissions
      (Csv.render (header columns) (submissions.map (record columns))) := by
  have hwidth : ∀ fields ∈ header columns :: submissions.map (record columns),
      fields.length = 8 := by
    simp [header, record, hlength]
  have hrows : Csv.rows (Csv.render (header columns) (submissions.map (record columns))) =
      header columns :: submissions.map (record columns) := by
    refine Csv.rows_render (by simpa using hne) fun fields hfields => ?_
    rw [hwidth fields hfields]
    decide
  exact ⟨hrows, by rwa [hrows]⟩

/-! ## The two reports -/

theorem toCsv_delayed (now : Instant) (submissions : List Submission) :
    DelayedRow.toCsv (submissions.map fun s => DelayedRow.ofSubmission s now) =
      Csv.render (header (delayedColumns now)) (submissions.map (record (delayedColumns now))) := by
  have hrecord (s : Submission) :
      (DelayedRow.ofSubmission s now).toRecord = record (delayedColumns now) s := by
    rw [DelayedRow.toRecord, Json.ofList_intChars]
    rfl
  rw [DelayedRow.toCsv, List.map_map]
  exact congrArg _ (List.map_congr_left fun s _ => hrecord s)

theorem toCsv_paid (submissions : List Submission) :
    PaidRow.toCsv (submissions.map PaidRow.ofSubmission) =
      Csv.render (header paidColumns) (submissions.map (record paidColumns)) := by
  rw [PaidRow.toCsv, List.map_map]
  rfl

/-- **Client text cannot break a report.**  Render the rows of any submissions, at least one, for
either report.  A reader that trims nothing finds the names of the columns and then one record of
eight fields for each submission, in their order, with the very texts of the submission; what is
absent is the empty text.  A report about nothing is the empty text. -/
theorem unbroken (hne : submissions ≠ []) (now : Instant) :
    Shows (delayedColumns now) submissions
        (DelayedRow.toCsv (submissions.map fun s => DelayedRow.ofSubmission s now)) ∧
      Shows paidColumns submissions (PaidRow.toCsv (submissions.map PaidRow.ofSubmission)) ∧
      DelayedRow.toCsv [] = "" ∧ PaidRow.toCsv [] = "" := by
  refine ⟨?_, ?_, rfl, rfl⟩
  · rw [toCsv_delayed]
    exact shows_render hne rfl
  · rw [toCsv_paid]
    exact shows_render hne rfl

/-- A submission whose texts are made of marks. -/
def crooked : Submission :=
  { Submission.opened "a,\"b\"" "\r\nYB4D-8KQX " (some ⟨" \"agent\",\n@example.com"⟩)
      ⟨1719829800, 0⟩ with
    status := .submitted
    company := some ⟨"\"", "Acme Widgets Ltd"⟩
    form := some ⟨none, some ",CS01\r", []⟩
    fee := some ""
    sessions := [⟨"1", .failed, some "none"⟩, ⟨"2", .paid, some "PAY,\"\"\n778"⟩]
    paidAt := some ⟨1719829800, 500000000⟩ }

/-- Marks, line ends and white space come back as they were sent, and what is absent comes back as
the empty text. -/
theorem unbroken_crooked :
    [crooked, .opened "" "" none ⟨0, 0⟩] ≠ [] ∧
      Csv.rows (DelayedRow.toCsv ([crooked, .opened "" "" none ⟨0, 0⟩].map fun s =>
          DelayedRow.ofSubmission s ⟨1719830000, 0⟩)) =
        [["submission_id", "confirmation_reference", "status", "form_type", "company_number",
            "presenter_email", "last_modified_at", "minutes_delayed"],
          ["a,\"b\"", "\r\nYB4D-8KQX ", "SUBMITTED", ",CS01\r", "\"",
            " \"agent\",\n@example.com", "2024-07-01T10:30:00Z", "3"],
          ["", "", "OPEN", "", "", "", "1970-01-01T00:00:00Z", "28663833"]] ∧
      Csv.rows (PaidRow.toCsv ([crooked, .opened "" "" none ⟨0, 0⟩].map PaidRow.ofSubmission)) =
        [["submission_id", "confirmation_reference", "status", "form_type", "company_number",
            "fee", "payment_reference", "paid_at"],
          ["a,\"b\"", "\r\nYB4D-8KQX ", "SUBMITTED", ",CS01\r", "\"", "", "PAY,\"\"\n778",
            "2024-07-01T10:30:00.500Z"],
          ["", "", "OPEN", "", "", "", "", ""]] := by
  have hne : [crooked, .opened "" "" none ⟨0, 0⟩] ≠ [] := List.cons_ne_nil _ _
  obtain ⟨hdelayed, hpaid, -, -⟩ := unbroken hne ⟨1719830000, 0⟩
  exact ⟨hne, hdelayed.rows.trans (by decide +kernel), hpaid.rows.trans (by decide +kernel)⟩

end Filing.Report
