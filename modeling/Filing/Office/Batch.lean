import Filing.Office.Work
import Filing.Report

/-!
# Work on many submissions

The operations of an office that go over the whole store.

* `Office.queueBatch`, `Office.handOverAll` — one operation for each of many submissions; a refusal
  of one does not keep the others from being worked on;
* `Office.listDelayed`, `Office.reportDelayed`, `Office.listPaid` — the reports.
-/

set_option autoImplicit false

namespace Filing

/-- What became of the submissions of a batch, in the order in which they were worked on. -/
structure BatchReport where
  processed : List String
  /-- The submissions whose operation was refused, with the wording of the refusal. -/
  failed : List (String × String)
deriving DecidableEq

namespace BatchReport

/-- Nothing was worked on. -/
def empty : BatchReport := ⟨[], []⟩

/-- The report with one more outcome in front. -/
def record {α : Type} (id : String) (outcome : Except Refusal α) (r : BatchReport) : BatchReport :=
  match outcome with
  | .ok _ => { r with processed := id :: r.processed }
  | .error e => { r with failed := (id, e.message) :: r.failed }

def toJson (r : BatchReport) : Json :=
  .obj
    [("processed", .list .str r.processed),
      ("failed", .list (fun f => .obj [("submission_id", .str f.1), ("reason", .str f.2)])
        r.failed)]

end BatchReport

namespace Office

/-! ## Batches -/

/-- An operation for each of the given submissions. -/
def each {α : Type} (operation : String → Act Refusal α) : List String → Act Refusal BatchReport
  | [] => return .empty
  | id :: rest => do
    let outcome ← (operation id).outcome
    return (← each operation rest).record id outcome

/-- The form types that are worked off first. -/
def sameDayTypes (forms : List FormTemplate) : List String :=
  (forms.filter (·.sameDay)).map (·.formType)

/-- A submission with one of the given form types. -/
def hasType (types : List String) (s : Submission) : Bool :=
  s.formType?.any (· ∈ types)

/-- The submitted submissions are queued in the order of work, same-day forms first, up to a
limit. -/
def queueBatch (limit : Option Nat) : Act Refusal BatchReport := do
  let limit := limit.getD (← get).settings.batchSize
  let forms ← (Act.ofExcept (← get).desk.allForms).adapt .repository
  let found ← (findByStatus .submitted (hasType (sameDayTypes forms))).adapt .repository
  each queue ((found.take limit).map (·.id))

/-- The submissions that are ready for it are handed over to the registration system. -/
def handOverAll : Act Refusal BatchReport := do
  let found ← (findByStatus .readyToSubmit fun _ => false).adapt .repository
  each handOver (found.map (·.id))

/-! ## Reports -/

/-- The submissions that have stayed at a status for too long. -/
def listDelayed (status : Status) : Act Refusal (List DelayedRow) := do
  let o ← get
  match o.clock.minus? o.settings.delayedAfter with
  | none => throw (.delayOutOfRange (o.settings.delayedAfter.tdiv (Instant.minutes 1)))
  | some before =>
    let found ← (findDelayed status before).adapt .repository
    return found.map (DelayedRow.ofSubmission · o.clock)

/-- The mail about delayed submissions. -/
def delayedMail (m : MailSettings) (status : Status) (rows : List DelayedRow) :
    Except NotificationError Notification :=
  m.forMailbox .delayedSubmissions <| .ofList
    [("status", status.label), ("count", toString rows.length), ("csv", DelayedRow.toCsv rows)]

/-- The submissions that have stayed at a status for too long; the support mailbox is told about
them, if there are any. -/
def reportDelayed (status : Status) : Act Refusal (List DelayedRow) := do
  let rows ← listDelayed status
  if !rows.isEmpty then post (delayedMail (← get).settings.mail status rows)
  return rows

/-- The statuses that a submission has once there is nothing more to pay. -/
def paidStatuses : List Status :=
  [.submitted, .processing, .processedByEmail, .readyToSubmit, .sentToFes, .accepted, .rejected,
    .rejectedByVirusScan, .rejectedByDocumentConverter]

/-- The payments that were taken from one instant up to another one. -/
def listPaid (start stop : Instant) : Act Refusal (List PaidRow) := do
  let found ← (findPaid paidStatuses start stop).adapt .repository
  return found.map PaidRow.ofSubmission

end Office

end Filing
