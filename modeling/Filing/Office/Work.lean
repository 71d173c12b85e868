import Filing.Office.Call
import Filing.Revision

/-!
# Work on one submission

The operations of an office that concern one submission.  Most of them read it, revise it and save
the revision, and send a mail about it; the hand-over to the registration system takes more steps.

* `Office.create`, `Office.read`, `Office.revise`;
* `Office.complete`, `recordPayment`, `queue`, `adjudicate` — a revision and its mail;
* `Office.report` — a report on a file, tried again when somebody else was faster;
* `Office.handOver` — the hand-over to the registration system, one at a time for each submission.
-/

set_option autoImplicit false

namespace Filing.Office

/-! ## Reading and revising -/

/-- A new submission. -/
def create (presenter : Option Presenter) : Act Refusal Submission := do
  let now := (← get).clock
  let id ← newSubmissionId
  let reference ← newReference
  (insert (.opened id reference presenter now)).adapt .repository

/-- The submission under an identifier. -/
def read (id : String) : Act Refusal Submission := do
  match ← (find id).adapt .repository with
  | some s => return s
  | none => throw (.notFound id)

/-- A revised submission is saved. -/
def keep (id : String) (s : Submission) : Act Refusal Submission :=
  (save s).adapt (.ofWrite id)

/-- The submission is read, revised and saved. -/
def revise (id : String) (revision : Office → Submission → Except Refusal Submission) :
    Act Refusal Submission := do
  let s ← read id
  keep id (← .ofExcept (revision (← get) s))

/-! ## Editing -/

/-- A new company. -/
def editCompany (id : String) (company : Company) : Act Refusal Submission :=
  revise id fun o s => s.editCompany company o.clock

/-- A new form type. -/
def editForm (id formType : String) : Act Refusal Submission :=
  revise id fun o s => s.editForm o.desk formType o.clock

/-- New files. -/
def editFiles (id : String) (files : List File) : Act Refusal Submission :=
  revise id fun o s => s.editFiles files o.clock

/-- New payment sessions. -/
def editSessions (id : String) (sessions : List PaymentSession) : Act Refusal Submission :=
  revise id fun o s => s.editSessions sessions o.clock

/-- A new answer to the question whether the filing is authorised. -/
def editAuthorised (id : String) (authorised : Bool) : Act Refusal Submission :=
  revise id fun o s => s.editAuthorised authorised o.clock

/-- A file that is uploaded. -/
structure Upload where
  id : Option String
  name : String
  size : UInt64

/-- The file of an upload.  An upload without an identifier gets one; the place of an upload that is
missing is kept by a file without an identifier. -/
def fileOf {ε : Type} : Option Upload → Act ε File
  | none => return .uploaded "" "" 0
  | some ⟨some id, name, size⟩ => return .uploaded id name size
  | some ⟨none, name, size⟩ => return .uploaded (← newFileId) name size

/-- New files from uploads. -/
def upload (id : String) (uploads : List (Option Upload)) : Act Refusal Submission := do
  editFiles id (← uploads.mapM fileOf)

/-! ## Completion and payment -/

/-- The open submission is checked, priced and moved on, and the presenter is told. -/
def complete (id : String) : Act Refusal Submission := do
  let s ← revise id fun o s => s.complete o.desk o.clock
  notify .confirmation s <|
    ("status", s.status.label) :: (s.fee.map fun fee => ("fee", fee)).toList
  return s

/-- A report of the payment provider; the presenter is told when the payment has failed. -/
def recordPayment (id : String) (report : Submission.PaymentReport) : Act Refusal Submission := do
  let s ← revise id fun o s => s.recordPayment report o.clock
  if report.state = .failed ∨ report.state = .cancelled then
    notify .paymentFailed s [("session_id", report.sessionId)]
  return s

/-! ## Files -/

/-- The mailboxes of the service are told about infected files and about what has to be delivered by
e-mail. -/
def notifyVerdict {ε : Type} (s : Submission) (verdict : Verdict) : Act ε Unit :=
  match verdict, s.status with
  | .rejectedByVirusScan, _ =>
    notify .avFailed s
      [("infected_files", String.intercalate ", " (Decision.namesWith .failedScan s.files))]
  | .accepted, .processedByEmail =>
    notify .internalDelivery s [("form_type", s.formType?.getD "")]
  | _, _ => return

/-- The submitted submission is queued for the checks of its files. -/
def queue (id : String) : Act Refusal Submission := do
  let s ← revise id fun o s => s.queue o.desk o.clock
  if s.files.isEmpty then notifyVerdict s .accepted
  return s

/-- What a report came to is saved, unless it is a duplicate, and the mailboxes are told.  When
somebody else was faster with a write, the work goes on with `again`. -/
def keepReport (id : String) (again : Act Refusal (Progress × Submission)) :
    Progress × Submission → Act Refusal (Progress × Submission)
  | (progress, revised) => do
    if progress.isDuplicate then return (progress, revised)
    match ← (save revised).outcome with
    | .ok stored =>
      progress.verdict?.forM (notifyVerdict stored)
      return (progress, stored)
    | .error (.conflict _) => again
    | .error e => throw (.ofWrite id e)

/-- One try to report on a file.  When somebody else was faster with a write, what was read is no
longer true, and the work goes on with `again`. -/
def reportOnce (id fileId : String) (outcome : FileOutcome)
    (again : Act Refusal (Progress × Submission)) : Act Refusal (Progress × Submission) := do
  let s ← read id
  let o ← get
  keepReport id again (← .ofExcept (s.report o.desk fileId outcome o.clock))

/-- A report on a file.  When somebody else was faster, the report is applied to what he has
written, at most `retries` times. -/
def reportWithin (id fileId : String) (outcome : FileOutcome) :
    Nat → Act Refusal (Progress × Submission)
  | 0 => reportOnce id fileId outcome (throw (.conflict id))
  | retries + 1 => reportOnce id fileId outcome (reportWithin id fileId outcome retries)

/-- A report on a file. -/
def report (id fileId : String) (outcome : FileOutcome) : Act Refusal (Progress × Submission) := do
  reportWithin id fileId outcome (← get).settings.retries

/-! ## The registration system -/

/-- The submission, which stands ready to be handed over. -/
def readReady (id : String) : Act Refusal Submission := do
  let s ← read id
  Act.ofExcept (s.demand [.readyToSubmit])
  return s

/-- The submission, which stands ready to be handed over, with a barcode: a fresh one where it has
none. -/
def withBarcode (s : Submission) (now : Instant) : Act Refusal Submission := do
  if s.barcode?.isSome then return s
  let barcode ← (nextBarcode now).adapt .fes
  let _ ← (updateBarcode s.id barcode now).adapt (.ofWrite s.id)
  readReady s.id

/-- The hand-over of a submission while others are under way.  It is refused while one of the same
submission is. -/
def handOverBeside (underWay : List String) (load : BatchRecord → Act FesError Unit)
    (id : String) : Act Refusal Submission := do
  if id ∈ underWay then throw (.conflict id)
  let s ← readReady id
  let now := (← get).clock
  let s ← withBarcode s now
  let record ← (Act.ofExcept (BatchRecord.ofSubmission s)).adapt .fes
  (load record).adapt .fes
  let sent ← Act.ofExcept (s.advance .sentToFes now)
  let _ ← (updateStatus id s.status sent.status now).adapt (.ofWrite id)
  read id

/-- The record is loaded, but another hand-over comes in first, if a drill has one. -/
def loadDuring (id : String) (record : BatchRecord) : Act FesError Unit := do
  match (← get).drill.reenter with
  | none => load record
  | some other =>
    modify fun o => { o with drill := { o.drill with reenter := none } }
    let result ← (handOverBeside [id] load other).outcome
    modify fun o => { o with reentered := o.reentered ++ [result.map (·.status)] }
    load record

/-- The hand-over of a submission to the registration system. -/
def handOver (id : String) : Act Refusal Submission :=
  handOverBeside [] (loadDuring id) id

/-- What the presenter is told about the decision of the registration system. -/
def adjudicationKind : FesOutcome → NotificationKind
  | .accepted => .accepted
  | .rejected => .rejected

/-- The decision of the registration system, which the presenter is told. -/
def adjudicate (id : String) (outcome : FesOutcome) : Act Refusal Submission := do
  let s ← revise id fun o s => s.adjudicate outcome o.reasonsFor o.clock
  notify (adjudicationKind outcome) s <|
    if s.rejectReasons.isEmpty then []
    else [("reject_reasons", String.intercalate "; " s.rejectReasons)]
  return s

end Filing.Office
