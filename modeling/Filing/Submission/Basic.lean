import Filing.Submission.Status
import Filing.Instant.Basic

/-!
# Submissions

A submission is the record of one filing, from its opening to its end: who presents it for which
company, its form with the attached files, the payment sessions, and where it stands.

* `Submission` and its parts: `Company`, `Presenter`, `FormDetails`, `File`, `PaymentSession`;
* `Submission.opened` — a fresh submission;
* `Submission.formType?`, `files`, `barcode?`, … — views; a blank form type or e-mail is none;
* `Submission.requireAny`, `Submission.moveTo` — the two guards on the lifecycle, which fail with a
  `StateViolation`.
-/

set_option autoImplicit false

namespace Filing

/-- The company that a filing is for. -/
structure Company where
  number : String
  name : String
deriving DecidableEq

/-- Whoever presents a filing. -/
structure Presenter where
  email : String
deriving DecidableEq

/-- How far the checks of a file have come. -/
inductive FileStatus where
  | waiting
  | queued
  | converted
  | failedScan
  | failedConversion
deriving DecidableEq, Repr

/-- The outcome for a file has been reported. -/
def FileStatus.isDecided : FileStatus → Bool
  | converted | failedScan | failedConversion => true
  | waiting | queued => false

/-- An attached file. -/
structure File where
  id : String
  name : String
  size : UInt64
  status : FileStatus
  convertedId : Option String
  pages : Option UInt32
  modifiedAt : Option Instant
deriving DecidableEq

/-- A file as it is uploaded. -/
def File.uploaded (id name : String) (size : UInt64) : File :=
  ⟨id, name, size, .waiting, none, none, none⟩

/-- The form of a filing: its type, the files attached to it, and its barcode once it has one. -/
structure FormDetails where
  barcode : Option String
  formType : Option String
  files : List File
deriving DecidableEq

/-- No barcode, no type, no files. -/
def FormDetails.empty : FormDetails := ⟨none, none, []⟩

/-- Where a payment session stands. -/
inductive PaymentState where
  | pending
  | paid
  | failed
  | cancelled
deriving DecidableEq, Repr

/-- A payment session at the payment provider. -/
structure PaymentSession where
  id : String
  state : PaymentState
  reference : Option String
deriving DecidableEq

/-- The record of one filing. -/
structure Submission where
  id : String
  confirmationReference : String
  createdAt : Instant
  submittedAt : Option Instant
  modifiedAt : Instant
  company : Option Company
  presenter : Option Presenter
  status : Status
  form : Option FormDetails
  sessions : List PaymentSession
  /-- The amount of the fee template that was in force when the form type was last priced, as the
  template writes it. -/
  fee : Option String
  authorised : Option Bool
  rejectReasons : List String
  paidAt : Option Instant
  /-- How often the stored record has been written, counted in sixty-four binary digits. -/
  version : UInt64
deriving DecidableEq

namespace Submission

/-- A fresh submission. -/
def opened (id reference : String) (presenter : Option Presenter) (now : Instant) : Submission where
  id := id
  confirmationReference := reference
  createdAt := now
  submittedAt := none
  modifiedAt := now
  company := none
  presenter := presenter
  status := .opened
  form := none
  sessions := []
  fee := none
  authorised := none
  rejectReasons := []
  paidAt := none
  version := 0

/-! ## Views -/

/-- The form type, unless it is blank. -/
def formType? (s : Submission) : Option String :=
  Text.nonBlank (s.form.bind (·.formType))

/-- The attached files. -/
def files (s : Submission) : List File :=
  (s.form.map (·.files)).getD []

/-- The barcode. -/
def barcode? (s : Submission) : Option String :=
  s.form.bind (·.barcode)

/-- The number of the company. -/
def companyNumber? (s : Submission) : Option String :=
  s.company.map (·.number)

/-- The presenter's e-mail address, unless it is blank. -/
def presenterEmail? (s : Submission) : Option String :=
  Text.nonBlank (s.presenter.map (·.email))

/-! ## Changes -/

/-- The submission with its form changed; the form starts out empty. -/
def updateForm (s : Submission) (f : FormDetails → FormDetails) : Submission :=
  { s with form := some (f (s.form.getD .empty)) }

/-- The submission with a new time of its last change. -/
def touch (s : Submission) (now : Instant) : Submission :=
  { s with modifiedAt := now }

end Submission

/-! ## Guards -/

/-- Why an operation does not fit where a submission stands. -/
inductive StateViolation where
  | incorrectState (id : String) (expected : List Status) (found : Status)
  | illegalTransition (id : String) (source target : Status)
deriving DecidableEq

/-- The wording of a violation. -/
def StateViolation.message : StateViolation → String
  | incorrectState id expected found =>
    s!"submission [{id}] is {found.label}, expected " ++
      String.intercalate " or " (expected.map Status.label)
  | illegalTransition id source target =>
    s!"submission [{id}] cannot move from {source.label} to {target.label}"

namespace Submission

/-- The submission stands at one of the given statuses. -/
def requireAny (s : Submission) (expected : List Status) : Except StateViolation Unit :=
  if s.status ∈ expected then .ok () else .error (.incorrectState s.id expected s.status)

/-- The submission moved to another status, if the lifecycle allows the move. -/
def moveTo (s : Submission) (target : Status) (now : Instant) : Except StateViolation Submission :=
  if s.status.mayBecome target then .ok { s with status := target, modifiedAt := now }
  else .error (.illegalTransition s.id s.status target)

end Submission

end Filing
