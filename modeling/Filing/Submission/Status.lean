import Filing.Text.Blank

/-!
# The lifecycle of a submission

A submission is opened, completed and paid, has its files checked, and is handed to the registration
system or delivered by e-mail.

* `Status` with `Status.label` and the two ways back: `Status.ofLabel?`, `Status.ofText?`;
* `Status.isTerminal` — nothing follows;
* `Status.mayBecome` — the table of moves, `Status.next` in a list.
-/

set_option autoImplicit false

namespace Filing

/-- Where a submission stands. -/
inductive Status where
  | opened
  | paymentRequired
  | paymentFailed
  | submitted
  | processing
  | processedByEmail
  | readyToSubmit
  | sentToFes
  | accepted
  | rejected
  | rejectedByVirusScan
  | rejectedByDocumentConverter
deriving DecidableEq, Repr, Inhabited

namespace Status

/-- Every status, in the order of the lifecycle. -/
def all : List Status :=
  [.opened, .paymentRequired, .paymentFailed, .submitted, .processing, .processedByEmail,
    .readyToSubmit, .sentToFes, .accepted, .rejected, .rejectedByVirusScan,
    .rejectedByDocumentConverter]

theorem mem_all (s : Status) : s ∈ all := by
  cases s <;> decide

/-- The name of a status. -/
def label : Status → String
  | opened => "OPEN"
  | paymentRequired => "PAYMENT_REQUIRED"
  | paymentFailed => "PAYMENT_FAILED"
  | submitted => "SUBMITTED"
  | processing => "PROCESSING"
  | processedByEmail => "PROCESSED_BY_EMAIL"
  | readyToSubmit => "READY_TO_SUBMIT"
  | sentToFes => "SENT_TO_FES"
  | accepted => "ACCEPTED"
  | rejected => "REJECTED"
  | rejectedByVirusScan => "REJECTED_BY_VIRUS_SCAN"
  | rejectedByDocumentConverter => "REJECTED_BY_DOCUMENT_CONVERTER"

/-- The status with the given name. -/
def ofLabel? (s : String) : Option Status :=
  all.find? (·.label == s)

/-- The status that somebody typed: its name in upper or lower case, with white space around. -/
def ofText? (s : String) : Option Status :=
  all.find? (Text.sameIgnoringCase ·.label (Text.trim s))

@[simp] theorem ofLabel?_label (s : Status) : ofLabel? s.label = some s := by
  cases s <;> decide

/-- No other status follows. -/
def isTerminal : Status → Bool
  | accepted | rejected | rejectedByVirusScan | rejectedByDocumentConverter => true
  | processedByEmail => true
  | _ => false

/-- The moves of the lifecycle. -/
def mayBecome : Status → Status → Bool
  | opened, paymentRequired => true
  | opened, submitted => true
  | paymentRequired, submitted => true
  | paymentRequired, paymentFailed => true
  | paymentFailed, submitted => true
  | submitted, processing => true
  | processing, processedByEmail => true
  | processing, readyToSubmit => true
  | processing, rejectedByVirusScan => true
  | processing, rejectedByDocumentConverter => true
  | readyToSubmit, sentToFes => true
  | sentToFes, accepted => true
  | sentToFes, rejected => true
  | _, _ => false

/-- The statuses that may follow. -/
def next (s : Status) : List Status :=
  all.filter s.mayBecome

theorem mem_next {s t : Status} : t ∈ s.next ↔ s.mayBecome t = true := by
  simp [next, mem_all]

end Status

end Filing
