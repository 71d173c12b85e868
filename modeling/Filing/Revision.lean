import Filing.Refusal

/-!
# Revisions

What the operations make of a submission, before it is stored: each is a function from the
submission as it was read to the submission as it will be saved, or a refusal.

* `Submission.editForm`, `Submission.editFiles`, … — changes to a submission that is still open;
* `Submission.complete` — the end of editing: the submission is checked and priced;
* `Submission.recordPayment`, `Submission.queue`, `Submission.report`, `Submission.adjudicate` — the
  way through payment, the checks of the files and the registration system;
* `Verdict.destination` — where a verdict on the files leads.

A revision consults the catalog only once it is known that the submission stands where it should.
-/

set_option autoImplicit false

namespace Filing

/-- The result, with a different kind of error. -/
def refuse {ε α : Type} (f : ε → Refusal) : Except ε α → Except Refusal α
  | .ok a => .ok a
  | .error e => .error (f e)

/-- Where a verdict on the files leads: a form that the registration system does not take is
delivered by e-mail. -/
def Verdict.destination : Verdict → Option FormTemplate → Status
  | rejectedByVirusScan, _ => .rejectedByVirusScan
  | rejectedByDocumentConverter, _ => .rejectedByDocumentConverter
  | accepted, some form =>
    if form.fullyElectronic || form.fesDelivery then .readyToSubmit else .processedByEmail
  | accepted, none => .readyToSubmit

namespace Submission

/-! ## Guards -/

/-- The submission stands at one of the given statuses. -/
def demand (s : Submission) (expected : List Status) : Except Refusal Unit :=
  refuse .state (s.requireAny expected)

/-- The submission moved to another status. -/
def advance (s : Submission) (target : Status) (now : Instant) : Except Refusal Submission :=
  refuse .state (s.moveTo target now)

/-- The registered form of the submission. -/
def registeredForm (s : Submission) (desk : CatalogDesk) : Except Refusal (Option FormTemplate) :=
  match s.formType? with
  | some formType => refuse .repository (desk.form? formType)
  | none => .ok none

/-! ## Editing -/

/-- A change to a submission that is still open. -/
def edit (s : Submission) (now : Instant) (change : Submission → Except Refusal Submission) :
    Except Refusal Submission := do
  s.demand [.opened]
  return (← change s).touch now

/-- A new company. -/
def editCompany (company : Company) (now : Instant) (s : Submission) : Except Refusal Submission :=
  s.edit now fun s => .ok { s with company := some company }

/-- A new form type, with the fee that is in force. -/
def editForm (desk : CatalogDesk) (formType : String) (now : Instant) (s : Submission) :
    Except Refusal Submission :=
  s.edit now fun s => do
    let fee ← refuse .repository (desk.resolveFee formType now)
    return { s.updateForm ({ · with formType := some (Text.trim formType) }) with
      fee := fee.storedAmount }

/-- A file that nothing has been reported on. -/
def startOver (now : Instant) (f : File) : File :=
  { f with status := .waiting, convertedId := none, pages := none, modifiedAt := some now }

/-- New files in place of the attached ones.  Whatever is said about them, their checks start
over. -/
def editFiles (files : List File) (now : Instant) (s : Submission) : Except Refusal Submission :=
  s.edit now fun s => .ok (s.updateForm ({ · with files := files.map (startOver now) }))

/-- New payment sessions in place of the attached ones. -/
def editSessions (sessions : List PaymentSession) (now : Instant) (s : Submission) :
    Except Refusal Submission :=
  s.edit now fun s => .ok { s with sessions := sessions }

/-- A new answer to the question whether the filing is authorised. -/
def editAuthorised (authorised : Bool) (now : Instant) (s : Submission) :
    Except Refusal Submission :=
  s.edit now fun s => .ok { s with authorised := some authorised }

/-! ## Completion -/

/-- The fee of the submission at an instant. -/
def currentFee (s : Submission) (desk : CatalogDesk) (now : Instant) :
    Except Refusal FeeResolution :=
  match s.formType? with
  | some formType => refuse .repository (desk.resolveFee formType now)
  | none => .ok .notApplicable

/-- The submission priced, and moved on: to payment where there is something to pay. -/
def price (s : Submission) (fee : FeeResolution) (now : Instant) : Except Refusal Submission :=
  let s := { s with fee := fee.storedAmount }
  if fee.payable.isSome then s.advance .paymentRequired now
  else ({ s with submittedAt := some now } : Submission).advance .submitted now

/-- The open submission checked, priced and moved on. -/
def complete (desk : CatalogDesk) (now : Instant) (s : Submission) : Except Refusal Submission := do
  s.demand [.opened]
  let form ← s.registeredForm desk
  let fee ← s.currentFee desk now
  refuse .incomplete (s.validate form fee)
  s.price fee now

/-! ## Payment -/

/-- What the payment provider reports about a session. -/
structure PaymentReport where
  sessionId : String
  state : PaymentState
  reference : Option String

/-- The sessions with a report applied to the first session that it names; nothing if there is no
such session. -/
def applyReport (report : PaymentReport) : List PaymentSession → Option (List PaymentSession)
  | [] => none
  | p :: rest =>
    if p.id = report.sessionId then
      some ({ p with state := report.state, reference := report.reference.or p.reference } :: rest)
    else (applyReport report rest).map (p :: ·)

/-- The submission moved on by a payment: it is submitted once the payment is taken. -/
def settle (s : Submission) (state : PaymentState) (now : Instant) : Except Refusal Submission :=
  match state with
  | .paid =>
    ({ s with submittedAt := some now, paidAt := some now } : Submission).advance .submitted now
  | .failed | .cancelled =>
    if s.status = .paymentRequired then s.advance .paymentFailed now else .ok (s.touch now)
  | .pending => .ok (s.touch now)

/-- A report of the payment provider. -/
def recordPayment (report : PaymentReport) (now : Instant) (s : Submission) :
    Except Refusal Submission := do
  s.demand [.paymentRequired, .paymentFailed]
  match applyReport report s.sessions with
  | none => .error (.unknownSession s.id report.sessionId)
  | some sessions => ({ s with sessions := sessions } : Submission).settle report.state now

/-! ## Files -/

/-- The files queued for their checks. -/
def queueFiles (s : Submission) (now : Instant) : Submission :=
  { s with
    form := s.form.map fun form =>
      { form with
        files := form.files.map fun f => { f with status := .queued, modifiedAt := some now } } }

/-- The submitted submission queued for the checks of its files.  Without files they are passed. -/
def queue (desk : CatalogDesk) (now : Instant) (s : Submission) : Except Refusal Submission := do
  s.demand [.submitted]
  let s ← s.advance .processing now
  let s := s.queueFiles now
  if s.files.isEmpty then
    let form ← s.registeredForm desk
    s.advance (Verdict.accepted.destination form) now
  else
    return s

/-- A report on a file, and the move that follows when it is the last one.  The submission after a
repeated report is the submission before it. -/
def report (desk : CatalogDesk) (fileId : String) (outcome : FileOutcome) (now : Instant)
    (s : Submission) : Except Refusal (Progress × Submission) := do
  s.demand [.processing]
  let (progress, s) ← refuse .decision (s.recordOutcome fileId outcome now)
  match progress.verdict? with
  | none => return (progress, s)
  | some verdict =>
    let form ← s.registeredForm desk
    return (progress, ← s.advance (verdict.destination form) now)

/-! ## The registration system -/

/-- The decision of the registration system, with its reasons for a rejection. -/
def adjudicate (outcome : FesOutcome) (reasons : String → List String) (now : Instant)
    (s : Submission) : Except Refusal Submission := do
  s.demand [.sentToFes]
  match outcome with
  | .accepted => s.advance .accepted now
  | .rejected =>
    ({ s with rejectReasons := (s.barcode?.map reasons).getD [] } : Submission).advance
      .rejected now

end Submission

end Filing
