import Filing.Office.Batch

/-!
# Operations

Everything that can be asked of an office, as data.

* `Operation`, `Answer`;
* `Operation.perform` — the work that an operation stands for;
* `Office.run` — an office after a list of operations, each at its own time.
-/

set_option autoImplicit false

namespace Filing

/-- What can be asked of an office. -/
inductive Operation where
  | create (presenter : Option Presenter)
  | read (id : String)
  | editCompany (id : String) (company : Company)
  | editForm (id formType : String)
  | editFiles (id : String) (files : List File)
  | upload (id : String) (uploads : List (Option Office.Upload))
  | editSessions (id : String) (sessions : List PaymentSession)
  | editAuthorised (id : String) (authorised : Bool)
  | complete (id : String)
  | recordPayment (id : String) (report : Submission.PaymentReport)
  | queue (id : String)
  | queueBatch (limit : Option Nat)
  | report (id fileId : String) (outcome : FileOutcome)
  | handOver (id : String)
  | handOverAll
  | adjudicate (id : String) (outcome : FesOutcome)
  | findFee (formType : String) (asOf : Instant)
  | findForm (formType : String)
  | listDelayed (status : Status)
  | reportDelayed (status : Status)
  | listPaid (start stop : Instant)
  | newFileId

/-- What an office answers. -/
inductive Answer where
  | submission (s : Submission)
  | progress (progress : Progress) (s : Submission)
  | batch (report : BatchReport)
  | fee (fee : FeeResolution)
  | form (form : Option FormTemplate)
  | delayed (rows : List DelayedRow)
  | paid (rows : List PaidRow)
  | fileId (id : String)

namespace Operation

/-- The work that an operation stands for. -/
def perform : Operation → Act Refusal Answer
  | create presenter => .submission <$> Office.create presenter
  | read id => .submission <$> Office.read id
  | editCompany id company => .submission <$> Office.editCompany id company
  | editForm id formType => .submission <$> Office.editForm id formType
  | editFiles id files => .submission <$> Office.editFiles id files
  | upload id uploads => .submission <$> Office.upload id uploads
  | editSessions id sessions => .submission <$> Office.editSessions id sessions
  | editAuthorised id authorised => .submission <$> Office.editAuthorised id authorised
  | complete id => .submission <$> Office.complete id
  | recordPayment id payment => .submission <$> Office.recordPayment id payment
  | queue id => .submission <$> Office.queue id
  | queueBatch limit => .batch <$> Office.queueBatch limit
  | report id fileId outcome => do
    let (progress, s) ← Office.report id fileId outcome
    return .progress progress s
  | handOver id => .submission <$> Office.handOver id
  | handOverAll => .batch <$> Office.handOverAll
  | adjudicate id outcome => .submission <$> Office.adjudicate id outcome
  | findFee formType asOf => do
    .fee <$> (Act.ofExcept ((← get).desk.resolveFee formType asOf)).adapt .repository
  | findForm formType => do
    .form <$> (Act.ofExcept ((← get).desk.form? formType)).adapt .repository
  | listDelayed status => .delayed <$> Office.listDelayed status
  | reportDelayed status => .delayed <$> Office.reportDelayed status
  | listPaid start stop => .paid <$> Office.listPaid start stop
  | newFileId => .fileId <$> Office.newFileId

end Operation

namespace Office

/-- The answer to an operation at an instant, and the office after it. -/
def step (o : Office) (now : Instant) (operation : Operation) : Except Refusal Answer × Office :=
  operation.perform { o with clock := now }

/-- The office after operations, each at its own instant. -/
def run (o : Office) : List (Instant × Operation) → Office
  | [] => o
  | (now, operation) :: rest => run (o.step now operation).2 rest

end Office

end Filing
