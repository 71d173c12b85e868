import Filing.Office.Basic

/-!
# What an office asks of others

The calls that an office makes to its store, to the mail, to the barcodes and to the loader of the
registration system.  Each of them may be out of order in a drill.

* `Office.onStore` — a call to the store, with whatever a drill does to it;
* `Office.find`, `insert`, `save`, … — the calls;
* `Office.post` — a mail; one that is refused is gone, and nothing else happens;
* `Office.nextBarcode`, `Office.load`, `Office.reasonsFor` — the registration system.
-/

set_option autoImplicit false

namespace Filing.Office

/-! ## The store -/

/-- The office after what others do before a call. -/
def interfere (o : Office) (call : StoreCall) : Office :=
  match Drill.takeSlip call o.drill.slips with
  | (some slip, rest) =>
    { o with store := slip.apply o.store, drill := { o.drill with slips := rest } }
  | (none, _) => o

/-- A call to the store.  Others write first; then the store may be down. -/
def onStore {α : Type} (call : StoreCall) (f : Office → Except RepositoryError α × Office) :
    Act RepositoryError α := fun o =>
  let o := o.interfere call
  if call ∈ o.drill.storeDown then (.error (.unavailable "database offline"), o) else f o

/-- A question to the store. -/
def asks {α : Type} (f : Store → α) (o : Office) : Except RepositoryError α × Office :=
  (.ok (f o.store), o)

/-- A write to the store; one that is refused changes nothing. -/
def writes {α : Type} (f : Store → Except RepositoryError (α × Store)) (o : Office) :
    Except RepositoryError α × Office :=
  match f o.store with
  | .ok (a, store) => (.ok a, { o with store := store })
  | .error e => (.error e, o)

/-- The submission under an identifier, if there is one. -/
def find (id : String) : Act RepositoryError (Option Submission) :=
  onStore .read (asks (·.find? id))

/-- A new submission. -/
def insert (s : Submission) : Act RepositoryError Submission :=
  onStore .create (writes fun store => (store.create s).map fun store => (s, store))

/-- A submission saved as a whole, unless somebody else was faster. -/
def save (s : Submission) : Act RepositoryError Submission :=
  onStore .save fun o =>
    match o.drill.lostSaves with
    | 0 => writes (·.save s) o
    | n + 1 => (.error (.conflict s.id), { o with drill := { o.drill with lostSaves := n } })

/-- A new status in place of the expected one. -/
def updateStatus (id : String) (expected status : Status) (now : Instant) :
    Act RepositoryError Submission :=
  onStore .updateStatus (writes (·.updateStatus id expected status now))

/-- A barcode. -/
def updateBarcode (id barcode : String) (now : Instant) : Act RepositoryError Submission :=
  onStore .updateBarcode (writes (·.updateBarcode id barcode now))

/-- The submissions at a status, in the order of work. -/
def findByStatus (status : Status) (preferred : Submission → Bool) :
    Act RepositoryError (List Submission) :=
  onStore .findByStatus (asks (·.byStatus status preferred))

/-- The submissions at a status that were last changed before an instant. -/
def findDelayed (status : Status) (before : Instant) : Act RepositoryError (List Submission) :=
  onStore .findDelayed (asks (·.delayed status before))

/-- The submissions at one of the given statuses that were paid in a span of time. -/
def findPaid (statuses : List Status) (start stop : Instant) :
    Act RepositoryError (List Submission) :=
  onStore .findPaid (asks (·.paid statuses start stop))

/-! ## The mail -/

/-- The office after handing in a mail. -/
def posted (o : Office) (n : Notification) : Office :=
  if o.drill.refuses (o.sent.length + o.refused.length) then
    { o with refused := o.refused ++ [n] }
  else { o with sent := o.sent ++ [n] }

/-- A mail is handed in, if there is one. -/
def post {ε : Type} (mail : Except NotificationError Notification) : Act ε Unit :=
  Act.always fun o =>
    match mail with
    | .ok n => ((), o.posted n)
    | .error _ => ((), o)

/-- A mail about a submission. -/
def notify {ε : Type} (kind : NotificationKind) (s : Submission)
    (details : List (String × String)) : Act ε Unit := do
  post ((← get).settings.mail.forSubmission kind s (.ofList details))

/-! ## The registration system -/

/-- The next barcode. -/
def nextBarcode (now : Instant) : Act FesError String := fun o =>
  if o.drill.barcodesDown then (.error (.barcodeUnavailable "sequence exhausted"), o)
  else
    let (barcode, barcodes) := o.barcodes.next now
    (.ok barcode, { o with barcodes := barcodes })

/-- A record is loaded. -/
def load (record : BatchRecord) : Act FesError Unit := fun o =>
  if o.drill.loaderDown then (.error (.loader "FES loader offline"), o)
  else (.ok (), { o with loaded := o.loaded ++ [record] })

/-- The reasons for a rejection; none, where they are not to be had. -/
def reasonsFor (o : Office) (barcode : String) : List String :=
  if o.drill.reasonsDown then [] else (o.reasons.find? barcode).getD []

/-! ## Identifiers -/

/-- An identifier for a submission. -/
def newSubmissionId {ε : Type} : Act ε String :=
  Act.always fun o => (o.ids.submissionId.1, { o with ids := o.ids.submissionId.2 })

/-- A confirmation reference. -/
def newReference {ε : Type} : Act ε String :=
  Act.always fun o => (o.ids.reference.1, { o with ids := o.ids.reference.2 })

/-- An identifier for a file. -/
def newFileId {ε : Type} : Act ε String :=
  Act.always fun o => (o.ids.fileId.1, { o with ids := o.ids.fileId.2 })

end Filing.Office
