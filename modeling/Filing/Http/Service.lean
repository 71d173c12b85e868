import Filing.Http.Resource
import Filing.Office.Operation

/-!
# The service

What the service does with a request: it finds the operation that the request asks for, performs it,
and tells the outcome.

* `Exchange` — an operation with what is told about its answer;
* `Request.exchange` — the exchange that a request asks for, or the response that turns it away;
* `Office.respond` — the response of an office, and the office after it.
-/

set_option autoImplicit false

namespace Filing

/-- An operation with what is told about its answer. -/
structure Exchange where
  operation : Operation
  status : Nat
  content : Answer → Content

namespace Exchange

open Schema
open Reading (text boolean optional many long)

/-! ## What is told -/

/-- The whole submission. -/
def fullView : Answer → Content
  | .submission s => .json s.toJson
  | _ => .nothing

/-- What the presenter is told about a submission. -/
def publicView : Answer → Content
  | .submission s => .json s.statusView
  | .progress _ s => .json s.statusView
  | _ => .nothing

/-- A fee, with the question for it. -/
def feeView (formType : String) (asOf : Instant) : Answer → Content
  | .fee fee => .json <| .obj
    [("form_type", .str formType), ("as_of", asOf.toJson), ("fee", .option .str fee.storedAmount),
      ("payable", .bool fee.payable.isSome), ("detail", fee.toJson)]
  | _ => .nothing

/-- A report. -/
def reportView : Answer → Content
  | .delayed rows => .csv (DelayedRow.toCsv rows)
  | .paid rows => .csv (PaidRow.toCsv rows)
  | _ => .nothing

/-! ## What bodies hold -/

/-- Who opens a submission. -/
def presenterSchema : Schema (Option Presenter) :=
  (·.map Presenter.mk) <$> defaulted "presenter_email" none (optional text)

/-- A form type. -/
def formTypeSchema : Schema String := required "form_type" text

/-- A file that is uploaded. -/
def uploadSchema : Schema Office.Upload :=
  Office.Upload.mk <$> defaulted "file_id" none (optional text) <*> required "file_name" text <*>
    defaulted "file_size" 0 long

/-- The files that are uploaded, some of which may be missing. -/
def filesSchema : Schema (List (Option Office.Upload)) :=
  required "files" (many (optional uploadSchema.read))

/-- The answer to the question whether the filing is authorised. -/
def authorisedSchema : Schema Bool := required "confirm_authorised" boolean

/-- A report of the payment provider. -/
def paymentSchema : Schema Submission.PaymentReport :=
  Submission.PaymentReport.mk <$> required "session_id" text <*>
    required "state" PaymentState.ofReading <*>
    defaulted "payment_reference" none (optional text)

/-- The decision of the registration system. -/
def fesOutcomeSchema : Schema FesOutcome := required "outcome" FesOutcome.ofReading

/-! ## What queries hold -/

/-- The fee of a form type, at an instant that the query may name. -/
def feeExchange (formType : String) (now : Instant) (t : Target) : Except Response Exchange :=
  match t.possible? "as_of" with
  | none => .error (.bare 400)
  | some none => .ok ⟨.findFee formType now, 200, feeView formType now⟩
  | some (some raw) =>
    match Instant.ofText? raw with
    | some asOf => .ok ⟨.findFee formType asOf, 200, feeView formType asOf⟩
    | none => .error (.badRequest s!"as_of '{raw}' is not a date or timestamp")

/-- The report on delayed submissions, at a status that the query may name. -/
def delayedExchange (t : Target) : Except Response Exchange :=
  match t.possible? "status" with
  | none => .error (.bare 400)
  | some none => .ok ⟨.listDelayed .processing, 200, reportView⟩
  | some (some raw) =>
    match Status.ofText? raw with
    | some status => .ok ⟨.listDelayed status, 200, reportView⟩
    | none => .error (.badRequest s!"unknown status '{raw}'")

/-- The report on payments in a span of time that the query names. -/
def paidExchange (t : Target) : Except Response Exchange :=
  match t.required? "from", t.required? "to" with
  | some start, some stop =>
    match Instant.ofText? start, Instant.ofText? stop with
    | some start, some stop => .ok ⟨.listPaid start stop, 200, reportView⟩
    | _, _ => .error (.badRequest "from and to must be dates or timestamps")
  | _, _ => .error (.bare 400)

/-! ## Exchanges -/

/-- The exchange that a request to a resource asks for.  A body that does not say who opens a
submission is passed over. -/
def ofResource (r : Request) (now : Instant) : Resource → Except Response Exchange
  | .submissions =>
    let presenter := match r.json presenterSchema.read with
      | .ok presenter => presenter
      | .error _ => none
    .ok ⟨.create presenter, 201, fullView⟩
  | .submission id => .ok ⟨.read id, 200, fullView⟩
  | .company id => do
    return ⟨.editCompany id (← r.json Company.schema.read), 200, fullView⟩
  | .form id => do return ⟨.editForm id (← r.json formTypeSchema.read), 200, fullView⟩
  | .files id => do return ⟨.upload id (← r.json filesSchema.read), 200, fullView⟩
  | .sessions id => do
    return ⟨.editSessions id (← r.json (many PaymentSession.schema.read)), 200, fullView⟩
  | .authorisation id => do
    return ⟨.editAuthorised id (← r.json authorisedSchema.read), 200, fullView⟩
  | .completion id => .ok ⟨.complete id, 200, publicView⟩
  | .payment id => do
    return ⟨.recordPayment id (← r.json paymentSchema.read), 200, publicView⟩
  | .queue id => .ok ⟨.queue id, 202, publicView⟩
  | .fileOutcome id fileId => do
    return ⟨.report id fileId (← r.json FileOutcome.ofReading), 200, publicView⟩
  | .handOver id => .ok ⟨.handOver id, 202, publicView⟩
  | .fesOutcome id => do
    return ⟨.adjudicate id (← r.json fesOutcomeSchema.read), 200, fullView⟩
  | .fee formType => feeExchange formType now r.target
  | .delayedReport => delayedExchange r.target
  | .paidReport => paidExchange r.target

end Exchange

/-- The exchange that a request asks for, or the response that turns it away. -/
def Request.exchange (r : Request) (now : Instant) : Except Response Exchange :=
  match Resource.ofParts? r.target.parts with
  | none => .error (.bare 404)
  | some resource =>
    if !resource.takes r.method then .error (.bare 405)
    else match resource.named? with
      | none => .error (.bare 400)
      | some resource => Exchange.ofResource r now resource

/-- The response without its content, unless the content is asked for.  A report stays a report. -/
def Response.forMethod (r : Response) (m : Method) : Response :=
  match m, r.content with
  | .head, .csv _ => { r with content := .csv "" }
  | .head, _ => { r with content := .nothing }
  | _, _ => r

namespace Office

/-- The response of an office to a request, and the office after it.  `now` is the time on the wall,
which counts where a question names no time. -/
def respond (o : Office) (now : Instant) (r : Request) : Response × Office :=
  match r.exchange now with
  | .error response => (response.forMethod r.method, o)
  | .ok exchange =>
    match exchange.operation.perform o with
    | (.ok answer, o) =>
      ((⟨exchange.status, exchange.content answer⟩ : Response).forMethod r.method, o)
    | (.error e, o) => ((Response.refused e).forMethod r.method, o)

end Office

end Filing
