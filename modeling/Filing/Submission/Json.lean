import Filing.Submission.Basic
import Filing.Instant.Text
import Filing.Json.Schema

/-!
# Submissions as JSON

The form in which submissions are exchanged.  For each type of the data model there is a writer
`toJson` and a `schema` that reads it back.

A member without a value is written as `null`, but a barcode, the details that a file gets from its
conversion and a payment reference are left out.  Reading allows what is absent to be left out.
-/

set_option autoImplicit false

namespace Filing

/-- The text of an instant. -/
def Instant.toJson (t : Instant) : Json := .str t.toText

namespace Reading

/-- The instant that a text spells. -/
def instant : Reading → Except Fault Instant :=
  parsed Instant.ofField?

/-- A number of sixty-four binary digits. -/
def long (r : Reading) : Except Fault UInt64 :=
  (r.natural Text.maxLong).map UInt64.ofNat

/-- A number of thirty-two binary digits. -/
def word (r : Reading) : Except Fault UInt32 :=
  (r.natural Text.maxWord).map UInt32.ofNat

end Reading

open Schema
open Reading (text boolean optional many choice instant long word)

namespace Company

def toJson (c : Company) : Json :=
  .obj [("company_number", .str c.number), ("company_name", .str c.name)]

def schema : Schema Company :=
  Company.mk <$> required "company_number" text <*> required "company_name" text

end Company

namespace Presenter

def toJson (p : Presenter) : Json :=
  .obj [("email", .str p.email)]

def schema : Schema Presenter :=
  Presenter.mk <$> required "email" text

end Presenter

/-- The name of a status. -/
def Status.toJson (s : Status) : Json := .str s.label

/-- The status with a name. -/
def Status.ofReading : Reading → Except Fault Status :=
  choice Status.ofLabel?

namespace FileStatus

/-- Every status of a file. -/
def all : List FileStatus := [.waiting, .queued, .converted, .failedScan, .failedConversion]

/-- The name of a status. -/
def label : FileStatus → String
  | waiting => "WAITING"
  | queued => "QUEUED"
  | converted => "CONVERTED"
  | failedScan => "FAILED_AV"
  | failedConversion => "FAILED_CONVERSION"

def ofLabel? (s : String) : Option FileStatus :=
  all.find? (·.label == s)

@[simp] theorem ofLabel?_label (s : FileStatus) : ofLabel? s.label = some s := by
  cases s <;> decide

def toJson (s : FileStatus) : Json := .str s.label

def ofReading : Reading → Except Fault FileStatus :=
  choice ofLabel?

end FileStatus

namespace File

def toJson (f : File) : Json :=
  .obj <|
    [("file_id", .str f.id), ("file_name", .str f.name), ("file_size", .nat f.size.toNat),
      ("conversion_status", f.status.toJson)] ++
    Json.memberIf "converted_file_id" .str f.convertedId ++
    Json.memberIf "number_of_pages" (fun n => .nat n.toNat) f.pages ++
    Json.memberIf "last_modified_at" Instant.toJson f.modifiedAt

def schema : Schema File :=
  File.mk <$> required "file_id" text <*> required "file_name" text <*>
    required "file_size" long <*>
    required "conversion_status" FileStatus.ofReading <*>
    defaulted "converted_file_id" none (optional text) <*>
    defaulted "number_of_pages" none (optional word) <*>
    defaulted "last_modified_at" none (optional instant)

end File

namespace FormDetails

def toJson (f : FormDetails) : Json :=
  .obj <| Json.memberIf "barcode" .str f.barcode ++
    [("form_type", .option .str f.formType), ("file_details", .list File.toJson f.files)]

def schema : Schema FormDetails :=
  FormDetails.mk <$> defaulted "barcode" none (optional text) <*>
    defaulted "form_type" none (optional text) <*>
    defaulted "file_details" [] (many File.schema.read)

end FormDetails

namespace PaymentState

/-- Every state of a payment session. -/
def all : List PaymentState := [.pending, .paid, .failed, .cancelled]

/-- The name of a state. -/
def label : PaymentState → String
  | pending => "pending"
  | paid => "paid"
  | failed => "failed"
  | cancelled => "cancelled"

def ofLabel? (s : String) : Option PaymentState :=
  all.find? (·.label == s)

@[simp] theorem ofLabel?_label (s : PaymentState) : ofLabel? s.label = some s := by
  cases s <;> decide

def toJson (s : PaymentState) : Json := .str s.label

def ofReading : Reading → Except Fault PaymentState :=
  choice ofLabel?

end PaymentState

namespace PaymentSession

/-- A session that nothing has been heard of. -/
def waiting (id : String) : PaymentSession := ⟨id, .pending, none⟩

def toJson (s : PaymentSession) : Json :=
  .obj <| [("session_id", .str s.id), ("session_state", s.state.toJson)] ++
    Json.memberIf "payment_reference" .str s.reference

def schema : Schema PaymentSession :=
  PaymentSession.mk <$> required "session_id" text <*>
    required "session_state" PaymentState.ofReading <*>
    defaulted "payment_reference" none (optional text)

end PaymentSession

namespace Submission

def toJson (s : Submission) : Json :=
  .obj
    [("id", .str s.id),
      ("confirmation_reference", .str s.confirmationReference),
      ("created_at", s.createdAt.toJson),
      ("submitted_at", .option Instant.toJson s.submittedAt),
      ("last_modified_at", s.modifiedAt.toJson),
      ("company", .option Company.toJson s.company),
      ("presenter", .option Presenter.toJson s.presenter),
      ("status", s.status.toJson),
      ("form_details", .option FormDetails.toJson s.form),
      ("payment_sessions", .list PaymentSession.toJson s.sessions),
      ("fee_on_submission", .option .str s.fee),
      ("confirm_authorised", .option .bool s.authorised),
      ("reject_reasons", .list .str s.rejectReasons),
      ("paid_at", .option Instant.toJson s.paidAt),
      ("version", .nat s.version.toNat)]

def schema : Schema Submission :=
  Submission.mk <$> required "id" text <*>
    required "confirmation_reference" text <*>
    required "created_at" instant <*>
    possible "submitted_at" instant <*>
    required "last_modified_at" instant <*>
    possible "company" Company.schema.read <*>
    possible "presenter" Presenter.schema.read <*>
    required "status" Status.ofReading <*>
    possible "form_details" FormDetails.schema.read <*>
    defaulted "payment_sessions" [] (many PaymentSession.schema.read) <*>
    possible "fee_on_submission" text <*>
    possible "confirm_authorised" boolean <*>
    defaulted "reject_reasons" [] (many text) <*>
    possible "paid_at" instant <*>
    defaulted "version" 0 long

/-- What the presenter is told about a submission. -/
def statusView (s : Submission) : Json :=
  .obj <|
    [("submission_id", .str s.id), ("confirmation_reference", .str s.confirmationReference),
      ("status", s.status.toJson)] ++
    Json.memberIf "form_type" .str s.formType? ++
    Json.memberIf "fee" .str s.fee ++
    Json.memberIf "submitted_at" Instant.toJson s.submittedAt

end Submission

end Filing
