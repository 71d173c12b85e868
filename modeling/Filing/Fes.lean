import Filing.Submission.Json

/-!
# The hand-off to the registration system

A submission whose files are converted is handed to the registration system, FES, as one record.
The record is known by a barcode, and FES later accepts or rejects it.

* `BatchRecord.ofSubmission` — the record of a submission that has a barcode;
* `BarcodeSequence.next` — barcodes in a sequence;
* `FesOutcome` — what FES answers.
-/

set_option autoImplicit false

namespace Filing

/-- The decision of the registration system. -/
inductive FesOutcome where
  | accepted
  | rejected
deriving DecidableEq

/-- The outcome with a name. -/
def FesOutcome.ofLabel? (s : String) : Option FesOutcome :=
  if s = "accepted" then some .accepted else if s = "rejected" then some .rejected else none

def FesOutcome.ofReading : Reading → Except Fault FesOutcome :=
  Reading.choice ofLabel?

/-- Why a submission cannot be handed over. -/
inductive FesError where
  | barcodeUnavailable (reason : String)
  | missingBarcode (id : String)
  | loader (reason : String)
deriving DecidableEq

/-- The wording of an error. -/
def FesError.message : FesError → String
  | barcodeUnavailable reason => s!"barcode service unavailable: {reason}"
  | missingBarcode id => s!"submission [{id}] has no barcode"
  | loader reason => s!"FES loader rejected batch record: {reason}"

/-! ## Records -/

/-- A file as the registration system sees it. -/
structure BatchDocument where
  fileId : String
  convertedId : Option String
  pages : Option UInt32
deriving DecidableEq

/-- A submission as the registration system sees it. -/
structure BatchRecord where
  submissionId : String
  barcode : String
  confirmationReference : String
  formType : String
  companyNumber : String
  companyName : String
  submittedAt : Option Instant
  documents : List BatchDocument
deriving DecidableEq

namespace BatchRecord

/-- The record of a submission with the given barcode; what is absent is the empty text. -/
def withBarcode (s : Submission) (barcode : String) : BatchRecord where
  submissionId := s.id
  barcode := barcode
  confirmationReference := s.confirmationReference
  formType := s.formType?.getD ""
  companyNumber := (s.company.map (·.number)).getD ""
  companyName := (s.company.map (·.name)).getD ""
  submittedAt := s.submittedAt
  documents := s.files.map fun f => ⟨f.id, f.convertedId, f.pages⟩

/-- The record of a submission, which has to have a barcode. -/
def ofSubmission (s : Submission) : Except FesError BatchRecord :=
  match s.barcode? with
  | some barcode => .ok (withBarcode s barcode)
  | none => .error (.missingBarcode s.id)

theorem ofSubmission_eq_ok {s : Submission} {record : BatchRecord} :
    ofSubmission s = .ok record ↔ ∃ barcode, s.barcode? = some barcode ∧
      record = withBarcode s barcode := by
  rw [ofSubmission]
  cases s.barcode? with
  | none => simp
  | some barcode => simp [eq_comm]

def toJson (r : BatchRecord) : Json :=
  .obj
    [("submission_id", .str r.submissionId), ("barcode", .str r.barcode),
      ("confirmation_reference", .str r.confirmationReference), ("form_type", .str r.formType),
      ("company_number", .str r.companyNumber), ("company_name", .str r.companyName),
      ("submitted_at", .option Instant.toJson r.submittedAt),
      ("documents", .list (fun d => .obj
        [("file_id", .str d.fileId), ("converted_file_id", .option .str d.convertedId),
          ("number_of_pages", .option (fun n => .nat n.toNat) d.pages)]) r.documents)]

end BatchRecord

/-! ## Barcodes -/

/-- Barcodes that open with the same character and end in a running number. -/
structure BarcodeSequence where
  lead : Char
  number : UInt64
deriving DecidableEq

namespace BarcodeSequence

/-- A fresh sequence. -/
def fresh (lead : Char) : BarcodeSequence := ⟨lead, 1⟩

/-- A barcode of a day: the leading character, the year in two digits, the day of the year in three,
and a number in at least five. -/
def barcode (lead : Char) (day : Date) (number : UInt64) : String :=
  String.ofList <|
    lead :: Text.padded 2 (day.year % 100).toNat ++ Text.padded 3 day.dayOfYear ++
      Text.padded 5 number.toNat

/-- The next barcode of a sequence, and the sequence after it. -/
def next (b : BarcodeSequence) (at_ : Instant) : String × BarcodeSequence :=
  (barcode b.lead at_.date b.number, { b with number := b.number + 1 })

end BarcodeSequence

end Filing
