import Filing.Submission.Json

/-!
# The decision on the attached files

Every file is scanned and converted, and its outcome is reported.  Once all files have reported, the
decision is final.  It is always taken from the files as they stand, so what has been counted can
never differ from what is on record.

* `FileOutcome` — what is reported for a file;
* `Decision.ofFiles`, `Decision.verdict?` — the state of the decision;
* `Submission.recordOutcome` — one report; the first report on a file counts.
-/

set_option autoImplicit false

namespace Filing

/-- What is reported for a file. -/
inductive FileOutcome where
  | converted (convertedId : Option String) (pages : Option UInt32)
  | infected
  | conversionFailed
deriving DecidableEq

/-- The status of a file after its outcome. -/
def FileOutcome.status : FileOutcome → FileStatus
  | converted .. => .converted
  | infected => .failedScan
  | conversionFailed => .failedConversion

/-- How far the decision on the files has come. -/
structure Decision where
  expected : Nat
  received : Nat
  /-- Some file is not accepted. -/
  changed : Bool
  infected : List String
  failedConversion : List String
deriving DecidableEq

/-- What becomes of a submission by its files. -/
inductive Verdict where
  | accepted
  | rejectedByVirusScan
  | rejectedByDocumentConverter
deriving DecidableEq

/-- The verdict is a rejection. -/
def Verdict.isRejected : Verdict → Bool
  | accepted => false
  | rejectedByVirusScan | rejectedByDocumentConverter => true

namespace Decision

/-- The names of the files with a status. -/
def namesWith (status : FileStatus) (files : List File) : List String :=
  (files.filter (·.status = status)).map (·.name)

/-- The decision as the files stand. -/
def ofFiles (files : List File) : Decision :=
  let infected := namesWith .failedScan files
  let failed := namesWith .failedConversion files
  { expected := files.length
    received := files.countP (·.status.isDecided)
    changed := !infected.isEmpty || !failed.isEmpty
    infected := infected
    failedConversion := failed }

/-- All files have reported. -/
def isComplete (d : Decision) : Bool :=
  d.received == d.expected

/-- The verdict, once all files have reported: an infected file weighs more than one that could not
be converted. -/
def verdict? (d : Decision) : Option Verdict :=
  if !d.isComplete then none
  else if !d.infected.isEmpty then some .rejectedByVirusScan
  else if !d.failedConversion.isEmpty then some .rejectedByDocumentConverter
  else some .accepted

end Decision

/-- What a report did to the decision. -/
inductive Progress where
  | pending (received expected : Nat)
  /-- The file had reported before; nothing has changed. -/
  | duplicate (received expected : Nat)
  | finalized (decision : Decision) (verdict : Verdict)
deriving DecidableEq

/-- The progress after a report that counted. -/
def Decision.progress (d : Decision) : Progress :=
  match d.verdict? with
  | some v => .finalized d v
  | none => .pending d.received d.expected

/-- The verdict of a final decision. -/
def Progress.verdict? : Progress → Option Verdict
  | finalized _ v => some v
  | pending .. | duplicate .. => none

/-- The file had reported before. -/
def Progress.isDuplicate : Progress → Bool
  | duplicate .. => true
  | pending .. | finalized .. => false

/-- Why a report cannot be recorded. -/
inductive DecisionError where
  | noFormDetails (id : String)
  | unknownFile (id fileId : String)
deriving DecidableEq

/-- The wording of an error. -/
def DecisionError.message : DecisionError → String
  | noFormDetails id => s!"submission [{id}] has no form details to decide on"
  | unknownFile id fileId => s!"file [{fileId}] is not attached to submission [{id}]"

/-- A file after its outcome. -/
def File.decide (f : File) (outcome : FileOutcome) (now : Instant) : File :=
  match outcome with
  | .converted convertedId pages =>
    { f with
      status := .converted, convertedId := convertedId, pages := pages, modifiedAt := some now }
  | .infected => { f with status := .failedScan, modifiedAt := some now }
  | .conversionFailed => { f with status := .failedConversion, modifiedAt := some now }

/-- The files with the first of the given identifier changed. -/
def File.updateFirst (id : String) (change : File → File) : List File → List File
  | [] => []
  | f :: rest => if f.id = id then change f :: rest else f :: updateFirst id change rest

namespace Submission

/-- One report on a file, and the submission after it. -/
def recordOutcome (s : Submission) (fileId : String) (outcome : FileOutcome) (now : Instant) :
    Except DecisionError (Progress × Submission) :=
  match s.form with
  | none => .error (.noFormDetails s.id)
  | some form =>
    match form.files.find? (·.id = fileId) with
    | none => .error (.unknownFile s.id fileId)
    | some file =>
      if file.status.isDecided then
        let d := Decision.ofFiles form.files
        .ok (.duplicate d.received d.expected, s)
      else
        let files := File.updateFirst fileId (·.decide outcome now) form.files
        .ok ((Decision.ofFiles files).progress,
          { s with form := some { form with files := files }, modifiedAt := now })

end Submission

/-! ## JSON -/

namespace FileOutcome

open Schema
open Reading (text optional word)

def toJson : FileOutcome → Json
  | converted convertedId pages =>
    .obj [("outcome", .str "converted"), ("converted_file_id", .option .str convertedId),
      ("number_of_pages", .option (fun n => .nat n.toNat) pages)]
  | infected => .obj [("outcome", .str "infected")]
  | conversionFailed => .obj [("outcome", .str "conversion_failed")]

/-- The details of a conversion. -/
def convertedSchema : Schema FileOutcome :=
  converted <$> defaulted "converted_file_id" none (optional text) <*>
    defaulted "number_of_pages" none (optional word)

/-- The kinds of outcome. -/
inductive Kind where
  | converted
  | infected
  | conversionFailed
deriving DecidableEq

/-- The kind of outcome with a name. -/
def Kind.ofName? (s : String) : Option Kind :=
  if s = "converted" then some .converted
  else if s = "infected" then some .infected
  else if s = "conversion_failed" then some .conversionFailed
  else none

/-- How deep the details of an outcome may be nested. -/
def detailDepth : Nat := 126

/-- The kind of an outcome among the members of an object, and the other members.  These are set
aside until the kind is known. -/
def splitKind (kind : Option Kind) (details : List (Option String × Reading)) :
    List (Option String × Reading) →
      Except Fault (Option Kind × List (Option String × Reading))
  | [] => .ok (kind, details.reverse)
  | (name, r) :: rest =>
    if name = some "outcome" then
      if kind.isSome then .error .mismatched
      else do
        let k ← r.parsed Kind.ofName?
        splitKind (some k) details rest
    else if name.isSome && r.isStorable detailDepth then
      splitKind kind ((name, r) :: details) rest
    else .error .malformed

/-- The outcome of a kind with its details.  An outcome without details takes no items. -/
def ofKind (k : Kind) (details : Reading) : Except Fault FileOutcome :=
  match k, details with
  | .converted, .arr items _ =>
    if convertedSchema.fields.length < items.length then .error .mismatched
    else convertedSchema.read details
  | .converted, details => convertedSchema.read details
  | .infected, .arr (_ :: _) _ => .error .mismatched
  | .infected, _ => .ok .infected
  | .conversionFailed, .arr (_ :: _) _ => .error .mismatched
  | .conversionFailed, _ => .ok .conversionFailed

/-- An outcome: an object that names its kind, or an array that starts with the name. -/
def ofReading : Reading → Except Fault FileOutcome
  | .obj members closed => do
    let (kind, details) ← splitKind none [] members
    if !closed then .error .malformed
    else match kind with
      | none => .error .mismatched
      | some k => ofKind k (.obj details true)
  | .arr [] closed => .error (if closed then .mismatched else .malformed)
  | .arr (r :: rest) closed => do
    let k ← r.parsed Kind.ofName?
    if closed && Reading.areStorable detailDepth rest then ofKind k (.arr rest true)
    else .error .malformed
  | r => .error r.refuse

end FileOutcome

/-- The name of a verdict. -/
def Verdict.label : Verdict → String
  | accepted => "accepted"
  | rejectedByVirusScan => "rejected_by_virus_scan"
  | rejectedByDocumentConverter => "rejected_by_document_converter"

namespace Decision

def toJson (d : Decision) : Json :=
  .obj
    [("expected", .nat d.expected), ("number_of_decisions", .nat d.received),
      ("changed", .bool d.changed), ("infected", .list .str d.infected),
      ("failed_conversion", .list .str d.failedConversion)]

end Decision

def Progress.toJson : Progress → Json
  | pending received expected =>
    .obj [("progress", .str "pending"), ("received", .nat received), ("expected", .nat expected)]
  | duplicate received expected =>
    .obj [("progress", .str "duplicate"), ("received", .nat received),
      ("expected", .nat expected)]
  | finalized d v =>
    .obj [("progress", .str "finalized"), ("decision", d.toJson), ("verdict", .str v.label),
      ("rejected", .bool v.isRejected)]

end Filing
