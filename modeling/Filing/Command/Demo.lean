import Filing.Command.FeeLookup
import Filing.Config.Basic

/-!
# A walk through the lifecycle

An office is opened and one submission is taken through its lifecycle; another one is left behind,
so that there is something to report on.

* `Demo` — how the walk goes;
* `Demo.walk`, `Demo.transcript` — the walk.
-/

set_option autoImplicit false

namespace Filing

/-- How a walk through the lifecycle goes. -/
structure Demo where
  start : Instant
  /-- One of the files is infected. -/
  infected : Bool
  /-- The registration system rejects the submission. -/
  rejected : Bool

/-! ## Details of a report -/

/-- A name and its parts in braces. -/
def braced (name : String) (parts : List (String × String)) : String :=
  name ++ " \x7b " ++ String.intercalate ", " (parts.map fun p => p.1 ++ ": " ++ p.2) ++ " \x7d"

/-- Texts in brackets, each of them in quotes. -/
def bracketed (texts : List String) : String :=
  "[" ++ String.intercalate ", " (texts.map fun s => String.ofList (Json.quote s)) ++ "]"

/-- The details of a decision. -/
def Decision.details (d : Decision) : String :=
  braced "Decision"
    [("expected", toString d.expected), ("number_of_decisions", toString d.received),
      ("changed", if d.changed then "true" else "false"), ("infected", bracketed d.infected),
      ("failed_conversion", bracketed d.failedConversion)]

/-- The details of a verdict. -/
def Verdict.details : Verdict → String
  | accepted => "Accepted"
  | rejectedByVirusScan => "RejectedByVirusScan"
  | rejectedByDocumentConverter => "RejectedByDocumentConverter"

/-- The details of what a report did. -/
def Progress.details : Progress → String
  | pending received expected =>
    braced "Pending" [("received", toString received), ("expected", toString expected)]
  | duplicate received expected =>
    braced "Duplicate" [("received", toString received), ("expected", toString expected)]
  | finalized d v => braced "Finalized" [("decision", d.details), ("verdict", v.details)]

namespace Demo

open Walk

/-! ## The two submissions -/

/-- Whoever presents the submissions. -/
def presenter : Presenter := ⟨"filings@acme.example"⟩

/-- The submission is opened, paid and queued. -/
def openFirst : Walk String := do
  let s ← ask (Office.create (some presenter))
  let id := s.id
  let reference := s.confirmationReference
  say s!"- Opened submission {id} (reference {reference})"
  let _ ← ask (Office.editCompany id ⟨"01234567", "Acme Widgets Ltd"⟩)
  let s ← ask (Office.editForm id "CC01")
  say ("- Form CC01 selected, fee on submission " ++ s.fee.getD "none")
  let _ ← ask (Office.editFiles id
    [.uploaded "demo-articles" "articles.pdf" 48213,
      .uploaded "demo-resolution" "resolution.pdf" 12877])
  match ← attempt (Office.complete id) with
  | .ok _ => pure ()
  | .error e =>
    say ("  Completion rejected as expected without payment sessions: " ++ e.message)
  let _ ← ask (Office.editSessions id [.waiting "demo-session"])
  let s ← ask (Office.complete id)
  say ("- Completed -> " ++ s.status.label)
  wait 2
  let s ← ask (Office.recordPayment id ⟨"demo-session", .paid, some "PAY-DEMO-1"⟩)
  say ("- Payment taken -> " ++ s.status.label)
  let batch ← ask (Office.queueBatch none)
  let count := batch.processed.length
  say s!"- Queued {count} submission(s) for conversion"
  return id

/-- A report on a file comes in. -/
def reportFile (id fileId : String) (outcome : FileOutcome) : Walk Unit := do
  let (progress, s) ← ask (Office.report id fileId outcome)
  let details := progress.details
  let status := s.status.label
  say s!"  {fileId} reported -> {details} ({status})"

/-- The submission is handed over, and the registration system decides on it. -/
def adjudicate (id : String) (rejected : Bool) : Walk Unit := do
  let batch ← ask Office.handOverAll
  let count := batch.processed.length
  let loaded := (← get).office.loaded.length
  say s!"- Sent {count} submission(s) to FES, loader holds {loaded} record(s)"
  if rejected then
    match (← ask (Office.read id)).barcode? with
    | none => pure ()
    | some barcode =>
      modify fun scene =>
        let reasons := scene.office.reasons.insert barcode
          ["Company name does not match the register"]
        { scene with office := { scene.office with reasons := reasons } }
  let s ← ask (Office.adjudicate id (if rejected then .rejected else .accepted))
  say ("- FES adjudicated -> " ++ s.status.label)
  s.rejectReasons.forM fun reason => say ("  Reject reason: " ++ reason)

/-- A submission that is queued, with nothing heard of its file. -/
def openSecond : Walk String := do
  let s ← ask (Office.create (some presenter))
  let id := s.id
  let _ ← ask (Office.editCompany id ⟨"07654321", "Slow Parcel Ltd"⟩)
  let _ ← ask (Office.editForm id "SH01")
  let _ ← ask (Office.editFiles id [.uploaded "demo-allotment" "allotment.pdf" 9412])
  let _ ← ask (Office.complete id)
  let _ ← ask (Office.queue id)
  return id

/-! ## The walk -/

/-- The day after an instant that starts a day, if it is kept. -/
def dayAfter (start : Instant) : Walk Instant :=
  let stop := start.plus (Instant.seconds Instant.secondsPerDay)
  if stop.isKept then return stop else throw .outOfCalendar

/-- The walk through the lifecycle. -/
def walk (d : Demo) : Walk Unit := do
  say "EFS submission lifecycle demo"
  let first ← openFirst
  wait 5
  reportFile first "demo-articles" (.converted none (some 4))
  reportFile first "demo-resolution" (if d.infected then .infected else .converted none (some 1))
  let s ← ask (Office.read first)
  if s.status = .readyToSubmit then adjudicate first d.rejected
  else say ("- Filing stopped at " ++ s.status.label)
  let second ← openSecond
  wait 90
  let delayed ← ask (Office.reportDelayed .processing)
  let count := delayed.length
  say ""
  say s!"Delayed submissions report: {count} stuck in PROCESSING (includes {second})"
  let today := Instant.startOfDay (← ask (Office.read first)).createdAt.date
  let paid ← ask (Office.listPaid today (← dayAfter today))
  let count := paid.length
  say s!"Paid submissions today: {count}"
  let view := (← ask (Office.read first)).statusView
  say ""
  say "Public status payload:"
  say view.toLines
  let count := (← get).office.store.size
  say s!"Stored submissions: {count}"

/-- What is printed on the way. -/
def transcript (d : Demo) (ids : IdSupply) : Transcript :=
  d.walk.transcript (.opened .standard OfficeConfig.default.settings ids d.start)

end Demo

end Filing
