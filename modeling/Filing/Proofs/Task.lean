import Filing.Proofs.Office.Report

/-!
# Tasks

What is done with one submission in one go: it is read, revised and saved, and somebody is told about
it.  A task is such a revision with what it is asked, so that what was done in an office can be kept
as a list.

* `Task` with `Task.Makes` — the task makes one record of another; `Task.statuses`, at which it does;
* `Task.letter?` — the mail that goes with it.

A task is one of the moves of a submission; the other moves are the steps of a hand-over.
-/

set_option autoImplicit false

namespace Filing

/-- What is done with one submission in one go. -/
inductive Task where
  | company (company : Company)
  | form (formType : String)
  | files (files : List File)
  | sessions (sessions : List PaymentSession)
  | authorised (authorised : Bool)
  | complete
  | payment (report : Submission.PaymentReport)
  | queue
  | report (fileId : String) (outcome : FileOutcome)
  | adjudicate (outcome : FesOutcome)

namespace Submission

variable {s : Submission}

/-- What the mailboxes of the service are told once the files are decided on, as the status shows
it. -/
def letter? (s : Submission) : Option Letter :=
  match s.status with
  | .rejectedByVirusScan => s.letterOn .rejectedByVirusScan
  | .processedByEmail => s.letterOn .accepted
  | _ => none

theorem letter?_of_processing (h : s.status = .processing) : s.letter? = none := by
  rw [letter?, h]

/-- What is told about a verdict can be read off the status that it leads to. -/
theorem letterOn_of_destination {verdict : Verdict} {form : Option FormTemplate}
    (h : s.status = verdict.destination form) : s.letterOn verdict = s.letter? := by
  have hready (hs : s.status = .readyToSubmit) : s.letterOn .accepted = s.letter? := by
    have hnone : s.letterOn .accepted = none := by
      rw [letterOn, hs]
      rfl
    rw [hnone, letter?, hs]
  cases verdict with
  | rejectedByVirusScan => rw [letter?, h, Verdict.destination]
  | rejectedByDocumentConverter =>
    rw [letter?, h]
    rfl
  | accepted =>
    cases form with
    | none => exact hready h
    | some form =>
      rw [Verdict.destination] at h
      split at h
      · exact hready h
      · rw [letter?, h]

end Submission

namespace Task

variable {o : Office} {s t : Submission} {task : Task}

/-- The task makes one record of another.  A report that repeats an earlier one makes nothing. -/
def Makes (o : Office) (s t : Submission) : Task → Prop
  | company new => s.editCompany new o.clock = .ok t
  | form formType => s.editForm o.desk formType o.clock = .ok t
  | files new => s.editFiles new o.clock = .ok t
  | sessions new => s.editSessions new o.clock = .ok t
  | authorised answer => s.editAuthorised answer o.clock = .ok t
  | complete => s.complete o.desk o.clock = .ok t
  | payment outcome => s.recordPayment outcome o.clock = .ok t
  | queue => s.queue o.desk o.clock = .ok t
  | report fileId outcome => ∃ progress,
    s.report o.desk fileId outcome o.clock = .ok (progress, t) ∧ progress.isDuplicate = false
  | adjudicate outcome => s.adjudicate outcome o.reasonsFor o.clock = .ok t

/-- The mail that goes with a task, by what it has made of the submission. -/
def letter? (s : Submission) : Task → Option Letter
  | complete =>
    some (.confirmation, ("status", s.status.label) :: (s.fee.map fun fee => ("fee", fee)).toList)
  | payment outcome =>
    if outcome.state = .failed ∨ outcome.state = .cancelled then
      some (.paymentFailed, [("session_id", outcome.sessionId)])
    else none
  | queue | report .. => s.letter?
  | adjudicate outcome =>
    some (Office.adjudicationKind outcome,
      if s.rejectReasons.isEmpty then []
      else [("reject_reasons", String.intercalate "; " s.rejectReasons)])
  | company _ | form _ | files _ | sessions _ | authorised _ => none

/-- What a task makes is a move. -/
theorem Makes.move (h : task.Makes o s t) : Move o s t := by
  cases task with
  | company company => exact .company company h
  | form formType => exact .form formType h
  | files files => exact .files files h
  | sessions sessions => exact .sessions sessions h
  | authorised authorised => exact .authorised authorised h
  | complete => exact .complete h
  | payment report => exact .payment report h
  | queue => exact .queue h
  | report fileId outcome =>
    obtain ⟨progress, h, hnew⟩ := h
    exact .report fileId outcome progress h hnew
  | adjudicate outcome => exact .adjudicate outcome h

/-- The statuses at which a task is done. -/
def statuses : Task → List Status
  | company _ | form _ | files _ | sessions _ | authorised _ | complete => [.opened]
  | payment _ => [.paymentRequired, .paymentFailed]
  | queue => [.submitted]
  | report .. => [.processing]
  | adjudicate _ => [.sentToFes]

open Submission in
theorem Makes.status_mem (h : task.Makes o s t) : s.status ∈ task.statuses := by
  cases task with
  | company company => exact List.mem_singleton.2 (editCompany_eq_ok.1 h).1
  | form formType => exact List.mem_singleton.2 (editForm_eq_ok.1 h).1
  | files files => exact List.mem_singleton.2 (editFiles_eq_ok.1 h).1
  | sessions sessions => exact List.mem_singleton.2 (editSessions_eq_ok.1 h).1
  | authorised authorised => exact List.mem_singleton.2 (editAuthorised_eq_ok.1 h).1
  | complete => exact List.mem_singleton.2 (complete_eq_ok.1 h).1
  | payment report => exact List.mem_pair.2 (recordPayment_eq_ok.1 h).1
  | queue => exact List.mem_singleton.2 (queue_eq_ok.1 h).1
  | report fileId outcome =>
    obtain ⟨progress, h, -⟩ := h
    exact List.mem_singleton.2 (report_eq_ok.1 h).1
  | adjudicate outcome => exact List.mem_singleton.2 (adjudicate_eq_ok.1 h).1

/-- A submission at a status that is none of a task is not what the task is done to. -/
theorem Makes.status_ne (h : task.Makes o s t) {status : Status} (hstatus : status ∉ task.statuses) :
    s.status ≠ status :=
  fun heq => hstatus (heq ▸ h.status_mem)

/-- No task is for a submission that stands ready to be handed over. -/
theorem Makes.notReady (h : task.Makes o s t) : s.status ≠ .readyToSubmit :=
  h.status_ne (by cases task <;> simp [statuses])

end Task

end Filing
