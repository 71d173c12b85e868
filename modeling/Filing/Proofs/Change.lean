import Filing.Proofs.Office.Effect

/-!
# The kinds of moves

A move is one of twelve revisions and writes.  Here they are brought down to the kinds that an
invariant has to tell apart, each with the record that it leaves: an edit, a completion, a report of
the payment provider, the start of the checks, a report on a file, and the steps of the hand-over.

* `Submission.Edited` — what an edit leaves alone;
* `Submission.Change` — the kinds of moves, with `Move.change`;
* `Submission.Change.barcode?_eq`, `Submission.Change.typed?_eq` — the barcode and the form type
  of a record past its editing.
-/

set_option autoImplicit false

namespace Filing

namespace Submission

/-! ## Barcodes and form types -/

/-- The form type as it is stored, be it blank or not. -/
def typed? (s : Submission) : Option String :=
  s.form.bind (·.formType)

section

variable (s : Submission) (now : Instant)

@[simp] theorem barcode?_queueFiles : (s.queueFiles now).barcode? = s.barcode? := by
  cases h : s.form <;> simp [barcode?, queueFiles, h]

@[simp] theorem typed?_queueFiles : (s.queueFiles now).typed? = s.typed? := by
  cases h : s.form <;> simp [typed?, queueFiles, h]

@[simp] theorem typed?_decideFile (fileId : String) (outcome : FileOutcome) :
    (s.decideFile fileId outcome now).typed? = s.typed? := by
  cases h : s.form <;> simp [typed?, decideFile, h]

@[simp] theorem barcode?_decideFile (fileId : String) (outcome : FileOutcome) :
    (s.decideFile fileId outcome now).barcode? = s.barcode? := by
  cases h : s.form <;> simp [barcode?, decideFile, h]

@[simp] theorem form_priced (fee : FeeResolution) : (s.priced fee now).form = s.form := by
  rw [priced]
  split <;> rfl

@[simp] theorem form_settled (state : PaymentState) : (s.settled state now).form = s.form := by
  cases state <;> rfl

theorem priced_ne_opened (fee : FeeResolution) : (s.priced fee now).status ≠ .opened := by
  rw [priced]
  split <;> rintro ⟨⟩

theorem files_priced (fee : FeeResolution) : (s.priced fee now).files = s.files := by
  rw [files, form_priced, files]

theorem files_settled (state : PaymentState) : (s.settled state now).files = s.files := by
  rw [files, form_settled, files]

end

/-! A change to the form leaves alone what it does not mention; a missing form has no files, no type
and no barcode, as an empty one. -/

section

variable (s : Submission) {change : FormDetails → FormDetails}

theorem files_updateForm (h : ∀ form, (change form).files = form.files) :
    (s.updateForm change).files = s.files := by
  have heq : (s.updateForm change).files = (change (s.form.getD .empty)).files := rfl
  rw [heq, h]
  cases hform : s.form <;> rw [files, hform] <;> rfl

theorem barcode?_updateForm (h : ∀ form, (change form).barcode = form.barcode) :
    (s.updateForm change).barcode? = s.barcode? := by
  have heq : (s.updateForm change).barcode? = (change (s.form.getD .empty)).barcode := rfl
  rw [heq, h]
  cases hform : s.form <;> rw [barcode?, hform] <;> rfl

theorem typed?_updateForm (h : ∀ form, (change form).formType = form.formType) :
    (s.updateForm change).typed? = s.typed? := by
  have heq : (s.updateForm change).typed? = (change (s.form.getD .empty)).formType := rfl
  rw [heq, h]
  cases hform : s.form <;> rw [typed?, hform] <;> rfl

theorem formType?_updateForm (h : ∀ form, (change form).formType = form.formType) :
    (s.updateForm change).formType? = s.formType? :=
  congrArg Text.nonBlank (s.typed?_updateForm h)

end

/-! ## Kinds -/

/-- An edit of an open submission, which stays open.  The files are left alone, or there are other
ones that nothing has been reported on. -/
structure Edited (s t : Submission) : Prop where
  opened : s.status = .opened
  status : t.status = .opened
  files : t.files = s.files ∨ ∃ (files : List File) (now : Instant),
    t.files = files.map (startOver now)
  barcode : t.barcode? = s.barcode?
  reasons : t.rejectReasons = s.rejectReasons

/-- The kinds of moves. -/
inductive Change (o : Office) (s : Submission) : Submission → Prop
  | edited {t} (h : s.Edited t) : Change o s t
  | completed (form : Option FormTemplate) (fee : FeeResolution) (hopened : s.status = .opened)
      (hform : s.registeredForm o.desk = .ok form) (hfee : s.currentFee o.desk o.clock = .ok fee)
      (hvalid : s.validate form fee = .ok ()) : Change o s (s.priced fee o.clock)
  | paid (report : PaymentReport) (sessions : List PaymentSession)
      (hwaiting : s.status = .paymentRequired ∨ s.status = .paymentFailed)
      (happly : applyReport report s.sessions = some sessions) :
      Change o s (({ s with sessions := sessions } : Submission).settled report.state o.clock)
  /-- There is no file to check. -/
  | passed (form : Option FormTemplate) (hsubmitted : s.status = .submitted)
      (hfiles : s.files = []) (hform : s.registeredForm o.desk = .ok form) :
      Change o s { s.queueFiles o.clock with
        status := Verdict.accepted.destination form, modifiedAt := o.clock }
  | started (hsubmitted : s.status = .submitted) (hfiles : s.files ≠ []) :
      Change o s { s.queueFiles o.clock with status := .processing, modifiedAt := o.clock }
  | reported {file : File} (fileId : String) (outcome : FileOutcome)
      (hprocessing : s.status = .processing)
      (hfind : s.files.find? (·.id = fileId) = some file)
      (hfile : file.status.isDecided = false)
      (hopen : (Decision.ofFiles (s.decideFile fileId outcome o.clock).files).verdict? = none) :
      Change o s (s.decideFile fileId outcome o.clock)
  /-- The report is the last one. -/
  | decided {file : File} (fileId : String) (outcome : FileOutcome) (verdict : Verdict)
      (form : Option FormTemplate) (hprocessing : s.status = .processing)
      (hfind : s.files.find? (·.id = fileId) = some file)
      (hfile : file.status.isDecided = false)
      (hverdict : (Decision.ofFiles (s.decideFile fileId outcome o.clock).files).verdict? =
        some verdict)
      (hform : s.registeredForm o.desk = .ok form) :
      Change o s { s.decideFile fileId outcome o.clock with
        status := verdict.destination form, modifiedAt := o.clock }
  | labelled (barcode : String) (hready : s.status = .readyToSubmit) (hnone : s.barcode? = none) :
      Change o s ((s.updateForm ({ · with barcode := some barcode })).touch o.clock)
  | sent (hready : s.status = .readyToSubmit) (hsome : s.barcode?.isSome) :
      Change o s ({ s with status := .sentToFes }.touch o.clock)
  | accepted (hsent : s.status = .sentToFes) :
      Change o s { s with status := .accepted, modifiedAt := o.clock }
  | rejected (reasons : List String) (hsent : s.status = .sentToFes) :
      Change o s { s with
        rejectReasons := reasons, status := .rejected, modifiedAt := o.clock }

end Submission

open Submission in
/-- **Every move is of one of the kinds.** -/
theorem Move.change {o : Office} {s t : Submission} (h : Move o s t) : s.Change o t := by
  cases h with
  | company company h =>
    obtain ⟨hopened, rfl⟩ := editCompany_eq_ok.1 h
    exact .edited ⟨hopened, hopened, .inl rfl, rfl, rfl⟩
  | form formType h =>
    obtain ⟨hopened, fee, -, rfl⟩ := editForm_eq_ok.1 h
    exact .edited ⟨hopened, hopened, .inl (s.files_updateForm fun _ => rfl),
      s.barcode?_updateForm fun _ => rfl, rfl⟩
  | files files h =>
    obtain ⟨hopened, rfl⟩ := editFiles_eq_ok.1 h
    exact .edited ⟨hopened, hopened, .inr ⟨files, o.clock, rfl⟩,
      s.barcode?_updateForm fun _ => rfl, rfl⟩
  | sessions sessions h =>
    obtain ⟨hopened, rfl⟩ := editSessions_eq_ok.1 h
    exact .edited ⟨hopened, hopened, .inl rfl, rfl, rfl⟩
  | authorised authorised h =>
    obtain ⟨hopened, rfl⟩ := editAuthorised_eq_ok.1 h
    exact .edited ⟨hopened, hopened, .inl rfl, rfl, rfl⟩
  | complete h =>
    obtain ⟨hopened, form, fee, hform, hfee, hvalid, rfl⟩ := complete_eq_ok.1 h
    exact .completed form fee hopened hform hfee hvalid
  | payment report h =>
    obtain ⟨hwaiting, sessions, happly, rfl⟩ := recordPayment_eq_ok.1 h
    exact .paid report sessions hwaiting happly
  | queue h =>
    obtain ⟨hsubmitted, h⟩ := queue_eq_ok.1 h
    split at h
    · next hfiles =>
      obtain ⟨form, hform, rfl⟩ := h
      exact .passed form hsubmitted (List.isEmpty_iff.1 hfiles) hform
    · next hfiles =>
      rw [h]
      exact .started hsubmitted fun hnil => hfiles (List.isEmpty_iff.2 hnil)
  | report fileId outcome progress h hnew =>
    obtain ⟨hprocessing, u, hu, h⟩ := report_eq_ok.1 h
    obtain ⟨file, hfind, hfile, hprogress, rfl⟩ := recordOutcome_not_duplicate hu hnew
    rw [hprogress, Decision.verdict?_progress] at h
    split at h
    · next hopen =>
      rw [h]
      exact .reported fileId outcome hprocessing hfind hfile hopen
    · next verdict hverdict =>
      obtain ⟨form, hform, rfl⟩ := h
      exact .decided fileId outcome verdict form hprocessing hfind hfile hverdict hform
  | barcode barcode hready hnone => exact .labelled barcode hready hnone
  | sent hready hsome => exact .sent hready hsome
  | adjudicate outcome h =>
    obtain ⟨hsent, rfl⟩ := adjudicate_eq_ok.1 h
    cases outcome with
    | accepted => exact .accepted hsent
    | rejected => exact .rejected _ hsent

namespace Submission.Change

variable {o : Office} {s t : Submission}

/-- A barcode is given once, to a submission that stands ready. -/
theorem barcode?_eq (h : s.Change o t) :
    t.barcode? = s.barcode? ∨ (s.status = .readyToSubmit ∧ s.barcode? = none) := by
  cases h with
  | edited h => exact .inl h.barcode
  | completed form fee => exact .inl (by rw [barcode?, form_priced, barcode?])
  | paid report sessions => exact .inl (by rw [barcode?, form_settled, barcode?])
  | passed => exact .inl (barcode?_queueFiles s o.clock)
  | started => exact .inl (barcode?_queueFiles s o.clock)
  | reported fileId outcome => exact .inl (barcode?_decideFile s o.clock fileId outcome)
  | decided fileId outcome => exact .inl (barcode?_decideFile s o.clock fileId outcome)
  | labelled barcode hready hnone => exact .inr ⟨hready, hnone⟩
  | sent => exact .inl rfl
  | accepted => exact .inl rfl
  | rejected => exact .inl rfl

/-- The form type is chosen while the submission is open. -/
theorem typed?_eq (h : s.Change o t) (hstatus : s.status ≠ .opened) : t.typed? = s.typed? := by
  cases h with
  | edited h => exact absurd h.opened hstatus
  | completed form fee => rw [typed?, form_priced, typed?]
  | paid report sessions => rw [typed?, form_settled, typed?]
  | passed => exact typed?_queueFiles s o.clock
  | started => exact typed?_queueFiles s o.clock
  | reported fileId outcome => exact typed?_decideFile s o.clock fileId outcome
  | decided fileId outcome => exact typed?_decideFile s o.clock fileId outcome
  | labelled barcode => exact s.typed?_updateForm fun _ => rfl
  | sent => rfl
  | accepted => rfl
  | rejected => rfl

theorem formType?_eq (h : s.Change o t) (hstatus : s.status ≠ .opened) :
    t.formType? = s.formType? :=
  congrArg Text.nonBlank (h.typed?_eq hstatus)

/-- A move starts from a status that something follows. -/
theorem alive (h : s.Change o t) : s.status.isTerminal = false := by
  cases h with
  | edited h => rw [h.opened]; rfl
  | completed form fee hopened => rw [hopened]; rfl
  | paid report sessions hwaiting => obtain h | h := hwaiting <;> rw [h] <;> rfl
  | passed form hsubmitted => rw [hsubmitted]; rfl
  | started hsubmitted => rw [hsubmitted]; rfl
  | reported fileId outcome hprocessing => rw [hprocessing]; rfl
  | decided fileId outcome verdict form hprocessing => rw [hprocessing]; rfl
  | labelled barcode hready => rw [hready]; rfl
  | sent hready => rw [hready]; rfl
  | accepted hsent => rw [hsent]; rfl
  | rejected reasons hsent => rw [hsent]; rfl

/-- Reasons are given with a rejection only. -/
theorem rejectReasons_eq (h : s.Change o t) :
    t.rejectReasons = s.rejectReasons ∨ t.status = .rejected := by
  cases h with
  | edited h => exact .inl h.reasons
  | completed form fee =>
    rw [priced]
    split <;> exact .inl rfl
  | paid report sessions => cases report.state <;> exact .inl rfl
  | passed => exact .inl rfl
  | started => exact .inl rfl
  | reported => exact .inl rfl
  | decided => exact .inl rfl
  | labelled => exact .inl rfl
  | sent => exact .inl rfl
  | accepted => exact .inl rfl
  | rejected => exact .inr rfl

/-- An open submission stays open, unless it is completed. -/
theorem eq_priced_of_opened (h : s.Change o t) (hs : s.status = .opened)
    (ht : t.status ≠ .opened) :
    ∃ form fee, s.registeredForm o.desk = .ok form ∧ s.currentFee o.desk o.clock = .ok fee ∧
      s.validate form fee = .ok () ∧ t = s.priced fee o.clock := by
  cases h with
  | edited h => exact absurd h.status ht
  | completed form fee hopened hform hfee hvalid => exact ⟨form, fee, hform, hfee, hvalid, rfl⟩
  | paid report sessions hwaiting =>
    rw [hs] at hwaiting
    obtain h | h := hwaiting <;> cases h
  | passed found hsubmitted => rw [hs] at hsubmitted; cases hsubmitted
  | started hsubmitted => rw [hs] at hsubmitted; cases hsubmitted
  | reported fileId outcome hprocessing => rw [hs] at hprocessing; cases hprocessing
  | decided fileId outcome verdict found hprocessing => rw [hs] at hprocessing; cases hprocessing
  | labelled barcode hready => rw [hs] at hready; cases hready
  | sent hready => rw [hs] at hready; cases hready
  | accepted hsent => rw [hs] at hsent; cases hsent
  | rejected reasons hsent => rw [hs] at hsent; cases hsent

end Submission.Change

end Filing
