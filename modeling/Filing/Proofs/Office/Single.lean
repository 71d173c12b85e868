import Filing.Proofs.Office.Deed

/-!
# Operations on one submission in a steady office

Most operations are tasks: they read a submission, revise it and save the revision, and tell somebody
about it.  In a steady office the answer is then the record as it is stored, and a refusal comes before
anything was written or sent.

* `Office.Handled` — what may become of a task;
* `Office.revise_apply` — a submission read, revised and saved, with `Office.done_revise`, a revision
  that can be made, and `Office.handled_revise`;
* `Operation.task?` — the task that an operation is, and `Office.handled_perform`: **every operation
  that is a task is handled as one**;
* `Office.create_apply` — the opening of a submission.
-/

set_option autoImplicit false

namespace Filing

open Act

namespace Answer

/-- The submission that an answer shows. -/
def submission? : Answer → Option Submission
  | .submission s | .progress _ s => some s
  | .batch _ | .fee _ | .form _ | .delayed _ | .paid _ | .fileId _ => none

/-- The answer to a report that repeats an earlier one. -/
def isRepeated : Answer → Bool
  | .progress p _ => p.isDuplicate
  | .submission _ | .batch _ | .fee _ | .form _ | .delayed _ | .paid _ | .fileId _ => false

end Answer

namespace Office

variable {o o' : Office} {id : String} {task : Task}

/-! ## What becomes of a task -/

/-- What becomes of a task. -/
inductive Handled (o : Office) (id : String) (task : Task) : Except Refusal Answer → Office → Prop
  | refused (e : Refusal) : Handled o id task (.error e) o
  | done {answer : Answer} {s t : Submission} (hid : s.id = id)
      (hs : o.store.find? s.id = some s) (h : task.Makes o s t)
      (hanswer : answer.submission? = some (t.stored s.version))
      (hnew : answer.isRepeated = false) :
      Handled o id task (.ok answer) (o.carriedOut task (t.stored s.version))
  /-- What was reported is known already. -/
  | repeated {answer : Answer} {s : Submission} (hs : o.store.find? id = some s)
      (hanswer : answer.submission? = some s) (hrepeated : answer.isRepeated = true) :
      Handled o id task (.ok answer) o

theorem Handled.answers {w : Act Refusal Answer} (h : Handled o id task (w o).1 (w o).2) :
    Answers o id Answer.submission? w := by
  cases hw : w o with
  | mk r o' =>
    rw [hw] at h
    cases h with
    | refused e => exact .of_error o'.ids hw
    | @done answer s t hid hs h hanswer hnew =>
      have hdeed : Deed o (some (s.id, task)) (o.carriedOut task (t.stored s.version)) :=
        .done hs h
      exact .of_ok hw hdeed.entries hanswer (hid ▸ find?_carriedOut hs h)
    | repeated hs hanswer hrepeated => exact .of_ok hw .refl hanswer hs

/-- The tasks that were done for an answer. -/
def tasksOf (id : String) (task : Task) : Except Refusal Answer → List (String × Task)
  | .ok answer => if answer.isRepeated then [] else [(id, task)]
  | .error _ => []

theorem Handled.deeds {r : Except Refusal Answer} (h : Handled o id task r o') :
    Deeds o (tasksOf id task r) o' := by
  cases h with
  | refused e => exact .refl
  | done hid hs h hanswer hnew =>
    rw [tasksOf, hnew, ← hid]
    exact .single (.done hs h)
  | repeated hs hanswer hrepeated =>
    rw [tasksOf, hrepeated]
    exact .refl

theorem eq_submission_of_map (w : Act Refusal Submission) (o : Office) {answer : Answer}
    (h : ((Answer.submission <$> w) o).1 = .ok answer) : ∃ s, answer = .submission s := by
  rw [map_apply] at h
  cases hr : (w o).1 with
  | error e => rw [hr] at h; cases h
  | ok s =>
    rw [hr] at h
    exact ⟨s, (Except.ok.inj h).symm⟩

/-! ## Reading and revising -/

/-- A new submission, in one equation. -/
theorem create_apply (ho : o.Up) (presenter : Option Presenter) :
    let ids := o.ids.submissionId.2.reference.2
    let r := Submission.opened o.ids.submissionId.1 o.ids.submissionId.2.reference.1 presenter
      o.clock
    create presenter o =
      if h : o.store.find? r.id = none then
        (.ok r, { o with store := o.store.append r h, ids := ids })
      else (.error (.repository .duplicate), { o with ids := ids }) := by
  intro ids r
  have hup : Up { o with ids := ids } := ho.of_drill_eq rfl
  have hcreate : create presenter o = ((insert r).adapt Refusal.repository) { o with ids := ids } :=
    rfl
  rw [hcreate, adapt_apply, insert, onStore_up hup, writes]
  dsimp only
  by_cases hfree : o.store.find? r.id = none
  · have hnew : o.store.create r = .ok (o.store.append r hfree) := dif_pos hfree
    rw [hnew, dif_pos hfree]
    rfl
  · have htaken : o.store.create r = .error .duplicate := dif_neg hfree
    rw [htaken, dif_neg hfree]
    rfl

/-- The opening of a submission, with what it leaves behind. -/
theorem answers_create (ho : o.Up) (presenter : Option Presenter) :
    Answers o o.ids.submissionId.1 some (create presenter) ∧
      Deeds o [] (create presenter o).2 := by
  have hcreate := create_apply ho presenter
  dsimp only at hcreate
  split at hcreate
  · next hfree =>
    have hcreated : Deed o none { o with store := o.store.append _ hfree } :=
      .created _ presenter rfl hfree
    have hdeeds : Deeds o [] (create presenter o).2 := by
      rw [hcreate]
      exact .tail (.single hcreated) (.aside _)
    refine ⟨?_, hdeeds⟩
    have hentries := hdeeds.entries
    rw [hcreate] at hentries
    exact .of_ok hcreate hentries rfl ((Store.find?_append hfree _).trans (if_pos rfl))
  · refine ⟨.of_error _ hcreate, ?_⟩
    rw [hcreate]
    exact .single (.aside _)

theorem answers_read (ho : o.Up) (id : String) : Answers o id some (read id) := by
  have hread := read_apply ho id
  cases hs : o.store.find? id with
  | none =>
    rw [hs] at hread
    exact .of_error o.ids hread
  | some s =>
    rw [hs] at hread
    exact .of_ok hread .refl rfl hs

variable (task) (revision : Office → Submission → Except Refusal Submission)

/-- **A submission read, revised and saved**, in one equation. -/
theorem revise_apply (ho : o.Up) (h : ∀ ⦃s t⦄, revision o s = .ok t → task.Makes o s t)
    (id : String) :
    revise id revision o = match o.store.find? id with
      | none => (.error (.notFound id), o)
      | some s => match revision o s with
        | .error e => (.error e, o)
        | .ok t =>
          (.ok (t.stored s.version), { o with store := o.store.put (t.stored s.version) }) := by
  have hread := read_apply ho id
  cases hs : o.store.find? id with
  | none =>
    rw [hs] at hread
    exact bind_of_error hread
  | some s =>
    rw [hs] at hread
    have hofExcept := ofExcept_apply (revision o s) o
    rw [revise, bind_of_ok hread, get_bind_apply]
    dsimp only
    cases hrevision : revision o s with
    | error e =>
      rw [hrevision] at hofExcept
      exact bind_of_error hofExcept
    | ok t =>
      rw [hrevision] at hofExcept
      obtain rfl := Store.id_of_find? hs
      have horigin := (h hrevision).move.sameOrigin
      rw [bind_of_ok hofExcept, keep, adapt_apply, save_apply ho,
        Store.save_eq hs horigin.id horigin.version]
      rfl

/-- A revision that can be made is saved, and the mail that goes with it is sent. -/
theorem done_revise {f : Submission → Act Refusal Submission} (ho : o.Up)
    (h : ∀ ⦃s t⦄, revision o s = .ok t → task.Makes o s t)
    (hf : ∀ ⦃s t⦄ version, task.Makes o s t → ∀ o₁,
      f (t.stored version) o₁ =
        (.ok (t.stored version), o₁.notified (t.stored version) (task.letter? (t.stored version))))
    {s t : Submission} (hs : o.store.find? s.id = some s) (ht : revision o s = .ok t) :
    (Answer.submission <$> (revise s.id revision >>= f)) o =
      (.ok (.submission (t.stored s.version)), o.carriedOut task (t.stored s.version)) := by
  have hrevise := revise_apply task revision ho h s.id
  rw [hs] at hrevise
  dsimp only at hrevise
  rw [ht] at hrevise
  rw [map_apply, bind_of_ok hrevise, hf s.version (h ht)]
  rfl

/-- A revision that is a task, with the mail that goes with it. -/
theorem handled_revise {f : Submission → Act Refusal Submission} (ho : o.Up)
    (h : ∀ ⦃s t⦄, revision o s = .ok t → task.Makes o s t)
    (hf : ∀ ⦃s t⦄ version, task.Makes o s t → ∀ o₁,
      f (t.stored version) o₁ =
        (.ok (t.stored version), o₁.notified (t.stored version) (task.letter? (t.stored version))))
    (id : String) :
    Handled o id task ((Answer.submission <$> (revise id revision >>= f)) o).1
      ((Answer.submission <$> (revise id revision >>= f)) o).2 := by
  have hrevise := revise_apply task revision ho h id
  cases hs : o.store.find? id with
  | none =>
    rw [hs] at hrevise
    rw [map_apply, bind_of_error hrevise]
    exact .refused _
  | some s =>
    rw [hs] at hrevise
    dsimp only at hrevise
    cases hrevision : revision o s with
    | error e =>
      rw [hrevision] at hrevise
      rw [map_apply, bind_of_error hrevise]
      exact .refused e
    | ok t =>
      obtain rfl := Store.id_of_find? hs
      rw [done_revise task revision ho h hf hs hrevision]
      exact .done rfl hs (h hrevision) rfl rfl

/-- An edit that can be made is saved, and nobody is told. -/
theorem done_edit (ho : o.Up) (h : ∀ ⦃s t⦄, revision o s = .ok t → task.Makes o s t)
    (hnone : ∀ s, task.letter? s = none) {s t : Submission} (hs : o.store.find? s.id = some s)
    (ht : revision o s = .ok t) :
    (Answer.submission <$> revise s.id revision) o =
      (.ok (.submission (t.stored s.version)), o.carriedOut task (t.stored s.version)) := by
  have hpure : revise s.id revision = revise s.id revision >>= pure := (bind_pure _).symm
  rw [hpure]
  refine done_revise task revision ho h (fun _ _ _ _ o₁ => ?_) hs ht
  rw [hnone]
  rfl

/-- An edit tells nobody. -/
theorem handled_edit (ho : o.Up) (h : ∀ ⦃s t⦄, revision o s = .ok t → task.Makes o s t)
    (hnone : ∀ s, task.letter? s = none) (id : String) :
    Handled o id task ((Answer.submission <$> revise id revision) o).1
      ((Answer.submission <$> revise id revision) o).2 := by
  have hpure : revise id revision = revise id revision >>= pure := (bind_pure _).symm
  rw [hpure]
  refine handled_revise task revision ho h (fun _ _ _ _ o₁ => ?_) id
  rw [hnone]
  rfl

/-! ## The operations on one submission -/

open Submission

/-- A completion that can be made is saved, and the presenter is told. -/
theorem done_complete (ho : o.Up) {s t : Submission} (hs : o.store.find? s.id = some s)
    (ht : s.complete o.desk o.clock = .ok t) :
    (Operation.complete s.id).perform o =
      (.ok (.submission (t.stored s.version)), o.carriedOut .complete (t.stored s.version)) :=
  done_revise .complete (fun o => Submission.complete o.desk o.clock) ho (fun _ _ h => h)
    (fun _ _ _ _ o₁ => bind_of_ok (notify_apply _ _ _ o₁)) hs ht

theorem handled_complete (ho : o.Up) (id : String) :
    Handled o id .complete ((Operation.complete id).perform o).1
      ((Operation.complete id).perform o).2 :=
  handled_revise .complete (fun o => Submission.complete o.desk o.clock) ho (fun _ _ h => h)
    (fun _ _ _ _ o₁ => bind_of_ok (notify_apply _ _ _ o₁)) id

/-- The presenter is told of a payment that has failed. -/
theorem tell_payment (report : PaymentReport) (s : Submission) (o : Office) :
    (do
      if report.state = .failed ∨ report.state = .cancelled then
        notify .paymentFailed s [("session_id", report.sessionId)]
      return s : Act Refusal Submission) o =
      (.ok s, o.notified s ((Task.payment report).letter? s)) := by
  rw [Task.letter?]
  split
  · exact bind_of_ok (notify_apply _ _ _ o)
  · rfl

theorem handled_recordPayment (ho : o.Up) (id : String) (report : PaymentReport) :
    Handled o id (.payment report) ((Operation.recordPayment id report).perform o).1
      ((Operation.recordPayment id report).perform o).2 :=
  handled_revise (.payment report) (fun o => Submission.recordPayment report o.clock) ho
    (fun _ _ h => h) (fun _ _ _ _ o₁ => tell_payment report _ o₁) id

/-- Without files the submission is decided on at once. -/
theorem letter?_of_queue {s t : Submission} (h : s.queue o.desk o.clock = .ok t) :
    t.letter? = if t.files.isEmpty then t.letterOn .accepted else none := by
  obtain ⟨-, h⟩ := queue_eq_ok.1 h
  have hqueued : (s.queueFiles o.clock).files.isEmpty = s.files.isEmpty := by
    rw [files_queueFiles, List.isEmpty_map]
  split at h
  · next hnil =>
    obtain ⟨form, -, ht⟩ := h
    have hempty : t.files.isEmpty = true := by
      rw [ht]
      exact hqueued.trans hnil
    have hstatus : t.status = Verdict.accepted.destination form := by rw [ht]
    rw [if_pos hempty, letterOn_of_destination hstatus]
  · next hcons =>
    have hempty : ¬t.files.isEmpty = true := by
      rw [h]
      exact fun hnil => hcons (hqueued.symm.trans hnil)
    have hstatus : t.status = .processing := by rw [h]
    rw [if_neg hempty, letter?_of_processing hstatus]

/-- The mailboxes are told of a submission that passes its checks for want of files. -/
theorem tell_queue {s t : Submission} (h : s.queue o.desk o.clock = .ok t) (version : UInt64)
    (o₁ : Office) :
    (do
      if (t.stored version).files.isEmpty then notifyVerdict (t.stored version) .accepted
      return t.stored version : Act Refusal Submission) o₁ =
      (.ok (t.stored version), o₁.notified (t.stored version)
        (Task.queue.letter? (t.stored version))) := by
  have hletter := letter?_of_queue h
  have hstored : (t.stored version).letter? = if (t.stored version).files.isEmpty then
      (t.stored version).letterOn .accepted else none := hletter
  rw [Task.letter?, hstored]
  split
  · exact bind_of_ok (notifyVerdict_apply _ _ o₁)
  · rfl

theorem handled_queue (ho : o.Up) (id : String) :
    Handled o id .queue ((Operation.queue id).perform o).1
      ((Operation.queue id).perform o).2 :=
  handled_revise .queue (fun o => Submission.queue o.desk o.clock) ho (fun _ _ h => h)
    (fun _ _ version h o₁ => tell_queue h version o₁) id

theorem handled_adjudicate (ho : o.Up) (id : String) (outcome : FesOutcome) :
    Handled o id (.adjudicate outcome) ((Operation.adjudicate id outcome).perform o).1
      ((Operation.adjudicate id outcome).perform o).2 :=
  handled_revise (.adjudicate outcome) (fun o => Submission.adjudicate outcome o.reasonsFor o.clock)
    ho (fun _ _ h => h) (fun _ _ _ _ o₁ => bind_of_ok (notify_apply _ _ _ o₁)) id

/-- A repeated report leaves the submission as it was. -/
theorem eq_of_isDuplicate {s t : Submission} {fileId : String} {outcome : FileOutcome}
    {progress : Progress} (h : s.report o.desk fileId outcome o.clock = .ok (progress, t))
    (hdup : progress.isDuplicate = true) : t = s := by
  obtain ⟨-, u, hu, h⟩ := report_eq_ok.1 h
  obtain ⟨file, -, hcase⟩ := recordOutcome_eq_ok.1 hu
  split at hcase
  · obtain ⟨rfl, rfl⟩ := hcase
    exact h
  · rw [hcase.1, Decision.isDuplicate_progress] at hdup
    cases hdup

/-- What is told after a report can be read off the status. -/
theorem letter?_of_report {s t : Submission} {fileId : String} {outcome : FileOutcome}
    {progress : Progress} (h : s.report o.desk fileId outcome o.clock = .ok (progress, t)) :
    progress.verdict?.bind t.letterOn = t.letter? := by
  obtain ⟨hprocessing, u, hu, h⟩ := report_eq_ok.1 h
  split at h
  · next hnone =>
    rw [hnone, h, letter?_of_processing ((recordOutcome_status hu).1.trans hprocessing)]
    rfl
  · next verdict hsome =>
    obtain ⟨form, -, rfl⟩ := h
    rw [hsome]
    exact letterOn_of_destination rfl

theorem handled_report (ho : o.Up) (id fileId : String) (outcome : FileOutcome) :
    Handled o id (.report fileId outcome) ((Operation.report id fileId outcome).perform o).1
      ((Operation.report id fileId outcome).perform o).2 := by
  have hperform : (Operation.report id fileId outcome).perform =
      report id fileId outcome >>= fun r => pure (.progress r.1 r.2) := rfl
  have hreport : report id fileId outcome o =
      reportWithin id fileId outcome o.settings.retries o := rfl
  rw [hperform, bind_apply, hreport]
  cases hs : o.store.find? id with
  | none =>
    rw [reportWithin_eq, reportOnce_of_none fileId outcome ho hs]
    exact .refused _
  | some s =>
    cases hresult : s.report o.desk fileId outcome o.clock with
    | error e =>
      rw [reportWithin_eq, reportOnce_apply fileId outcome ho hs, hresult]
      exact .refused e
    | ok r =>
      obtain ⟨progress, t⟩ := r
      by_cases hdup : progress.isDuplicate = true
      · rw [reportWithin_eq, reportOnce_apply fileId outcome ho hs, hresult]
        dsimp only
        rw [keepReport_of_duplicate hdup, eq_of_isDuplicate hresult hdup]
        exact .repeated hs rfl hdup
      · have hnew : progress.isDuplicate = false := by simpa using hdup
        have hletter := letter?_of_report hresult
        have hstored : progress.verdict?.bind (t.stored s.version).letterOn =
            (t.stored s.version).letter? := hletter
        have hid := Store.id_of_find? hs
        rw [reportWithin_of_new fileId outcome ho hs hresult hnew, hstored]
        exact .done hid (hid ▸ hs) ⟨progress, hresult, hnew⟩ rfl hnew

end Office

namespace Operation

/-- The task that an operation is, and the submission that it is for. -/
def task? : Operation → Option (String × Task)
  | editCompany id company => some (id, .company company)
  | editForm id formType => some (id, .form formType)
  | editFiles id files => some (id, .files files)
  | editSessions id sessions => some (id, .sessions sessions)
  | editAuthorised id authorised => some (id, .authorised authorised)
  | complete id => some (id, .complete)
  | recordPayment id outcome => some (id, .payment outcome)
  | queue id => some (id, .queue)
  | report id fileId outcome => some (id, .report fileId outcome)
  | adjudicate id outcome => some (id, .adjudicate outcome)
  | create _ | read _ | upload _ _ | queueBatch _ | handOver _ | handOverAll | findFee _ _
  | findForm _ | listDelayed _ | reportDelayed _ | listPaid _ _ | newFileId => none

end Operation

namespace Office

variable {o : Office} {id : String} {task : Task}

/-- **Every operation that is a task is handled as one.** -/
theorem handled_perform (ho : o.Up) {operation : Operation}
    (h : operation.task? = some (id, task)) :
    Handled o id task (operation.perform o).1 (operation.perform o).2 := by
  cases operation with
  | editCompany id' company =>
    obtain ⟨rfl, rfl⟩ := Prod.mk.inj (Option.some.inj h)
    exact handled_edit (.company company) (fun o s => s.editCompany company o.clock) ho
      (fun _ _ h => h) (fun _ => rfl) id'
  | editForm id' formType =>
    obtain ⟨rfl, rfl⟩ := Prod.mk.inj (Option.some.inj h)
    exact handled_edit (.form formType) (fun o s => s.editForm o.desk formType o.clock) ho
      (fun _ _ h => h) (fun _ => rfl) id'
  | editFiles id' files =>
    obtain ⟨rfl, rfl⟩ := Prod.mk.inj (Option.some.inj h)
    exact handled_edit (.files files) (fun o s => s.editFiles files o.clock) ho
      (fun _ _ h => h) (fun _ => rfl) id'
  | editSessions id' sessions =>
    obtain ⟨rfl, rfl⟩ := Prod.mk.inj (Option.some.inj h)
    exact handled_edit (.sessions sessions) (fun o s => s.editSessions sessions o.clock) ho
      (fun _ _ h => h) (fun _ => rfl) id'
  | editAuthorised id' authorised =>
    obtain ⟨rfl, rfl⟩ := Prod.mk.inj (Option.some.inj h)
    exact handled_edit (.authorised authorised) (fun o s => s.editAuthorised authorised o.clock) ho
      (fun _ _ h => h) (fun _ => rfl) id'
  | complete id' =>
    obtain ⟨rfl, rfl⟩ := Prod.mk.inj (Option.some.inj h)
    exact handled_complete ho id'
  | recordPayment id' report =>
    obtain ⟨rfl, rfl⟩ := Prod.mk.inj (Option.some.inj h)
    exact handled_recordPayment ho id' report
  | queue id' =>
    obtain ⟨rfl, rfl⟩ := Prod.mk.inj (Option.some.inj h)
    exact handled_queue ho id'
  | report id' fileId outcome =>
    obtain ⟨rfl, rfl⟩ := Prod.mk.inj (Option.some.inj h)
    exact handled_report ho id' fileId outcome
  | adjudicate id' outcome =>
    obtain ⟨rfl, rfl⟩ := Prod.mk.inj (Option.some.inj h)
    exact handled_adjudicate ho id' outcome
  | create => cases h
  | read => cases h
  | upload => cases h
  | queueBatch => cases h
  | handOver => cases h
  | handOverAll => cases h
  | findFee => cases h
  | findForm => cases h
  | listDelayed => cases h
  | reportDelayed => cases h
  | listPaid => cases h
  | newFileId => cases h

end Office

end Filing
