import Filing.Proofs.Office.HandOver
import Filing.Proofs.Office.Leads
import Filing.Proofs.Office.Upload

/-!
# Steady offices that operations lead to

Every operation of a steady office is a chain of deeds, those on many submissions included, and which
tasks are among them can be told from its answer.  So what every deed keeps holds for as long as the
office is at its regular work, and what is only said about records and books needs no more than the
entries that the deeds consist of.

* `Office.paidRows`, `Office.listPaid_apply` — the report about payments, in one equation;
* `Operation.tasks` — the tasks that were done for an answer;
* `Office.answers_perform` — the answer to an operation on one submission;
* `Office.step_deeds`, `Office.step_entries` — **every operation is a chain of deeds**, and of entries;
* `Office.Leads.invariant_entries` — **what every entry keeps holds of every later office**.
-/

set_option autoImplicit false

namespace Filing

open Act

namespace Office

variable {o : Office} {id : String}

/-! ## Batches -/

/-- A turn of a batch, and the rest of it. -/
theorem each_cons {α : Type} {operation : String → Act Refusal α} {rest : List String}
    {report : BatchReport} {o' : Office}
    (hrest : each operation rest (operation id o).2 = (.ok report, o')) :
    each operation (id :: rest) o = (.ok (report.record id (operation id o).1), o') := by
  have houtcome : ((operation id).outcome : Act Refusal _) o =
      (.ok (operation id o).1, (operation id o).2) :=
    outcome_apply _ o
  rw [each, bind_of_ok houtcome, bind_of_ok hrest]
  rfl

/-- An operation for each of many submissions does what it does for each of them, in their order. -/
theorem deeds_each {α : Type} {operation : String → Act Refusal α}
    {tasks : String → List (String × Task)}
    (hoperation : ∀ id (o : Office), o.Steady →
      Deeds o (if (operation id o).1.isOk then tasks id else []) (operation id o).2)
    (ids : List String) (ho : o.Steady) :
    ∃ report, (each operation ids o).1 = .ok report ∧
      Deeds o (report.processed.flatMap tasks) (each operation ids o).2 := by
  induction ids generalizing o with
  | nil => exact ⟨.empty, rfl, .refl⟩
  | cons id rest ih =>
    have hfirst := hoperation id o ho
    obtain ⟨report, hreport, hrest⟩ := ih (hfirst.steady ho)
    have heach : each operation (id :: rest) o =
        (.ok (report.record id (operation id o).1), (each operation rest (operation id o).2).2) :=
      each_cons (Prod.ext hreport rfl)
    refine ⟨report.record id (operation id o).1, ?_, ?_⟩
    · rw [heach]
    · rw [heach]
      cases hresult : (operation id o).1 with
      | error e =>
        rw [hresult] at hfirst
        exact hfirst.trans hrest
      | ok a =>
        rw [hresult] at hfirst
        exact hfirst.trans hrest

theorem deeds_queue (ho : o.Up) (id : String) :
    Deeds o (if (queue id o).1.isOk then [(id, .queue)] else []) (queue id o).2 := by
  have hdeeds := (handled_queue ho id).deeds
  rw [Operation.perform, map_apply] at hdeeds
  generalize queue id o = result at hdeeds ⊢
  obtain ⟨_ | s, o'⟩ := result
  · exact hdeeds
  · exact hdeeds

/-- The tasks of a batch are those of the submissions that were processed. -/
theorem deeds_queueBatch (ho : o.Steady) (limit : Option Nat) :
    Deeds o
      (match (queueBatch limit o).1 with
        | .ok report => report.processed.map fun id => (id, .queue)
        | .error _ => [])
      (queueBatch limit o).2 := by
  have hup := ho.toUp
  rw [queueBatch, get_bind_apply, get_bind_apply, bind_apply, adapt_apply, ofExcept_apply]
  cases o.desk.allForms with
  | error e => exact .refl
  | ok forms =>
    dsimp only [Except.mapError]
    rw [bind_apply, adapt_apply, findByStatus, onStore_up hup, asks]
    dsimp only [Except.mapError]
    have hqueue (id : String) (o : Office) (ho : o.Steady) :
        Deeds o (if (queue id o).1.isOk then [(id, .queue)] else []) (queue id o).2 :=
      deeds_queue ho.toUp id
    obtain ⟨report, hreport, hdeeds⟩ := deeds_each hqueue _ ho
    have hmap : (report.processed.map fun id => (id, Task.queue)) =
        report.processed.flatMap fun id => [(id, Task.queue)] :=
      List.map_eq_flatMap
    rw [hreport]
    dsimp only
    rw [hmap]
    exact hdeeds

theorem deeds_handOverAll (ho : o.Steady) : Deeds o [] (handOverAll o).2 := by
  rw [handOverAll, bind_apply, adapt_apply, findByStatus, onStore_up ho.toUp, asks]
  dsimp only [Except.mapError]
  have hhandOver (id : String) (o : Office) (ho : o.Steady) :
      Deeds o (if (handOver id o).1.isOk then [] else []) (handOver id o).2 := by
    rw [ite_self]
    exact (handsOver ho id).deeds
  obtain ⟨report, -, hdeeds⟩ := deeds_each hhandOver
    ((o.store.byStatus .readyToSubmit fun _ => false).map (·.id)) ho
  have hnone : report.processed.flatMap (fun _ => ([] : List (String × Task))) = [] :=
    List.flatMap_eq_nil_iff.2 fun _ _ => rfl
  rw [hnone] at hdeeds
  exact hdeeds

/-! ## Reports -/

theorem listDelayed_apply (ho : o.Up) (status : Status) :
    ∃ r, listDelayed status o = (r, o) := by
  rw [listDelayed, get_bind_apply]
  cases o.clock.minus? o.settings.delayedAfter with
  | none => exact ⟨_, rfl⟩
  | some before =>
    dsimp only
    rw [bind_apply, adapt_apply, findDelayed, onStore_up ho, asks]
    exact ⟨_, rfl⟩

/-- The mail about delayed submissions goes to a mailbox, whatever the settings say. -/
theorem delayedMail_eq_ok (m : MailSettings) (status : Status) (rows : List DelayedRow) :
    ∃ n, delayedMail m status rows = .ok n ∧ n.submissionId = none :=
  ⟨_, rfl, rfl⟩

theorem deeds_reportDelayed (ho : o.Up) (status : Status) :
    Deeds o [] (reportDelayed status o).2 := by
  obtain ⟨r, hlist⟩ := listDelayed_apply ho status
  cases r with
  | error e =>
    rw [reportDelayed, bind_of_error hlist]
    exact .refl
  | ok rows =>
    rw [reportDelayed, bind_of_ok hlist]
    split
    · obtain ⟨n, hmail, hnone⟩ := delayedMail_eq_ok o.settings.mail status rows
      have hpost : (post (.ok n) : Act Refusal Unit) o = (.ok (), o.posted n) := rfl
      rw [get_bind_apply, hmail, bind_of_ok hpost]
      exact .single (.told n hnone)
    · exact .refl

/-- The rows about the payments that were taken from one instant up to another one. -/
def paidRows (o : Office) (start stop : Instant) : List PaidRow :=
  (o.store.paid paidStatuses start stop).map PaidRow.ofSubmission

/-- **The report about payments**, in one equation. -/
theorem listPaid_apply (ho : o.Undisturbed) (start stop : Instant) :
    listPaid start stop o =
      (if .findPaid ∈ o.drill.storeDown then
        .error (.repository (.unavailable "database offline"))
      else .ok (o.paidRows start stop), o) := by
  rw [listPaid, bind_apply, adapt_apply, findPaid, onStore_apply ho]
  by_cases hdown : .findPaid ∈ o.drill.storeDown
  · rw [if_pos hdown, if_pos hdown]
    rfl
  · rw [if_neg hdown, if_neg hdown]
    rfl

end Office

/-! ## Operations -/

namespace Operation

open Office

/-- The submission that an operation is about, if it is about a single one: a new one gets the next
identifier. -/
def subject? (ids : IdSupply) : Operation → Option String
  | create _ => some ids.submissionId.1
  | read id | editCompany id _ | editForm id _ | editFiles id _ | upload id _ | editSessions id _
  | editAuthorised id _ | complete id | recordPayment id _ | queue id | report id _ _
  | handOver id | adjudicate id _ => some id
  | queueBatch _ | handOverAll | findFee _ _ | findForm _ | listDelayed _ | reportDelayed _
  | listPaid _ _ | newFileId => none

/-- The tasks that were done for an answer to an operation. -/
def tasks (operation : Operation) (r : Except Refusal Answer) : List (String × Task) :=
  match operation.task? with
  | some (id, task) => tasksOf id task r
  | none =>
    match operation, r with
    | upload id _, .ok answer => (answer.submission?.map fun s => (id, .files s.files)).toList
    | queueBatch _, .ok (.batch done) => done.processed.map fun id => (id, .queue)
    | _, _ => []

theorem subject?_of_task? {operation : Operation} {id : String} {task : Task}
    (h : operation.task? = some (id, task)) (ids : IdSupply) :
    operation.subject? ids = some id := by
  cases operation <;> first
    | exact congrArg (Option.map (·.1)) h
    | cases h

end Operation

namespace Office

variable {o : Office} {id : String}

theorem answers_upload (ho : o.Up) (id : String) (uploads : List (Option Upload)) :
    Answers o id Answer.submission? (Operation.upload id uploads).perform := by
  obtain ⟨files, ids, hupload, -⟩ := upload_apply id uploads o
  have hup : Up { o with ids := ids } := ho.of_drill_eq rfl
  have hedit : (Operation.editFiles id files).task? = some (id, .files files) := rfl
  exact .of_ids ids hupload (handled_perform hup hedit).answers

/-- **Every operation on one submission but the hand-over answers with what is stored.** -/
theorem answers_perform (ho : o.Up) {operation : Operation}
    (hsubject : operation.subject? o.ids = some id) (hother : operation ≠ .handOver id) :
    Answers o id Answer.submission? operation.perform := by
  cases htask : operation.task? with
  | some subject =>
    obtain ⟨id', task⟩ := subject
    obtain rfl := Option.some.inj ((Operation.subject?_of_task? htask o.ids).symm.trans hsubject)
    exact (handled_perform ho htask).answers
  | none =>
    cases operation with
    | create presenter =>
      obtain rfl := Option.some.inj hsubject
      exact (answers_create ho presenter).1.map fun _ => rfl
    | read id' =>
      obtain rfl := Option.some.inj hsubject
      exact (answers_read ho id').map fun _ => rfl
    | upload id' uploads =>
      obtain rfl := Option.some.inj hsubject
      exact answers_upload ho id' uploads
    | handOver id' =>
      obtain rfl := Option.some.inj hsubject
      exact absurd rfl hother
    | queueBatch => cases hsubject
    | handOverAll => cases hsubject
    | findFee => cases hsubject
    | findForm => cases hsubject
    | listDelayed => cases hsubject
    | reportDelayed => cases hsubject
    | listPaid => cases hsubject
    | newFileId => cases hsubject
    | _ => cases htask

/-- The files of a submission that they were uploaded to are those that it was given, as nothing has
been reported on them. -/
theorem makes_files {s t : Submission} {files : List File} (h : (Task.files files).Makes o s t) :
    (Task.files t.files).Makes o s t := by
  obtain ⟨hopened, ht⟩ := Submission.editFiles_eq_ok.1 h
  have hgiven : t.files = files.map (Submission.startOver o.clock) := by
    rw [ht]
    rfl
  have hagain : t.files.map (Submission.startOver o.clock) =
      files.map (Submission.startOver o.clock) := by
    rw [hgiven, List.map_map]
    rfl
  refine Submission.editFiles_eq_ok.2 ⟨hopened, ?_⟩
  rw [hagain]
  exact ht

theorem deeds_upload (ho : o.Up) (id : String) (uploads : List (Option Upload)) :
    Deeds o ((Operation.upload id uploads).tasks ((Operation.upload id uploads).perform o).1)
      ((Operation.upload id uploads).perform o).2 := by
  obtain ⟨files, ids, hupload, -⟩ := upload_apply id uploads o
  have hup : Up { o with ids := ids } := ho.of_drill_eq rfl
  have hedit : (Operation.editFiles id files).task? = some (id, .files files) := rfl
  have haside : Deeds o [] { o with ids := ids } := .single (.aside ids)
  have hhandled := handled_perform hup hedit
  have hshown (answer : Answer)
      (h : ((Operation.editFiles id files).perform { o with ids := ids }).1 = .ok answer) :
      ∃ s, answer = .submission s :=
    eq_submission_of_map (editFiles id files) _ h
  rw [hupload]
  generalize (Operation.editFiles id files).perform { o with ids := ids } = result
    at hhandled hshown ⊢
  obtain ⟨r, o'⟩ := result
  cases hhandled with
  | refused e => exact haside
  | @done answer s t hid hs h hanswer hnew =>
    have htasks : (Operation.upload id uploads).tasks (.ok answer) = [(s.id, .files t.files)] := by
      rw [hid]
      show (answer.submission?.map fun s => (id, Task.files s.files)).toList = _
      rw [hanswer]
      rfl
    rw [htasks]
    exact .tail haside (.done hs (makes_files h))
  | @repeated answer s hs hanswer hrepeated =>
    obtain ⟨t, rfl⟩ := hshown answer rfl
    cases hrepeated

/-- **Every operation is a chain of deeds**, and the tasks among them can be told from its answer. -/
theorem deeds_perform (ho : o.Steady) (operation : Operation) :
    Deeds o (operation.tasks (operation.perform o).1) (operation.perform o).2 := by
  have hup := ho.toUp
  cases htask : operation.task? with
  | some subject =>
    obtain ⟨id, task⟩ := subject
    unfold Operation.tasks
    rw [htask]
    exact (handled_perform hup htask).deeds
  | none =>
    cases operation with
    | create presenter =>
      rw [Operation.perform, map_apply]
      exact (answers_create hup presenter).2
    | read id =>
      have hread : (read id o).2 = o := by
        rw [read_apply hup]
        cases o.store.find? id <;> rfl
      rw [Operation.perform, map_apply, hread]
      exact .refl
    | upload id uploads => exact deeds_upload hup id uploads
    | queueBatch limit =>
      have hdeeds := deeds_queueBatch ho limit
      rw [Operation.perform, map_apply]
      generalize queueBatch limit o = result at hdeeds ⊢
      obtain ⟨_ | report, o'⟩ := result
      · exact hdeeds
      · exact hdeeds
    | handOver id =>
      rw [Operation.perform, map_apply]
      exact (handsOver ho id).deeds
    | handOverAll =>
      rw [Operation.perform, map_apply]
      exact deeds_handOverAll ho
    | findFee formType asOf =>
      rw [Operation.perform, get_bind_apply, map_apply, adapt_apply, ofExcept_apply]
      exact .refl
    | findForm formType =>
      rw [Operation.perform, get_bind_apply, map_apply, adapt_apply, ofExcept_apply]
      exact .refl
    | listDelayed status =>
      obtain ⟨r, hlist⟩ := listDelayed_apply hup status
      rw [Operation.perform, map_apply, hlist]
      exact .refl
    | reportDelayed status =>
      rw [Operation.perform, map_apply]
      exact deeds_reportDelayed hup status
    | listPaid start stop =>
      rw [Operation.perform, map_apply, listPaid_apply ho.undisturbed]
      exact .refl
    | newFileId => exact .single (.aside _)
    | _ => cases htask

/-- **A step of a steady office is a chain of deeds.** -/
theorem step_deeds (ho : o.Steady) (now : Instant) (operation : Operation) :
    Deeds { o with clock := now } (operation.tasks (o.step now operation).1)
      (o.step now operation).2 := by
  have ho' : Steady { o with clock := now } := ho.of_drill_eq rfl
  exact deeds_perform ho' operation

/-- **A step of a steady office is a chain of entries.** -/
theorem step_entries (ho : o.Steady) (now : Instant) (operation : Operation) :
    Entries { o with clock := now } (o.step now operation).2 :=
  (step_deeds ho now operation).entries

/-- A steady office stays steady at its work. -/
theorem Steady.run (ho : o.Steady) (operations : List (Instant × Operation)) :
    (o.run operations).Steady := by
  induction operations generalizing o with
  | nil => exact ho
  | cons operation rest ih =>
    have hstart : Steady { o with clock := operation.1 } := ho.of_drill_eq rfl
    exact ih ((step_entries ho operation.1 operation.2).steady hstart)

/-! ## Later offices -/

namespace Leads

variable {between : Office → Office → Prop} {o₁ : Office}

/-- **What every entry keeps holds of every later office**, as long as the office stays steady. -/
theorem invariant_entries {P : Office → Prop} (hsteady : ∀ o, P o → o.Steady)
    (hbetween : ∀ o o', P o → between o o' → P o')
    (hclock : ∀ o now, P o → P { o with clock := now })
    (hentry : ∀ o o', P o → Entry o o' → P o') (h : Leads between o o₁) (ho : P o) : P o₁ := by
  induction h with
  | refl => exact ho
  | between _ h ih => exact hbetween _ _ ih h
  | @step o₂ _ now operation ih =>
    have hentries := step_entries (hsteady o₂ ih) now operation
    have hstart : P { o₂ with clock := now } := hclock o₂ now ih
    generalize (o₂.step now operation).2 = o₃ at hentries ⊢
    induction hentries with
    | refl => exact hstart
    | tail _ he ih => exact hentry _ _ ih he

end Leads

end Office

end Filing
