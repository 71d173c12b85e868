import Filing.Proofs.Serial
import Filing.Proofs.Office.Work

/-!
# A report that nobody disturbs

When the store answers and loses no save, a report on a file is one look-up and at most one write,
and the mails it sends change nothing else.  So the record of the submission is afterwards what one
report makes of it.

* `Office.Up` — the store answers, and nobody interferes;
* `Office.notified` — the office after a mail, with `Office.notify_apply`;
* `Office.reportWithin_of_new` — **a report in one equation**, however often it may be tried;
* `Office.step_delivered`, `Office.find?_run_delivered` — the record after a report, and after many.
-/

set_option autoImplicit false

namespace Filing

open Act

/-! ## Mails -/

/-- What a mail about a submission says: its kind, and the details. -/
abbrev Letter := NotificationKind × List (String × String)

/-- What the mailboxes of the service are told about a verdict on the files. -/
def Submission.letterOn (s : Submission) : Verdict → Option Letter
  | .rejectedByVirusScan =>
    some (.avFailed,
      [("infected_files", String.intercalate ", " (Decision.namesWith .failedScan s.files))])
  | .accepted =>
    if s.status = .processedByEmail then
      some (.internalDelivery, [("form_type", s.formType?.getD "")])
    else none
  | .rejectedByDocumentConverter => none

/-- What a mail about a submission shows of it. -/
theorem MailSettings.eq_of_forSubmission {m : MailSettings} {kind : NotificationKind}
    {s : Submission} {details : Index String} {n : Notification}
    (h : m.forSubmission kind s details = .ok n) :
    n.kind = kind ∧ n.submissionId = some s.id ∧ n.details = details ∧
      ((m.rule kind).recipient = .presenter → s.presenterEmail? = some n.recipient) := by
  rw [forSubmission] at h
  split at h
  · next address hmailbox =>
    obtain rfl := Except.ok.inj h
    exact ⟨rfl, rfl, rfl, fun hpresenter => by rw [hmailbox] at hpresenter; cases hpresenter⟩
  · split at h
    · next email hemail =>
      obtain rfl := Except.ok.inj h
      exact ⟨rfl, rfl, rfl, fun _ => hemail⟩
    · cases h

namespace Office

/-- The office after a mail about a submission, if there is one to send. -/
def notified (o : Office) (s : Submission) : Option Letter → Office
  | none => o
  | some (kind, details) =>
    match o.settings.mail.forSubmission kind s (.ofList details) with
    | .ok n => o.posted n
    | .error _ => o

theorem posted_eq (o : Office) (n : Notification) :
    ∃ sent refused, o.posted n = { o with sent := sent, refused := refused } := by
  rw [posted]
  split
  · exact ⟨_, _, rfl⟩
  · exact ⟨_, _, rfl⟩

/-- A mail changes nothing but the log of the mails. -/
theorem notified_eq (o : Office) (s : Submission) (letter? : Option Letter) :
    ∃ sent refused, o.notified s letter? = { o with sent := sent, refused := refused } := by
  cases letter? with
  | none => exact ⟨_, _, rfl⟩
  | some letter =>
    rw [notified]
    split
    · exact posted_eq o _
    · exact ⟨_, _, rfl⟩

variable {ε : Type}

theorem notify_apply (kind : NotificationKind) (s : Submission) (details : List (String × String))
    (o : Office) :
    (notify kind s details : Act ε Unit) o = (.ok (), o.notified s (some (kind, details))) := by
  rw [notify, get_bind_apply, notified]
  cases o.settings.mail.forSubmission kind s (.ofList details) <;> rfl

theorem notifyVerdict_apply (s : Submission) (verdict : Verdict) (o : Office) :
    (notifyVerdict s verdict : Act ε Unit) o = (.ok (), o.notified s (s.letterOn verdict)) := by
  cases verdict with
  | rejectedByVirusScan => exact notify_apply _ s _ o
  | rejectedByDocumentConverter => rfl
  | accepted =>
    by_cases hstatus : s.status = .processedByEmail
    · unfold notifyVerdict
      rw [Submission.letterOn, if_pos hstatus, hstatus]
      exact notify_apply _ s _ o
    · have hnone : (notifyVerdict s .accepted : Act ε Unit) = pure () := by
        unfold notifyVerdict
        split
        · next h => cases h
        · next h => exact absurd h hstatus
        · rfl
      rw [Submission.letterOn, if_neg hstatus, hnone]
      rfl

theorem notifyVerdict?_apply (s : Submission) (verdict? : Option Verdict) (o : Office) :
    (verdict?.forM (notifyVerdict s) : Act ε PUnit) o =
      (.ok (), o.notified s (verdict?.bind s.letterOn)) := by
  cases verdict? with
  | none => rfl
  | some verdict => exact notifyVerdict_apply s verdict o

/-! ## The calls of a report -/

/-- The store answers and loses no save, and nobody interferes. -/
structure Up (o : Office) : Prop where
  undisturbed : o.Undisturbed
  storeUp : o.drill.storeDown = []
  noneLost : o.drill.lostSaves = 0

variable {o o' : Office} {id : String}

/-- Only what is out of order matters. -/
theorem Up.of_drill_eq (ho : o.Up) (h : o'.drill = o.drill) : o'.Up := by
  obtain ⟨hundisturbed, hup, hnone⟩ := ho
  refine ⟨?_, ?_, ?_⟩
  · rw [Undisturbed, h]
    exact hundisturbed
  · rw [h]
    exact hup
  · rw [h]
    exact hnone

theorem onStore_up (ho : o.Up) {α : Type} (call : StoreCall)
    (f : Office → Except RepositoryError α × Office) : onStore call f o = f o := by
  rw [onStore_apply ho.undisturbed, if_neg]
  rw [ho.storeUp]
  exact List.not_mem_nil

theorem find_apply (ho : o.Up) (id : String) : find id o = (.ok (o.store.find? id), o) :=
  onStore_up ho .read _

theorem read_apply (ho : o.Up) (id : String) :
    read id o = match o.store.find? id with
      | some s => (.ok s, o)
      | none => (.error (.notFound id), o) := by
  rw [read, bind_apply, adapt_apply, find_apply ho]
  dsimp only [Except.mapError]
  cases o.store.find? id <;> rfl

theorem save_apply (ho : o.Up) (s : Submission) :
    save s o = match o.store.save s with
      | .ok (stored, store) => (.ok stored, { o with store := store })
      | .error e => (.error e, o) := by
  rw [save, onStore_up ho, ho.noneLost]
  dsimp only [writes]
  cases o.store.save s <;> rfl

/-! ## A report -/

/-- What a report comes to: the answer, and the office after it. -/
def reportResult (o : Office) (s : Submission) (fileId : String) (outcome : FileOutcome)
    (sent refused : List Notification) : Except Refusal (Progress × Submission) × Office :=
  match s.report o.desk fileId outcome o.clock with
  | .error e => (.error e, o)
  | .ok (progress, revised) =>
    if progress.isDuplicate then (.ok (progress, revised), o)
    else
      let stored := revised.stored s.version
      (.ok (progress, stored),
        { o with store := o.store.put stored, sent := sent, refused := refused })

variable {s : Submission} (fileId : String) (outcome : FileOutcome)
  {again : Act Refusal (Progress × Submission)}

theorem reportOnce_apply (ho : o.Up) (hs : o.store.find? id = some s) :
    reportOnce id fileId outcome again o =
      match s.report o.desk fileId outcome o.clock with
      | .error e => (.error e, o)
      | .ok r => keepReport id again r o := by
  rw [reportOnce, bind_apply, read_apply ho, hs]
  dsimp only
  rw [bind_apply, get_apply]
  dsimp only
  rw [bind_apply, ofExcept_apply]
  cases s.report o.desk fileId outcome o.clock <;> rfl

/-- A report on a submission that is not there. -/
theorem reportOnce_of_none (ho : o.Up) (hs : o.store.find? id = none) :
    reportOnce id fileId outcome again o = (.error (.notFound id), o) := by
  rw [reportOnce, bind_apply, read_apply ho, hs]

variable {progress : Progress} {revised stored : Submission} {store : Store}

theorem keepReport_of_duplicate (hdup : progress.isDuplicate = true) :
    keepReport id again (progress, revised) o = (.ok (progress, revised), o) := by
  rw [keepReport, if_pos hdup]
  rfl

theorem keepReport_apply (ho : o.Up) (hnew : progress.isDuplicate = false)
    (hsave : o.store.save revised = .ok (stored, store)) :
    keepReport id again (progress, revised) o =
      (.ok (progress, stored),
        ({ o with store := store } : Office).notified stored
          (progress.verdict?.bind stored.letterOn)) := by
  rw [keepReport, hnew, if_neg Bool.false_ne_true, bind_apply, outcome_apply, save_apply ho, hsave]
  exact bind_of_ok (notifyVerdict?_apply stored progress.verdict? _)

theorem keepReport_of_save (ho : o.Up) (hnew : progress.isDuplicate = false)
    (hsave : o.store.save revised = .ok (stored, store)) :
    ∃ sent refused, keepReport id again (progress, revised) o =
      (.ok (progress, stored), { o with store := store, sent := sent, refused := refused }) := by
  obtain ⟨sent, refused, htold⟩ := notified_eq { o with store := store } stored
    (progress.verdict?.bind stored.letterOn)
  refine ⟨sent, refused, ?_⟩
  rw [keepReport_apply ho hnew hsave, htold]

/-- Somebody else was faster. -/
theorem keepReport_of_conflict (ho : o.Up) (hnew : progress.isDuplicate = false)
    {other : String} (hsave : o.store.save revised = .error (.conflict other)) :
    keepReport id again (progress, revised) o = again o := by
  rw [keepReport, hnew, if_neg Bool.false_ne_true, bind_apply, outcome_apply, save_apply ho, hsave]

theorem keepReport_of_error (ho : o.Up) (hnew : progress.isDuplicate = false)
    {e : RepositoryError} (hsave : o.store.save revised = .error e)
    (he : ∀ other, e ≠ .conflict other) :
    keepReport id again (progress, revised) o = (.error (.ofWrite id e), o) := by
  rw [keepReport, hnew, if_neg Bool.false_ne_true, bind_apply, outcome_apply, save_apply ho, hsave]
  cases e with
  | conflict other => exact absurd rfl (he other)
  | duplicate => rfl
  | notFound => rfl
  | unavailable reason => rfl

/-- What is left to do when somebody else was faster. -/
def reportAgain (id fileId : String) (outcome : FileOutcome) :
    Nat → Act Refusal (Progress × Submission)
  | 0 => throw (.conflict id)
  | retries + 1 => reportWithin id fileId outcome retries

theorem reportWithin_eq (id : String) (retries : Nat) :
    reportWithin id fileId outcome retries =
      reportOnce id fileId outcome (reportAgain id fileId outcome retries) := by
  cases retries <;> rfl

/-- **A report that counts, in one equation.**  It is never tried again. -/
theorem reportWithin_of_new (ho : o.Up) (hs : o.store.find? id = some s)
    (hreport : s.report o.desk fileId outcome o.clock = .ok (progress, revised))
    (hnew : progress.isDuplicate = false) (retries : Nat) :
    reportWithin id fileId outcome retries o =
      (.ok (progress, revised.stored s.version),
        ({ o with store := o.store.put (revised.stored s.version) } : Office).notified
          (revised.stored s.version)
          (progress.verdict?.bind (revised.stored s.version).letterOn)) := by
  have hrevised := Submission.report_of_counts (d := ⟨fileId, outcome, o.clock⟩) hreport hnew
  have hid := Store.id_of_find? hs
  have hsave := Store.save_eq (hid ▸ hs) hrevised.origin.id hrevised.origin.version
  rw [reportWithin_eq, reportOnce_apply fileId outcome ho hs, hreport]
  exact keepReport_apply ho hnew hsave

/-- **A report in one equation.** -/
theorem reportWithin_apply (ho : o.Up) (hs : o.store.find? id = some s) (retries : Nat) :
    ∃ sent refused,
      reportWithin id fileId outcome retries o =
        o.reportResult s fileId outcome sent refused := by
  simp only [reportResult]
  cases hreport : s.report o.desk fileId outcome o.clock with
  | error e =>
    refine ⟨[], [], ?_⟩
    rw [reportWithin_eq, reportOnce_apply fileId outcome ho hs, hreport]
  | ok r =>
    obtain ⟨progress, revised⟩ := r
    dsimp only
    by_cases hdup : progress.isDuplicate = true
    · refine ⟨[], [], ?_⟩
      rw [if_pos hdup, reportWithin_eq, reportOnce_apply fileId outcome ho hs, hreport]
      exact keepReport_of_duplicate hdup
    · have hnew : progress.isDuplicate = false := by simpa using hdup
      obtain ⟨sent, refused, htold⟩ := notified_eq
        { o with store := o.store.put (revised.stored s.version) } (revised.stored s.version)
        (progress.verdict?.bind (revised.stored s.version).letterOn)
      refine ⟨sent, refused, ?_⟩
      rw [if_neg hdup, reportWithin_of_new fileId outcome ho hs hreport hnew, htold]

theorem report_apply (ho : o.Up) (hs : o.store.find? id = some s) :
    ∃ sent refused,
      report id fileId outcome o = o.reportResult s fileId outcome sent refused :=
  reportWithin_apply fileId outcome ho hs o.settings.retries

/-! ## The record after reports -/

theorem up_reportResult (ho : o.Up) (sent refused : List Notification) :
    (o.reportResult s fileId outcome sent refused).2.Up := by
  rw [reportResult]
  split
  · exact ho
  · split
    · exact ho
    · exact ho.of_drill_eq rfl

theorem desk_reportResult (sent refused : List Notification) :
    (o.reportResult s fileId outcome sent refused).2.desk = o.desk := by
  rw [reportResult]
  split
  · rfl
  · split <;> rfl

/-- The record is what the report makes of it. -/
theorem find?_reportResult (hs : o.store.find? id = some s) {d : Delivery} (hd : d.time = o.clock)
    (sent refused : List Notification) :
    (o.reportResult s d.fileId d.outcome sent refused).2.store.find? id =
      some (s.reported o.desk d) := by
  have hid := Store.id_of_find? hs
  rw [reportResult, Submission.reported, ← hd]
  cases hreport : s.report o.desk d.fileId d.outcome d.time with
  | error e => exact hs
  | ok r =>
    obtain ⟨progress, revised⟩ := r
    dsimp only
    by_cases hdup : progress.isDuplicate = true
    · rw [if_pos hdup, if_pos hdup]
      exact hs
    · have hrevised := Submission.report_of_counts hreport (by simpa using hdup)
      rw [if_neg hdup, if_neg hdup]
      rw [← hid] at hs ⊢
      exact Store.find?_put_stored hs hrevised.origin.id s.version

/-- A delivery as an operation. -/
def delivered (id : String) (d : Delivery) : Instant × Operation :=
  (d.time, .report id d.fileId d.outcome)

/-- After a report the record is what the report makes of it, and the next report is as undisturbed
as this one. -/
theorem step_delivered (ho : o.Up) (hs : o.store.find? id = some s) (d : Delivery) :
    let o' := (o.step d.time (.report id d.fileId d.outcome)).2
    o'.Up ∧ o'.desk = o.desk ∧ o'.store.find? id = some (s.reported o.desk d) := by
  have ho' : Up { o with clock := d.time } := ho.of_drill_eq rfl
  have hs' : ({ o with clock := d.time } : Office).store.find? id = some s := hs
  obtain ⟨sent, refused, hreport⟩ :=
    report_apply d.fileId d.outcome ho' hs'
  have hstep : (o.step d.time (.report id d.fileId d.outcome)).2 =
      (reportResult { o with clock := d.time } s d.fileId d.outcome sent refused).2 := by
    rw [step, Operation.perform, bind_apply, hreport]
    generalize reportResult { o with clock := d.time } s d.fileId d.outcome sent refused = result
    obtain ⟨_ | ⟨progress, t⟩, o'⟩ := result <;> rfl
  dsimp only
  rw [hstep]
  refine ⟨up_reportResult d.fileId d.outcome ho' sent refused, ?_, ?_⟩
  · exact desk_reportResult d.fileId d.outcome sent refused
  · have hclock : d.time = ({ o with clock := d.time } : Office).clock := rfl
    exact find?_reportResult hs' hclock sent refused

/-- **After reports one after another, the record is that of the serial run.** -/
theorem find?_run_delivered (ho : o.Up) (hs : o.store.find? id = some s) (ds : List Delivery) :
    (o.run (ds.map (delivered id))).store.find? id = some (s.serial o.desk ds) := by
  induction ds generalizing o s with
  | nil => exact hs
  | cons d rest ih =>
    obtain ⟨ho', hdesk, hs'⟩ := step_delivered ho hs d
    have hrest := ih ho' hs'
    rw [hdesk] at hrest
    exact hrest

end Office

end Filing
