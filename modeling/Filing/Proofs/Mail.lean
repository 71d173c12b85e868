import Filing.Proofs.Completeness
import Filing.Proofs.Lifecycle
import Filing.Proofs.Office.Blind
import Filing.Proofs.Office.Log

/-!
# Who is told what

A mail goes out for every turn in the life of a submission, and only for these.  So how many mails of a
kind are about a submission can be told from where it stands, and from how often its payment has failed;
nothing is told twice when something is reported twice, tried again, or queued in a batch.  No mail is
left unsent for want of an address, since a submission is complete before the first one.

* `NotificationKind.due` — how many mails of a kind there are to be;
* `Task.Makes.due` — **every task sends the mails that fall due with it**;
* `Submission.Informed` — the mails about a submission are those that are due, and they say and reach
  what they should;
* `Office.run_eq_of_unmailed` — **whatever mails are refused, the answers and the records are the
  same**;
* `Office.Logs.informed` — **the mails of any run**.
-/

set_option autoImplicit false

namespace Filing

/-! ## Kinds of mails -/

namespace NotificationKind

/-- The mails of these kinds go to the presenter. -/
def forPresenter : NotificationKind → Bool
  | confirmation | paymentFailed | accepted | rejected => true
  | avFailed | internalDelivery | delayedSubmissions => false

/-- How many mails of a kind are to be about a submission, by where it stands and by how often its
payment has failed. -/
def due (status : Status) (failures : Nat) : NotificationKind → Nat
  | confirmation => if status = .opened then 0 else 1
  | paymentFailed => failures
  | accepted => if status = .accepted then 1 else 0
  | rejected => if status = .rejected then 1 else 0
  | avFailed => if status = .rejectedByVirusScan then 1 else 0
  | internalDelivery => if status = .processedByEmail then 1 else 0
  | delayedSubmissions => 0

end NotificationKind

namespace MailSettings

variable (m : MailSettings)

theorem recipient_rule {kind : NotificationKind} (h : kind.forPresenter = true) :
    (m.rule kind).recipient = .presenter := by
  cases kind <;> first | rfl | cases h

/-- There is a mail of every kind about a submission whose presenter has an address. -/
theorem exists_forSubmission (kind : NotificationKind) {s : Submission} {email : String}
    (h : s.presenterEmail? = some email) (details : Index String) :
    ∃ n, m.forSubmission kind s details = .ok n := by
  rw [forSubmission]
  split
  · exact ⟨_, rfl⟩
  · rw [h]
    exact ⟨_, rfl⟩

end MailSettings

theorem Submission.Filled.presenterEmail? {s : Submission} (hs : s.Filled) :
    ∃ email, s.presenterEmail? = some email :=
  Option.isSome_iff_exists.1 (isSome_presenterEmail?.2 hs.presenter)

/-! ## What a task has told -/

/-- What is told of a submission whose files have been decided on. -/
def Status.news? : Status → Option NotificationKind
  | processedByEmail => some .internalDelivery
  | rejectedByVirusScan => some .avFailed
  | opened | paymentRequired | paymentFailed | submitted | processing | readyToSubmit | sentToFes
  | accepted | rejected | rejectedByDocumentConverter => none

theorem Submission.kind_letter? (s : Submission) : s.letter?.map (·.1) = s.status.news? := by
  rw [letter?]
  split
  · next h =>
    rw [h]
    rfl
  · next h =>
    rw [h, letterOn, if_pos h]
    rfl
  · next hscan hemail =>
    cases h : s.status with
    | rejectedByVirusScan => exact absurd h hscan
    | processedByEmail => exact absurd h hemail
    | _ => rfl

namespace Task

variable {o : Office} {s t : Submission} {task : Task} {kind : NotificationKind}

/-- What the presenter is told of a task. -/
def tells? : Task → Option NotificationKind
  | complete => some .confirmation
  | payment outcome =>
    if outcome.state = .failed ∨ outcome.state = .cancelled then some .paymentFailed else none
  | adjudicate outcome => some (Office.adjudicationKind outcome)
  | company _ | form _ | files _ | sessions _ | authorised _ | queue | report _ _ => none

/-- What the presenter is told does not depend on what the task makes of the submission. -/
theorem tells?_eq_some (h : kind.forPresenter = true) :
    task.tells? = some kind ↔ (task.letter? t).map (·.1) = some kind := by
  have hverdict : ¬t.letter?.map (·.1) = some kind := by
    rw [t.kind_letter?]
    intro hnews
    cases hstatus : t.status <;> rw [hstatus] at hnews <;> cases hnews <;> cases h
  cases task with
  | payment outcome =>
    rw [tells?, letter?]
    split <;> rfl
  | queue => exact iff_of_false (Option.some_ne_none kind).symm hverdict
  | report => exact iff_of_false (Option.some_ne_none kind).symm hverdict
  | _ => rfl

/-- The checks of the files end somewhere else than they start, and what is told shows where. -/
theorem due_of_checked {status status' : Status}
    (h : status = .submitted ∨ status = .processing)
    (h' : status' = .processing ∨ Status.processing.mayBecome status' = true)
    (kind : NotificationKind) (failures : Nat) :
    kind.due status' failures =
      kind.due status failures + if status'.news? = some kind then 1 else 0 := by
  have hfrom : kind.due status failures = kind.due .processing failures := by
    obtain rfl | rfl := h
    · cases kind <;> rfl
    · rfl
  rw [hfrom]
  obtain rfl | h' := h'
  · cases kind <;> rfl
  · cases status' <;> first
    | exact absurd h' Bool.false_ne_true
    | cases kind <;> rfl

open Submission in
/-- **Every task sends the mails that fall due with it**, and no others. -/
theorem Makes.due (h : task.Makes o s t) (kind : NotificationKind) (failures : Nat) :
    kind.due t.status (failures + if task.tells? = some .paymentFailed then 1 else 0) =
      kind.due s.status failures +
        if (task.letter? t).map (·.1) = some kind then 1 else 0 := by
  cases task with
  | company new =>
    obtain ⟨-, rfl⟩ := editCompany_eq_ok.1 h
    rfl
  | form formType =>
    obtain ⟨-, fee, -, rfl⟩ := editForm_eq_ok.1 h
    rfl
  | files new =>
    obtain ⟨-, rfl⟩ := editFiles_eq_ok.1 h
    rfl
  | sessions new =>
    obtain ⟨-, rfl⟩ := editSessions_eq_ok.1 h
    rfl
  | authorised answer =>
    obtain ⟨-, rfl⟩ := editAuthorised_eq_ok.1 h
    rfl
  | complete =>
    obtain ⟨hopened, form, fee, -, -, -, rfl⟩ := complete_eq_ok.1 h
    rw [hopened, priced]
    split <;> cases kind <;> rfl
  | payment report =>
    obtain ⟨hwaiting, sessions, -, rfl⟩ := recordPayment_eq_ok.1 h
    have hsame : kind.due s.status failures = kind.due .paymentRequired failures := by
      obtain hs | hs := hwaiting
      · rw [hs]
      · rw [hs]
        cases kind <;> rfl
    obtain ⟨sessionId, state, reference⟩ := report
    rw [hsame]
    cases state with
    | pending => exact hsame
    | paid => cases kind <;> rfl
    | failed => cases kind <;> rfl
    | cancelled => cases kind <;> rfl
  | queue =>
    obtain ⟨hsubmitted, h⟩ := queue_eq_ok.1 h
    have hletter : (Task.queue.letter? t).map (·.1) = t.status.news? := t.kind_letter?
    rw [hletter]
    refine due_of_checked (.inl hsubmitted) ?_ kind failures
    split at h
    · obtain ⟨form, -, rfl⟩ := h
      exact .inr (mayBecome_destination .accepted form)
    · rw [h]
      exact .inl rfl
  | report fileId outcome =>
    obtain ⟨progress, h, -⟩ := h
    obtain ⟨hprocessing, u, hu, h⟩ := report_eq_ok.1 h
    have hletter : ((Task.report fileId outcome).letter? t).map (·.1) = t.status.news? :=
      t.kind_letter?
    rw [hletter]
    refine due_of_checked (.inr hprocessing) ?_ kind failures
    split at h
    · rw [h, (recordOutcome_status hu).1]
      exact .inl hprocessing
    · obtain ⟨form, -, rfl⟩ := h
      exact .inr (mayBecome_destination _ form)
  | adjudicate outcome =>
    obtain ⟨hsent, rfl⟩ := adjudicate_eq_ok.1 h
    rw [hsent]
    cases outcome <;> cases kind <;> rfl

/-- Only an infected file has the mailbox told about one, and it is told of all of them, in the order
in which they are attached. -/
theorem details_of_avFailed {details : List (String × String)}
    (h : task.letter? t = some (.avFailed, details)) :
    details = [("infected_files",
      String.intercalate ", " ((t.files.filter (·.status = .failedScan)).map (·.name)))] := by
  have hverdict (h : t.letter? = some (.avFailed, details)) : details = [("infected_files",
      String.intercalate ", " ((t.files.filter (·.status = .failedScan)).map (·.name)))] := by
    rw [Submission.letter?] at h
    split at h
    · exact (Prod.mk.inj (Option.some.inj h)).2.symm
    · next hemail =>
      rw [Submission.letterOn, if_pos hemail] at h
      cases h
    · cases h
  cases task with
  | payment outcome =>
    rw [letter?] at h
    split at h <;> cases h
  | queue => exact hverdict h
  | report => exact hverdict h
  | adjudicate outcome => cases outcome <;> cases h
  | _ => cases h

theorem letter?_stored (task : Task) (t : Submission) (version : UInt64) :
    task.letter? (t.stored version) = task.letter? t := by
  cases task <;> rfl

/-- Nothing is done any more once a file was found to be infected. -/
theorem Makes.ne_rejectedByVirusScan (h : task.Makes o s t) : s.status ≠ .rejectedByVirusScan :=
  h.status_ne (by cases task <;> simp [statuses])

/-- Whoever is told of a submission is told once it is complete. -/
theorem Makes.ne_opened_of_letter (h : task.Makes o s t) {letter : Letter}
    (hletter : task.letter? t = some letter) : t.status ≠ .opened := by
  have hpast (hs : Status.opened ∉ task.statuses) : t.status ≠ .opened :=
    h.move.change.ne_opened (h.status_ne hs)
  cases task with
  | complete =>
    obtain ⟨-, form, fee, -, -, -, rfl⟩ := Submission.complete_eq_ok.1 h
    exact s.priced_ne_opened o.clock fee
  | payment outcome => exact hpast (by simp [statuses])
  | queue => exact hpast (by simp [statuses])
  | report fileId outcome => exact hpast (by simp [statuses])
  | adjudicate outcome => exact hpast (by simp [statuses])
  | _ => cases hletter

end Task

/-! ## The mails about a submission -/

/-- How often there was something of a kind to tell the presenter. -/
def occasions (kind : NotificationKind) (deeds : List Done) : Nat :=
  deeds.countP (·.task.tells? = some kind)

theorem occasions_concat (kind : NotificationKind) (deeds : List Done) (d : Done) :
    occasions kind (deeds ++ [d]) =
      occasions kind deeds + if d.task.tells? = some kind then 1 else 0 := by
  rw [occasions, List.countP_append, List.countP_singleton, occasions]
  simp only [decide_eq_true_eq]

namespace Submission

variable {o : Office} {s t : Submission} {task : Task} {deeds : List Done}
  {mails mails' : List Notification}

/-- The mails about a submission, after what was done to it, are those that are due, one for each time
that there was something to tell the presenter; these go to his address, and a mail about infected files
names them in their order. -/
structure Informed (deeds : List Done) (s : Submission) (mails : List Notification) : Prop where
  counts : ∀ kind, mails.countP (·.kind = kind) =
    kind.due s.status (occasions .paymentFailed deeds)
  each : ∀ kind, kind.forPresenter = true → mails.countP (·.kind = kind) = occasions kind deeds
  recipient : ∀ n ∈ mails, n.kind.forPresenter = true → s.presenterEmail? = some n.recipient
  infected : ∀ n ∈ mails, n.kind = .avFailed → n.details = .ofList [("infected_files",
    String.intercalate ", " ((s.files.filter (·.status = .failedScan)).map (·.name)))]

theorem Informed.perm (hs : s.Informed deeds mails) (h : mails.Perm mails') :
    s.Informed deeds mails' := by
  have hcount (kind : NotificationKind) :
      mails'.countP (·.kind = kind) = mails.countP (·.kind = kind) := h.symm.countP_eq _
  refine ⟨fun kind => ?_, fun kind hkind => ?_, fun n hn => hs.recipient n (h.mem_iff.2 hn),
    fun n hn => hs.infected n (h.mem_iff.2 hn)⟩
  · rw [hcount, hs.counts]
  · rw [hcount, hs.each kind hkind]

/-- As long as no file was found to be infected nobody is told that one was. -/
theorem Informed.kind_ne_avFailed (hs : s.Informed deeds mails)
    (hstatus : s.status ≠ .rejectedByVirusScan) {n : Notification} (hn : n ∈ mails) :
    n.kind ≠ .avFailed := by
  intro hkind
  have hnone : mails.countP (·.kind = .avFailed) = 0 := by
    rw [hs.counts, NotificationKind.due, if_neg hstatus]
  exact List.countP_eq_zero.1 hnone n hn (decide_eq_true hkind)

/-- A task with the mails that go with it, of which there is one at most. -/
theorem Informed.done (new : List Notification) (hs : s.Informed deeds mails)
    (h : task.Makes o s t)
    (hcount : ∀ kind, new.countP (·.kind = kind) =
      if (task.letter? t).map (·.1) = some kind then 1 else 0)
    (hrecipient : ∀ n ∈ new, n.kind.forPresenter = true → t.presenterEmail? = some n.recipient)
    (hinfected : ∀ n ∈ new, n.kind = .avFailed → n.details = .ofList [("infected_files",
      String.intercalate ", " ((t.files.filter (·.status = .failedScan)).map (·.name)))])
    (now : Instant) (id : String) :
    t.Informed (deeds ++ [⟨now, id, task⟩]) (new ++ mails) := by
  refine ⟨fun kind => ?_, fun kind hkind => ?_, fun n hn hkind => ?_, fun n hn hkind => ?_⟩
  · rw [occasions_concat, h.due, List.countP_append, hcount, hs.counts, Nat.add_comm]
  · rw [occasions_concat, List.countP_append, hcount, hs.each kind hkind, Nat.add_comm]
    simp only [Task.tells?_eq_some (t := t) hkind]
  · obtain hn | hn := List.mem_append.1 hn
    · exact hrecipient n hn hkind
    · rw [presenterEmail?_of_move h.move]
      exact hs.recipient n hn hkind
  · obtain hn | hn := List.mem_append.1 hn
    · exact hinfected n hn hkind
    · exact absurd hkind (hs.kind_ne_avFailed h.ne_rejectedByVirusScan hn)

/-- A task that tells nobody. -/
theorem Informed.done_of_none (hs : s.Informed deeds mails) (h : task.Makes o s t)
    (hletter : task.letter? t = none) (now : Instant) (id : String) :
    t.Informed (deeds ++ [⟨now, id, task⟩]) mails := by
  refine hs.done [] h (fun kind => ?_) (List.forall_mem_nil _) (List.forall_mem_nil _) now id
  rw [hletter]
  rfl

/-- A task with its mail. -/
theorem Informed.done_of_some {m : MailSettings} {kind : NotificationKind}
    {details : List (String × String)} {n : Notification} (hs : s.Informed deeds mails)
    (h : task.Makes o s t) (hletter : task.letter? t = some (kind, details))
    (hn : m.forSubmission kind t (.ofList details) = .ok n) (now : Instant) (id : String) :
    t.Informed (deeds ++ [⟨now, id, task⟩]) (n :: mails) := by
  obtain ⟨rfl, -, hdetails, hrecipient⟩ := MailSettings.eq_of_forSubmission hn
  refine hs.done [n] h (fun kind' => ?_) (fun n' hn' hkind => ?_) (fun n' hn' hkind => ?_) now id
  · rw [hletter, List.countP_singleton]
    simp
  · obtain rfl := List.mem_singleton.1 hn'
    exact hrecipient (m.recipient_rule hkind)
  · obtain rfl := List.mem_singleton.1 hn'
    rw [hkind] at hletter
    rw [hdetails, Task.details_of_avFailed hletter]

/-- The steps of a hand-over tell nobody. -/
theorem Informed.ready (hs : s.Informed deeds mails) (hready : s.status = .readyToSubmit)
    (h : Move o s t) : t.Informed deeds mails := by
  have havoid : s.status ≠ .rejectedByVirusScan := by
    rw [hready]
    decide
  have hdue (kind : NotificationKind) (failures : Nat) :
      kind.due t.status failures = kind.due s.status failures := by
    obtain ht | ht | ⟨hsubmitted, -, -⟩ := h.change.onward
    · rw [ht]
    · rw [hready] at ht ⊢
      cases htarget : t.status <;> rw [htarget] at ht <;> first
        | exact absurd ht Bool.false_ne_true
        | cases kind <;> rfl
    · rw [hready] at hsubmitted
      cases hsubmitted
  refine ⟨fun kind => ?_, hs.each, ?_,
    fun n hn hkind => absurd hkind (hs.kind_ne_avFailed havoid hn)⟩
  · rw [hdue, hs.counts]
  · rw [presenterEmail?_of_move h]
    exact hs.recipient

end Submission

/-! ## In every log -/

namespace Office

/-- The mails that were handed in, whether they were sent or refused. -/
def mails (o : Office) : List Notification :=
  o.sent ++ o.refused

/-- The mails about a submission. -/
def mailsAbout (o : Office) (id : String) : List Notification :=
  o.mails.filter (·.submissionId = some id)

variable {o o' : Office} {log : List Event}

theorem mails_posted (o : Office) (n : Notification) : (o.posted n).mails.Perm (n :: o.mails) := by
  rw [posted]
  split
  · have hmails : o.sent ++ (o.refused ++ [n]) = o.mails ++ [n] := (List.append_assoc _ _ _).symm
    exact (List.Perm.of_eq hmails).trans (List.perm_append_singleton n _)
  · have hmails : o.sent ++ [n] ++ o.refused = o.sent ++ n :: o.refused := List.append_assoc _ _ _
    exact (List.Perm.of_eq hmails).trans List.perm_middle

theorem mailsAbout_posted {n : Notification} {id : String} (h : n.submissionId = some id) :
    ((o.posted n).mailsAbout id).Perm (n :: o.mailsAbout id) := by
  have hposted := (o.mails_posted n).filter (·.submissionId = some id)
  rw [List.filter_cons, if_pos (decide_eq_true h)] at hposted
  exact hposted

/-- A mail about another submission. -/
theorem mailsAbout_posted_of_ne {n : Notification} {id : String} (h : n.submissionId ≠ some id) :
    (o.posted n).mailsAbout id = o.mailsAbout id := by
  have hnone : [n].filter (·.submissionId = some id) = [] := by
    rw [List.filter_cons, if_neg (by simpa using h), List.filter_nil]
  rw [posted]
  split
  · simp only [mailsAbout, mails, List.filter_append, hnone, List.append_nil]
  · simp only [mailsAbout, mails, List.filter_append, hnone, List.append_nil]

/-- Everything but the store and the mails may have changed, as long as the office stays steady. -/
structure SameMails (o o' : Office) : Prop where
  steady : o'.Steady
  store : o'.store = o.store
  sent : o'.sent = o.sent
  refused : o'.refused = o.refused
  refuses : o'.drill.refuses = o.drill.refuses

/-- A task keeps everybody informed. -/
theorem informed_carriedOut {s t : Submission} {task : Task} {deeds : List Done}
    (hs : s.Informed deeds (o.mailsAbout s.id)) (ht : t.status ≠ .opened → t.Filled)
    (h : task.Makes o s t) :
    (t.stored s.version).Informed (deeds ++ [⟨o.clock, s.id, task⟩])
      ((o.carriedOut task (t.stored s.version)).mailsAbout s.id) := by
  have hstored {mails : List Notification} {deeds : List Done} (ht : t.Informed deeds mails) :
      (t.stored s.version).Informed deeds mails :=
    ⟨ht.counts, ht.each, ht.recipient, ht.infected⟩
  rw [carriedOut, task.letter?_stored]
  cases hletter : task.letter? t with
  | none => exact hstored (hs.done_of_none h hletter _ _)
  | some letter =>
    obtain ⟨kind, details⟩ := letter
    let o₁ : Office := { o with store := o.store.put (t.stored s.version) }
    -- the submission is complete, so there is an address to write to
    obtain ⟨email, hemail⟩ := (ht (h.ne_opened_of_letter hletter)).presenterEmail?
    obtain ⟨n, hn⟩ := o.settings.mail.exists_forSubmission kind hemail (.ofList details)
    have hnotified : o₁.notified (t.stored s.version) (some (kind, details)) = o₁.posted n := by
      have hmail : o₁.settings.mail.forSubmission kind (t.stored s.version) (.ofList details) =
          .ok n := hn
      rw [notified, hmail]
    have habout : n.submissionId = some s.id := by
      rw [(MailSettings.eq_of_forSubmission hn).2.1, h.move.sameOrigin.id]
    have hposted : ((o₁.posted n).mailsAbout s.id).Perm (n :: o.mailsAbout s.id) :=
      mailsAbout_posted habout
    rw [hnotified]
    exact hstored ((hs.done_of_some h hletter hn _ _).perm hposted.symm)

theorem tracks_informed :
    Tracks SameMails (fun _ => True) mailsAbout [] fun deeds s mails =>
      (s.status ≠ .opened → s.Filled) ∧ s.Informed deeds mails where
  around _ h := by
    refine ⟨h.steady, h.store, trivial, fun id => ?_⟩
    rw [mailsAbout, mailsAbout, mails, mails, h.sent, h.refused]
  mails id hsent hrefused := by
    rw [mailsAbout, mailsAbout, mails, mails, hsent, hrefused]
  apart _ _ _ h := mailsAbout_posted_of_ne h
  opened _ _ _ _ := by
    refine ⟨fun h => absurd rfl h, fun kind => ?_, fun _ _ => rfl, List.forall_mem_nil _,
      List.forall_mem_nil _⟩
    cases kind <;> rfl
  done _ _ hs h := by
    have hfilled := Submission.kept_filled.moved hs.1 h.move
    exact ⟨Submission.kept_filled.stored _ hfilled, informed_carriedOut hs.2 hfilled h⟩
  ready hready hs h := by
    have hfilled := Submission.kept_filled.moved hs.1 h
    obtain ⟨hcounts, heach, hrecipient, hinfected⟩ := hs.2.ready hready h
    exact ⟨Submission.kept_filled.stored _ hfilled, hcounts, heach, hrecipient, hinfected⟩

/-! ## Mails that are refused -/

/-- The office at which the given mails are refused. -/
def refusing (o : Office) (refuses : Nat → Bool) : Office :=
  { o with drill := { o.drill with refuses := refuses } }

theorem refused_posted (h : ∀ k, o.drill.refuses k = false) (n : Notification) :
    (o.posted n).refused = o.refused := by
  rw [posted, h, if_neg Bool.false_ne_true]

theorem refused_notified (h : ∀ k, o.drill.refuses k = false) (t : Submission)
    (letter? : Option Letter) : (o.notified t letter?).refused = o.refused := by
  cases letter? with
  | none => rfl
  | some letter =>
    rw [notified]
    split
    · exact refused_posted h _
    · rfl

/-- Where no mail is refused, none is. -/
theorem Deed.refused_eq {task? : Option (String × Task)} (hd : Deed o task? o')
    (h : ∀ k, o.drill.refuses k = false) : o'.refused = o.refused := by
  cases hd with
  | aside => rfl
  | told n => exact refused_posted h n
  | created => rfl
  | @done s t task =>
    have hafter : ∀ k, ({ o with store := o.store.put (t.stored s.version) } : Office).drill.refuses k =
        false := h
    exact refused_notified hafter _ _
  | labelled => rfl
  | dispatched => rfl

theorem Logs.refused_eq (hlog : Logs SameMails o log o') (ho : o.Steady)
    (h : ∀ k, o.drill.refuses k = false) : o'.refused = o.refused := by
  let P (_ : List Done) (o₁ : Office) : Prop :=
    o₁.Steady ∧ (∀ k, o₁.drill.refuses k = false) ∧ o₁.refused = o.refused
  have hall : P (journal log) o' := by
    refine hlog.invariant (P := P) (fun _ _ h => h.1) ?_ ?_ ?_ ⟨ho, h, rfl⟩
    · rintro _ o₁ o₂ ⟨-, hworks, hrefused⟩ hbetween
      refine ⟨hbetween.steady, fun k => ?_, hbetween.refused.trans hrefused⟩
      rw [hbetween.refuses]
      exact hworks k
    · rintro _ o₁ now ⟨hsteady, hworks, hrefused⟩
      exact ⟨hsteady.of_drill_eq rfl, hworks, hrefused⟩
    · rintro _ o₁ task? o₂ ⟨hsteady, hworks, hrefused⟩ hd
      refine ⟨hd.entries.steady hsteady, fun k => ?_, (hd.refused_eq hworks).trans hrefused⟩
      rw [hd.entries.sameAround.drill]
      exact hworks k
  exact hall.2.2

/-- **Whatever mails are refused, the answers and the records are the same.** -/
theorem run_eq_of_unmailed (h : o.unmailed = o'.unmailed)
    (operations : List (Instant × Operation)) :
    o.events operations = o'.events operations ∧
      (o.run operations).unmailed = (o'.run operations).unmailed := by
  induction operations generalizing o o' with
  | nil => exact ⟨rfl, h⟩
  | cons operation rest ih =>
    obtain ⟨hanswer, hafter⟩ := step_unmailed h operation.1 operation.2
    obtain ⟨hevents, hrun⟩ := ih hafter
    refine ⟨?_, hrun⟩
    rw [events, events, hanswer, hevents]

/-! ## Every run -/

/-- Everybody was told what he is to be told, and there is an address wherever one is needed. -/
structure Informs (o : Office) (deeds : List Done) : Prop where
  about : ∀ s ∈ o.store.records,
    s.Informed (doneTo s.id deeds) (o.mailsAbout s.id)
  known : ∀ n ∈ o.mails, ∀ id, n.submissionId = some id → ∃ s ∈ o.store.records, s.id = id
  addressed : ∀ s ∈ o.store.records, s.status ≠ .opened → ∀ kind details,
    ∃ n, o.settings.mail.forSubmission kind s details = .ok n

theorem Logs.informs (h : Logs SameMails o log o') (ho : o.Steady) (hstore : o.store = .empty)
    (hmails : o.mails = []) : o'.Informs (journal log) := by
  have hnone (id : String) : o.mailsAbout id = [] := by
    rw [mailsAbout, hmails, List.filter_nil]
  obtain ⟨-, -, hall⟩ := h.track tracks_informed ho hstore trivial hnone
  have hrecord {s : Submission} (hs : s ∈ o'.store.records) :=
    (Tracks.holds_of_find? (Store.find?_of_mem hs)).1 (hall s.id)
  refine ⟨fun s hs => (hrecord hs).2, fun n hn id hid => ?_, fun s hs hstatus kind details => ?_⟩
  · cases hfound : o'.store.find? id with
    | some s => exact ⟨s, Store.mem_of_find? hfound, Store.id_of_find? hfound⟩
    | none =>
      have hempty := ((Tracks.holds_of_none hfound).1 (hall id)).2
      have hmem : n ∈ o'.mailsAbout id := List.mem_filter.2 ⟨hn, decide_eq_true hid⟩
      rw [hempty] at hmem
      cases hmem
  · obtain ⟨email, hemail⟩ := ((hrecord hs).1 hstatus).presenterEmail?
    exact o'.settings.mail.exists_forSubmission kind hemail details

/-- **The mails of any run.**  From an empty store on, the mails about each submission are those that
are due for its status and for the payments that have failed, each of them once and to the presenter's
address where it is for him; there are no mails about anything else, and none that could not be written.
Where no mail is refused all of them are sent.  And whichever are refused, the answers to the operations
and the stored records are the same. -/
theorem Logs.informed (h : Logs SameMails o log o') (ho : o.Steady) (hstore : o.store = .empty)
    (hmails : o.mails = []) :
    o'.Informs (journal log) ∧
    (∀ status rows, ∃ n, delayedMail o'.settings.mail status rows = .ok n) ∧
    ((∀ k, o.drill.refuses k = false) → o'.mails = o'.sent) ∧
    ∀ refuses operations,
      (o.refusing refuses).events operations = o.events operations ∧
        ((o.refusing refuses).run operations).store = (o.run operations).store := by
  refine ⟨h.informs ho hstore hmails, fun status rows => ?_, fun hworks => ?_,
    fun refuses operations => ?_⟩
  · obtain ⟨n, hn, -⟩ := delayedMail_eq_ok o'.settings.mail status rows
    exact ⟨n, hn⟩
  · have hrefused : o'.refused = [] := by
      rw [h.refused_eq ho hworks]
      exact (List.append_eq_nil_iff.1 hmails).2
    rw [mails, hrefused, List.append_nil]
  · have hsame : (o.refusing refuses).unmailed = o.unmailed := rfl
    obtain ⟨hevents, hrun⟩ := run_eq_of_unmailed hsame operations
    have hstore : ((o.refusing refuses).run operations).unmailed.store =
        (o.run operations).unmailed.store := congrArg Office.store hrun
    exact ⟨hevents, hstore⟩

/-- A filing that is paid for at the second try, and in which two files of three are infected; the last
one is the first to be reported. -/
def infectedStrikeOff : List (Instant × Operation) :=
  let now : Instant := ⟨1719828000, 0⟩
  [(now, .create (some ⟨"filings@acme.example"⟩)),
    (now, .editCompany "sub-1" ⟨"01234567", "Acme Widgets Ltd"⟩),
    (now, .editForm "sub-1" "DS01"),
    (now, .editFiles "sub-1" [.uploaded "a" "form.pdf" 48213, .uploaded "b" "minutes.pdf" 512,
      .uploaded "c" "cover.pdf" 1024]),
    (now, .editSessions "sub-1" [⟨"session", .pending, none⟩]),
    (now, .complete "sub-1"),
    (now, .recordPayment "sub-1" ⟨"session", .failed, none⟩),
    (now, .recordPayment "sub-1" ⟨"session", .paid, some "PAY-1"⟩),
    (now, .queue "sub-1"),
    (now, .report "sub-1" "c" .infected),
    (now, .report "sub-1" "a" (.converted none none)),
    (now, .report "sub-1" "b" .infected),
    (now, .report "sub-1" "b" .infected)]

theorem informed_infectedStrikeOff :
    let start := Office.opened .standard OfficeConfig.default.settings .fresh ⟨1719828000, 0⟩
    let after := start.run infectedStrikeOff
    let deeds := doneTo "sub-1" (journal (start.events infectedStrikeOff))
    occasions .paymentFailed deeds = 1 ∧
    (∃ s ∈ after.store.records, s.status = .rejectedByVirusScan ∧
      s.Informed deeds (after.mailsAbout "sub-1")) ∧
    after.mails = after.sent ∧
    after.sent.map (fun n => (n.kind, n.recipient, n.details.find? "infected_files")) =
      [(.confirmation, "filings@acme.example", none),
        (.paymentFailed, "filings@acme.example", none),
        (.avFailed, OfficeConfig.default.settings.mail.internalMailbox,
          some "minutes.pdf, cover.pdf")] ∧
    ((start.refusing fun k => k = 1).run infectedStrikeOff).store = after.store := by
  intro start after deeds
  have hlog : Logs SameMails start (start.events infectedStrikeOff) after :=
    Logs.refl.run infectedStrikeOff
  obtain ⟨hinforms, -, hsent, hblind⟩ := hlog.informed ⟨⟨rfl, rfl, rfl⟩, rfl⟩ rfl rfl
  have hfound : ∃ s ∈ after.store.records, s.status = .rejectedByVirusScan ∧ s.id = "sub-1" := by
    decide +kernel
  have hfailures : occasions .paymentFailed deeds = 1 := by
    decide +kernel
  obtain ⟨s, hs, hstatus, hid⟩ := hfound
  have habout := hinforms.about s hs
  rw [hid] at habout
  refine ⟨hfailures, ⟨s, hs, hstatus, habout⟩, hsent fun _ => rfl, ?_,
    (hblind _ infectedStrikeOff).2⟩
  decide +kernel

end Office

end Filing
