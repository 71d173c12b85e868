import Filing.Proofs.Completeness
import Filing.Proofs.Office.Log
import Filing.Proofs.PaidReport

/-!
# The payment that was taken, and the reference in the report

The report about payments shows the reference of the first session of a submission that is paid.
The payment that was taken is another matter: it is the one that the provider reported, on the
session that it named.  The two are the same unless another session was paid before it, and since
payments are only taken once, such a session was handed in as paid by whoever edited the submission.

* `takings`, `handedIn` — what was reported as taken, and the sessions that were handed in last;
* `Submission.Taken` — the session that the taken payment was reported on, among all of them;
* `Submission.Banked` — the payments on record are those that were done, with `Banked.done`;
* `Office.Logs.taken` — **one payment was taken, and the report shows its reference** exactly if no
  other one stands before it;
* `Office.mistaken_strikeOffWithTwoSessions` — a session that was handed in as paid takes the place
  of the payment.
-/

set_option autoImplicit false

namespace Filing

/-! ## Payments among the tasks -/

namespace Task

/-- The payment sessions that are handed in with a task. -/
def sessions? : Task → Option (List PaymentSession)
  | sessions new => some new
  | company _ | form _ | files _ | authorised _ | complete | payment _ | queue | report _ _
  | adjudicate _ => none

/-- The report of a payment that was taken. -/
def taken? : Task → Option Submission.PaymentReport
  | payment outcome => if outcome.state = .paid then some outcome else none
  | company _ | form _ | files _ | sessions _ | authorised _ | complete | queue | report _ _
  | adjudicate _ => none

/-- The task is about payments. -/
def isPayment : Task → Bool
  | sessions _ | payment _ => true
  | company _ | form _ | files _ | authorised _ | complete | queue | report _ _
  | adjudicate _ => false

variable {o : Office} {s t : Submission} {task : Task}

theorem sessions?_of_not_isPayment (h : task.isPayment = false) : task.sessions? = none := by
  cases task <;> first | rfl | cases h

theorem taken?_of_not_isPayment (h : task.isPayment = false) : task.taken? = none := by
  cases task <;> first | rfl | cases h

end Task

/-- The payments that were taken, and when. -/
def takings (deeds : List Done) : List (Instant × Submission.PaymentReport) :=
  deeds.filterMap fun d => d.task.taken?.map (d.time, ·)

/-- The payment sessions that were handed in last. -/
def handedIn (deeds : List Done) : List PaymentSession :=
  (deeds.filterMap (·.task.sessions?)).getLast?.getD []

theorem takings_concat (deeds : List Done) (d : Done) :
    takings (deeds ++ [d]) = takings deeds ++ (d.task.taken?.map (d.time, ·)).toList := by
  rw [takings, List.filterMap_append, takings]
  cases h : d.task.taken? <;> simp [h]

theorem handedIn_concat (deeds : List Done) (d : Done) :
    handedIn (deeds ++ [d]) = d.task.sessions?.getD (handedIn deeds) := by
  rw [handedIn, List.filterMap_append]
  cases h : d.task.sessions? <;> simp [h, handedIn]

/-! ## What leaves payments alone -/

/-- Past the gate nothing is done to payments. -/
theorem Submission.Change.payments_eq {o : Office} {s t : Submission} (h : s.Change o t)
    (hpast : s.status ∈ Office.paidStatuses) : t.sessions = s.sessions ∧ t.paidAt = s.paidAt := by
  have hstatus {status : Status} (hnot : status ∉ Office.paidStatuses) : s.status ≠ status :=
    fun heq => hnot (heq ▸ hpast)
  cases h with
  | edited h => exact absurd h.opened (hstatus (by decide))
  | completed form fee hopened => exact absurd hopened (hstatus (by decide))
  | paid report sessions hwaiting =>
    rcases hwaiting with h | h
    · exact absurd h (hstatus (by decide))
    · exact absurd h (hstatus (by decide))
  | passed => exact ⟨rfl, rfl⟩
  | started => exact ⟨rfl, rfl⟩
  | reported => exact ⟨rfl, rfl⟩
  | decided => exact ⟨rfl, rfl⟩
  | labelled => exact ⟨rfl, rfl⟩
  | sent => exact ⟨rfl, rfl⟩
  | accepted => exact ⟨rfl, rfl⟩
  | rejected => exact ⟨rfl, rfl⟩

open Submission in
/-- Where a task is not about payments, it leaves them alone. -/
theorem Task.Makes.payments_eq {o : Office} {s t : Submission} {task : Task} (h : task.Makes o s t)
    (htask : task.isPayment = false) : t.sessions = s.sessions ∧ t.paidAt = s.paidAt := by
  have hpast (hstatuses : ∀ status ∈ task.statuses, status ∈ Office.paidStatuses) :
      t.sessions = s.sessions ∧ t.paidAt = s.paidAt :=
    h.move.change.payments_eq (hstatuses _ h.status_mem)
  cases task with
  | company new =>
    obtain ⟨-, rfl⟩ := editCompany_eq_ok.1 h
    exact ⟨rfl, rfl⟩
  | form raw =>
    obtain ⟨-, fee, -, rfl⟩ := editForm_eq_ok.1 h
    exact ⟨rfl, rfl⟩
  | files new =>
    obtain ⟨-, rfl⟩ := editFiles_eq_ok.1 h
    exact ⟨rfl, rfl⟩
  | sessions => cases htask
  | authorised answer =>
    obtain ⟨-, rfl⟩ := editAuthorised_eq_ok.1 h
    exact ⟨rfl, rfl⟩
  | complete =>
    obtain ⟨-, form, fee, -, -, -, rfl⟩ := complete_eq_ok.1 h
    rw [priced]
    split <;> exact ⟨rfl, rfl⟩
  | payment => cases htask
  | queue => exact hpast (by decide)
  | report fileId outcome => exact hpast (by simp [statuses, Office.paidStatuses])
  | adjudicate outcome => exact hpast (by simp [statuses, Office.paidStatuses])

/-! ## Payments on record -/

namespace Submission

/-- The payment that was taken was reported on the session `p`, the first one that the report names,
and it is paid.  What else is paid was handed in so. -/
structure Taken (report : PaymentReport) (handedIn : List PaymentSession) (s : Submission)
    (before : List PaymentSession) (p : PaymentSession) (after : List PaymentSession) : Prop where
  sessions : s.sessions = before ++ p :: after
  first : ∀ q ∈ before, q.id ≠ report.sessionId
  named : p.id = report.sessionId
  paid : p.state = .paid
  others : ∀ q ∈ before ++ after, q.state = .paid → q ∈ handedIn

/-- The payments on record are those that were done: none, and then what is paid was handed in so,
or a single one. -/
structure Banked (deeds : List Done) (s : Submission) : Prop where
  gated : s.Gated
  unpaid : s.paidAt = none →
    takings deeds = [] ∧ ∀ q ∈ s.sessions, q.state = .paid → q ∈ handedIn deeds
  paid : ∀ now, s.paidAt = some now → ∃ report, takings deeds = [(now, report)] ∧
    ∃ before p after, s.Taken report (handedIn deeds) before p after

variable {o : Office} {s t : Submission} {deeds : List Done} {task : Task} {id : String}

theorem sessions_settled (s : Submission) (state : PaymentState) (now : Instant) :
    (s.settled state now).sessions = s.sessions := by
  cases state <;> rfl

theorem paidAt_settled {state : PaymentState} (h : state ≠ .paid) (s : Submission) (now : Instant) :
    (s.settled state now).paidAt = s.paidAt := by
  cases state with
  | paid => exact absurd rfl h
  | failed => rfl
  | cancelled => rfl
  | pending => rfl

/-- What is said about payments goes by the sessions and the time of the payment only. -/
theorem Banked.congr {deeds' : List Done} (hs : s.Banked deeds) (hgated : t.Gated)
    (hpayments : t.sessions = s.sessions ∧ t.paidAt = s.paidAt)
    (htakings : takings deeds' = takings deeds) (hhandedIn : handedIn deeds' = handedIn deeds) :
    t.Banked deeds' := by
  obtain ⟨hsessions, hpaidAt⟩ := hpayments
  refine ⟨hgated, ?_, ?_⟩
  · rw [hpaidAt, hsessions, htakings, hhandedIn]
    exact hs.unpaid
  · rw [hpaidAt, htakings, hhandedIn]
    intro now hnow
    obtain ⟨report, hreport, before, p, after, hsplit, hfirst, hnamed, hpaid, hothers⟩ :=
      hs.paid now hnow
    exact ⟨report, hreport, before, p, after, hsessions.trans hsplit, hfirst, hnamed, hpaid,
      hothers⟩

theorem Banked.stored (hs : s.Banked deeds) (version : UInt64) : (s.stored version).Banked deeds :=
  hs.congr (hs.gated.stored version) ⟨rfl, rfl⟩ rfl rfl

/-- A task that is not about payments leaves what is said about them. -/
theorem Banked.unpaying (hs : s.Banked deeds) (h : task.Makes o s t)
    (htask : task.isPayment = false) : t.Banked (deeds ++ [⟨o.clock, id, task⟩]) := by
  refine hs.congr (hs.gated.move h.move) (h.payments_eq htask) ?_ ?_
  · simp [takings_concat, Task.taken?_of_not_isPayment htask]
  · simp [handedIn_concat, Task.sessions?_of_not_isPayment htask]

/-- After an edit of the sessions, they are those that were handed in last. -/
theorem Banked.sessions {new : List PaymentSession} (hs : s.Banked deeds)
    (h : (Task.sessions new).Makes o s t) : t.Banked (deeds ++ [⟨o.clock, id, .sessions new⟩]) := by
  have hgated := hs.gated.move h.move
  obtain ⟨hopened, rfl⟩ := editSessions_eq_ok.1 h
  have hunpaid : s.paidAt = none := (gated_of_opened hopened).1 hs.gated
  refine ⟨hgated, fun _ => ⟨?_, fun q hq _ => ?_⟩, fun now hnow => ?_⟩
  · rw [takings_concat, (hs.unpaid hunpaid).1]
    rfl
  · rw [handedIn_concat]
    exact hq
  · have hnow : s.paidAt = some now := hnow
    rw [hunpaid] at hnow
    cases hnow

/-- After a report of the provider: the payment was taken if it says so, and otherwise the session
that it names is not paid. -/
theorem Banked.payment {report : PaymentReport} (hs : s.Banked deeds)
    (h : (Task.payment report).Makes o s t) :
    t.Banked (deeds ++ [⟨o.clock, id, .payment report⟩]) := by
  have hgated := hs.gated.move h.move
  obtain ⟨hwaiting, sessions, happly, rfl⟩ := recordPayment_eq_ok.1 h
  have hunpaid : s.paidAt = none := ((gated_of_waiting hwaiting).1 hs.gated).unpaid
  obtain ⟨htakings, hothers⟩ := hs.unpaid hunpaid
  obtain ⟨before, p, after, hsplit, hfirst, hnamed, rfl⟩ := exists_split_of_applyReport happly
  have hbeside : ∀ q ∈ before ++ after, q.state = .paid → q ∈ handedIn deeds := by
    intro q hq
    refine hothers q ?_
    rw [hsplit]
    rcases List.mem_append.1 hq with hq | hq
    · exact List.mem_append_left _ hq
    · exact List.mem_append_right _ (List.mem_cons_of_mem _ hq)
  by_cases hstate : report.state = .paid
  · refine ⟨hgated, fun hnone => ?_, fun now hnow => ?_⟩
    · rw [hstate] at hnone
      cases hnone
    · rw [hstate] at hnow
      obtain rfl : o.clock = now := Option.some.inj hnow
      refine ⟨report, ?_, before, report.applied p, after, ?_, hfirst, hnamed, hstate, ?_⟩
      · simp [takings_concat, htakings, Task.taken?, hstate]
      · exact sessions_settled _ _ _
      · rw [handedIn_concat]
        exact hbeside
  · have hnone := (paidAt_settled hstate { s with sessions := before ++ report.applied p :: after }
      o.clock).trans hunpaid
    refine ⟨hgated, fun _ => ⟨?_, ?_⟩, fun now hnow => ?_⟩
    · simp [takings_concat, htakings, Task.taken?, hstate]
    · rw [sessions_settled, handedIn_concat]
      intro q hq hpaid
      rcases List.mem_append.1 hq with hq | hq
      · exact hbeside q (List.mem_append_left _ hq) hpaid
      · rcases List.mem_cons.1 hq with rfl | hq
        · exact absurd hpaid hstate
        · exact hbeside q (List.mem_append_right _ hq) hpaid
    · rw [hnone] at hnow
      cases hnow

/-- **Every task keeps the payments on record right.** -/
theorem Banked.done (hs : s.Banked deeds) (h : task.Makes o s t) :
    t.Banked (deeds ++ [⟨o.clock, id, task⟩]) := by
  cases htask : task.isPayment with
  | false => exact hs.unpaying h htask
  | true =>
    cases task with
    | sessions new => exact hs.sessions h
    | payment outcome => exact hs.payment h
    | _ => cases htask

/-! ## The reference in the report -/

/-- The report shows the reference of the first session that is paid. -/
theorem Taken.paymentReference_eq {report : PaymentReport} {handedIn before after : List PaymentSession}
    {p : PaymentSession} (h : s.Taken report handedIn before p after) :
    (PaidRow.ofSubmission s).paymentReference =
      ((before.find? (·.state = .paid)).getD p).reference.getD "" := by
  have hp : (p :: after).find? (·.state = .paid) = some p :=
    List.find?_cons_of_pos (by simp [h.paid])
  have hfind : s.sessions.find? (·.state = .paid) =
      (before.find? (·.state = .paid)).or (some p) := by
    rw [h.sessions, List.find?_append, hp]
  have hrow : (PaidRow.ofSubmission s).paymentReference =
      ((s.sessions.find? (·.state = .paid)).bind (·.reference)).getD "" := rfl
  rw [hrow, hfind]
  cases before.find? (·.state = .paid) <;> rfl

/-- It is the reference of the payment that was taken exactly if the first session before that one
that is paid has the same reference, if there is one. -/
theorem Taken.paymentReference_eq_iff {report : PaymentReport}
    {handedIn before after : List PaymentSession} {p : PaymentSession}
    (h : s.Taken report handedIn before p after) :
    (PaidRow.ofSubmission s).paymentReference = p.reference.getD "" ↔
      ∀ q, before.find? (·.state = .paid) = some q →
        q.reference.getD "" = p.reference.getD "" := by
  rw [h.paymentReference_eq]
  cases before.find? (·.state = .paid) with
  | none => simp
  | some q => simp

end Submission

/-! ## In every log -/

namespace Office

theorem tracks_banked :
    Tracks StaysSteady (fun _ => True) (fun _ _ => ()) () fun deeds s _ => s.Banked deeds where
  around _ h := ⟨h.steady, h.store, trivial, fun _ => rfl⟩
  mails _ _ _ := rfl
  apart _ _ _ _ := rfl
  opened _ _ _ _ := ⟨rfl, fun _ => ⟨rfl, List.forall_mem_nil _⟩, by rintro _ ⟨⟩⟩
  done _ _ hs h := (hs.done h).stored _
  ready hready hs h := by
    have hpast := h.change.payments_eq (by rw [hready]; decide)
    exact (hs.congr (hs.gated.move h) hpast rfl rfl).stored _

variable {o o' : Office} {log : List Event}

/-- **The payment that was taken.**  Take the log of any operations from an empty store on, and a
stored submission that has been paid for.  One payment was recorded on it as taken, at the time that
is on record.  It was reported on the first session that it names, and this session is paid; what
else is paid among the sessions was handed in so.  The report about any span of time with that
instant has one row about the submission, and the row shows the reference of that session exactly if
the first paid session before it, if there is one, has the same reference.  So it does where no
session was handed in as paid. -/
theorem Logs.taken (h : Logs StaysSteady o log o') (ho : o.Steady) (hstore : o.store = .empty)
    {s : Submission} (hs : s ∈ o'.store.records) {paid : Instant} (hpaid : s.paidAt = some paid) :
    ∃ report before p after, takings (doneTo s.id (journal log)) = [(paid, report)] ∧
      s.Taken report (handedIn (doneTo s.id (journal log))) before p after ∧
      ∀ now start stop, start ≤ paid → paid < stop → ∃ rows row,
        (o'.step now (.listPaid start stop)).1 = .ok (.paid rows) ∧
        rows.filter (·.submissionId = s.id) = [row] ∧
        (row.paymentReference = p.reference.getD "" ↔
          ∀ q, before.find? (·.state = .paid) = some q →
            q.reference.getD "" = p.reference.getD "") ∧
        ((∀ q ∈ handedIn (doneTo s.id (journal log)), q.state ≠ .paid) →
          row.paymentReference = p.reference.getD "") := by
  obtain ⟨hsteady, -, hall⟩ := h.track tracks_banked ho hstore trivial fun _ => rfl
  have hbanked := (Tracks.holds_of_find? (Store.find?_of_mem hs)).1 (hall s.id)
  obtain ⟨report, hreport, before, p, after, htaken⟩ := hbanked.paid paid hpaid
  refine ⟨report, before, p, after, hreport, htaken, fun now start stop hstart hstop => ?_⟩
  have hleads : Leads SameStore o o' := h.leads.mono fun _ _ hbetween => hbetween.toSameStore
  have hreach := hleads.reachable (.start hstore ho.undisturbed)
  have hup : StoreCall.findPaid ∉ o'.drill.storeDown := by
    rw [hsteady.storeUp]
    exact List.not_mem_nil
  have hanswer := (step_listPaid hsteady.undisturbed now start stop).trans (if_neg hup)
  have haccounts := hreach.accounts ⟨o', now, ⟨.refl _, hsteady.undisturbed⟩, hanswer⟩
  have hbetween := Submission.paidBetween_eq_true.2 ⟨paid, hpaid, hstart, hstop⟩
  have hrow := haccounts.filter_eq hs hbetween
  refine ⟨_, _, hanswer, hrow, htaken.paymentReference_eq_iff, fun hnone => ?_⟩
  refine htaken.paymentReference_eq_iff.2 fun q hq => ?_
  have hqpaid : q.state = .paid := by simpa using List.find?_some hq
  have hmem := List.mem_append_left after (List.mem_of_find?_eq_some hq)
  exact absurd hqpaid (hnone q (htaken.others q hmem hqpaid))

/-- A filing with two payment sessions.  The first one is handed in as paid; the payment is taken on
the second one. -/
def strikeOffWithTwoSessions : List (Instant × Operation) :=
  let now : Instant := ⟨1719828000, 0⟩
  [(now, .create (some ⟨"filings@acme.example"⟩)),
    (now, .editCompany "sub-1" ⟨"01234567", "Acme Widgets Ltd"⟩),
    (now, .editForm "sub-1" "DS01"),
    (now, .editFiles "sub-1" [.uploaded "application" "application.pdf" 48213]),
    (now, .editSessions "sub-1"
      [⟨"first", .paid, some "PAY-OTHER"⟩, ⟨"second", .pending, none⟩]),
    (now, .complete "sub-1"),
    (now, .recordPayment "sub-1" ⟨"second", .paid, some "PAY-TAKEN"⟩)]

theorem taken_strikeOffWithTwoSessions :
    let now : Instant := ⟨1719828000, 0⟩
    let start := Office.opened .standard OfficeConfig.default.settings .fresh now
    let deeds := doneTo "sub-1" (journal (start.events strikeOffWithTwoSessions))
    ∃ s ∈ (start.run strikeOffWithTwoSessions).store.records, s.paidAt = some now ∧
      ∃ report before p after, takings deeds = [(now, report)] ∧
        report.sessionId = "second" ∧ s.Taken report (handedIn deeds) before p after := by
  intro now start deeds
  have hlog : Logs StaysSteady start (start.events strikeOffWithTwoSessions)
      (start.run strikeOffWithTwoSessions) := Logs.refl.run strikeOffWithTwoSessions
  have hfound : ∃ s ∈ (start.run strikeOffWithTwoSessions).store.records,
      s.id = "sub-1" ∧ s.paidAt = some now := by
    decide +kernel
  have hnamed : (takings deeds).map (·.2.sessionId) = ["second"] := by
    decide +kernel
  obtain ⟨s, hs, hid, hpaid⟩ := hfound
  obtain ⟨report, before, p, after, htakings, htaken, -⟩ :=
    hlog.taken ⟨⟨rfl, rfl, rfl⟩, rfl⟩ rfl hs hpaid
  rw [hid] at htakings htaken
  have hreport : takings deeds = [(now, report)] := htakings
  rw [hreport] at hnamed
  exact ⟨s, hs, hpaid, report, before, p, after, htakings, (List.cons.inj hnamed).1, htaken⟩

/-- **A session that was handed in as paid takes the place of the payment.**  The payment was taken
on the second session, which has its reference; the report shows the reference of the first one. -/
theorem mistaken_strikeOffWithTwoSessions :
    let now : Instant := ⟨1719828000, 0⟩
    let start := Office.opened .standard OfficeConfig.default.settings .fresh now
    let office := start.run strikeOffWithTwoSessions
    (takings (doneTo "sub-1" (journal (start.events strikeOffWithTwoSessions)))).map
        (fun t => (t.1, t.2.sessionId)) = [(now, "second")] ∧
      (∃ s ∈ office.store.records, s.id = "sub-1" ∧ s.paidAt = some now ∧
        (s.sessions.find? (·.id = "second")).bind (·.reference) = some "PAY-TAKEN") ∧
      ∃ rows, (office.step now (.listPaid now ⟨1719914400, 0⟩)).1 = .ok (.paid rows) ∧
        rows.map (fun row => (row.submissionId, row.paymentReference)) =
          [("sub-1", "PAY-OTHER")] := by
  intro now start office
  have hreach : office.Reachable := (Reachable.opened _ _ _ _).run _
  have hup : StoreCall.findPaid ∉ office.drill.storeDown := by decide +kernel
  have hanswer := (step_listPaid hreach.undisturbed now now ⟨1719914400, 0⟩).trans (if_neg hup)
  exact ⟨by decide +kernel, by decide +kernel, _, hanswer, by decide +kernel⟩

end Office

end Filing
