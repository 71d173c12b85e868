import Filing.Proofs.Office.Regular
import Filing.Proofs.PaymentGate

/-!
# Payments in the report

Whoever adds up the reports of successive spans of time should find every payment once: none of them
twice at the instant at which one span ends and the next one starts, and none of them left out
because of what has become of the submission since.

The report looks at a list of statuses, which the payment gate makes harmless: what is paid for is
at one of them.  It goes through the submissions in any order and sorts them by their payments, so
two reports of the same payments differ in no more than the order of those of one instant.

* `Submission.paidBetween` — the submission was paid for in a span of time;
* `PaidRow.Describes` — a row says what is on record of a submission;
* `Office.MayReport`, `Office.MayReportInTurn` — what one report may answer, and what successive
  ones;
* `Office.Accounts` — rows that account for the payments of a span, with `Accounts.append` and
  `Accounts.filter_eq`, the one row about each of them;
* `PaidRow.SameButTies` — rows that agree but for the order of those of one instant;
* `Office.Reachable.reports_partition` — **successive reports account for the payments of the whole
  time**, and say what one report about all of it says.
-/

set_option autoImplicit false

namespace Filing

open Act

/-! ## Spans of time -/

namespace Submission

/-- The submission was paid for from one instant on and before another one. -/
def paidBetween (start stop : Instant) (s : Submission) : Bool :=
  s.paidAt.any fun t => start ≤ t ∧ t < stop

variable {start middle stop : Instant} {s : Submission}

theorem paidBetween_eq_true :
    s.paidBetween start stop ↔ ∃ t, s.paidAt = some t ∧ start ≤ t ∧ t < stop := by
  simp [paidBetween, Option.any_eq_true]

theorem paidBetween_self (start : Instant) (s : Submission) :
    s.paidBetween start start = false := by
  rw [← Bool.not_eq_true, paidBetween_eq_true]
  rintro ⟨t, -, hstart, hstop⟩
  exact Instant.not_le.2 hstop hstart

/-- An instant in between belongs to the second of the two spans that it parts. -/
theorem paidBetween_parts (hstart : start ≤ middle) (hstop : middle ≤ stop) :
    s.paidBetween start middle = (s.paidBetween start stop && s.paidAt.any (· < middle)) ∧
      s.paidBetween middle stop = (s.paidBetween start stop && !s.paidAt.any (· < middle)) := by
  cases hpaid : s.paidAt with
  | none => simp [paidBetween, hpaid]
  | some t =>
    simp only [paidBetween, hpaid, Option.any_some]
    by_cases hmiddle : t < middle
    · have hbefore : t < stop := Instant.lt_of_lt_of_le hmiddle hstop
      have hafter : ¬middle ≤ t := fun h => Instant.not_le.2 hmiddle h
      simp [hmiddle, hbefore, hafter]
    · have hafter : middle ≤ t := by
        rwa [← Instant.not_le, not_not] at hmiddle
      have hbefore : start ≤ t := Instant.le_trans hstart hafter
      simp [hmiddle, hbefore, hafter]

end Submission

/-! ## What reports answer -/

/-- A row says of a submission what is on record; what is absent is the empty text.  Which payment
the row refers to is a matter of its own. -/
structure PaidRow.Describes (row : PaidRow) (s : Submission) : Prop where
  submissionId : row.submissionId = s.id
  confirmationReference : row.confirmationReference = s.confirmationReference
  status : row.status = s.status
  formType : row.formType = s.formType?.getD ""
  companyNumber : row.companyNumber = s.companyNumber?.getD ""
  fee : row.fee = s.fee.getD ""
  paidAt : row.paidAt = s.paidAt

theorem PaidRow.describes_ofSubmission (s : Submission) : (ofSubmission s).Describes s :=
  ⟨rfl, rfl, rfl, rfl, rfl, rfl, rfl⟩

namespace Office

/-- The same submissions, which are gone through in any order; nobody else writes among them. -/
structure Shuffled (o o' : Office) : Prop where
  records : o'.store.records.Perm o.store.records
  undisturbed : o'.Undisturbed

/-- Rows that a report may answer, in whatever order it goes through the submissions. -/
def MayReport (o : Office) (start stop : Instant) (rows : List PaidRow) : Prop :=
  ∃ o' now, o.Shuffled o' ∧ (o'.step now (.listPaid start stop)).1 = .ok (.paid rows)

/-- Rows that reports may answer one after another, each about the time from an instant up to the
next one. -/
inductive MayReportInTurn (o : Office) : Instant → List Instant → List PaidRow → Prop
  | nil (start : Instant) : MayReportInTurn o start [] []
  | cons {start stop : Instant} {stops : List Instant} {rows rest : List PaidRow}
      (h : o.MayReport start stop rows) (hrest : MayReportInTurn o stop stops rest) :
      MayReportInTurn o start (stop :: stops) (rows ++ rest)

/-- The rows account for the payments from an instant up to another one: one row for each submission
that was paid for in that time, whatever its status is, and the oldest payment first. -/
structure Accounts (o : Office) (start stop : Instant) (rows : List PaidRow) : Prop where
  perm : rows.Perm
    ((o.store.records.filter (Submission.paidBetween start stop)).map PaidRow.ofSubmission)
  describes : ∀ row ∈ rows, ∃ s ∈ o.store.records, row.Describes s
  ordered : rows.Pairwise fun a b => Instant.optionalLe a.paidAt b.paidAt

variable {o o' : Office} {start middle stop : Instant} {rows rest : List PaidRow}

/-- A report answers unless the store is out of order. -/
theorem step_listPaid (ho : o.Undisturbed) (now start stop : Instant) :
    (o.step now (.listPaid start stop)).1 =
      if .findPaid ∈ o.drill.storeDown then
        .error (.repository (.unavailable "database offline"))
      else .ok (.paid (o.paidRows start stop)) := by
  have ho' : Undisturbed { o with clock := now } := ho
  rw [step, Operation.perform, map_apply, listPaid_apply ho']
  by_cases hdown : .findPaid ∈ o.drill.storeDown
  · rw [if_pos hdown, if_pos hdown]
    rfl
  · rw [if_neg hdown, if_neg hdown]
    rfl

/-! ## One report -/

/-- The list of statuses leaves nothing out. -/
theorem paid_perm {store : Store} (hgated : ∀ s ∈ store.records, s.Gated) (start stop : Instant) :
    (store.paid paidStatuses start stop).Perm
      (store.records.filter (Submission.paidBetween start stop)) := by
  have hfilter : ∀ s ∈ store.records,
      decide (s.status ∈ paidStatuses ∧ s.paidAt.any fun t => start ≤ t ∧ t < stop) =
        s.paidBetween start stop := by
    intro s hs
    by_cases hpaid : s.paidBetween start stop
    · obtain ⟨t, ht, -⟩ := Submission.paidBetween_eq_true.1 hpaid
      have hpast : s.status ∈ paidStatuses := (hgated s hs).mem_paidStatuses (by rw [ht]; rfl)
      rw [hpaid]
      exact decide_eq_true ⟨hpast, hpaid⟩
    · rw [Bool.eq_false_iff.2 hpaid]
      exact decide_eq_false fun h => hpaid h.2
  rw [← List.filter_congr hfilter]
  exact List.mergeSort_perm _ _

theorem paidRows_ordered (o : Office) (start stop : Instant) :
    (o.paidRows start stop).Pairwise fun a b => Instant.optionalLe a.paidAt b.paidAt := by
  let earlier (a b : Submission) : Bool := Instant.optionalLe a.paidAt b.paidAt
  have htrans (a b c : Submission) (h : earlier a b) (h' : earlier b c) : earlier a c :=
    Instant.optionalLe_trans h h'
  have htotal (a b : Submission) : earlier a b || earlier b a :=
    Instant.optionalLe_total a.paidAt b.paidAt
  exact List.pairwise_map.2 (List.pairwise_mergeSort htrans htotal _)

/-- **A report accounts for the payments of its time**, in whatever order it goes through the
submissions. -/
theorem Reachable.accounts (h : o.Reachable) (hreport : o.MayReport start stop rows) :
    o.Accounts start stop rows := by
  obtain ⟨o', now, ⟨hrecords, ho'⟩, hanswer⟩ := hreport
  rw [step_listPaid ho'] at hanswer
  split at hanswer
  · cases hanswer
  · cases hanswer
    have hgated : ∀ s ∈ o'.store.records, s.Gated :=
      fun s hs => h.gated (hrecords.mem_iff.1 hs)
    have hpaid := (paid_perm hgated start stop).trans (hrecords.filter _)
    refine ⟨hpaid.map _, fun row hrow => ?_, o'.paidRows_ordered start stop⟩
    obtain ⟨s, hs, rfl⟩ := List.mem_map.1 hrow
    exact ⟨s, (List.mem_filter.1 (hpaid.mem_iff.1 hs)).1, PaidRow.describes_ofSubmission s⟩

/-! ## Successive reports -/

theorem Accounts.mem (h : o.Accounts start stop rows) {row : PaidRow} (hrow : row ∈ rows) :
    ∃ t, row.paidAt = some t ∧ start ≤ t ∧ t < stop := by
  obtain ⟨s, hs, rfl⟩ := List.mem_map.1 (h.perm.mem_iff.1 hrow)
  exact Submission.paidBetween_eq_true.1 (List.mem_filter.1 hs).2

/-- The one row about a submission. -/
theorem Accounts.filter_eq (h : o.Accounts start stop rows) {s : Submission}
    (hs : s ∈ o.store.records) (hpaid : s.paidBetween start stop) :
    rows.filter (·.submissionId = s.id) = [PaidRow.ofSubmission s] := by
  obtain ⟨before, after, hsplit, hother⟩ := Store.exists_split hs
  have hnone (l : List Submission) (hl : ∀ x ∈ l, x.id ≠ s.id) :
      l.filter (fun x => x.paidBetween start stop && decide (x.id = s.id)) = [] :=
    List.filter_eq_nil_iff.2 fun x hx => by simp [hl x hx]
  have hone : (o.store.records.filter (Submission.paidBetween start stop)).filter (·.id = s.id) =
      [s] := by
    rw [List.filter_filter, hsplit, List.filter_append, List.filter_cons]
    simp only [Bool.and_comm (decide _)]
    rw [hnone before fun x hx => hother x (List.mem_append_left _ hx),
      hnone after fun x hx => hother x (List.mem_append_right _ hx), if_pos (by simp [hpaid])]
    rfl
  have hperm := h.perm.filter (·.submissionId = s.id)
  rw [List.filter_map] at hperm
  have hmap : (o.store.records.filter (Submission.paidBetween start stop)).filter
      ((fun row : PaidRow => decide (row.submissionId = s.id)) ∘ PaidRow.ofSubmission) = [s] := hone
  rw [hmap] at hperm
  exact List.perm_singleton.1 hperm

theorem Accounts.nil (o : Office) (start : Instant) : o.Accounts start start [] where
  perm := by
    have hnone : o.store.records.filter (Submission.paidBetween start start) = [] :=
      List.filter_eq_nil_iff.2 fun s _ => by
        rw [Submission.paidBetween_self]
        exact Bool.false_ne_true
    rw [hnone]
    exact .nil
  describes := fun _ hrow => nomatch hrow
  ordered := .nil

/-- Two accounts of times that meet are an account of the whole time. -/
theorem Accounts.append (hrows : o.Accounts start middle rows) (hrest : o.Accounts middle stop rest)
    (hstart : start ≤ middle) (hstop : middle ≤ stop) : o.Accounts start stop (rows ++ rest) where
  perm := by
    let whole := o.store.records.filter (Submission.paidBetween start stop)
    let early (s : Submission) : Bool := s.paidAt.any (· < middle)
    have hparts (s : Submission) := Submission.paidBetween_parts (s := s) hstart hstop
    have hbefore : o.store.records.filter (Submission.paidBetween start middle) =
        whole.filter early := by
      rw [List.filter_filter]
      exact List.filter_congr fun s _ => (hparts s).1.trans (Bool.and_comm _ _)
    have hafter : o.store.records.filter (Submission.paidBetween middle stop) =
        whole.filter fun s => !early s := by
      rw [List.filter_filter]
      exact List.filter_congr fun s _ => (hparts s).2.trans (Bool.and_comm _ _)
    have hwhole := (List.filter_append_perm early whole).map PaidRow.ofSubmission
    rw [List.map_append, ← hbefore, ← hafter] at hwhole
    exact (hrows.perm.append hrest.perm).trans hwhole
  describes := by
    intro row hrow
    rcases List.mem_append.1 hrow with hrow | hrow
    · exact hrows.describes row hrow
    · exact hrest.describes row hrow
  ordered := by
    refine List.pairwise_append.2 ⟨hrows.ordered, hrest.ordered, fun a ha b hb => ?_⟩
    obtain ⟨t, ht, -, hbefore⟩ := hrows.mem ha
    obtain ⟨u, hu, hafter, -⟩ := hrest.mem hb
    rw [ht, hu]
    exact decide_eq_true (Instant.le_of_lt (Instant.lt_of_lt_of_le hbefore hafter))

end Office

/-! ## Ties -/

/-- The rows agree but for the order of those of one instant: their times are the same one after the
other, and each instant has the same rows. -/
structure PaidRow.SameButTies (rows rows' : List PaidRow) : Prop where
  times : rows.map (·.paidAt) = rows'.map (·.paidAt)
  ties : ∀ t, (rows.filter (·.paidAt = t)).Perm (rows'.filter (·.paidAt = t))

namespace Office

variable {o : Office} {start stop : Instant} {rows rows' : List PaidRow}

/-- Two accounts of the same payments agree but for the order of those of one instant. -/
theorem Accounts.sameButTies (h : o.Accounts start stop rows) (h' : o.Accounts start stop rows') :
    PaidRow.SameButTies rows rows' where
  times := by
    have hperm := (h.perm.trans h'.perm.symm).map (·.paidAt)
    have hle : ∀ rows : List PaidRow,
        (rows.Pairwise fun a b => Instant.optionalLe a.paidAt b.paidAt) →
          (rows.map (·.paidAt)).Pairwise fun a b => Instant.optionalLe a b :=
      fun _ hordered => List.pairwise_map.2 hordered
    exact hperm.eq_of_pairwise (fun _ _ _ _ => Instant.optionalLe_antisymm) (hle _ h.ordered)
      (hle _ h'.ordered)
  ties _ := (h.perm.trans h'.perm.symm).filter _

/-! ## The whole time -/

/-- The last of the instants that follow one another is not before the first. -/
theorem le_getLastD {start : Instant} {stops : List Instant}
    (h : (start :: stops).IsChain (· ≤ ·)) : start ≤ stops.getLastD start := by
  induction stops generalizing start with
  | nil => exact Instant.le_refl start
  | cons stop stops ih =>
    obtain ⟨hle, hrest⟩ := List.isChain_cons_cons.1 h
    rw [List.getLastD_cons]
    exact Instant.le_trans hle (ih hrest)

theorem Reachable.accounts_inTurn (h : o.Reachable) {stops : List Instant}
    (hreports : o.MayReportInTurn start stops rows) (hordered : (start :: stops).IsChain (· ≤ ·)) :
    o.Accounts start (stops.getLastD start) rows := by
  induction hreports with
  | nil start => exact .nil o start
  | cons hreport _ ih =>
    obtain ⟨hle, hrest⟩ := List.isChain_cons_cons.1 hordered
    rw [List.getLastD_cons]
    exact (h.accounts hreport).append (ih hrest) hle (le_getLastD hrest)

/-- **Successive reports account for the payments of the whole time.**  Take instants that follow
one another, in an office that operations lead to.  Unless the store is out of order, every report
is answered.  The reports from each instant to the next one, put one after the other, have one row
for each submission that was paid for from the first instant on and before the last one, whatever
its status is, and no other row, and the oldest payment comes first.  One report about the whole
time has the same rows, but for the order of those of one instant; this is so in whatever order each
of the reports goes through the submissions. -/
theorem Reachable.reports_partition (h : o.Reachable) {stops : List Instant}
    (hordered : (start :: stops).IsChain (· ≤ ·)) :
    (∀ o' now start stop, o.Shuffled o' → .findPaid ∉ o'.drill.storeDown →
      ∃ rows, (o'.step now (.listPaid start stop)).1 = .ok (.paid rows)) ∧
    ∀ rows, o.MayReportInTurn start stops rows →
      o.Accounts start (stops.getLastD start) rows ∧
      ∀ whole, o.MayReport start (stops.getLastD start) whole → PaidRow.SameButTies rows whole := by
  refine ⟨fun o' now start stop ho' hup => ?_, fun rows hreports => ?_⟩
  · exact ⟨_, (step_listPaid ho'.undisturbed now start stop).trans (if_neg hup)⟩
  · have haccounts := h.accounts_inTurn hreports hordered
    exact ⟨haccounts, fun whole hwhole => haccounts.sameButTies (h.accounts hwhole)⟩

/-- Two filings, paid for one day after the other; the first one is under way by now. -/
def twoPaid : Office :=
  let second : Instant := ⟨1714694400, 0⟩
  paidStrikeOff.run
    [(second, .queue "sub-1"),
      (second, .create (some ⟨"filings@acme.example"⟩)),
      (second, .editCompany "sub-2" ⟨"07654321", "Acme Holdings Ltd"⟩),
      (second, .editForm "sub-2" "DS01"),
      (second, .editFiles "sub-2" [.uploaded "application" "application.pdf" 51022]),
      (second, .editSessions "sub-2" [⟨"session", .pending, none⟩]),
      (second, .complete "sub-2"),
      (second, .recordPayment "sub-2" ⟨"session", .paid, some "PAY-2"⟩)]

theorem reports_partition_twoPaid :
    let start : Instant := ⟨1714608000, 0⟩
    let middle : Instant := ⟨1714694400, 0⟩
    let stop : Instant := ⟨1714780800, 0⟩
    twoPaid.Reachable ∧ [start, middle, stop].IsChain (· ≤ ·) ∧
      ∃ rows, twoPaid.MayReportInTurn start [middle, stop] rows ∧
        rows.map (fun row => (row.submissionId, row.status, row.paidAt)) =
          [("sub-1", .processing, some start), ("sub-2", .submitted, some middle)] ∧
        twoPaid.Accounts start stop rows ∧
        ∀ whole, twoPaid.MayReport start stop whole → PaidRow.SameButTies rows whole := by
  intro start middle stop
  have hreach : twoPaid.Reachable := ((Reachable.opened _ _ _ _).run _).run _
  have hordered : [start, middle, stop].IsChain (· ≤ ·) := by decide
  obtain ⟨hanswers, hall⟩ := hreach.reports_partition hordered
  have hup : StoreCall.findPaid ∉ twoPaid.drill.storeDown := by decide +kernel
  have hshuffled : twoPaid.Shuffled twoPaid := ⟨.refl _, hreach.undisturbed⟩
  have hreport (a b : Instant) : twoPaid.MayReport a b (twoPaid.paidRows a b) :=
    ⟨twoPaid, a, hshuffled, (step_listPaid hreach.undisturbed a a b).trans (if_neg hup)⟩
  have hreports := MayReportInTurn.cons (hreport start middle)
    (.cons (hreport middle stop) (.nil stop))
  obtain ⟨haccounts, hwhole⟩ := hall _ hreports
  exact ⟨hreach, hordered, _, hreports, by decide +kernel, haccounts, hwhole⟩

end Office

end Filing
