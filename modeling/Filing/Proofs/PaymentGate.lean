import Filing.Config.Basic
import Filing.Proofs.Fee
import Filing.Proofs.Office.Reach
import Filing.Proofs.Validation

/-!
# The payment gate

A filing that costs something is worked on only once it is paid for, and a filing that costs nothing
is never marked as paid.  Both can be read off the record: its status, the text of its fee, the time
of its payment and the states of its payment sessions fit together, whatever was done to get there
and however often the prices were changed on the way.

* `Submission.PaymentDue`, `Submission.PaymentSettled` — the two sides of the gate;
* `Submission.Gated` — what each status says about the payment;
* `Submission.Gated.move` — every move keeps it, by the few moves that touch the payment at all;
* `Office.Reachable.gated` — **it holds of every stored submission**.
-/

set_option autoImplicit false

namespace Filing

namespace Submission

/-! ## The two sides of the gate -/

/-- The amount to pay, read from the fee on record. -/
def payable? (s : Submission) : Option Decimal :=
  s.fee.bind payableAmount

/-- There is something to pay, and it has not been paid. -/
structure PaymentDue (s : Submission) : Prop where
  payable : s.payable?.isSome
  unpaid : s.paidAt = none
  sessions : s.sessions ≠ []

/-- What there is to pay has been paid, in one of the sessions. -/
structure PaymentSettled (s : Submission) : Prop where
  paid_iff : s.paidAt.isSome ↔ s.payable?.isSome
  session : s.paidAt.isSome → ∃ p ∈ s.sessions, p.state = .paid

/-- What the status of a submission says about its payment. -/
def Gated (s : Submission) : Prop :=
  match s.status with
  | .opened => s.paidAt = none
  | .paymentRequired | .paymentFailed => s.PaymentDue
  | .submitted | .processing | .processedByEmail | .readyToSubmit | .sentToFes | .accepted
  | .rejected | .rejectedByVirusScan | .rejectedByDocumentConverter => s.PaymentSettled

section

variable {s t : Submission}

theorem gated_of_opened (h : s.status = .opened) : s.Gated ↔ s.paidAt = none := by
  rw [Gated, h]

theorem gated_of_waiting (h : s.status = .paymentRequired ∨ s.status = .paymentFailed) :
    s.Gated ↔ s.PaymentDue := by
  obtain h | h := h <;> rw [Gated, h]

theorem gated_of_paid (h : s.status ∈ Office.paidStatuses) : s.Gated ↔ s.PaymentSettled := by
  rw [Gated]
  generalize s.status = status at h
  cases status
  case opened => exact absurd h (by decide)
  case paymentRequired => exact absurd h (by decide)
  case paymentFailed => exact absurd h (by decide)
  all_goals rfl

/-- What is paid for has passed the gate. -/
theorem Gated.mem_paidStatuses (hs : s.Gated) (hpaid : s.paidAt.isSome) :
    s.status ∈ Office.paidStatuses := by
  rw [Option.isSome_iff_ne_none] at hpaid
  rw [Gated] at hs
  generalize s.status = status at hs
  cases status
  case opened => exact absurd hs hpaid
  case paymentRequired => exact absurd hs.unpaid hpaid
  case paymentFailed => exact absurd hs.unpaid hpaid
  all_goals decide

/-- A submission that has passed the gate is past it as long as its payment is left alone. -/
theorem Gated.past (hs : s.Gated) {status : Status} (hstatus : s.status = status)
    (hpast : status ∈ Office.paidStatuses) (htarget : t.status ∈ Office.paidStatuses)
    (hfee : t.fee = s.fee) (hpaid : t.paidAt = s.paidAt) (hsessions : t.sessions = s.sessions) :
    t.Gated := by
  rw [← hstatus] at hpast
  obtain ⟨hiff, hsession⟩ := (gated_of_paid hpast).1 hs
  refine (gated_of_paid htarget).2 ⟨?_, ?_⟩
  · rw [hpaid, payable?, hfee]
    exact hiff
  · rw [hpaid, hsessions]
    exact hsession

/-- An open submission stays on its side as long as it is not marked as paid. -/
theorem Gated.edit (hs : s.Gated) (hstatus : s.status = .opened) (htarget : t.status = .opened)
    (hpaid : t.paidAt = s.paidAt) : t.Gated := by
  rw [gated_of_opened htarget, hpaid]
  exact (gated_of_opened hstatus).1 hs

theorem Gated.stored (hs : s.Gated) (version : UInt64) : (s.stored version).Gated := by
  have hcases : s.status = .opened ∨ (s.status = .paymentRequired ∨ s.status = .paymentFailed) ∨
      s.status ∈ Office.paidStatuses := by
    cases s.status <;> decide
  obtain hopened | hwaiting | hpaid := hcases
  · have hopened' : (s.stored version).status = .opened := hopened
    exact hs.edit hopened hopened' rfl
  · have hwaiting' : (s.stored version).status = .paymentRequired ∨
        (s.stored version).status = .paymentFailed := hwaiting
    obtain ⟨hpayable, hunpaid, hsessions⟩ := (gated_of_waiting hwaiting).1 hs
    exact (gated_of_waiting hwaiting').2 ⟨hpayable, hunpaid, hsessions⟩
  · exact hs.past rfl hpaid hpaid rfl rfl rfl

end

/-! ## Completion -/

/-- The fee that decides about the status is the fee that is kept. -/
theorem payable_currentFee {s : Submission} {desk : CatalogDesk} {now : Instant}
    {fee : FeeResolution} (h : s.currentFee desk now = .ok fee) :
    fee.storedAmount.bind payableAmount = fee.payable := by
  rw [currentFee] at h
  split at h
  · exact CatalogDesk.payable_of_resolveFee (refuse_eq_ok.1 h)
  · rw [← Except.ok.inj h]
    rfl

theorem Gated.complete {s t : Submission} {desk : CatalogDesk} {now : Instant} (hs : s.Gated)
    (h : s.complete desk now = .ok t) : t.Gated := by
  obtain ⟨hopened, form, fee, -, hfee, hvalid, rfl⟩ := complete_eq_ok.1 h
  have hpaid := (gated_of_opened hopened).1 hs
  have hkept := payable_currentFee hfee
  rw [priced]
  by_cases hpayable : fee.payable.isSome
  · rw [if_pos hpayable]
    refine (gated_of_waiting (Or.inl rfl)).2 ⟨?_, hpaid, sessions_ne_nil_of_validate hvalid hpayable⟩
    rw [payable?, hkept]
    exact hpayable
  · rw [if_neg hpayable]
    refine (gated_of_paid (by decide : Status.submitted ∈ Office.paidStatuses)).2 ⟨?_, ?_⟩
    · rw [payable?, hkept]
      simp [hpaid, hpayable]
    · intro h
      rw [hpaid] at h
      cases h

/-! ## Payment -/

/-- The session that a report names is where it says. -/
theorem exists_state_of_applyReport {report : PaymentReport} {ps qs : List PaymentSession}
    (h : applyReport report ps = some qs) : ∃ p ∈ qs, p.state = report.state := by
  obtain ⟨before, p, after, -, -, -, rfl⟩ := exists_split_of_applyReport h
  exact ⟨report.applied p, List.mem_append_right _ List.mem_cons_self, rfl⟩

theorem Gated.recordPayment {s t : Submission} {report : PaymentReport} {now : Instant}
    (hs : s.Gated) (h : s.recordPayment report now = .ok t) : t.Gated := by
  obtain ⟨hstatus, sessions, happly, rfl⟩ := recordPayment_eq_ok.1 h
  obtain ⟨hpayable, hunpaid, -⟩ := (gated_of_waiting hstatus).1 hs
  obtain ⟨p, hp, hstate⟩ := exists_state_of_applyReport happly
  have hne : sessions ≠ [] := List.ne_nil_of_mem hp
  cases hr : report.state with
  | paid =>
    refine (gated_of_paid (by decide : Status.submitted ∈ Office.paidStatuses)).2 ⟨?_, ?_⟩
    · exact iff_of_true rfl hpayable
    · exact fun _ => ⟨p, hp, hstate.trans hr⟩
  | failed => exact (gated_of_waiting (Or.inr rfl)).2 ⟨hpayable, hunpaid, hne⟩
  | cancelled => exact (gated_of_waiting (Or.inr rfl)).2 ⟨hpayable, hunpaid, hne⟩
  | pending =>
    let t : Submission := ({ s with sessions := sessions } : Submission).settled .pending now
    have hwaiting : t.status = .paymentRequired ∨ t.status = .paymentFailed := hstatus
    exact (gated_of_waiting hwaiting).2 ⟨hpayable, hunpaid, hne⟩

/-! ## Every move -/

theorem destination_mem_paidStatuses (verdict : Verdict) (form : Option FormTemplate) :
    verdict.destination form ∈ Office.paidStatuses := by
  cases verdict with
  | rejectedByVirusScan =>
    show Status.rejectedByVirusScan ∈ Office.paidStatuses
    decide
  | rejectedByDocumentConverter =>
    show Status.rejectedByDocumentConverter ∈ Office.paidStatuses
    decide
  | accepted =>
    cases form with
    | none => decide
    | some form =>
      rw [Verdict.destination]
      split <;> decide

/-- **Every move keeps the gate.**  Only completion and payment go through it; whatever comes before
does not mark the submission as paid, and whatever comes after leaves the payment alone. -/
theorem Gated.move {o : Office} {s t : Submission} (hs : s.Gated) (h : Move o s t) : t.Gated := by
  cases h with
  | company company h =>
    obtain ⟨ho, rfl⟩ := editCompany_eq_ok.1 h
    exact hs.edit ho ho rfl
  | form formType h =>
    obtain ⟨ho, fee, -, rfl⟩ := editForm_eq_ok.1 h
    exact hs.edit ho ho rfl
  | files files h =>
    obtain ⟨ho, rfl⟩ := editFiles_eq_ok.1 h
    exact hs.edit ho ho rfl
  | sessions sessions h =>
    obtain ⟨ho, rfl⟩ := editSessions_eq_ok.1 h
    exact hs.edit ho ho rfl
  | authorised authorised h =>
    obtain ⟨ho, rfl⟩ := editAuthorised_eq_ok.1 h
    exact hs.edit ho ho rfl
  | complete h => exact hs.complete h
  | payment report h => exact hs.recordPayment h
  | queue h =>
    obtain ⟨hsubmitted, h⟩ := queue_eq_ok.1 h
    split at h
    · obtain ⟨form, -, rfl⟩ := h
      have htarget := destination_mem_paidStatuses .accepted form
      exact hs.past hsubmitted (by decide) htarget rfl rfl rfl
    · rw [h]
      exact hs.past hsubmitted (by decide) (by decide : Status.processing ∈ _) rfl rfl rfl
  | report fileId outcome progress h hnew =>
    obtain ⟨hprocessing, u, hu, h⟩ := report_eq_ok.1 h
    obtain ⟨file, -, -, -, rfl⟩ := recordOutcome_not_duplicate hu hnew
    split at h
    · rw [h]
      have htarget : s.status ∈ Office.paidStatuses := by
        rw [hprocessing]
        decide
      exact hs.past hprocessing (by decide) htarget rfl rfl rfl
    · next verdict _ =>
      obtain ⟨form, -, rfl⟩ := h
      have htarget := destination_mem_paidStatuses verdict form
      exact hs.past hprocessing (by decide) htarget rfl rfl rfl
  | barcode barcode hready hnone =>
    have htarget : s.status ∈ Office.paidStatuses := by
      rw [hready]
      decide
    exact hs.past hready (by decide) htarget rfl rfl rfl
  | sent hready hsome =>
    exact hs.past hready (by decide) (by decide : Status.sentToFes ∈ _) rfl rfl rfl
  | adjudicate outcome h =>
    obtain ⟨hsent, rfl⟩ := adjudicate_eq_ok.1 h
    cases outcome with
    | accepted => exact hs.past hsent (by decide) (by decide : Status.accepted ∈ _) rfl rfl rfl
    | rejected => exact hs.past hsent (by decide) (by decide : Status.rejected ∈ _) rfl rfl rfl

theorem kept_gated : Kept Gated where
  opened _ _ _ _ := rfl
  moved hs h := hs.move h
  stored version h := h.stored version

end Submission

/-! ## Every run -/

/-- **The payment gate.**  In every office that operations lead to, with any clock and with prices
that change between them, the status of every stored submission says what it should about its
payment. -/
theorem Office.Reachable.gated {o : Office} (h : o.Reachable) {s : Submission}
    (hs : s ∈ o.store.records) : s.Gated :=
  h.kept Submission.kept_gated s hs

/-- A filing whose price goes up between the choice of its form and its completion: it is paid for
at the new price. -/
def Office.paidStrikeOff : Office :=
  let april : Instant := ⟨1714435200, 0⟩
  let may : Instant := ⟨1714608000, 0⟩
  (Office.opened .standard OfficeConfig.default.settings .fresh april).run
    [(april, .create (some ⟨"filings@acme.example"⟩)),
      (april, .editCompany "sub-1" ⟨"01234567", "Acme Widgets Ltd"⟩),
      (april, .editForm "sub-1" "DS01"),
      (april, .editFiles "sub-1" [.uploaded "application" "application.pdf" 48213]),
      (may, .editSessions "sub-1" [⟨"session", .pending, none⟩]),
      (may, .complete "sub-1"),
      (may, .recordPayment "sub-1" ⟨"session", .paid, some "PAY-1"⟩)]

theorem Office.gated_paidStrikeOff :
    ∃ s ∈ Office.paidStrikeOff.store.records,
      s.status = .submitted ∧ s.fee = some "33" ∧ s.paidAt.isSome ∧ s.Gated := by
  have hreach : Office.paidStrikeOff.Reachable := (Office.Reachable.opened _ _ _ _).run _
  have hpaid : ∃ s ∈ Office.paidStrikeOff.store.records,
      s.status = .submitted ∧ s.fee = some "33" ∧ s.paidAt.isSome := by
    decide +kernel
  obtain ⟨s, hs, hstatus, hfee, hsome⟩ := hpaid
  exact ⟨s, hs, hstatus, hfee, hsome, hreach.gated hs⟩

end Filing
