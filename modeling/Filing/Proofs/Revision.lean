import Filing.Proofs.Decision
import Filing.Revision

/-!
# What a revision makes of a submission

A revision either refuses or gives the submission as it will be saved.  Here every revision is said
in one equation: when it succeeds, and what every field of the result is.  Nothing else about a
revision is used afterwards.

* `Submission.demand_eq_ok`, `Submission.advance_eq_ok` — the two guards;
* `Submission.edit_eq_ok` and the five edits;
* `Submission.complete_eq_ok` with `Submission.priced`, the result of completion;
* `Submission.exists_split_of_applyReport`, `Submission.recordPayment_eq_ok` with `Submission.settled`,
  `Submission.queue_eq_ok`, `Submission.report_eq_ok`, `Submission.adjudicate_eq_ok`.
-/

set_option autoImplicit false

namespace Filing

/-- A chain of work that may be refused succeeds when each link of it does. -/
theorem bind_eq_ok {ε α β : Type} {x : Except ε α} {f : α → Except ε β} {b : β} :
    (x >>= f) = .ok b ↔ ∃ a, x = .ok a ∧ f a = .ok b := by
  cases x with
  | error e => simp [bind, Except.bind]
  | ok a => simp [bind, Except.bind]

/-- A chain of work is refused where a link of it is. -/
theorem bind_eq_error {ε α β : Type} {x : Except ε α} {f : α → Except ε β} {e : ε} :
    (x >>= f) = .error e ↔ x = .error e ∨ ∃ a, x = .ok a ∧ f a = .error e := by
  cases x with
  | error e => simp [bind, Except.bind]
  | ok a => simp [bind, Except.bind]

@[simp] theorem refuse_eq_ok {ε α : Type} {f : ε → Refusal} {x : Except ε α} {a : α} :
    refuse f x = .ok a ↔ x = .ok a := by
  cases x <;> simp [refuse]

theorem refuse_eq_error {ε α : Type} {f : ε → Refusal} {x : Except ε α} {e : Refusal} :
    refuse f x = .error e ↔ ∃ e', x = .error e' ∧ e = f e' := by
  cases x <;> simp [refuse, eq_comm]

namespace Submission

/-! ## Guards -/

@[simp] theorem demand_eq_ok {s : Submission} {expected : List Status} {u : Unit} :
    s.demand expected = .ok u ↔ s.status ∈ expected := by
  rw [demand, refuse_eq_ok, requireAny]
  split <;> simp_all

theorem advance_eq_ok {s t : Submission} {target : Status} {now : Instant} :
    s.advance target now = .ok t ↔
      s.status.mayBecome target = true ∧ t = { s with status := target, modifiedAt := now } := by
  rw [advance, refuse_eq_ok, moveTo]
  split
  · next h => simp only [h, true_and, Except.ok.injEq, @eq_comm _ t]
  · next h => simp [h]

/-- The registered form depends on the form type only. -/
theorem registeredForm_congr {s t : Submission} (h : t.formType? = s.formType?)
    (desk : CatalogDesk) : t.registeredForm desk = s.registeredForm desk := by
  rw [registeredForm, registeredForm, h]

/-! ## Editing -/

theorem edit_eq_ok {s t : Submission} {now : Instant}
    {change : Submission → Except Refusal Submission} :
    s.edit now change = .ok t ↔
      s.status = .opened ∧ ∃ u, change s = .ok u ∧ t = u.touch now := by
  simp only [edit, bind_eq_ok, demand_eq_ok, List.mem_singleton, pure, Except.pure,
    Except.ok.injEq, @eq_comm _ t, exists_const]

/-- An edit that is never refused for what it changes. -/
theorem edit_ok_eq_ok {s t : Submission} {now : Instant} {change : Submission → Submission} :
    s.edit now (fun s => .ok (change s)) = .ok t ↔
      s.status = .opened ∧ t = (change s).touch now := by
  simp only [edit_eq_ok, Except.ok.injEq, exists_eq_left']

theorem editCompany_eq_ok {s t : Submission} {company : Company} {now : Instant} :
    s.editCompany company now = .ok t ↔
      s.status = .opened ∧ t = { s with company := some company, modifiedAt := now } :=
  edit_ok_eq_ok

theorem editForm_eq_ok {s t : Submission} {desk : CatalogDesk} {formType : String}
    {now : Instant} :
    s.editForm desk formType now = .ok t ↔
      s.status = .opened ∧ ∃ fee, desk.resolveFee formType now = .ok fee ∧
        t = { s.updateForm ({ · with formType := some (Text.trim formType) }) with
          fee := fee.storedAmount, modifiedAt := now } := by
  simp only [editForm, edit_eq_ok, bind_eq_ok, refuse_eq_ok, touch, pure, Except.pure,
    Except.ok.injEq]
  constructor
  · rintro ⟨ho, _, ⟨fee, hfee, rfl⟩, rfl⟩
    exact ⟨ho, fee, hfee, rfl⟩
  · rintro ⟨ho, fee, hfee, rfl⟩
    exact ⟨ho, _, ⟨fee, hfee, rfl⟩, rfl⟩

theorem editFiles_eq_ok {s t : Submission} {files : List File} {now : Instant} :
    s.editFiles files now = .ok t ↔
      s.status = .opened ∧
        t = { s.updateForm ({ · with files := files.map (startOver now) }) with
          modifiedAt := now } :=
  edit_ok_eq_ok

theorem editSessions_eq_ok {s t : Submission} {sessions : List PaymentSession} {now : Instant} :
    s.editSessions sessions now = .ok t ↔
      s.status = .opened ∧ t = { s with sessions := sessions, modifiedAt := now } :=
  edit_ok_eq_ok

theorem editAuthorised_eq_ok {s t : Submission} {authorised : Bool} {now : Instant} :
    s.editAuthorised authorised now = .ok t ↔
      s.status = .opened ∧ t = { s with authorised := some authorised, modifiedAt := now } :=
  edit_ok_eq_ok

/-! ## Completion -/

/-- A submission may be completed when no rule finds a fault. -/
theorem validate_eq_ok {s : Submission} {form : Option FormTemplate} {fee : FeeResolution} :
    s.validate form fee = .ok () ↔ ∀ rule ∈ rules, rule s form fee = none := by
  rw [← List.findSome?_eq_none_iff, validate]
  cases rules.findSome? fun rule => rule s form fee <;> simp

/-- An open submission after it was priced: it waits for the payment, or is submitted at once. -/
def priced (s : Submission) (fee : FeeResolution) (now : Instant) : Submission :=
  if fee.payable.isSome then
    { s with fee := fee.storedAmount, status := .paymentRequired, modifiedAt := now }
  else
    { s with
      fee := fee.storedAmount, submittedAt := some now, status := .submitted, modifiedAt := now }

theorem price_eq_ok {s t : Submission} {fee : FeeResolution} {now : Instant}
    (h : s.status = .opened) : s.price fee now = .ok t ↔ t = s.priced fee now := by
  rw [price, priced]
  split <;> simp [advance_eq_ok, h, Status.mayBecome]

theorem complete_eq_ok {s t : Submission} {desk : CatalogDesk} {now : Instant} :
    s.complete desk now = .ok t ↔
      s.status = .opened ∧ ∃ form fee, s.registeredForm desk = .ok form ∧
        s.currentFee desk now = .ok fee ∧ s.validate form fee = .ok () ∧
        t = s.priced fee now := by
  simp only [complete, bind_eq_ok, demand_eq_ok, refuse_eq_ok, List.mem_singleton]
  constructor
  · rintro ⟨_, ho, form, hform, fee, hfee, _, hvalid, hprice⟩
    exact ⟨ho, form, fee, hform, hfee, hvalid, (price_eq_ok ho).1 hprice⟩
  · rintro ⟨ho, form, fee, hform, hfee, hvalid, ht⟩
    exact ⟨(), ho, form, hform, fee, hfee, (), hvalid, (price_eq_ok ho).2 ht⟩

/-! ## Payment -/

/-- A payment session after a report about it. -/
def PaymentReport.applied (report : PaymentReport) (p : PaymentSession) : PaymentSession :=
  { p with state := report.state, reference := report.reference.or p.reference }

/-- A report is about the first session that it names. -/
theorem exists_split_of_applyReport {report : PaymentReport} {ps qs : List PaymentSession}
    (h : applyReport report ps = some qs) :
    ∃ before p after, ps = before ++ p :: after ∧ (∀ q ∈ before, q.id ≠ report.sessionId) ∧
      p.id = report.sessionId ∧ qs = before ++ report.applied p :: after := by
  induction ps generalizing qs with
  | nil => cases h
  | cons p rest ih =>
    rw [applyReport] at h
    split at h
    · next hid =>
      obtain rfl := Option.some.inj h
      exact ⟨[], p, rest, rfl, List.forall_mem_nil _, hid, rfl⟩
    · next hid =>
      obtain ⟨rest', hrest, rfl⟩ := Option.map_eq_some_iff.1 h
      obtain ⟨before, q, after, rfl, hbefore, hq, rfl⟩ := ih hrest
      exact ⟨p :: before, q, after, rfl, List.forall_mem_cons.2 ⟨hid, hbefore⟩, hq, rfl⟩

/-- A submission that waits for its payment, after a report about one of its sessions. -/
def settled (s : Submission) (state : PaymentState) (now : Instant) : Submission :=
  match state with
  | .paid =>
    { s with
      submittedAt := some now, paidAt := some now, status := .submitted, modifiedAt := now }
  | .failed | .cancelled => { s with status := .paymentFailed, modifiedAt := now }
  | .pending => { s with modifiedAt := now }

theorem settle_eq_ok {s t : Submission} {state : PaymentState} {now : Instant}
    (h : s.status = .paymentRequired ∨ s.status = .paymentFailed) :
    s.settle state now = .ok t ↔ t = s.settled state now := by
  have hsubmit : s.status.mayBecome .submitted = true := by
    obtain h | h := h <;> rw [h] <;> rfl
  -- a failure moves a submission on only once; after that it stays where it is
  have hfail : (if s.status = .paymentRequired then s.advance .paymentFailed now
      else .ok (s.touch now)) = .ok t ↔
      t = { s with status := .paymentFailed, modifiedAt := now } := by
    obtain h | h := h
    · rw [if_pos h, advance_eq_ok, h]
      exact and_iff_right rfl
    · rw [if_neg (by rw [h]; decide), Except.ok.injEq, eq_comm, touch, ← h]
  cases state with
  | paid => simp only [settle, settled, advance_eq_ok, hsubmit, true_and]
  | failed => exact hfail
  | cancelled => exact hfail
  | pending => simp only [settle, settled, touch, Except.ok.injEq, @eq_comm _ t]

theorem recordPayment_eq_ok {s t : Submission} {report : PaymentReport} {now : Instant} :
    s.recordPayment report now = .ok t ↔
      (s.status = .paymentRequired ∨ s.status = .paymentFailed) ∧
        ∃ sessions, applyReport report s.sessions = some sessions ∧
          t = ({ s with sessions := sessions } : Submission).settled report.state now := by
  simp only [recordPayment, bind_eq_ok, demand_eq_ok, List.mem_cons, List.not_mem_nil, or_false,
    exists_const]
  refine and_congr_right fun hs => ?_
  cases hr : applyReport report s.sessions with
  | none => simp
  | some sessions =>
    have hs' : ({ s with sessions := sessions } : Submission).status = .paymentRequired ∨
        ({ s with sessions := sessions } : Submission).status = .paymentFailed := hs
    simp only [settle_eq_ok hs', Option.some.injEq, exists_eq_left']

/-! ## Files -/

@[simp] theorem files_queueFiles (s : Submission) (now : Instant) :
    (s.queueFiles now).files =
      s.files.map fun f => { f with status := .queued, modifiedAt := some now } := by
  cases h : s.form <;> simp [queueFiles, files, h]

theorem mayBecome_destination (verdict : Verdict) (form : Option FormTemplate) :
    Status.processing.mayBecome (verdict.destination form) = true := by
  cases verdict with
  | rejectedByVirusScan => rfl
  | rejectedByDocumentConverter => rfl
  | accepted =>
    cases form with
    | none => rfl
    | some form =>
      rw [Verdict.destination]
      split <;> rfl

theorem destination_ne_processing (verdict : Verdict) (form : Option FormTemplate) :
    verdict.destination form ≠ .processing := by
  intro h
  have hm := mayBecome_destination verdict form
  rw [h] at hm
  exact absurd hm (by decide)

/-- A submitted submission with its files queued: it is under way, or, where it has no files, at the
status that an accepted one is moved to. -/
theorem queue_eq_ok {s t : Submission} {desk : CatalogDesk} {now : Instant} :
    s.queue desk now = .ok t ↔
      s.status = .submitted ∧
        if s.files.isEmpty then
          ∃ form, s.registeredForm desk = .ok form ∧
            t = { s.queueFiles now with
              status := Verdict.accepted.destination form, modifiedAt := now }
        else t = { s.queueFiles now with status := .processing, modifiedAt := now } := by
  let u : Submission := { s.queueFiles now with status := .processing, modifiedAt := now }
  have hempty : u.files.isEmpty = s.files.isEmpty := by
    have h : u.files = (s.queueFiles now).files := rfl
    rw [h, files_queueFiles, List.isEmpty_map]
  have hform : u.registeredForm desk = s.registeredForm desk := by
    refine registeredForm_congr ?_ desk
    cases h : s.form <;> simp [u, formType?, queueFiles, h]
  have hmoved : s.queue desk now = .ok t ↔ s.status = .submitted ∧
      (if u.files.isEmpty then do
        let form ← u.registeredForm desk
        u.advance (Verdict.accepted.destination form) now
      else return u) = Except.ok t := by
    simp only [queue, bind_eq_ok, demand_eq_ok, List.mem_singleton, advance_eq_ok, exists_const]
    refine and_congr_right fun hs => ?_
    rw [hs]
    constructor
    · rintro ⟨_, ⟨-, rfl⟩, ht⟩
      exact ht
    · intro ht
      exact ⟨_, ⟨rfl, rfl⟩, ht⟩
  rw [hmoved, hempty, hform]
  refine and_congr_right fun _ => ?_
  split
  · simp only [bind_eq_ok, advance_eq_ok, u, mayBecome_destination, true_and]
  · simp only [pure, Except.pure, Except.ok.injEq, @eq_comm _ t, u]

/-! ## Reports on files -/

theorem recordOutcome_status {s t : Submission} {fileId : String} {outcome : FileOutcome}
    {now : Instant} {progress : Progress}
    (h : s.recordOutcome fileId outcome now = .ok (progress, t)) :
    t.status = s.status ∧ t.formType? = s.formType? := by
  obtain ⟨file, -, h⟩ := recordOutcome_eq_ok.1 h
  split at h
  · rw [h.2]
    exact ⟨rfl, rfl⟩
  · rw [h.2, formType?_decideFile]
    exact ⟨rfl, rfl⟩

/-- A report on a submission under way is recorded; the last one moves the submission on. -/
theorem report_eq_ok {s t : Submission} {desk : CatalogDesk} {fileId : String}
    {outcome : FileOutcome} {now : Instant} {progress : Progress} :
    s.report desk fileId outcome now = .ok (progress, t) ↔
      s.status = .processing ∧ ∃ u, s.recordOutcome fileId outcome now = .ok (progress, u) ∧
        match progress.verdict? with
        | none => t = u
        | some verdict => ∃ form, s.registeredForm desk = .ok form ∧
          t = { u with status := verdict.destination form, modifiedAt := now } := by
  simp only [report, bind_eq_ok, demand_eq_ok, List.mem_singleton, exists_const, refuse_eq_ok,
    Prod.exists]
  refine and_congr_right fun hs => ?_
  constructor
  · rintro ⟨p, u, hu, h⟩
    obtain ⟨hstatus, htype⟩ := recordOutcome_status hu
    cases hv : p.verdict? with
    | none =>
      rw [hv] at h
      obtain ⟨rfl, rfl⟩ := Prod.mk.inj (Except.ok.inj h)
      exact ⟨_, hu, by rw [hv]⟩
    | some verdict =>
      simp only [hv, bind_eq_ok, registeredForm, htype, advance_eq_ok, pure, Except.pure,
        Except.ok.injEq, Prod.mk.injEq] at h
      obtain ⟨form, hform, _, ⟨-, rfl⟩, rfl, rfl⟩ := h
      refine ⟨u, hu, ?_⟩
      rw [hv]
      exact ⟨form, hform, rfl⟩
  · rintro ⟨u, hu, h⟩
    obtain ⟨hstatus, htype⟩ := recordOutcome_status hu
    refine ⟨progress, u, hu, ?_⟩
    cases hv : progress.verdict? with
    | none =>
      rw [hv] at h
      rw [h]
      rfl
    | some verdict =>
      rw [hv] at h
      obtain ⟨form, hform, rfl⟩ := h
      simp only [bind_eq_ok, registeredForm, htype, advance_eq_ok, hstatus, hs, pure, Except.pure,
        mayBecome_destination, true_and, exists_eq_left]
      exact ⟨form, hform, rfl⟩

/-! ## The registration system -/

theorem adjudicate_eq_ok {s t : Submission} {outcome : FesOutcome}
    {reasons : String → List String} {now : Instant} :
    s.adjudicate outcome reasons now = .ok t ↔
      s.status = .sentToFes ∧
        t = match outcome with
          | .accepted => { s with status := .accepted, modifiedAt := now }
          | .rejected =>
            { s with
              rejectReasons := (s.barcode?.map reasons).getD [], status := .rejected,
              modifiedAt := now } := by
  simp only [adjudicate, bind_eq_ok, demand_eq_ok, List.mem_singleton, exists_const]
  refine and_congr_right fun hs => ?_
  cases outcome with
  | accepted =>
    simp only [advance_eq_ok, hs]
    exact and_iff_right rfl
  | rejected =>
    simp only [advance_eq_ok, hs]
    exact and_iff_right rfl

end Submission

end Filing
