import Filing.Proofs.Completeness
import Filing.Proofs.Lifecycle

/-!
# A filing that has left its editing

Once a submission is completed, nobody edits it any more.  Five kinds of work still write its
record: payments, the start of the checks, reports on files, the hand-over and the decision of the
registration system.  All of them write beside what was filed, whatever the catalog says by then.

The two instants on record need more than a look at the moves, because a payment does set them.  It
is never the second time: as long as a submission is still to be submitted, neither of them is
there.

* `Move.stamps` — the one place in the lifecycle at which a move sets them;
* `Submission.kept_unstamped` — before that place, neither is set;
* `Submission.Frozen` — what is filed is the same, and an instant on record is still there;
* `Office.Reachable.frozen` — **a submission that is not open is frozen**, through any run.
-/

set_option autoImplicit false

namespace Filing

/-! ## The instants on record -/

namespace Submission

/-- The submission is still to be submitted: it is edited, or it waits for its payment. -/
def IsPending (s : Submission) : Prop :=
  s.status.rank < Status.submitted.rank

/-- Neither the submission nor a payment has a time yet. -/
structure Unstamped (s : Submission) : Prop where
  submittedAt : s.submittedAt = none
  paidAt : s.paidAt = none

end Submission

theorem Submission.not_isPending {s : Submission} {status : Status} (h : s.status = status)
    (hrank : Status.submitted.rank ≤ status.rank) : ¬s.IsPending := by
  rw [IsPending, h]
  omega

open Submission in
/-- A move leaves the two instants alone, and what is still to be submitted where it is; or it is the
one that submits the submission, and whatever it sets is the time. -/
theorem Move.stamps {o : Office} {s t : Submission} (h : Move o s t) :
    (t.submittedAt = s.submittedAt ∧ t.paidAt = s.paidAt ∧ (s.IsPending → t.IsPending)) ∨
      (s.IsPending ∧ t.status = .submitted ∧ t.submittedAt = some o.clock ∧
        (t.paidAt = s.paidAt ∨ t.paidAt = some o.clock)) := by
  cases h with
  | company company h =>
    obtain ⟨-, rfl⟩ := editCompany_eq_ok.1 h
    exact .inl ⟨rfl, rfl, id⟩
  | form formType h =>
    obtain ⟨-, fee, -, rfl⟩ := editForm_eq_ok.1 h
    exact .inl ⟨rfl, rfl, id⟩
  | files files h =>
    obtain ⟨-, rfl⟩ := editFiles_eq_ok.1 h
    exact .inl ⟨rfl, rfl, id⟩
  | sessions sessions h =>
    obtain ⟨-, rfl⟩ := editSessions_eq_ok.1 h
    exact .inl ⟨rfl, rfl, id⟩
  | authorised authorised h =>
    obtain ⟨-, rfl⟩ := editAuthorised_eq_ok.1 h
    exact .inl ⟨rfl, rfl, id⟩
  | complete h =>
    obtain ⟨hopened, form, fee, -, -, -, rfl⟩ := complete_eq_ok.1 h
    rw [priced]
    split
    · exact .inl ⟨rfl, rfl, fun _ => by simp [IsPending, Status.rank]⟩
    · exact .inr ⟨by simp [IsPending, hopened, Status.rank], rfl, rfl, .inl rfl⟩
  | payment report h =>
    obtain ⟨hwaiting, sessions, -, rfl⟩ := recordPayment_eq_ok.1 h
    cases report.state with
    | paid =>
      refine .inr ⟨?_, rfl, rfl, .inr rfl⟩
      rcases hwaiting with h | h <;> simp [IsPending, h, Status.rank]
    | failed => exact .inl ⟨rfl, rfl, fun _ => by simp [IsPending, settled, Status.rank]⟩
    | cancelled => exact .inl ⟨rfl, rfl, fun _ => by simp [IsPending, settled, Status.rank]⟩
    | pending => exact .inl ⟨rfl, rfl, id⟩
  | queue h =>
    obtain ⟨hsubmitted, h⟩ := queue_eq_ok.1 h
    have hpast := not_isPending hsubmitted (by decide)
    split at h
    · obtain ⟨form, -, rfl⟩ := h
      exact .inl ⟨rfl, rfl, fun h => absurd h hpast⟩
    · subst h
      exact .inl ⟨rfl, rfl, fun h => absurd h hpast⟩
  | report fileId outcome progress h hnew =>
    obtain ⟨hprocessing, u, hu, h⟩ := report_eq_ok.1 h
    have hpast := not_isPending hprocessing (by decide)
    obtain ⟨file, -, -, -, rfl⟩ := recordOutcome_not_duplicate hu hnew
    split at h
    · subst h
      exact .inl ⟨rfl, rfl, id⟩
    · obtain ⟨form, -, rfl⟩ := h
      exact .inl ⟨rfl, rfl, fun h => absurd h hpast⟩
  | barcode => exact .inl ⟨rfl, rfl, id⟩
  | sent hready => exact .inl ⟨rfl, rfl, fun h => absurd h (not_isPending hready (by decide))⟩
  | adjudicate outcome h =>
    obtain ⟨hsent, rfl⟩ := adjudicate_eq_ok.1 h
    have hpast := not_isPending hsent (by decide)
    cases outcome <;> exact .inl ⟨rfl, rfl, fun h => absurd h hpast⟩

namespace Submission

variable {o : Office} {s t u : Submission}

/-- There is no way back to where a submission is still to be submitted. -/
theorem IsPending.of_move (ht : t.IsPending) (h : Move o s t) : s.IsPending := by
  have hstatus : t.status = s.status ∨ s.status.rank < t.status.rank := h.follows.later.status
  simp only [IsPending] at ht ⊢
  rcases hstatus with heq | hlt
  · rwa [← heq]
  · omega

/-- **A submission that is still to be submitted has neither instant on record.** -/
theorem kept_unstamped : Kept fun s => s.IsPending → s.Unstamped where
  opened _ _ _ _ _ := ⟨rfl, rfl⟩
  moved := by
    intro o s t hs h ht
    rcases h.stamps with ⟨hsubmitted, hpaid, -⟩ | ⟨-, hstatus, -, -⟩
    · obtain ⟨hnever, hunpaid⟩ := hs (ht.of_move h)
      exact ⟨hsubmitted.trans hnever, hpaid.trans hunpaid⟩
    · simp [IsPending, hstatus] at ht
  stored _ hs h := by
    obtain ⟨hnever, hunpaid⟩ := hs h
    exact ⟨hnever, hunpaid⟩

/-! ## What is frozen -/

/-- What was filed is the same, down to how the form type is written, and an instant that is on
record stays there. -/
structure Frozen (s t : Submission) : Prop extends SameFiling s t where
  typed : t.typed? = s.typed?
  submittedAt : ∀ now, s.submittedAt = some now → t.submittedAt = some now
  paidAt : ∀ now, s.paidAt = some now → t.paidAt = some now

theorem Frozen.refl (s : Submission) : s.Frozen s :=
  ⟨⟨rfl, rfl, rfl, rfl, rfl, rfl, rfl, rfl⟩, rfl, fun _ h => h, fun _ h => h⟩

theorem SameFiling.trans (h : s.SameFiling t) (h' : t.SameFiling u) : s.SameFiling u where
  formType := h'.formType.trans h.formType
  documents := h'.documents.trans h.documents
  sessions := h'.sessions.trans h.sessions
  fee := h'.fee.trans h.fee
  authorised := h'.authorised.trans h.authorised
  company := h'.company.trans h.company
  presenter := h'.presenter.trans h.presenter
  reference := h'.reference.trans h.reference

theorem Frozen.trans (h : s.Frozen t) (h' : t.Frozen u) : s.Frozen u where
  toSameFiling := h.toSameFiling.trans h'.toSameFiling
  typed := h'.typed.trans h.typed
  submittedAt now hs := h'.submittedAt now (h.submittedAt now hs)
  paidAt now hs := h'.paidAt now (h.paidAt now hs)

/-- **No move of a submission that is not open touches what is frozen.** -/
theorem frozen_of_move (h : Move o s t) (hopened : s.status ≠ .opened)
    (hs : s.IsPending → s.Unstamped) : s.Frozen t := by
  have hfiling := h.change.sameFiling hopened
  have htyped := h.change.typed?_eq hopened
  rcases h.stamps with ⟨hsubmitted, hpaid, -⟩ | ⟨hpending, -, -, -⟩
  · exact ⟨hfiling, htyped, fun now hnow => hsubmitted.trans hnow, fun now hnow => hpaid.trans hnow⟩
  · -- it is submitted by this move, so there is no instant to lose
    obtain ⟨hnever, hunpaid⟩ := hs hpending
    exact ⟨hfiling, htyped, by simp [hnever], by simp [hunpaid]⟩

theorem Frozen.stored (h : s.Frozen t) (version : UInt64) : s.Frozen (t.stored version) := by
  obtain ⟨⟨hformType, hdocuments, hsessions, hfee, hauthorised, hcompany, hpresenter, hreference⟩,
    htyped, hsubmitted, hpaid⟩ := h
  exact ⟨⟨hformType, hdocuments, hsessions, hfee, hauthorised, hcompany, hpresenter, hreference⟩,
    htyped, hsubmitted, hpaid⟩

end Submission

/-! ## In every run -/

open Submission in
/-- **A filing is frozen once it has left its editing.**  Take a submission that is stored and not
open in an office that operations lead to, and let more operations follow, with the catalog and
everything else around the store changing as it may.  The submission is still stored: its company,
its presenter, the answer whether it is authorised, its fee, its form type, its files with their
names and sizes and its payment sessions are the same, and so are the instants of its submission and
of its payment once they are set. -/
theorem Office.Reachable.frozen {o o' : Office} (h : o.Reachable) (hlater : Leads SameStore o o')
    {s : Submission} (hs : s ∈ o.store.records) (hstatus : s.status ≠ .opened) :
    ∃ t, o'.store.find? s.id = some t ∧ s.Frozen t := by
  let P (t : Submission) : Prop :=
    s.Frozen t ∧ t.status ≠ .opened ∧ (t.IsPending → t.Unstamped)
  have hstart : P s := ⟨.refl s, hstatus, h.kept kept_unstamped s hs⟩
  have hmoved {o : Office} {t u : Submission} (ht : P t) (hmove : Move o t u) :
      P (u.stored t.version) := by
    obtain ⟨hfrozen, hopened, hunstamped⟩ := ht
    have hnext := frozen_of_move hmove hopened hunstamped
    exact ⟨(hfrozen.trans hnext).stored _, hmove.change.ne_opened hopened,
      kept_unstamped.stored _ (kept_unstamped.moved hunstamped hmove)⟩
  obtain ⟨t, ht, hfrozen, -⟩ :=
    hlater.find?_kept (P := P) hmoved h.undisturbed (Store.find?_of_mem hs) hstart
  exact ⟨t, ht, hfrozen⟩

namespace Office

/-- The office with another catalog. -/
def withCatalog (o : Office) (catalog : Catalog) : Office :=
  { o with desk := { o.desk with catalog := catalog } }

/-- A filing that is paid for, whose form is taken out of the catalog while it is under way, and
which is rejected in the end. -/
def rejectedStrikeOff : Office :=
  let june : Instant := ⟨1717200000, 0⟩
  (paidStrikeOff.withCatalog .empty).run
    [(june, .editForm "sub-1" "SH19"),
      (june, .queue "sub-1"),
      (june, .report "sub-1" "application" (.converted (some "c-1") (some 3))),
      (june, .recordPayment "sub-1" ⟨"session", .paid, some "PAY-2"⟩),
      (june, .handOver "sub-1"),
      (june, .adjudicate "sub-1" .rejected)]

theorem frozen_paidStrikeOff :
    ∃ s ∈ paidStrikeOff.store.records, s.status = .submitted ∧ s.paidAt = some ⟨1714608000, 0⟩ ∧
      ∃ t, rejectedStrikeOff.store.find? s.id = some t ∧ t.status = .rejected ∧ s.Frozen t := by
  have hreach : paidStrikeOff.Reachable := (Reachable.opened _ _ _ _).run _
  have hempty : Leads SameStore paidStrikeOff (paidStrikeOff.withCatalog .empty) :=
    .between .refl ⟨rfl, hreach.undisturbed⟩
  have hlater : Leads SameStore paidStrikeOff rejectedStrikeOff := hempty.run _
  have hfound : ∃ s ∈ paidStrikeOff.store.records, s.status = .submitted ∧
      s.paidAt = some ⟨1714608000, 0⟩ ∧
      (rejectedStrikeOff.store.find? s.id).map (·.status) = some .rejected := by
    decide +kernel
  obtain ⟨s, hs, hstatus, hpaid, hrejected⟩ := hfound
  have hpast : s.status ≠ .opened := by
    rw [hstatus]
    decide
  obtain ⟨t, ht, hfrozen⟩ := hreach.frozen hlater hs hpast
  rw [ht] at hrejected
  exact ⟨s, hs, hstatus, hpaid, t, ht, Option.some.inj hrejected, hfrozen⟩

end Office

end Filing
