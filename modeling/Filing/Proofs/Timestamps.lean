import Filing.Proofs.Frozen

/-!
# The instants on a record

A record carries an instant for its opening, its submission, its payment and its last change, and
one for the last change of every file.  Each of them is the time of the operation that wrote it.  So
as long as the clock is never set back, they lie in the order in which things happened.

* `Move.written` — every move is dated, and so is every file that it touches;
* `Submission.Dated` — the instants on a record are in order, and none is after the given one;
* `Office.OnTime` — later offices, when the clock is never set back;
* `Office.OnTime.chronological` — **the instants of every stored submission are in order**, and from
  one stored version to the next the last change never moves back.
-/

set_option autoImplicit false

namespace Filing

/-! ## Moves -/

open Submission in
/-- A move is dated, and a file that it touches is dated with it. -/
theorem Move.written {o : Office} {s t : Submission} (h : Move o s t) :
    t.modifiedAt = o.clock ∧ ∀ f ∈ t.files, f ∈ s.files ∨ f.modifiedAt = some o.clock := by
  have hdecided {fileId : String} {outcome : FileOutcome} {f : File}
      (hf : f ∈ (s.decideFile fileId outcome o.clock).files) :
      f ∈ s.files ∨ f.modifiedAt = some o.clock := by
    rw [files_decideFile] at hf
    obtain hf | ⟨g, -, -, rfl⟩ := File.mem_updateFirst hf
    · exact .inl hf
    · cases outcome <;> exact .inr rfl
  have hqueued {f : File} (hf : f ∈ (s.queueFiles o.clock).files) :
      f ∈ s.files ∨ f.modifiedAt = some o.clock := by
    rw [files_queueFiles] at hf
    obtain ⟨g, -, rfl⟩ := List.mem_map.1 hf
    exact .inr rfl
  cases h with
  | company company h =>
    obtain ⟨-, rfl⟩ := editCompany_eq_ok.1 h
    exact ⟨rfl, fun _ hf => .inl hf⟩
  | form formType h =>
    obtain ⟨-, fee, -, rfl⟩ := editForm_eq_ok.1 h
    have hfiles : (s.updateForm ({ · with formType := some (Text.trim formType) })).files =
        s.files := s.files_updateForm fun _ => rfl
    exact ⟨rfl, fun _ hf => .inl (hfiles ▸ hf)⟩
  | files files h =>
    obtain ⟨-, rfl⟩ := editFiles_eq_ok.1 h
    refine ⟨rfl, fun f hf => ?_⟩
    obtain ⟨g, -, rfl⟩ := List.mem_map.1 hf
    exact .inr rfl
  | sessions sessions h =>
    obtain ⟨-, rfl⟩ := editSessions_eq_ok.1 h
    exact ⟨rfl, fun _ hf => .inl hf⟩
  | authorised authorised h =>
    obtain ⟨-, rfl⟩ := editAuthorised_eq_ok.1 h
    exact ⟨rfl, fun _ hf => .inl hf⟩
  | complete h =>
    obtain ⟨-, form, fee, -, -, -, rfl⟩ := complete_eq_ok.1 h
    refine ⟨?_, fun f hf => .inl ?_⟩
    · rw [priced]
      split <;> rfl
    · rwa [files_priced] at hf
  | payment report h =>
    obtain ⟨-, sessions, -, rfl⟩ := recordPayment_eq_ok.1 h
    refine ⟨?_, fun f hf => .inl ?_⟩
    · cases report.state <;> rfl
    · rwa [files_settled] at hf
  | queue h =>
    obtain ⟨-, h⟩ := queue_eq_ok.1 h
    split at h
    · obtain ⟨form, -, rfl⟩ := h
      exact ⟨rfl, fun _ hf => hqueued hf⟩
    · subst h
      exact ⟨rfl, fun _ hf => hqueued hf⟩
  | report fileId outcome progress h hnew =>
    obtain ⟨-, u, hu, h⟩ := report_eq_ok.1 h
    obtain ⟨file, -, -, -, rfl⟩ := recordOutcome_not_duplicate hu hnew
    split at h
    · subst h
      exact ⟨rfl, fun _ hf => hdecided hf⟩
    · obtain ⟨form, -, rfl⟩ := h
      exact ⟨rfl, fun _ hf => hdecided hf⟩
  | barcode barcode h hnone =>
    have hfiles : (s.updateForm ({ · with barcode := some barcode })).files = s.files :=
      s.files_updateForm fun _ => rfl
    exact ⟨rfl, fun _ hf => .inl (hfiles ▸ hf)⟩
  | sent h hsome => exact ⟨rfl, fun _ hf => .inl hf⟩
  | adjudicate outcome h =>
    obtain ⟨-, rfl⟩ := adjudicate_eq_ok.1 h
    cases outcome <;> exact ⟨rfl, fun _ hf => .inl hf⟩

/-! ## Records -/

namespace Submission

/-- The instants on a record are in order, and none is after the given one. -/
structure Dated (now : Instant) (s : Submission) : Prop where
  created : s.createdAt ≤ s.modifiedAt
  modified : s.modifiedAt ≤ now
  /-- The submission has a time once it is submitted. -/
  stamped : s.submittedAt.isSome ↔
    s.status ∉ [Status.opened, .paymentRequired, .paymentFailed]
  submitted : ∀ t, s.submittedAt = some t → s.createdAt ≤ t ∧ t ≤ s.modifiedAt
  paid : ∀ t, s.paidAt = some t → s.submittedAt = some t
  files : ∀ f ∈ s.files, ∃ t, f.modifiedAt = some t ∧ s.createdAt ≤ t ∧ t ≤ s.modifiedAt

variable {o : Office} {now now' : Instant} {s t : Submission}

theorem isPending_iff :
    s.IsPending ↔ s.status ∈ [Status.opened, .paymentRequired, .paymentFailed] := by
  rw [IsPending]
  cases s.status <;> decide

/-- A fresh submission is dated with its opening. -/
theorem dated_opened (id reference : String) (presenter : Option Presenter) (now : Instant) :
    (opened id reference presenter now).Dated now where
  created := Instant.le_refl now
  modified := Instant.le_refl now
  stamped := by simp [opened]
  submitted := by rintro t ⟨⟩
  paid := by rintro t ⟨⟩
  files := by rintro f ⟨⟩

theorem Dated.mono (h : s.Dated now) (hnow : now ≤ now') : s.Dated now' :=
  { h with modified := Instant.le_trans h.modified hnow }

theorem Dated.stored (h : s.Dated now) (version : UInt64) : (s.stored version).Dated now :=
  ⟨h.created, h.modified, h.stamped, h.submitted, h.paid, h.files⟩

/-- **A move keeps the instants in order.** -/
theorem Dated.move (hs : s.Dated o.clock) (h : Move o s t) : t.Dated o.clock := by
  obtain ⟨hmodified, hfiles⟩ := h.written
  have hcreated : t.createdAt = s.createdAt := h.sameOrigin.createdAt
  have hsince : s.createdAt ≤ o.clock := Instant.le_trans hs.created hs.modified
  have hnone (hpending : s.IsPending) : s.submittedAt = none := by
    rw [← Option.not_isSome_iff_eq_none, hs.stamped, ← isPending_iff, not_not]
    exact hpending
  refine ⟨?_, ?_, ?_, ?_, ?_, ?_⟩
  · rw [hcreated, hmodified]
    exact hsince
  · rw [hmodified]
    exact Instant.le_refl _
  · rw [← isPending_iff]
    rcases h.stamps with ⟨hsubmitted, -, hpending⟩ | ⟨-, hstatus, hsubmitted, -⟩
    · rw [hsubmitted, hs.stamped, ← isPending_iff]
      exact not_congr ⟨hpending, fun ht => ht.of_move h⟩
    · simp [hsubmitted, IsPending, hstatus]
  · intro time htime
    rw [hcreated, hmodified]
    rcases h.stamps with ⟨hsubmitted, -, -⟩ | ⟨-, -, hsubmitted, -⟩
    · obtain ⟨hafter, hbefore⟩ := hs.submitted time (hsubmitted ▸ htime)
      exact ⟨hafter, Instant.le_trans hbefore hs.modified⟩
    · obtain rfl : o.clock = time := Option.some.inj (hsubmitted.symm.trans htime)
      exact ⟨hsince, Instant.le_refl _⟩
  · intro time htime
    rcases h.stamps with ⟨hsubmitted, hpaid, -⟩ | ⟨hpending, -, hsubmitted, hpaid | hpaid⟩
    · rw [hsubmitted]
      exact hs.paid time (hpaid ▸ htime)
    · -- what is still to be submitted is not paid for either
      have hpaid' := hs.paid time (hpaid ▸ htime)
      rw [hnone hpending] at hpaid'
      cases hpaid'
    · rw [hsubmitted, ← hpaid]
      exact htime
  · intro f hf
    rw [hcreated, hmodified]
    rcases hfiles f hf with hold | hnew
    · obtain ⟨time, htime, hafter, hbefore⟩ := hs.files f hold
      exact ⟨time, htime, hafter, Instant.le_trans hbefore hs.modified⟩
    · exact ⟨o.clock, hnew, hsince, Instant.le_refl _⟩

end Submission

/-! ## Later offices -/

namespace Office

/-- The offices that operations lead to from an office while the clock is never set back.  Between
two operations everything but the store may change. -/
inductive OnTime (o : Office) : Office → Prop
  | refl : OnTime o o
  | between {o₁ o₂} (h : OnTime o o₁) (hstore : SameStore o₁ o₂) (hclock : o₁.clock ≤ o₂.clock) :
      OnTime o o₂
  | step {o₁} (h : OnTime o o₁) (now : Instant) (hnow : o₁.clock ≤ now) (operation : Operation) :
      OnTime o (o₁.step now operation).2

namespace OnTime

variable {o o' : Office}

theorem leads (h : OnTime o o') : Leads SameStore o o' := by
  induction h with
  | refl => exact .refl
  | between _ hstore _ ih => exact .between ih hstore
  | step _ now _ operation ih => exact .step ih now operation

/-- What a run is like when the instants of its operations are in order. -/
theorem run (h : OnTime o o') {operations : List (Instant × Operation)}
    (hordered : (o'.clock :: operations.map (·.1)).Pairwise (· ≤ ·))
    (ho : o'.Undisturbed) : OnTime o (o'.run operations) := by
  induction operations generalizing o' with
  | nil => exact h
  | cons operation rest ih =>
    rw [List.map_cons, List.pairwise_cons, List.pairwise_cons] at hordered
    obtain ⟨hnow, hrest, hordered⟩ := hordered
    have hworks := step_works ho operation.1 operation.2
    have hclock : (o'.step operation.1 operation.2).2.clock = operation.1 := hworks.clock_eq
    refine ih (.step h operation.1 (hnow _ List.mem_cons_self) operation.2) ?_
      (hworks.undisturbed ho)
    rw [hclock]
    exact List.pairwise_cons.2 ⟨hrest, hordered⟩

/-- **What every change keeps, and a clock that goes on, holds of every later office.** -/
theorem invariant {P : Office → Prop} (hundisturbed : ∀ o, P o → o.Undisturbed)
    (hclock : ∀ o o', P o → SameStore o o' → o.clock ≤ o'.clock → P o')
    (heffect : ∀ o o', P o → Effect (fun _ => True) o o' → P o')
    (h : OnTime o o') (ho : P o) : P o' := by
  induction h with
  | refl => exact ho
  | between _ hstore hnow ih => exact hclock _ _ ih hstore hnow
  | @step o₁ _ now hnow operation ih =>
    have hworks := step_works (hundisturbed o₁ ih) now operation
    have hstart : P { o₁ with clock := now } :=
      hclock o₁ _ ih ⟨rfl, hundisturbed o₁ ih⟩ hnow
    generalize (o₁.step now operation).2 = o₂ at hworks ⊢
    induction hworks with
    | refl => exact hstart
    | tail _ he ih => exact heffect _ _ ih he

end OnTime

/-- Every stored submission is dated, by what the clock shows. -/
structure AllDated (o : Office) : Prop where
  undisturbed : o.Undisturbed
  dated : ∀ s ∈ o.store.records, s.Dated o.clock

variable {o o' : Office}

theorem AllDated.between (ho : o.AllDated) (hstore : SameStore o o') (hclock : o.clock ≤ o'.clock) :
    o'.AllDated := by
  refine ⟨hstore.undisturbed, fun s hs => ?_⟩
  rw [hstore.store] at hs
  exact (ho.dated s hs).mono hclock

theorem AllDated.effect {may : String → Prop} (ho : o.AllDated) (h : Effect may o o') :
    o'.AllDated := by
  refine ⟨h.undisturbed ho.undisturbed, fun s hs => ?_⟩
  rw [h.clock_eq]
  obtain hold | ⟨reference, presenter, hfresh⟩ | ⟨r, hr, t, hmove, rfl⟩ := h.mem_records hs
  · exact ho.dated s hold
  · rw [hfresh]
    exact Submission.dated_opened _ _ _ _
  · exact ((ho.dated r hr).move hmove).stored r.version

theorem OnTime.allDated (h : OnTime o o') (ho : o.AllDated) : o'.AllDated :=
  h.invariant (fun _ ho => ho.undisturbed) (fun _ _ ho => ho.between) (fun _ _ ho => ho.effect) ho

/-- A later office, in which the versions of a submission that were stored since are told in the
order of their last changes. -/
structure Chronicle (s : Submission) (o : Office) : Prop extends AllDated o where
  told : ∃ t versions, o.store.find? s.id = some t ∧ s.History t versions ∧
    versions.IsChain fun v w => v.modifiedAt ≤ w.modifiedAt

theorem Chronicle.effect {may : String → Prop} {s : Submission} (ho : o.Chronicle s)
    (h : Effect may o o') : o'.Chronicle s := by
  obtain ⟨hdated, t, versions, ht, hhistory, hordered⟩ := ho
  refine ⟨hdated.effect h, ?_⟩
  obtain ⟨u, hu, rfl | ⟨v, hmove, rfl⟩⟩ := h.find?_moved ht
  · exact ⟨u, versions, hu, hhistory, hordered⟩
  · have hbefore : t.modifiedAt ≤ o.clock := (hdated.dated t (Store.mem_of_find? ht)).modified
    refine ⟨_, _, hu, hhistory.concat hmove.follows, hordered.append (List.isChain_singleton _) ?_⟩
    rintro x hx y hy
    rw [hhistory.last, Option.mem_some_iff] at hx
    obtain rfl := hx
    obtain rfl := Option.some.inj hy
    exact hmove.written.1.symm ▸ hbefore

/-- **The instants on record are in order.**  Take a submission that is stored in an office that
operations lead to from an empty store while the clock is never set back: it was opened before it
was last changed, and that was not after what the clock shows; it has a time of its submission
exactly once it is submitted, which lies between the two, and so does the last change of every file;
and it was paid for when it was submitted, if it was paid for.  Whatever is done afterwards, the
submission stays stored, and the last change never moves back from one stored version of it to the
next. -/
theorem OnTime.chronological {start o o' : Office} (hempty : start.store = .empty)
    (hstart : start.Undisturbed) (h : OnTime start o) (hlater : OnTime o o') {s : Submission}
    (hs : s ∈ o.store.records) :
    s.Dated o.clock ∧ ∃ t versions, o'.store.find? s.id = some t ∧ s.History t versions ∧
      versions.IsChain fun v w => v.modifiedAt ≤ w.modifiedAt := by
  have hnothing : start.AllDated := by
    refine ⟨hstart, fun s hs => ?_⟩
    rw [hempty] at hs
    cases hs
  have hdated := h.allDated hnothing
  have hnow : o.Chronicle s :=
    ⟨hdated, s, [s], Store.find?_of_mem hs, .refl s, List.isChain_singleton s⟩
  have hthen : o'.Chronicle s := by
    refine hlater.invariant (P := (·.Chronicle s)) (fun _ ho => ho.undisturbed) ?_
      (fun _ _ ho => ho.effect) hnow
    intro o₁ o₂ ho hstore hclock
    refine ⟨ho.toAllDated.between hstore hclock, ?_⟩
    rw [hstore.store]
    exact ho.told
  exact ⟨hdated.dated s hs, hthen.told⟩

/-- The filing that was paid for, once its file is converted. -/
def convertedStrikeOff : Office :=
  paidStrikeOff.run
    [(⟨1717200000, 0⟩, .queue "sub-1"),
      (⟨1717203600, 500⟩, .report "sub-1" "application" (.converted (some "c-1") (some 3)))]

/-- It was opened in April, paid for in May, and its file is converted in June. -/
theorem chronological_paidStrikeOff :
    ∃ s ∈ paidStrikeOff.store.records, s.createdAt = ⟨1714435200, 0⟩ ∧
      s.submittedAt = some ⟨1714608000, 0⟩ ∧ s.Dated ⟨1714608000, 0⟩ ∧
      ∃ t versions, convertedStrikeOff.store.find? s.id = some t ∧
        t.modifiedAt = ⟨1717203600, 500⟩ ∧ s.History t versions ∧
        versions.IsChain fun v w => v.modifiedAt ≤ w.modifiedAt := by
  let april : Instant := ⟨1714435200, 0⟩
  let opened : Office := .opened .standard OfficeConfig.default.settings .fresh april
  have hpaid : OnTime opened paidStrikeOff := OnTime.refl.run (by decide) rfl
  have hclock : paidStrikeOff.clock = ⟨1714608000, 0⟩ := by decide +kernel
  have hreach : paidStrikeOff.Reachable := (Reachable.opened _ _ _ _).run _
  have hconverted : OnTime paidStrikeOff convertedStrikeOff := by
    refine OnTime.refl.run ?_ hreach.undisturbed
    rw [hclock]
    decide
  have hfound : ∃ s ∈ paidStrikeOff.store.records, s.createdAt = ⟨1714435200, 0⟩ ∧
      s.submittedAt = some ⟨1714608000, 0⟩ ∧
      (convertedStrikeOff.store.find? s.id).map (·.modifiedAt) = some ⟨1717203600, 500⟩ := by
    decide +kernel
  obtain ⟨s, hs, hcreated, hsubmitted, hmodified⟩ := hfound
  have hempty : opened.store = .empty := rfl
  have hstart : opened.Undisturbed := rfl
  obtain ⟨hdated, t, versions, ht, hhistory, hordered⟩ :=
    OnTime.chronological hempty hstart hpaid hconverted hs
  rw [ht] at hmodified
  rw [hclock] at hdated
  exact ⟨s, hs, hcreated, hsubmitted, hdated, t, versions, ht, Option.some.inj hmodified, hhistory,
    hordered⟩

end Office

end Filing
