import Filing.Proofs.Office.Single
import Filing.Proofs.Stranding

/-!
# Reports that lose against others

A report on a file may find that somebody else was faster, once it is to be saved.  Then it starts
over from a fresh look at the record, as often as the office is willing to try again.  Here the
store refuses so many saves in a row, and nothing else is different: what an observer can tell of it
is whether there were more lost saves than tries.

* `Office.losing` — the office whose next saves are lost, so many of them;
* `Office.reportWithin_losing` — **a report that is to be saved, against lost saves**, in one
  equation, by induction on the saves that are lost;
* `Office.Unsaved` — the answers to reports that end before they are to be saved;
* `Office.Retried` and `Office.Up.retried` — **the result**.
-/

set_option autoImplicit false

namespace Filing

open Act

namespace Office

/-! ## Lost saves -/

/-- The office where somebody else is faster than the next saves, so many of them. -/
def losing (o : Office) (lost : Nat) : Office :=
  { o with drill := { o.drill with lostSaves := lost } }

variable {o : Office} {id fileId : String} {outcome : FileOutcome} {s t : Submission}
  {progress : Progress} {again : Act Refusal (Progress × Submission)}

theorem losing_zero (ho : o.Up) : o.losing 0 = o := by
  have hdrill : ({ o.drill with lostSaves := 0 } : Drill) = o.drill := by rw [← ho.noneLost]
  rw [losing, hdrill]

/-- Every call but a save goes through as usual. -/
theorem onStore_losing (ho : o.Up) (lost : Nat) {α : Type} (call : StoreCall)
    (f : Office → Except RepositoryError α × Office) :
    onStore call f (o.losing lost) = f (o.losing lost) := by
  have hundisturbed : (o.losing lost).Undisturbed := ho.undisturbed
  have hup : (o.losing lost).drill.storeDown = [] := ho.storeUp
  rw [onStore_apply hundisturbed, hup, if_neg List.not_mem_nil]

theorem read_losing (ho : o.Up) (lost : Nat) (id : String) :
    read id (o.losing lost) = ((read id o).1, o.losing lost) := by
  have hfind : find id (o.losing lost) = (.ok (o.store.find? id), o.losing lost) :=
    onStore_losing ho lost .read _
  rw [read_apply ho, read, bind_apply, adapt_apply, hfind]
  dsimp only [Except.mapError]
  cases o.store.find? id <;> rfl

/-- A lost save changes nothing but the number of saves that are still to be lost. -/
theorem save_losing_succ (ho : o.Up) (lost : Nat) (t : Submission) :
    save t (o.losing (lost + 1)) = (.error (.conflict t.id), o.losing lost) :=
  onStore_losing ho (lost + 1) .save _

/-! ## Reports that end before they are to be saved -/

theorem reportOnce_losing_of_none (ho : o.Up) (hs : o.store.find? id = none) (lost : Nat) :
    reportOnce id fileId outcome again (o.losing lost) =
      (.error (.notFound id), o.losing lost) := by
  have hread : read id (o.losing lost) = (.error (.notFound id), o.losing lost) := by
    rw [read_losing ho, read_apply ho, hs]
  rw [reportOnce, bind_of_error hread]

theorem reportOnce_losing (ho : o.Up) (hs : o.store.find? id = some s) (lost : Nat) :
    reportOnce id fileId outcome again (o.losing lost) =
      match s.report o.desk fileId outcome o.clock with
      | .error e => (.error e, o.losing lost)
      | .ok r => keepReport id again r (o.losing lost) := by
  have hread : read id (o.losing lost) = (.ok s, o.losing lost) := by
    rw [read_losing ho, read_apply ho, hs]
  rw [reportOnce, bind_of_ok hread, get_bind_apply, bind_apply, ofExcept_apply]
  dsimp only [losing]
  cases s.report o.desk fileId outcome o.clock <;> rfl

/-! ## Reports that are to be saved -/

/-- A report whose save is lost starts over. -/
theorem reportOnce_losing_succ (ho : o.Up) (hs : o.store.find? id = some s)
    (hreport : s.report o.desk fileId outcome o.clock = .ok (progress, t))
    (hnew : progress.isDuplicate = false) (lost : Nat) :
    reportOnce id fileId outcome again (o.losing (lost + 1)) = again (o.losing lost) := by
  rw [reportOnce_losing ho hs, hreport]
  dsimp only
  rw [keepReport, hnew, if_neg Bool.false_ne_true, bind_apply, outcome_apply,
    save_losing_succ ho]

/-- **A report that is to be saved, against lost saves.**  It comes to what it comes to without
them, or, when it may not try again, to a conflict, and then every try has met one of them. -/
theorem reportWithin_losing (ho : o.Up) (hs : o.store.find? id = some s)
    (hreport : s.report o.desk fileId outcome o.clock = .ok (progress, t))
    (hnew : progress.isDuplicate = false) (lost retries : Nat) :
    reportWithin id fileId outcome retries (o.losing lost) =
      if lost ≤ retries then reportWithin id fileId outcome retries o
      else (.error (.conflict id), o.losing (lost - (retries + 1))) := by
  induction lost generalizing retries with
  | zero => rw [losing_zero ho, if_pos (Nat.zero_le retries)]
  | succ lost ih =>
    cases retries with
    | zero =>
      rw [if_neg (Nat.not_succ_le_zero lost)]
      exact reportOnce_losing_succ ho hs hreport hnew lost
    | succ retries =>
      -- a report that is saved at the first try does not ask how many more it has
      have hmore : reportWithin id fileId outcome (retries + 1) o =
          reportWithin id fileId outcome retries o := by
        rw [reportWithin_of_new fileId outcome ho hs hreport hnew,
          reportWithin_of_new fileId outcome ho hs hreport hnew]
      have htry : reportWithin id fileId outcome (retries + 1) (o.losing (lost + 1)) =
          reportWithin id fileId outcome retries (o.losing lost) :=
        reportOnce_losing_succ ho hs hreport hnew lost
      rw [htry, ih, hmore, Nat.add_sub_add_right]
      simp only [Nat.add_le_add_iff_right]

/-! ## Answers -/

/-- The answers to reports that end before they are to be saved: there is no such submission, it is
not under way, it has no form or no such file, its form cannot be looked up, or the file was
reported on before. -/
inductive Unsaved (id : String) : Except Refusal Answer → Prop
  | notFound : Unsaved id (.error (.notFound id))
  | state (violation : StateViolation) : Unsaved id (.error (.state violation))
  | decision (error : DecisionError) : Unsaved id (.error (.decision error))
  | catalog (error : RepositoryError) : Unsaved id (.error (.repository error))
  | repeated {answer : Answer} (h : answer.isRepeated = true) : Unsaved id (.ok answer)

/-- The refusals of a report. -/
theorem unsaved_of_report {desk : CatalogDesk} {now : Instant} {e : Refusal}
    (h : s.report desk fileId outcome now = .error e) (id : String) : Unsaved id (.error e) := by
  rw [Submission.report, bind_eq_error] at h
  obtain h | ⟨-, -, h⟩ := h
  · obtain ⟨violation, -, rfl⟩ := refuse_eq_error.1 h
    exact .state violation
  rw [bind_eq_error] at h
  obtain h | ⟨⟨progress, t⟩, -, h⟩ := h
  · obtain ⟨error, -, rfl⟩ := refuse_eq_error.1 h
    exact .decision error
  dsimp only at h
  split at h
  · cases h
  rw [bind_eq_error] at h
  obtain h | ⟨form, -, h⟩ := h
  · rw [Submission.registeredForm] at h
    split at h
    · obtain ⟨error, -, rfl⟩ := refuse_eq_error.1 h
      exact .catalog error
    · cases h
  rw [bind_eq_error] at h
  obtain h | ⟨u, -, h⟩ := h
  · obtain ⟨violation, -, rfl⟩ := refuse_eq_error.1 h
    exact .state violation
  · cases h

/-! ## The result -/

/-- How a report fares against lost saves: the same office takes it at the same time, `quiet`
without lost saves and `contended` with so many of them. -/
structure Retried (o : Office) (id : String) (lost : Nat)
    (quiet contended : Except Refusal Answer × Office) : Prop where
  /-- A report that ends before it is to be saved does not meet any of them. -/
  unsaved : Unsaved id quiet.1 → contended = (quiet.1, o.losing lost) ∧ quiet.2 = o
  /-- As long as it may try again, nothing is different: not the answer, nor what is stored, nor the
  mails. -/
  within : ¬Unsaved id quiet.1 → lost ≤ o.settings.retries → contended = quiet
  /-- Otherwise it is given up after a last try, and nothing has been done: all that is different is
  that one save has been lost for each try. -/
  exhausted : ¬Unsaved id quiet.1 → o.settings.retries < lost →
    contended = (.error (.conflict id), o.losing (lost - (o.settings.retries + 1)))

theorem Retried.of_unsaved {lost : Nat} {r : Except Refusal Answer} (hr : Unsaved id r) :
    Retried o id lost (r, o) (r, o.losing lost) :=
  ⟨fun _ => ⟨rfl, rfl⟩, fun h => absurd hr h, fun h => absurd hr h⟩

theorem perform_report (o : Office) (id fileId : String) (outcome : FileOutcome) :
    (Operation.report id fileId outcome).perform o =
      ((reportWithin id fileId outcome o.settings.retries o).1.map fun r => .progress r.1 r.2,
        (reportWithin id fileId outcome o.settings.retries o).2) :=
  map_apply (fun r : Progress × Submission => Answer.progress r.1 r.2) (report id fileId outcome) o

theorem retried_perform (ho : o.Up) (id fileId : String) (outcome : FileOutcome) (lost : Nat) :
    Retried o id lost ((Operation.report id fileId outcome).perform o)
      ((Operation.report id fileId outcome).perform (o.losing lost)) := by
  have hretries : (o.losing lost).settings.retries = o.settings.retries := rfl
  rw [perform_report, perform_report, hretries]
  cases hs : o.store.find? id with
  | none =>
    rw [reportWithin_eq, reportOnce_of_none fileId outcome ho hs, reportOnce_losing_of_none ho hs]
    exact .of_unsaved .notFound
  | some s =>
    cases hreport : s.report o.desk fileId outcome o.clock with
    | error e =>
      rw [reportWithin_eq, reportOnce_apply fileId outcome ho hs, reportOnce_losing ho hs, hreport]
      exact .of_unsaved (unsaved_of_report hreport id)
    | ok r =>
      obtain ⟨progress, t⟩ := r
      cases hnew : progress.isDuplicate with
      | true =>
        rw [reportWithin_eq, reportOnce_apply fileId outcome ho hs, reportOnce_losing ho hs,
          hreport]
        dsimp only
        rw [keepReport_of_duplicate hnew, keepReport_of_duplicate hnew]
        exact .of_unsaved (.repeated hnew)
      | false =>
        have hquiet := reportWithin_of_new fileId outcome ho hs hreport hnew o.settings.retries
        rw [reportWithin_losing ho hs hreport hnew]
        refine ⟨fun hunsaved => ?_, fun _ hle => ?_, fun _ hlt => ?_⟩
        · -- what is new has been saved
          rw [hquiet] at hunsaved
          cases hunsaved with
          | repeated hrepeated => exact absurd (hrepeated.symm.trans hnew) (by decide)
        · rw [if_pos hle]
        · rw [if_neg (Nat.not_le.2 hlt)]
          rfl

/-- **A report withstands as many lost saves as it may try again.**  Take an office whose store
answers, with any content, and a report on a file at any time.  If the next saves are lost, so many
of them, the report comes to what it comes to without them, as long as it may try again so often, or
ends before it is to be saved.  Otherwise it is answered with a conflict after as many tries as it
has, and nothing else has happened. -/
theorem Up.retried (ho : o.Up) (now : Instant) (id fileId : String) (outcome : FileOutcome)
    (lost : Nat) :
    Retried { o with clock := now } id lost (o.step now (.report id fileId outcome))
      ((o.losing lost).step now (.report id fileId outcome)) := by
  have ho' : Up { o with clock := now } := ho.of_drill_eq rfl
  exact retried_perform ho' id fileId outcome lost

/-- The last of two reports, when five saves are lost before it and when six are. -/
theorem retried_withTwoFiles :
    let o := (withTwoFiles "allotment" "copy").run
      [(⟨1719828060, 0⟩, .report "sub-1" "copy" .infected)]
    let now : Instant := ⟨1719828120, 0⟩
    let last : Operation := .report "sub-1" "allotment" (.converted none none)
    o.Up ∧ ¬Unsaved "sub-1" (o.step now last).1 ∧
      ((o.step now last).2.store.find? "sub-1").map (·.status) = some .rejectedByVirusScan ∧
      (o.step now last).2.sent.length = o.sent.length + 1 ∧
      (o.losing 5).step now last = o.step now last ∧
      (o.losing 6).step now last =
        (.error (.conflict "sub-1"), ({ o with clock := now } : Office).losing 0) := by
  intro o now last
  have hreach : o.Reachable := ((Reachable.opened _ _ _ _).run _).run _
  have hup : o.Up := ⟨hreach.undisturbed, by decide +kernel, by decide +kernel⟩
  have hsaved : ((o.step now last).1.map Answer.isRepeated).toOption = some false := by
    decide +kernel
  have hnot : ¬Unsaved "sub-1" (o.step now last).1 := by
    intro hunsaved
    generalize (o.step now last).1 = r at hsaved hunsaved
    cases hunsaved with
    | repeated hrepeated => rw [Except.map, hrepeated] at hsaved; cases hsaved
    | _ => cases hsaved
  have hfive := hup.retried now "sub-1" "allotment" (.converted none none) 5
  have hsix := hup.retried now "sub-1" "allotment" (.converted none none) 6
  exact ⟨hup, hnot, by decide +kernel, by decide +kernel, hfive.within hnot (by decide +kernel),
    hsix.exhausted hnot (by decide +kernel)⟩

end Office

end Filing
