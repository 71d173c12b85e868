import Filing.Proofs.Lifecycle
import Filing.Proofs.Office.Regular
import Filing.Proofs.Validation

/-!
# What an answer says about the office

An operation on one submission shows the record as it is stored from then on, or it is refused and has
left everything alone: the records, the mails and what was loaded.  There is one exception.  A
hand-over that the loader does not take may have given the submission its barcode, which it keeps for
the next attempt.

* `Submission.HasForm` — a submission that is not open has a form, with `Office.Reachable.hasForm`;
* `Office.Held` — what is left of a hand-over that the loader did not take;
* `Office.Told` — an answer that agrees with the office, with `Office.Reachable.told`.
-/

set_option autoImplicit false

namespace Filing

/-! ## Forms -/

namespace Submission

variable {o : Office} {s t : Submission}

/-- A submission that is not open has a form. -/
def HasForm (s : Submission) : Prop :=
  s.status ≠ .opened → s.form.isSome

theorem Change.hasForm (h : s.Change o t) (hs : s.HasForm) : t.HasForm := by
  intro ht
  cases h with
  | edited h => exact absurd h.status ht
  | completed form fee hopened hform hfee hvalid =>
    rw [form_priced]
    exact form_isSome_of_validate hvalid
  | paid report sessions hwaiting =>
    rw [form_settled]
    exact hs (by obtain h | h := hwaiting <;> rw [h] <;> decide)
  | passed form hsubmitted => exact Option.isSome_map.trans (hs (by rw [hsubmitted]; decide))
  | started hsubmitted => exact Option.isSome_map.trans (hs (by rw [hsubmitted]; decide))
  | reported fileId outcome hprocessing =>
    exact Option.isSome_map.trans (hs (by rw [hprocessing]; decide))
  | decided fileId outcome verdict form hprocessing =>
    exact Option.isSome_map.trans (hs (by rw [hprocessing]; decide))
  | labelled => rfl
  | sent hready => exact hs (by rw [hready]; decide)
  | accepted hsent => exact hs (by rw [hsent]; decide)
  | rejected reasons hsent => exact hs (by rw [hsent]; decide)

theorem kept_hasForm : Kept HasForm where
  opened _ _ _ _ h := absurd rfl h
  moved hs h := h.change.hasForm hs
  stored _ h := h

end Submission

namespace Office

/-! ## Answers that agree with the office -/

/-- The office after a hand-over that the loader did not take: the submission has got the next barcode
of the sequence, and nothing else is different. -/
structure Held (o o' : Office) (s : Submission) (form : FormDetails) : Prop where
  before : o.store.find? s.id = some s
  details : s.form = some form
  unlabelled : form.barcode = none
  after : o'.store.find? s.id = some { s with
    form := some { form with barcode := some (o.barcodes.next o.clock).1 },
    modifiedAt := o.clock, version := s.version + 1 }
  drawn : o'.barcodes = (o.barcodes.next o.clock).2
  others : ∀ id, id ≠ s.id → o'.store.find? id = o.store.find? id
  loaded : o'.loaded = o.loaded
  sent : o'.sent = o.sent
  refused : o'.refused = o.refused

/-- An answer to an operation on one submission that agrees with the office after it. -/
inductive Told (o : Office) (operation : Operation) (id : String) :
    Except Refusal Answer → Office → Prop
  /-- The answer shows the submission as it is stored. -/
  | shown {answer : Answer} {s : Submission} {o' : Office} (hanswer : answer.submission? = some s)
      (hs : o'.store.find? id = some s) : Told o operation id (.ok answer) o'
  | refused {e : Refusal} {o' : Office} (h : o.LeftAlone o') : Told o operation id (.error e) o'
  /-- The loader did not take the record. -/
  | held {s : Submission} {form : FormDetails} {reason : String} {o' : Office}
      (hoperation : operation = .handOver id) (hid : s.id = id) (h : o.Held o' s form) :
      Told o operation id (.error (.fes (.loader reason))) o'

variable {o o' : Office} {id : String} {s : Submission}

theorem held_label (hform : s.HasForm) (hs : o.store.find? s.id = some s)
    (hready : s.status = .readyToSubmit) (hnone : s.barcode? = none) :
    ∃ form, o.Held (o.label s) s form := by
  obtain ⟨form, hsome⟩ := Option.isSome_iff_exists.1 (hform (by rw [hready]; decide))
  have hunlabelled : form.barcode = none := by
    rw [Submission.barcode?, hsome] at hnone
    exact hnone
  refine ⟨form, hs, hsome, hunlabelled, ?_, rfl, fun id hid => ?_, rfl, rfl, rfl⟩
  · rw [find?_label hs, Submission.labelled, Submission.updateForm, hsome]
    rfl
  · exact (Store.find?_put _ _ _).trans (if_neg hid)

theorem told_handOver (ho : o.Steady) (hform : ∀ s ∈ o.store.records, s.HasForm) :
    Told o (.handOver id) id ((Operation.handOver id).perform o).1
      ((Operation.handOver id).perform o).2 := by
  have hresult := handsOver ho id
  rw [Operation.perform, Act.map_apply]
  generalize handOver id o = result at hresult ⊢
  obtain ⟨r, o'⟩ := result
  dsimp only at hresult ⊢
  cases hresult with
  | refused e => exact .refused ⟨rfl, rfl, rfl, rfl⟩
  | held hid hs hready hnone =>
    obtain ⟨form, hheld⟩ := held_label (hform _ (Store.mem_of_find? hs)) hs hready hnone
    exact .held rfl hid hheld
  | sent h hid hs hready hrecord =>
    have hdone := HandsOver.sent h hid hs hready hrecord
    exact .shown rfl hdone.find?_ok

theorem told_of_answers {operation : Operation}
    (h : Act.Answers o id Answer.submission? operation.perform) :
    Told o operation id (operation.perform o).1 (operation.perform o).2 := by
  obtain ⟨-, hok, hrefused⟩ := h
  generalize operation.perform o = result at hok hrefused ⊢
  obtain ⟨e | answer, o'⟩ := result
  · exact .refused (hrefused e rfl)
  · obtain ⟨s, hanswer, hs⟩ := hok answer rfl
    exact .shown hanswer hs

/-- **Answers describe the office.**  In every steady office that operations lead to, whatever is out
of order around its store, an operation on one submission answers with the submission as it is stored
from then on, or is refused and leaves all records and mails alone, but for the barcode of a hand-over
that the loader did not take. -/
theorem Reachable.told (h : o.Reachable) (ho : o.Steady) (now : Instant) {operation : Operation}
    (hsubject : operation.subject? o.ids = some id) :
    Told { o with clock := now } operation id (o.step now operation).1 (o.step now operation).2 := by
  have ho' : Steady { o with clock := now } := ho.of_drill_eq rfl
  by_cases hhandOver : operation = .handOver id
  · rw [hhandOver]
    exact told_handOver ho' (h.kept Submission.kept_hasForm)
  · exact told_of_answers (answers_perform ho'.toUp hsubject hhandOver)

/-- A filing that stands ready while the loader is out of order. -/
def withStatementReady : Office :=
  (withStatement.withLoaderDown true).run [(⟨1719828060, 0⟩, .queue "sub-1")]

/-- Its hand-over is refused, and all that is left of it is the barcode. -/
theorem told_withStatementReady :
    let now : Instant := ⟨1719828120, 0⟩
    let after := withStatementReady.step now (.handOver "sub-1")
    Told { withStatementReady with clock := now } (.handOver "sub-1") "sub-1" after.1 after.2 ∧
      after.1.isOk = false ∧
      (after.2.store.find? "sub-1").map (fun s => (s.status, s.barcode?)) =
        some (.readyToSubmit, some "X2418300001") := by
  intro now after
  have hready : withStatementReady.Reachable := by
    have hreach : withStatement.Reachable := (Reachable.opened _ _ _ _).run _
    have hdown : (withStatement.withLoaderDown true).Reachable :=
      hreach.around rfl hreach.undisturbed
    exact hdown.run _
  have hsteady : withStatementReady.Steady := ⟨⟨rfl, rfl, rfl⟩, rfl⟩
  refine ⟨hready.told hsteady now rfl, ?_⟩
  decide +kernel

end Office

end Filing
