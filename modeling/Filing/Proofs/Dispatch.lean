import Filing.Proofs.Lifecycle
import Filing.Proofs.Office.Batch

/-!
# Batches for the registration system

All submissions that stand ready are handed over in a batch.  When the loader is out of order none
of them gets through, but each has its barcode afterwards, and keeps it; so the batch can be
repeated as often as necessary, and once the loader works again every submission is loaded once.

* `Submission.Barcoded` — a submission with a barcode, its own or a fresh one;
* `BatchRecord.Describes` — what a record says of a submission;
* `Office.turn_handOver` — one turn, whether the loader works or not;
* `Office.Sent`, `Office.HeldUp` — what a batch has done, with `Office.Steady.sent` and
  `Office.Steady.heldUp`;
* `Office.HeldAgain` — so many batches while the loader is out of order, with
  `Office.HeldAgain.same`;
* `Office.HeldUp.resumed` — **what happens once the loader works again**;
* `Office.Restartable` and `Office.Steady.restartable` — **the result**.
-/

set_option autoImplicit false

namespace Filing

open Act

namespace Submission

variable {now : Instant} {s t : Submission}

/-- The submission with a barcode, the one that it had or a fresh one. -/
inductive Barcoded (now : Instant) (s : Submission) : Submission → Prop
  | kept {barcode : String} (h : s.barcode? = some barcode) : Barcoded now s s
  | fresh (h : s.barcode? = none) (barcode : String) : Barcoded now s (s.labelled barcode now)

theorem Barcoded.exists_barcode (h : s.Barcoded now t) :
    ∃ barcode, t.barcode? = some barcode ∧ s.barcode?.getD barcode = barcode := by
  cases h with
  | @kept barcode hsome => exact ⟨barcode, hsome, by rw [hsome]; rfl⟩
  | fresh hnone barcode => exact ⟨barcode, rfl, by rw [hnone]; rfl⟩

theorem Barcoded.status (h : s.Barcoded now t) : t.status = s.status := by
  cases h <;> rfl

theorem Barcoded.eq_of_some {barcode : String} (h : s.Barcoded now t)
    (hsome : s.barcode? = some barcode) : t = s := by
  cases h with
  | kept => rfl
  | fresh hnone => rw [hnone] at hsome; cases hsome

end Submission

/-! ## Records -/

/-- A record says of a submission what is on record, under the barcode that the submission carries;
what is absent is the empty text. -/
structure BatchRecord.Describes (record : BatchRecord) (s : Submission) : Prop where
  submissionId : record.submissionId = s.id
  barcode : s.barcode? = some record.barcode
  confirmationReference : record.confirmationReference = s.confirmationReference
  formType : record.formType = s.formType?.getD ""
  companyNumber : record.companyNumber = s.companyNumber?.getD ""
  companyName : record.companyName = (s.company.map (·.name)).getD ""
  submittedAt : record.submittedAt = s.submittedAt
  documents : record.documents = s.files.map fun f => ⟨f.id, f.convertedId, f.pages⟩

theorem BatchRecord.describes_of_ofSubmission {s : Submission} {record : BatchRecord}
    (h : ofSubmission s = .ok record) : record.Describes s := by
  obtain ⟨barcode, hbarcode, rfl⟩ := ofSubmission_eq_ok.1 h
  exact ⟨rfl, hbarcode, rfl, rfl, rfl, rfl, rfl, rfl⟩

/-- Marking a submission as handed over changes nothing that is in its record. -/
theorem BatchRecord.Describes.of_dispatched {s : Submission} {record : BatchRecord} {now : Instant}
    (h : record.Describes (s.dispatched now)) : record.Describes s :=
  ⟨h.submissionId, h.barcode, h.confirmationReference, h.formType, h.companyNumber, h.companyName,
    h.submittedAt, h.documents⟩

namespace Office

variable {o o₁ o' : Office} {id : String} {s t : Submission} {done ids : List String}
  {record : BatchRecord}

/-! ## One turn -/

theorem turn_label (hs : o.store.find? s.id = some s) (hnone : s.barcode? = none) :
    o.Turn (Submission.Barcoded o.clock) s.id (o.label s) where
  around := ⟨rfl, rfl, rfl, rfl⟩
  made := ⟨s, _, hs, .fresh hnone _, find?_label hs⟩
  others id hid := by
    have hput : (o.label s).store = o.store.put (s.labelled (o.barcodes.next o.clock).1 o.clock) :=
      rfl
    have hne : id ≠ (s.labelled (o.barcodes.next o.clock).1 o.clock).id := hid
    rw [hput, Store.find?_put, if_neg hne]

theorem others_dispatch (hid : id ≠ s.id) :
    (o.dispatch s record).store.find? id = o.store.find? id := by
  have hput : (o.dispatch s record).store = o.store.put (s.dispatched o.clock) := rfl
  have hne : id ≠ (s.dispatched o.clock).id := hid
  rw [hput, Store.find?_put, if_neg hne]

/-- **One turn.**  The submission has its barcode first, and then its record is loaded, unless the
loader is out of order. -/
theorem turn_handOver (ho : o.Steady) (hup : o.drill.barcodesDown = false)
    (hid : id ∈ o.store.idsAt .readyToSubmit) :
    ∃ t record o₁, BatchRecord.ofSubmission t = .ok record ∧ t.id = id ∧
      o.Turn (Submission.Barcoded o.clock) id o₁ ∧ o₁.store.find? id = some t ∧
      o₁.loaded = o.loaded ∧
      handOver id o =
        if o.drill.loaderDown then (.error (.fes (.loader "FES loader offline")), o₁)
        else (.ok (t.dispatched o.clock), o₁.dispatch t record) := by
  obtain ⟨s, hs, hready⟩ := Store.mem_idsAt.1 hid
  obtain rfl := Store.id_of_find? hs
  cases hbarcode : s.barcode? with
  | some barcode =>
    have hrecord := BatchRecord.ofSubmission_eq_ok.2 ⟨barcode, hbarcode, rfl⟩
    have hturn : o.Turn (Submission.Barcoded o.clock) s.id o :=
      ⟨⟨rfl, rfl, rfl, rfl⟩, ⟨s, s, hs, .kept hbarcode, hs⟩, fun _ _ => rfl⟩
    exact ⟨s, _, o, hrecord, rfl, hturn, hs, rfl, handOver_of_labelled ho hs hready hrecord⟩
  | none =>
    let t := s.labelled (o.barcodes.next o.clock).1 o.clock
    exact ⟨t, _, o.label s, rfl, rfl, turn_label hs hbarcode, find?_label hs, rfl,
      handOver_of_none ho hs hready hbarcode hup⟩

/-! ## One batch -/

/-- The submissions that stand ready, as a batch finds them. -/
def ready (o : Office) : List String :=
  (o.store.byStatus .readyToSubmit fun _ => false).map (·.id)

theorem Reordered.ready_perm (h : o.Reordered o₁) :
    o₁.ready.Perm (o.store.idsAt .readyToSubmit) :=
  h.perm_byStatus .readyToSubmit _

theorem Reordered.nodup_ready (h : o.Reordered o₁) : o₁.ready.Nodup :=
  h.ready_perm.nodup_iff.2 (o.store.nodup_idsAt _)

theorem Reordered.perform_handOverAll (h : o.Reordered o₁) (ho : o.Up) :
    Operation.handOverAll.perform o₁ =
      ((each handOver o₁.ready o₁).1.map .batch, (each handOver o₁.ready o₁).2) := by
  have hup : o₁.Up := ho.of_drill_eq h.sameAround.drill
  rw [Operation.perform, map_apply, handOverAll, bind_apply, adapt_apply, findByStatus,
    onStore_up hup, asks]
  rfl

/-- Where the store lists the submissions in the order of work, a batch takes them as they come. -/
theorem step_handOverAll_of_sorted (ho : o.Up) (now : Instant)
    (hsorted : (o.store.records.filter (·.status = .readyToSubmit)).Pairwise fun a b =>
      Store.workOrder (fun _ => false) a b = true) :
    (o.step now .handOverAll).2 =
      (each handOver (o.store.idsAt .readyToSubmit) { o with clock := now }).2 := by
  have hready : ({ o with clock := now } : Office).ready = o.store.idsAt .readyToSubmit :=
    congrArg (List.map Submission.id) (List.mergeSort_of_pairwise hsorted)
  have hbatch := (Reordered.refl { o with clock := now }).perform_handOverAll (ho.of_drill_eq rfl)
  rw [hready] at hbatch
  exact congrArg Prod.snd hbatch

/-- The record is that of the submission that is stored. -/
def Records (o : Office) (id : String) (record : BatchRecord) : Prop :=
  record.submissionId = id ∧ ∃ s, o.store.find? id = some s ∧ record.Describes s

/-- What the office makes of a submission that is handed over. -/
def Sends (o : Office) (s t : Submission) : Prop :=
  ∃ u, s.Barcoded o.clock u ∧ t = u.dispatched o.clock

/-- Nothing is handed over by a loader that is out of order. -/
def loaderReason : String :=
  Refusal.message (.fes (.loader "FES loader offline"))

/-- A batch that was handed over: every submission has its barcode and is marked, nothing else is
changed, and one record was loaded for each, as it is stored. -/
structure Sent (o : Office) (ids : List String) (o' : Office) : Prop
    extends MidBatch o.Sends o ids o' where
  all : ids.Perm (o.store.idsAt .readyToSubmit)
  sent : ∀ id ∈ ids, id ∈ o'.store.idsAt .sentToFes
  noneLeft : o'.store.idsAt .readyToSubmit = []
  loaded : ∃ records, o'.loaded = o.loaded ++ records ∧ List.Forall₂ o'.Records ids records

/-- A batch that was held up: every submission has its barcode, and nothing else is changed. -/
structure HeldUp (o : Office) (ids : List String) (o' : Office) : Prop
    extends MidBatch (Submission.Barcoded o.clock) o ids o' where
  all : ids.Perm (o.store.idsAt .readyToSubmit)
  ready : ids.Perm (o'.store.idsAt .readyToSubmit)
  loaded : o'.loaded = o.loaded

/-- A turn while the loader works. -/
theorem turn_sends (ho : o.Steady) (hup : o.drill.barcodesDown = false)
    (hdown : o.drill.loaderDown = false) (hid : id ∈ o.store.idsAt .readyToSubmit) :
    ∃ t record o', handOver id o = (.ok t, o') ∧ o.Turn o.Sends id o' ∧ o'.Records id record ∧
      o'.loaded = o.loaded ++ [record] := by
  obtain ⟨t, record, o₁, hrecord, rfl, hturn, ht, hloaded, hhandOver⟩ := turn_handOver ho hup hid
  rw [hdown, if_neg Bool.false_ne_true] at hhandOver
  have hclock : o₁.clock = o.clock := hturn.around.clock
  obtain ⟨s, u, hs, hbarcoded, hu⟩ := hturn.made
  obtain rfl := Option.some.inj (ht.symm.trans hu)
  have hfound : (o₁.dispatch t record).store.find? t.id = some (t.dispatched o.clock) :=
    hclock ▸ find?_dispatch ht record
  have hdescribes : record.Describes (t.dispatched o.clock) :=
    BatchRecord.describes_of_ofSubmission hrecord
  refine ⟨_, record, _, hhandOver, ⟨?_, ⟨s, _, hs, ⟨t, hbarcoded, rfl⟩, hfound⟩, ?_⟩,
    ⟨hdescribes.submissionId, _, hfound, hdescribes⟩, by rw [← hloaded]; rfl⟩
  · exact hturn.around.trans ⟨rfl, rfl, rfl, rfl⟩
  · intro id hid
    rw [others_dispatch hid, hturn.others id hid]

theorem Sends.status (h : o.Sends s t) : t.status = .sentToFes := by
  obtain ⟨u, -, rfl⟩ := h
  rfl

/-- **While the loader works, every submission that stands ready is handed over.** -/
theorem Steady.sent (ho : o.Steady) (hup : o.drill.barcodesDown = false)
    (hdown : o.drill.loaderDown = false) (h : o.Reordered o₁) :
    ∃ ids o', Operation.handOverAll.perform o₁ = (.ok (.batch ⟨ids, []⟩), o') ∧ o.Sent ids o' := by
  let Loaded (done : List String) (o₁ : Office) : Prop :=
    ∃ records, o₁.loaded = o.loaded ++ records ∧ List.Forall₂ o₁.Records done records
  have hturn (done : List String) (id : String) (o₁ : Office) (h : o.MidBatch o.Sends done o₁)
      (hloaded : Loaded done o₁) (hfresh : id ∉ done) (hid : id ∈ o₁.store.idsAt .readyToSubmit) :
      (∀ report, BatchReport.record id (handOver id o₁).1 report = noteProcessed id report) ∧
        o₁.Turn o.Sends id (handOver id o₁).2 ∧ Loaded (done ++ [id]) (handOver id o₁).2 := by
    have hdrill : o₁.drill = o.drill := h.around.drill
    have hsame : o₁.Sends = o.Sends := by
      unfold Sends
      rw [h.around.clock]
    obtain ⟨t, record, o₂, hhandOver, hturn, hrecord, hlast⟩ :=
      turn_sends (ho.of_drill_eq hdrill) (hdrill ▸ hup) (hdrill ▸ hdown) hid
    obtain ⟨records, hrecords, hdone⟩ := hloaded
    rw [hhandOver]
    refine ⟨fun report => rfl, hsame ▸ hturn, records ++ [record], ?_, ?_⟩
    · rw [hlast, hrecords, List.append_assoc]
    · -- the records of those that had their turn are not touched by this one
      have hkept : List.Forall₂ o₂.Records done records := by
        refine ((List.forall₂_and_left _ _).2 ⟨fun id' hid' => hid', hdone⟩).imp ?_
        rintro id' record' ⟨hid', habout, s, hs, hrecord'⟩
        exact ⟨habout, s, (hturn.others id' fun heq => hfresh (heq ▸ hid')).trans hs, hrecord'⟩
      exact List.rel_append hkept (.cons hrecord .nil)
  have hloaded : o₁.loaded = o.loaded := by rw [h.rest]
  have hready : ∀ id ∈ o₁.ready, id ∈ o.store.idsAt .readyToSubmit :=
    fun id hid => h.ready_perm.mem_iff.1 hid
  obtain ⟨o', heach, hmid, hend⟩ := each_midBatch hturn h.nodup_ready hready h
    ⟨[], by rw [hloaded, List.append_nil], .nil⟩
  rw [foldr_noteProcessed] at heach
  refine ⟨o₁.ready, o', ?_, hmid, h.ready_perm, fun id hid => ?_, ?_, hend⟩
  · rw [h.perform_handOverAll ho.toUp, heach]
    rfl
  · obtain ⟨s, t, -, ht, hfound⟩ := hmid.made id hid
    exact Store.mem_idsAt.2 ⟨t, hfound, ht.status⟩
  · refine List.eq_nil_iff_forall_not_mem.2 fun id hid => ?_
    have hne (s t : Submission) (h : o.Sends s t) : t.status ≠ .readyToSubmit := by
      rw [h.status]
      decide
    obtain ⟨hbefore, hnot⟩ := (hmid.mem_idsAt hne).1 hid
    exact hnot (h.ready_perm.mem_iff.2 hbefore)

/-- **While the loader is out of order, every submission that stands ready gets its barcode.** -/
theorem Steady.heldUp (ho : o.Steady) (hup : o.drill.barcodesDown = false)
    (hdown : o.drill.loaderDown = true) (h : o.Reordered o₁) :
    ∃ ids o', Operation.handOverAll.perform o₁ =
        (.ok (.batch ⟨[], ids.map (·, loaderReason)⟩), o') ∧ o.HeldUp ids o' := by
  have hturn (done : List String) (id : String) (o₁ : Office)
      (h : o.MidBatch (Submission.Barcoded o.clock) done o₁) (hloaded : o₁.loaded = o.loaded)
      (_ : id ∉ done) (hid : id ∈ o₁.store.idsAt .readyToSubmit) :
      (∀ report, BatchReport.record id (handOver id o₁).1 report =
          noteFailed loaderReason id report) ∧
        o₁.Turn (Submission.Barcoded o.clock) id (handOver id o₁).2 ∧
        (handOver id o₁).2.loaded = o.loaded := by
    have hdrill : o₁.drill = o.drill := h.around.drill
    obtain ⟨t, record, o₂, -, -, hturn, -, hsame, hhandOver⟩ :=
      turn_handOver (ho.of_drill_eq hdrill) (hdrill ▸ hup) hid
    rw [hdrill, hdown, if_pos rfl] at hhandOver
    rw [hhandOver, ← h.around.clock]
    exact ⟨fun report => rfl, hturn, hsame.trans hloaded⟩
  have hloaded : o₁.loaded = o.loaded := by rw [h.rest]
  have hready : ∀ id ∈ o₁.ready, id ∈ o.store.idsAt .readyToSubmit :=
    fun id hid => h.ready_perm.mem_iff.1 hid
  obtain ⟨o', heach, hmid, hend⟩ :=
    each_midBatch hturn h.nodup_ready hready h hloaded
  rw [foldr_noteFailed] at heach
  refine ⟨o₁.ready, o', ?_, hmid, h.ready_perm, ?_, hend⟩
  · rw [h.perform_handOverAll ho.toUp, heach]
    rfl
  · have hstatus (s t : Submission) (h : s.Barcoded o.clock t) : t.status = s.status := h.status
    exact h.ready_perm.trans (hmid.idsAt_perm hstatus .readyToSubmit).symm

/-- What a batch makes of a submission while the loader works: those that have their barcode are
handed over, the others stay for want of one. -/
inductive SentOrLeft (now : Instant) (s : Submission) : Submission → Prop
  | sent {barcode : String} (h : s.barcode? = some barcode) : SentOrLeft now s (s.dispatched now)
  | kept (h : s.barcode? = none) : SentOrLeft now s s

/-- Nothing is handed over for want of a barcode. -/
def barcodeReason : String :=
  Refusal.message (.fes (.barcodeUnavailable "sequence exhausted"))

/-- The note on a turn while there are no barcodes. -/
def noteSentOrLeft (o : Office) (id : String) (report : BatchReport) : BatchReport :=
  if ((o.store.find? id).bind (·.barcode?)).isSome then noteProcessed id report
  else noteFailed barcodeReason id report

/-- A turn while the loader works and there are no barcodes. -/
theorem turn_sentOrLeft (ho : o.Steady) (hup : o.drill.barcodesDown = true)
    (hdown : o.drill.loaderDown = false) (hid : id ∈ o.store.idsAt .readyToSubmit) :
    o.Turn (SentOrLeft o.clock) id (handOver id o).2 ∧
      ∀ report : BatchReport, report.record id (handOver id o).1 = noteSentOrLeft o id report := by
  obtain ⟨s, hs, hready⟩ := Store.mem_idsAt.1 hid
  obtain rfl := Store.id_of_find? hs
  simp only [noteSentOrLeft, hs, Option.bind_some]
  cases hbarcode : s.barcode? with
  | some barcode =>
    have hrecord := BatchRecord.ofSubmission_eq_ok.2 ⟨barcode, hbarcode, rfl⟩
    have hdone := handOver_of_labelled ho hs hready hrecord
    rw [hdown, if_neg Bool.false_ne_true] at hdone
    rw [hdone]
    exact ⟨⟨⟨rfl, rfl, rfl, rfl⟩, ⟨s, _, hs, .sent hbarcode, find?_dispatch hs _⟩,
      fun _ => others_dispatch⟩, fun _ => rfl⟩
  | none =>
    rw [handOver_of_ready ho hs hready, bind_of_error (withBarcode_of_down hbarcode hup)]
    exact ⟨⟨⟨rfl, rfl, rfl, rfl⟩, ⟨s, s, hs, .kept hbarcode, hs⟩, fun _ _ => rfl⟩, fun _ => rfl⟩

/-- **While the loader works, a submission that has its barcode is handed over** by every batch,
whether the others get theirs or not. -/
theorem Steady.find?_handOverAll (ho : o.Steady) (hdown : o.drill.loaderDown = false)
    (h : o.Reordered o₁) (hs : o.store.find? s.id = some s) (hready : s.status = .readyToSubmit)
    {barcode : String} (hbarcode : s.barcode? = some barcode) :
    (Operation.handOverAll.perform o₁).2.store.find? s.id = some (s.dispatched o.clock) := by
  have hid : s.id ∈ o.store.idsAt .readyToSubmit := Store.mem_idsAt.2 ⟨s, hs, hready⟩
  cases hup : o.drill.barcodesDown with
  | false =>
    obtain ⟨ids, o', hperform, hsent⟩ := ho.sent hup hdown h
    obtain ⟨_, ⟨u, hu, rfl⟩, ht⟩ := hsent.made_of_find? (hsent.all.mem_iff.2 hid) hs
    rw [hperform, ht, hu.eq_of_some hbarcode]
  | true =>
    have hturn (done : List String) (id : String) (o₁ : Office)
        (h : o.MidBatch (SentOrLeft o.clock) done o₁) (_ : True) (hfresh : id ∉ done)
        (hid : id ∈ o₁.store.idsAt .readyToSubmit) :
        (∀ report, BatchReport.record id (handOver id o₁).1 report = noteSentOrLeft o id report) ∧
          o₁.Turn (SentOrLeft o.clock) id (handOver id o₁).2 ∧ True := by
      have hdrill : o₁.drill = o.drill := h.around.drill
      obtain ⟨hmade, hnote⟩ :=
        turn_sentOrLeft (ho.of_drill_eq hdrill) (hdrill ▸ hup) (hdrill ▸ hdown) hid
      rw [h.around.clock] at hmade
      simp only [noteSentOrLeft, h.others id hfresh] at hnote
      exact ⟨hnote, hmade, trivial⟩
    obtain ⟨o', heach, hmid, -⟩ := each_midBatch hturn h.nodup_ready
      (fun id hid => h.ready_perm.mem_iff.1 hid) h trivial
    obtain ⟨t, hmade, ht⟩ := hmid.made_of_find? (h.ready_perm.mem_iff.2 hid) hs
    rw [h.perform_handOverAll ho.toUp, heach, ht]
    cases hmade with
    | sent => rfl
    | kept hnone =>
      rw [hbarcode] at hnone
      cases hnone

/-- After a batch every submission that stood ready carries a barcode: the one that it had, if it
had one.  It does not matter whether the loader works. -/
theorem Steady.barcode?_handOverAll (ho : o.Steady) (hup : o.drill.barcodesDown = false)
    (h : o.Reordered o₁) (hs : o.store.find? s.id = some s) (hready : s.status = .readyToSubmit) :
    ∃ t barcode, (Operation.handOverAll.perform o₁).2.store.find? s.id = some t ∧
      t.barcode? = some barcode ∧ s.barcode?.getD barcode = barcode := by
  have hid : s.id ∈ o.store.idsAt .readyToSubmit := Store.mem_idsAt.2 ⟨s, hs, hready⟩
  cases hdown : o.drill.loaderDown with
  | false =>
    obtain ⟨ids, o', hperform, hsent⟩ := ho.sent hup hdown h
    obtain ⟨_, ⟨u, hu, rfl⟩, ht⟩ := hsent.made_of_find? (hsent.all.mem_iff.2 hid) hs
    obtain ⟨barcode, hbarcode, hkept⟩ := hu.exists_barcode
    exact ⟨u.dispatched o.clock, barcode, by rw [hperform, ht], hbarcode, hkept⟩
  | true =>
    obtain ⟨ids, o', hperform, hheld⟩ := ho.heldUp hup hdown h
    obtain ⟨t, hu, ht⟩ := hheld.made_of_find? (hheld.all.mem_iff.2 hid) hs
    obtain ⟨barcode, hbarcode, hkept⟩ := hu.exists_barcode
    exact ⟨_, barcode, by rw [hperform, ht], hbarcode, hkept⟩

/-! ## Successive batches -/

/-- Every submission that stands ready has its barcode. -/
def AllBarcoded (o : Office) : Prop :=
  ∀ id s, o.store.find? id = some s → s.status = .readyToSubmit → s.barcode? ≠ none

theorem HeldUp.allBarcoded (h : o.HeldUp ids o') : o'.AllBarcoded := by
  intro id t ht hready hnone
  by_cases hid : id ∈ ids
  · obtain ⟨s, u, -, hu, hfound⟩ := h.made id hid
    obtain rfl := Option.some.inj (ht.symm.trans hfound)
    obtain ⟨barcode, hsome, -⟩ := hu.exists_barcode
    rw [hsome] at hnone
    cases hnone
  · rw [h.others id hid] at ht
    exact hid (h.all.mem_iff.2 (Store.mem_idsAt.2 ⟨t, ht, hready⟩))

/-- Where every submission has its barcode already, a batch that is held up changes nothing. -/
theorem HeldUp.find?_eq (h : o.HeldUp ids o') (hall : o.AllBarcoded) (id : String) :
    o'.store.find? id = o.store.find? id := by
  by_cases hid : id ∈ ids
  · obtain ⟨s, hs, hstatus⟩ := Store.mem_idsAt.1 (h.all.mem_iff.1 hid)
    obtain ⟨t, ht, hfound⟩ := h.made_of_find? hid hs
    obtain ⟨barcode, hbarcode⟩ := Option.ne_none_iff_exists'.1 (hall id s hs hstatus)
    rw [hfound, ht.eq_of_some hbarcode, hs]
  · exact h.others id hid

/-- The same batch again and again, each at its own time.  From one to the next the store may come
to list its submissions in another order. -/
inductive HeldAgain (o : Office) : Office → Prop
  | none : HeldAgain o o
  | again {o₁ o₂} (h : HeldAgain o o₁) (hreordered : o₁.Reordered o₂) (now : Instant) :
      HeldAgain o (o₂.step now .handOverAll).2

/-- **Another batch changes nothing**, as long as the loader is out of order. -/
theorem HeldAgain.same (h : o.HeldAgain o') (ho : o.Steady) (hup : o.drill.barcodesDown = false)
    (hdown : o.drill.loaderDown = true) (hall : o.AllBarcoded) :
    o'.drill = o.drill ∧ o'.loaded = o.loaded ∧
      ∀ id, o'.store.find? id = o.store.find? id := by
  induction h with
  | none => exact ⟨rfl, rfl, fun _ => rfl⟩
  | @again o₁ o₂ _ hreordered now ih =>
    obtain ⟨hdrill, hloaded, hsame⟩ := ih
    have ho₁ : Steady { o₁ with clock := now } := ho.of_drill_eq hdrill
    obtain ⟨ids, o', hperform, hheld⟩ :=
      ho₁.heldUp (hdrill ▸ hup) (hdrill ▸ hdown) (hreordered.withClock now)
    have hstep : (o₂.step now .handOverAll).2 = o' := congrArg Prod.snd hperform
    have hall₁ : AllBarcoded { o₁ with clock := now } := fun id s hs =>
      hall id s ((hsame id).symm.trans hs)
    rw [hstep]
    exact ⟨hheld.around.drill.trans hdrill, hheld.loaded.trans hloaded, fun id =>
      (hheld.find?_eq hall₁ id).trans (hsame id)⟩

/-- A submission that had its barcode before is loaded as it was then. -/
theorem Sent.records (h : o.Sent ids o') (hall : o.AllBarcoded) {records : List BatchRecord}
    (hrecords : List.Forall₂ o'.Records ids records) : List.Forall₂ o.Records ids records := by
  refine ((List.forall₂_and_left _ _).2 ⟨fun id hid => hid, hrecords⟩).imp ?_
  rintro id record ⟨hid, habout, t, ht, hrecord⟩
  obtain ⟨s, hs, hstatus⟩ := Store.mem_idsAt.1 (h.all.mem_iff.1 hid)
  obtain ⟨_, ⟨u, hu, rfl⟩, ht'⟩ := h.made_of_find? hid hs
  obtain rfl := Option.some.inj (ht.symm.trans ht')
  obtain ⟨barcode, hbarcode⟩ := Option.ne_none_iff_exists'.1 (hall id s hs hstatus)
  rw [hu.eq_of_some hbarcode] at hrecord
  exact ⟨habout, s, hs, hrecord.of_dispatched⟩

theorem Steady.withLoaderDown (ho : o.Steady) (down : Bool) : (o.withLoaderDown down).Steady :=
  ⟨⟨ho.undisturbed, ho.storeUp, ho.noneLost⟩, ho.alone⟩

/-- **Once the loader works again, every submission is loaded once**, with the barcode that it had
after the first batch. -/
theorem HeldUp.resumed {first : Office} (h : o.HeldUp ids first) (ho : o.Steady)
    (hup : o.drill.barcodesDown = false) (hdown : o.drill.loaderDown = true)
    (hagain : first.HeldAgain o₁) {o₂ : Office}
    (hreordered : (o₁.withLoaderDown false).Reordered o₂) (later : Instant) :
    ∃ ids' records o', o₂.step later .handOverAll = (.ok (.batch ⟨ids', []⟩), o') ∧
      Sent { o₁.withLoaderDown false with clock := later } ids' o' ∧ ids'.Perm ids ∧
      o'.loaded = o.loaded ++ records ∧ List.Forall₂ first.Records ids' records := by
  have hdrill := h.around.drill
  have hall := h.allBarcoded
  obtain ⟨hdrill₁, hloaded, hsame⟩ :=
    hagain.same (ho.of_drill_eq hdrill) (hdrill ▸ hup) (hdrill ▸ hdown) hall
  have ho₁ : o₁.Steady := ho.of_drill_eq (hdrill₁.trans hdrill)
  have hworking : Steady { o₁.withLoaderDown false with clock := later } :=
    (ho₁.withLoaderDown false).of_drill_eq rfl
  have hup₁ : o₁.drill.barcodesDown = false := by rw [hdrill₁, hdrill, hup]
  obtain ⟨ids', o', hperform, hsent⟩ := hworking.sent hup₁ rfl (hreordered.withClock later)
  have hall₁ : AllBarcoded { o₁.withLoaderDown false with clock := later } := fun id s hs =>
    hall id s ((hsame id).symm.trans hs)
  obtain ⟨records, hnew, hrecords⟩ := hsent.loaded
  have hperm : (o₁.store.idsAt .readyToSubmit).Perm (first.store.idsAt .readyToSubmit) :=
    Store.idsAt_perm hsame .readyToSubmit
  refine ⟨ids', records, o', hperform, hsent, hsent.all.trans (hperm.trans h.ready.symm), ?_, ?_⟩
  · rw [hnew, ← h.loaded, ← hloaded]
    rfl
  · refine (hsent.records hall₁ hrecords).imp ?_
    rintro id record ⟨habout, s, hs, hrecord⟩
    exact ⟨habout, s, (hsame id).symm.trans hs, hrecord⟩

/-! ## The result -/

/-- How batches for the registration system fare from an office on, in whatever order its store
lists the submissions, and whenever they are started. -/
structure Restartable (o : Office) : Prop where
  /-- While the loader works, all submissions are handed over. -/
  online : o.drill.loaderDown = false → ∀ o₁ now, o.Reordered o₁ → ∃ ids o',
    o₁.step now .handOverAll = (.ok (.batch ⟨ids, []⟩), o') ∧ Sent { o with clock := now } ids o'
  /-- Otherwise all of them are refused, but have their barcodes.  The batch may be repeated so as
  often as one likes, and when the loader works again all of them are handed over: then one record
  is loaded for each, as it was stored after the first batch. -/
  offline : o.drill.loaderDown = true → ∀ o₁ now, o.Reordered o₁ → ∃ ids first,
    o₁.step now .handOverAll = (.ok (.batch ⟨[], ids.map (·, loaderReason)⟩), first) ∧
      HeldUp { o with clock := now } ids first ∧
      ∀ o₂ o₃ later, first.HeldAgain o₂ → (o₂.withLoaderDown false).Reordered o₃ →
        ∃ ids' records o', o₃.step later .handOverAll = (.ok (.batch ⟨ids', []⟩), o') ∧
          Sent { o₂.withLoaderDown false with clock := later } ids' o' ∧ ids'.Perm ids ∧
          o'.loaded = o.loaded ++ records ∧ List.Forall₂ first.Records ids' records

/-- **Batches for the registration system are complete, and can be started again.**  All that is
asked of the office is that its store and its barcodes work and that nobody interferes. -/
theorem Steady.restartable (ho : o.Steady) (hup : o.drill.barcodesDown = false) :
    o.Restartable where
  online hdown o₁ now h := by
    have ho' : Steady { o with clock := now } := ho.of_drill_eq rfl
    exact ho'.sent hup hdown (h.withClock now)
  offline hdown o₁ now h := by
    have ho' : Steady { o with clock := now } := ho.of_drill_eq rfl
    obtain ⟨ids, first, hperform, hheld⟩ := ho'.heldUp hup hdown (h.withClock now)
    exact ⟨ids, first, hperform, hheld, fun o₂ o₃ later hagain hreordered =>
      hheld.resumed ho' hup hdown hagain hreordered later⟩

/-- An office with two filings that stand ready while the loader is out of order, one of which has
its barcode. -/
def withTwoHeld : Office :=
  let now : Instant := ⟨1719828180, 0⟩
  withStatementHeld.run
    [(now, .create (some ⟨"filings@bolt.example"⟩)),
      (now, .editCompany "sub-2" ⟨"07654321", "Bolt and Sons"⟩),
      (now, .editForm "sub-2" "SH19"),
      (now, .complete "sub-2"),
      (now, .queue "sub-2")]

/-- A batch that is held up, and one that gets through. -/
theorem restartable_withTwoHeld :
    let first := (withTwoHeld.step ⟨1719828240, 0⟩ .handOverAll).2
    let last := ((first.withLoaderDown false).step ⟨1719828300, 0⟩ .handOverAll).2
    (withTwoHeld.store.records.map fun s => (s.id, s.status, s.barcode?)) =
        [("sub-1", .readyToSubmit, some "X2418300001"), ("sub-2", .readyToSubmit, none)] ∧
      withTwoHeld.drill.loaderDown = true ∧ withTwoHeld.Restartable ∧
      (withTwoHeld.withLoaderDown false).Restartable ∧
      (first.store.records.map fun s => (s.id, s.status, s.barcode?)) =
        [("sub-1", .readyToSubmit, some "X2418300001"),
          ("sub-2", .readyToSubmit, some "X2418300002")] ∧
      first.loaded = [] ∧
      last.loaded =
        [⟨"sub-1", "X2418300001", "REF-0001", "SH19", "01234567", "Acme Widgets Ltd",
            some ⟨1719828000, 0⟩, []⟩,
          ⟨"sub-2", "X2418300002", "REF-0002", "SH19", "07654321", "Bolt and Sons",
            some ⟨1719828180, 0⟩, []⟩] := by
  have hopened : (Office.opened .standard OfficeConfig.default.settings .fresh
      ⟨1719828000, 0⟩).Steady :=
    ⟨⟨rfl, rfl, rfl⟩, rfl⟩
  have hsteady : withTwoHeld.Steady :=
    Steady.run (Steady.run ((hopened.run _).withLoaderDown true) _) _
  have hup : withTwoHeld.drill.barcodesDown = false := by decide +kernel
  have hup' : (withTwoHeld.withLoaderDown false).drill.barcodesDown = false := by decide +kernel
  have hfirst := step_handOverAll_of_sorted hsteady.toUp ⟨1719828240, 0⟩ (by decide +kernel)
  have hheld : ((withTwoHeld.step ⟨1719828240, 0⟩ .handOverAll).2.withLoaderDown false).Steady :=
    (hsteady.run [(⟨1719828240, 0⟩, .handOverAll)]).withLoaderDown false
  rw [hfirst] at hheld
  have hlast := step_handOverAll_of_sorted hheld.toUp ⟨1719828300, 0⟩ (by decide +kernel)
  dsimp only
  rw [hfirst, hlast]
  exact ⟨by decide +kernel, by decide +kernel, hsteady.restartable hup,
    (hsteady.withLoaderDown false).restartable hup', by decide +kernel, by decide +kernel,
    by decide +kernel⟩

end Office

end Filing
