import Filing.Proofs.Office.Deed

/-!
# The steps of a hand-over

A hand-over draws a barcode and notes it down, has the record loaded, and marks the submission.  It
may stop after the first of these steps, and the next one goes on from there.

* `Office.handOver_of_labelled` — the hand-over of a submission that has its barcode;
* `Office.handOver_of_none` — one that has none gets it first;
* `Office.HandsOver` — what may become of a hand-over, with `Office.handsOver`.
-/

set_option autoImplicit false

namespace Filing

open Act

namespace Office

open Submission

variable {o : Office} {id : String}

/-! ## The hand-over -/

theorem readReady_apply (ho : o.Up) {s : Submission} (hs : o.store.find? id = some s) :
    readReady id o = ((s.demand [.readyToSubmit]).map fun _ => s, o) := by
  have hread : read id o = (.ok s, o) := by rw [read_apply ho, hs]
  rw [readReady, bind_of_ok hread, bind_apply, ofExcept_apply]
  cases s.demand [.readyToSubmit] <;> rfl

theorem readReady_of_ready (ho : o.Up) {s : Submission} (hs : o.store.find? id = some s)
    (hready : s.status = .readyToSubmit) : readReady id o = (.ok s, o) := by
  have hdemand : s.demand [.readyToSubmit] = .ok () := demand_eq_ok.2 (by simp [hready])
  rw [readReady_apply ho hs, hdemand]
  rfl

/-- What is left of a hand-over once the submission has its barcode. -/
def dispatchLabelled (id : String) (now : Instant) (s : Submission) : Act Refusal Submission := do
  let record ← (Act.ofExcept (BatchRecord.ofSubmission s)).adapt .fes
  (loadDuring id record).adapt .fes
  let sent ← Act.ofExcept (s.advance .sentToFes now)
  let _ ← (updateStatus id s.status sent.status now).adapt (.ofWrite id)
  read id

theorem handOver_eq (id : String) :
    handOver id = readReady id >>= fun s => get >>= fun o =>
      withBarcode s o.clock >>= dispatchLabelled id o.clock := by
  rw [handOver, handOverBeside, if_neg List.not_mem_nil]
  rfl

/-- The status of a submission that stands ready. -/
theorem updateStatus_apply (ho : o.Up) {s : Submission} (hs : o.store.find? s.id = some s)
    (status : Status) (now : Instant) :
    let t := (({ s with status := status } : Submission).touch now).stored s.version
    updateStatus s.id s.status status now o = (.ok t, { o with store := o.store.put t }) := by
  rw [updateStatus, onStore_up ho, writes, Store.updateStatus_eq hs, if_pos rfl]

/-- A submission that has its barcode is handed over as it stands. -/
theorem dispatchLabelled_apply (ho : o.Steady) {s : Submission} {record : BatchRecord}
    (hs : o.store.find? s.id = some s) (hready : s.status = .readyToSubmit)
    (hrecord : BatchRecord.ofSubmission s = .ok record) :
    dispatchLabelled s.id o.clock s o =
      if o.drill.loaderDown then (.error (.fes (.loader "FES loader offline")), o)
      else (.ok (s.dispatched o.clock), o.dispatch s record) := by
  have hofExcept : (Act.ofExcept (BatchRecord.ofSubmission s)) o = (.ok record, o) := by
    rw [ofExcept_apply, hrecord]
  have hduring : loadDuring s.id record o = load record o := by
    rw [loadDuring, get_bind_apply, ho.alone]
  rw [dispatchLabelled, bind_of_ok (adapt_of_ok hofExcept)]
  by_cases hdown : o.drill.loaderDown = true
  · have hload : loadDuring s.id record o = (.error (.loader "FES loader offline"), o) := by
      rw [hduring, load, if_pos hdown]
    rw [if_pos hdown, bind_of_error (adapt_of_error hload)]
  · let o₁ : Office := { o with loaded := o.loaded ++ [record] }
    have hload : loadDuring s.id record o = (.ok (), o₁) := by
      rw [hduring, load, if_neg hdown]
    have hup₁ : o₁.Up := ho.toUp.of_drill_eq rfl
    have hadvance : Act.ofExcept (s.advance .sentToFes o.clock) o₁ =
        (.ok { s with status := .sentToFes, modifiedAt := o.clock }, o₁) := by
      rw [ofExcept_apply, advance_eq_ok.2 ⟨by rw [hready]; rfl, rfl⟩]
    have hupdate := updateStatus_apply hup₁ hs .sentToFes o.clock
    have hup₂ : (o.dispatch s record).Up := ho.toUp.of_drill_eq rfl
    rw [if_neg hdown, bind_of_ok (adapt_of_ok hload), bind_of_ok hadvance,
      bind_of_ok (adapt_of_ok hupdate)]
    have hread := read_apply hup₂ s.id
    rw [find?_dispatch hs] at hread
    exact hread

theorem withBarcode_of_isSome {s : Submission} (h : s.barcode?.isSome) (now : Instant) :
    withBarcode s now o = (.ok s, o) := by
  rw [withBarcode, if_pos h]
  rfl

/-- The office draws a barcode and notes it down. -/
theorem withBarcode_of_none (ho : o.Up) {s : Submission} (hs : o.store.find? s.id = some s)
    (hready : s.status = .readyToSubmit) (hnone : s.barcode? = none)
    (hup : o.drill.barcodesDown = false) :
    withBarcode s o.clock o =
      (.ok (s.labelled (o.barcodes.next o.clock).1 o.clock), o.label s) := by
  let barcode := (o.barcodes.next o.clock).1
  let o₁ : Office := { o with barcodes := (o.barcodes.next o.clock).2 }
  have hup₁ : o₁.Up := ho.of_drill_eq rfl
  have hdraw : nextBarcode o.clock o = (.ok barcode, o₁) := by
    rw [nextBarcode, if_neg (by rw [hup]; exact Bool.false_ne_true)]
  have hlabel : updateBarcode s.id barcode o.clock o₁ =
      (.ok (s.labelled barcode o.clock), o.label s) := by
    rw [updateBarcode, onStore_up hup₁, writes, Store.updateBarcode_eq hs hnone]
    rfl
  have hup₂ : (o.label s).Up := ho.of_drill_eq rfl
  rw [withBarcode, if_neg (by rw [hnone]; exact Bool.false_ne_true),
    bind_of_ok (adapt_of_ok hdraw), bind_of_ok (adapt_of_ok hlabel)]
  exact readReady_of_ready hup₂ (find?_label hs) hready

/-- Without barcodes nothing happens. -/
theorem withBarcode_of_down {s : Submission} (hnone : s.barcode? = none)
    (hdown : o.drill.barcodesDown = true) :
    withBarcode s o.clock o = (.error (.fes (.barcodeUnavailable "sequence exhausted")), o) := by
  have hdraw : nextBarcode o.clock o = (.error (.barcodeUnavailable "sequence exhausted"), o) := by
    rw [nextBarcode, if_pos hdown]
  rw [withBarcode, if_neg (by rw [hnone]; exact Bool.false_ne_true),
    bind_of_error (adapt_of_error hdraw)]

/-- A hand-over of a submission that stands ready, up to its barcode. -/
theorem handOver_of_ready (ho : o.Steady) {s : Submission} (hs : o.store.find? s.id = some s)
    (hready : s.status = .readyToSubmit) :
    handOver s.id o = (withBarcode s o.clock >>= dispatchLabelled s.id o.clock) o := by
  rw [handOver_eq, bind_of_ok (readReady_of_ready ho.toUp hs hready), get_bind_apply]

/-- **A hand-over of a submission that has its barcode.** -/
theorem handOver_of_labelled (ho : o.Steady) {s : Submission} {record : BatchRecord}
    (hs : o.store.find? s.id = some s) (hready : s.status = .readyToSubmit)
    (hrecord : BatchRecord.ofSubmission s = .ok record) :
    handOver s.id o =
      if o.drill.loaderDown then (.error (.fes (.loader "FES loader offline")), o)
      else (.ok (s.dispatched o.clock), o.dispatch s record) := by
  have hsome : s.barcode?.isSome := by
    obtain ⟨barcode, hbarcode, -⟩ := BatchRecord.ofSubmission_eq_ok.1 hrecord
    rw [hbarcode]
    rfl
  rw [handOver_of_ready ho hs hready, bind_of_ok (withBarcode_of_isSome hsome o.clock)]
  exact dispatchLabelled_apply ho hs hready hrecord

/-- **A hand-over of a submission without a barcode** gives it one first, and goes on from there. -/
theorem handOver_of_none (ho : o.Steady) {s : Submission} (hs : o.store.find? s.id = some s)
    (hready : s.status = .readyToSubmit) (hnone : s.barcode? = none)
    (hup : o.drill.barcodesDown = false) :
    let barcode := (o.barcodes.next o.clock).1
    let t := s.labelled barcode o.clock
    handOver s.id o =
      if o.drill.loaderDown then (.error (.fes (.loader "FES loader offline")), o.label s)
      else (.ok (t.dispatched o.clock), (o.label s).dispatch t (.withBarcode t barcode)) := by
  intro barcode t
  have hlabel : Entry o (o.label s) := .labelled hs hready hnone
  have ht : (o.label s).store.find? t.id = some t := find?_label hs
  have hrecord : BatchRecord.ofSubmission t = .ok (.withBarcode t barcode) := rfl
  rw [handOver_of_ready ho hs hready,
    bind_of_ok (withBarcode_of_none ho.toUp hs hready hnone hup)]
  exact dispatchLabelled_apply (hlabel.steady ho) ht hready hrecord

/-- **After an attempt the submission carries a barcode**: the one that it had, or else the next one,
whether the record was loaded or not. -/
theorem find?_handOver (ho : o.Steady) {s : Submission} (hs : o.store.find? s.id = some s)
    (hready : s.status = .readyToSubmit) (hup : o.drill.barcodesDown = false) :
    ∃ t, (handOver s.id o).2.store.find? s.id = some t ∧
      t.barcode? = some (s.barcode?.getD (o.barcodes.next o.clock).1) := by
  cases hbarcode : s.barcode? with
  | some barcode =>
    have hrecord := BatchRecord.ofSubmission_eq_ok.2 ⟨barcode, hbarcode, rfl⟩
    rw [handOver_of_labelled ho hs hready hrecord]
    split
    · exact ⟨s, hs, hbarcode⟩
    · exact ⟨s.dispatched o.clock, find?_dispatch hs _, hbarcode⟩
  | none =>
    rw [handOver_of_none ho hs hready hbarcode hup]
    split
    · exact ⟨_, find?_label hs, rfl⟩
    · have ht := find?_label hs
      exact ⟨_, find?_dispatch ht _, rfl⟩

/-- What becomes of a hand-over. -/
inductive HandsOver (o : Office) (id : String) : Except Refusal Submission → Office → Prop
  | refused (e : Refusal) : HandsOver o id (.error e) o
  /-- The loader is out of order, but the submission has got its barcode. -/
  | held {s : Submission} (hid : s.id = id) (hs : o.store.find? s.id = some s)
      (hready : s.status = .readyToSubmit) (hnone : s.barcode? = none) :
      HandsOver o id (.error (.fes (.loader "FES loader offline"))) (o.label s)
  | sent {o₁ : Office} {s : Submission} {record : BatchRecord} (h : Deeds o [] o₁)
      (hid : s.id = id) (hs : o₁.store.find? s.id = some s) (hready : s.status = .readyToSubmit)
      (hrecord : BatchRecord.ofSubmission s = .ok record) :
      HandsOver o id (.ok (s.dispatched o₁.clock)) (o₁.dispatch s record)

theorem handsOver_of_labelled (ho : o.Steady) {s : Submission} {record : BatchRecord}
    (hs : o.store.find? s.id = some s) (hready : s.status = .readyToSubmit)
    (hrecord : BatchRecord.ofSubmission s = .ok record) :
    HandsOver o s.id (handOver s.id o).1 (handOver s.id o).2 := by
  rw [handOver_of_labelled ho hs hready hrecord]
  split
  · exact .refused _
  · exact .sent .refl rfl hs hready hrecord

theorem handsOver_of_none (ho : o.Steady) {s : Submission} (hs : o.store.find? s.id = some s)
    (hready : s.status = .readyToSubmit) (hnone : s.barcode? = none) :
    HandsOver o s.id (handOver s.id o).1 (handOver s.id o).2 := by
  cases hdown : o.drill.barcodesDown with
  | true =>
    rw [handOver_of_ready ho hs hready, bind_of_error (withBarcode_of_down hnone hdown)]
    exact .refused _
  | false =>
    rw [handOver_of_none ho hs hready hnone hdown]
    split
    · exact .held rfl hs hready hnone
    · have hlabel : Deed o none (o.label s) := .labelled hs hready hnone
      exact .sent (.single hlabel) rfl (find?_label hs) hready rfl

/-- **A hand-over is refused, held up by the loader, or done.** -/
theorem handsOver (ho : o.Steady) (id : String) :
    HandsOver o id (handOver id o).1 (handOver id o).2 := by
  cases hs : o.store.find? id with
  | none =>
    have hread : read id o = (.error (.notFound id), o) := by rw [read_apply ho.toUp, hs]
    have hnone : readReady id o = (.error (.notFound id), o) := bind_of_error hread
    rw [handOver_eq, bind_of_error hnone]
    exact .refused _
  | some s =>
    have hread := readReady_apply ho.toUp hs
    obtain rfl := Store.id_of_find? hs
    cases hdemand : s.demand [.readyToSubmit] with
    | error e =>
      rw [hdemand] at hread
      rw [handOver_eq, bind_of_error hread]
      exact .refused e
    | ok u =>
      have hready : s.status = .readyToSubmit := List.mem_singleton.1 (demand_eq_ok.1 hdemand)
      cases hbarcode : s.barcode? with
      | none => exact handsOver_of_none ho hs hready hbarcode
      | some barcode =>
        have hrecord := BatchRecord.ofSubmission_eq_ok.2 ⟨barcode, hbarcode, rfl⟩
        exact handsOver_of_labelled ho hs hready hrecord

/-- No task is among what is done for a hand-over. -/
theorem HandsOver.deeds {r : Except Refusal Submission} {o' : Office}
    (h : HandsOver o id r o') : Deeds o [] o' := by
  cases h with
  | refused => exact .refl
  | held hid hs hready hnone => exact .single (.labelled hs hready hnone)
  | sent h hid hs hready hrecord => exact .tail h (.dispatched hs hready hrecord)

/-- After a hand-over that is done the submission is stored as the answer shows it. -/
theorem HandsOver.find?_ok {s : Submission} {o' : Office} (h : HandsOver o id (.ok s) o') :
    o'.store.find? id = some s := by
  cases h with
  | sent h hid hs hready hrecord =>
    rw [← hid]
    exact find?_dispatch hs _

end Office

end Filing
