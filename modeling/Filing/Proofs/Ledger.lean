import Filing.Proofs.Answer
import Filing.Proofs.Barcode
import Filing.Proofs.Dispatch
import Filing.Proofs.Routing

/-!
# What the registration system has

Every filing is handed to the registration system once.  The records that were loaded are those of the
submissions that are marked as handed over, as these are stored at any later time, and no two of them
carry the same barcode.  An attempt that fails does no more than settle the barcode, whether it was
made for the submission alone or in a batch: whenever the record is loaded in the end, it is with the
barcode of the first attempt.

* `Office.SameBooks` — what may change around a steady office, the loader among it;
* `Office.Booked` — the loaded records of a submission are what its status says, with
  `Office.Entry.booked`;
* `Office.labels`, `Office.Numbered` — the barcodes that were given out, with `Office.Entry.numbered`;
* `Office.HandedOff`, `Office.KeepsBarcode` and `Office.NewBooks.handedOff` — **the result**.
-/

set_option autoImplicit false

namespace Filing

namespace Office

/-! ## Around the office -/

/-- Everything but the store and the books may have changed, as long as the office stays steady: the
loader may have gone out of order, or work again. -/
structure SameBooks (o o' : Office) : Prop where
  store : o'.store = o.store
  loaded : o'.loaded = o.loaded
  barcodes : o'.barcodes = o.barcodes
  steady : o'.Steady

/-- An office before its first submission. -/
structure NewBooks (o : Office) : Prop where
  store : o.store = .empty
  loaded : o.loaded = []
  barcodes : o.barcodes = .fresh o.barcodes.lead
  steady : o.Steady

theorem SameBooks.sameStore {o o' : Office} (h : SameBooks o o') : SameStore o o' :=
  ⟨h.store, h.steady.undisturbed⟩

end Office

/-! ## Loaded records -/

namespace Submission

/-- The record that the registration system has of a submission, if it was handed over. -/
def loadedRecord? (s : Submission) : Option BatchRecord :=
  if s.status.isHandedOver then (BatchRecord.ofSubmission s).toOption else none

variable {o : Office} {s t : Submission}

theorem loadedRecord?_of_not_handedOver (h : s.status.isHandedOver = false) :
    s.loadedRecord? = none := by
  rw [loadedRecord?, h]
  rfl

/-- Nothing that a record is made of changes once the submission was handed over. -/
theorem Change.ofSubmission_eq (h : s.Change o t) (hs : s.status.isHandedOver = true) :
    BatchRecord.ofSubmission t = BatchRecord.ofSubmission s := by
  cases h with
  | edited h => rw [h.opened] at hs; cases hs
  | completed form fee hopened => rw [hopened] at hs; cases hs
  | paid report sessions hwaiting => obtain h | h := hwaiting <;> rw [h] at hs <;> cases hs
  | passed form hsubmitted => rw [hsubmitted] at hs; cases hs
  | started hsubmitted => rw [hsubmitted] at hs; cases hs
  | reported fileId outcome hprocessing => rw [hprocessing] at hs; cases hs
  | decided fileId outcome verdict form hprocessing => rw [hprocessing] at hs; cases hs
  | labelled barcode hready => rw [hready] at hs; cases hs
  | sent hready => rw [hready] at hs; cases hs
  | accepted => rfl
  | rejected => rfl

theorem Change.loadedRecord?_eq (h : s.Change o t) (hready : s.status ≠ .readyToSubmit) :
    t.loadedRecord? = s.loadedRecord? := by
  obtain heq | ⟨hs, -⟩ := h.isHandedOver_eq
  · cases hs : s.status.isHandedOver with
    | false =>
      rw [loadedRecord?_of_not_handedOver hs, loadedRecord?_of_not_handedOver (heq.trans hs)]
    | true => rw [loadedRecord?, loadedRecord?, heq, h.ofSubmission_eq hs]
  · exact absurd hs hready

end Submission

namespace Office

variable {o o' : Office}

/-- The loaded records of every submission are the one that its status says, or none. -/
def Booked (o : Office) : Prop :=
  ∀ id, o.loaded.filter (·.submissionId = id) =
    ((o.store.find? id).bind Submission.loadedRecord?).toList

/-- One submission is written, and the records are loaded that its status asks for. -/
theorem Booked.put {s t : Submission} {new : List BatchRecord} (ho : o.Booked)
    (hs : o.store.find? s.id = some s) (hid : t.id = s.id) (hstore : o'.store = o.store.put t)
    (hloaded : o'.loaded = o.loaded ++ new) (hnew : ∀ r ∈ new, r.submissionId = s.id)
    (hrecord : t.loadedRecord?.toList = s.loadedRecord?.toList ++ new) : o'.Booked := by
  intro id
  have hbefore := ho id
  rw [hstore, hloaded, Store.find?_put, List.filter_append, hbefore]
  by_cases hsame : id = s.id
  · have hall : new.filter (·.submissionId = id) = new :=
      List.filter_eq_self.2 fun r hr => decide_eq_true ((hnew r hr).trans hsame.symm)
    rw [if_pos (hsame.trans hid.symm), hsame, hs, ← hsame, hall]
    exact hrecord.symm
  · have hnone : new.filter (·.submissionId = id) = [] :=
      List.filter_eq_nil_iff.2 fun r hr h => hsame ((of_decide_eq_true h).symm.trans (hnew r hr))
    rw [if_neg fun h => hsame (h.trans hid), hnone, List.append_nil]

/-- **Every entry keeps the records and the store together.** -/
theorem Entry.booked (h : Entry o o') (ho : o.Booked) : o'.Booked := by
  cases h with
  | aside => exact ho
  | @created r reference presenter hr hfree =>
    intro id
    have hbefore := ho id
    have hopened : r.loadedRecord? = none := by
      rw [hr]
      rfl
    rw [Store.find?_append]
    by_cases hid : id = r.id
    · rw [if_pos hid, Option.bind_some, hopened]
      rw [hid, hfree] at hbefore
      rw [hid]
      exact hbefore
    · rw [if_neg hid]
      exact hbefore
  | @revised s t hs hmove hready =>
    have hrecord : (t.stored s.version).loadedRecord? = s.loadedRecord? :=
      hmove.change.loadedRecord?_eq hready
    have hid : (t.stored s.version).id = s.id := hmove.sameOrigin.id
    refine ho.put hs hid rfl (List.append_nil _).symm ?_ ?_
    · exact fun _ h => absurd h List.not_mem_nil
    · rw [hrecord, List.append_nil]
  | @labelled s hs hready hnone =>
    have hbefore : s.status.isHandedOver = false := by rw [hready]; rfl
    let t := s.labelled (o.barcodes.next o.clock).1 o.clock
    have hafter : t.status.isHandedOver = false := hbefore
    have hid : t.id = s.id := rfl
    refine ho.put hs hid rfl (List.append_nil _).symm ?_ ?_
    · exact fun _ h => absurd h List.not_mem_nil
    · rw [Submission.loadedRecord?_of_not_handedOver hbefore,
        Submission.loadedRecord?_of_not_handedOver hafter]
      rfl
  | @dispatched s record hs hready hrecord =>
    have hbefore : s.status.isHandedOver = false := by rw [hready]; rfl
    have hafter : (s.dispatched o.clock).loadedRecord? = some record := by
      have hsame : BatchRecord.ofSubmission (s.dispatched o.clock) = .ok record := hrecord
      have hhanded : (s.dispatched o.clock).status.isHandedOver = true := rfl
      rw [Submission.loadedRecord?, if_pos hhanded, hsame]
      rfl
    have hid : (s.dispatched o.clock).id = s.id := rfl
    refine ho.put hs hid rfl rfl ?_ ?_
    · intro r hr
      obtain ⟨barcode, -, heq⟩ := BatchRecord.ofSubmission_eq_ok.1 hrecord
      rw [List.mem_singleton.1 hr, heq]
      rfl
    · rw [hafter, Submission.loadedRecord?_of_not_handedOver hbefore]
      rfl

end Office

/-! ## Barcodes -/

namespace Store

variable {store : Store} {s t : Submission}

/-- The barcodes that submissions carry. -/
def labels (store : Store) : List String :=
  store.records.filterMap (·.barcode?)

theorem labels_append (h : store.find? s.id = none) :
    (store.append s h).labels = store.labels ++ s.barcode?.toList := by
  have hrecords : (store.append s h).records = store.records ++ [s] := rfl
  rw [labels, hrecords, List.filterMap_append, List.filterMap_cons]
  cases s.barcode? <;> rfl

/-- The barcode of the new record stands where that of the old one was. -/
theorem labels_put (hs : store.find? s.id = some s) (hid : t.id = s.id) :
    ∃ before after, store.labels = before ++ (s.barcode?.toList ++ after) ∧
      (store.put t).labels = before ++ (t.barcode?.toList ++ after) := by
  rw [← hid] at hs
  obtain ⟨before, after, hold, hnew⟩ := records_put hs
  refine ⟨before.filterMap (·.barcode?), after.filterMap (·.barcode?), ?_, ?_⟩
  · rw [labels, hold, List.filterMap_append, List.filterMap_cons]
    cases s.barcode? <;> rfl
  · rw [labels, hnew, List.filterMap_append, List.filterMap_cons]
    cases t.barcode? <;> rfl

theorem labels_put_of_eq (hs : store.find? s.id = some s) (hid : t.id = s.id)
    (hbarcode : t.barcode? = s.barcode?) : (store.put t).labels = store.labels := by
  obtain ⟨before, after, hold, hnew⟩ := labels_put hs hid
  rw [hold, hnew, hbarcode]

/-- Where no barcode is given out twice, a submission is known by its barcode. -/
theorem eq_of_barcode?_eq (h : store.labels.Nodup) (hs : s ∈ store.records)
    (ht : t ∈ store.records) {barcode : String} (hsb : s.barcode? = some barcode)
    (htb : t.barcode? = some barcode) : s = t := by
  let Differ (s t : Submission) : Prop :=
    ∀ b, s.barcode? = some b → ∀ b', t.barcode? = some b' → b ≠ b'
  have hpairwise : store.records.Pairwise Differ := List.pairwise_filterMap.1 h
  have hsymm : Std.Symm Differ := ⟨fun _ _ h b hb b' hb' => (h b' hb' b hb).symm⟩
  by_contra hne
  exact hpairwise.forall hs ht hne barcode hsb barcode htb rfl

end Store

namespace Office

variable {o o' : Office} {lead : Char}

/-- An entry leaves the barcodes alone, or gives out the next one. -/
theorem Entry.labels (h : Entry o o') :
    (o'.store.labels = o.store.labels ∧ o'.barcodes = o.barcodes) ∨
      (o'.store.labels.Perm ((o.barcodes.next o.clock).1 :: o.store.labels) ∧
        o'.barcodes = (o.barcodes.next o.clock).2) := by
  cases h with
  | aside => exact .inl ⟨rfl, rfl⟩
  | @created r reference presenter hr hfree =>
    have hnone : r.barcode? = none := by
      rw [hr]
      rfl
    refine .inl ⟨?_, rfl⟩
    rw [Store.labels_append, hnone]
    exact List.append_nil _
  | @revised s t hs hmove hready =>
    have hid : (t.stored s.version).id = s.id := hmove.sameOrigin.id
    refine .inl ⟨Store.labels_put_of_eq hs hid ?_, rfl⟩
    obtain heq | ⟨h, -⟩ := hmove.change.barcode?_eq
    · exact heq
    · exact absurd h hready
  | @labelled s hs hready hnone =>
    let t := s.labelled (o.barcodes.next o.clock).1 o.clock
    have hid : t.id = s.id := rfl
    obtain ⟨before, after, hold, hnew⟩ := Store.labels_put hs hid
    have hbarcode : t.barcode? = some (o.barcodes.next o.clock).1 := rfl
    rw [hnone] at hold
    rw [hbarcode] at hnew
    refine .inr ⟨?_, rfl⟩
    have hlabels : (o.label s).store.labels = (o.store.put t).labels := rfl
    rw [hlabels, hnew, hold]
    exact List.perm_middle
  | @dispatched s record hs hready hrecord =>
    have hid : (s.dispatched o.clock).id = s.id := rfl
    exact .inl ⟨Store.labels_put_of_eq hs hid rfl, rfl⟩

/-- The barcodes that submissions carry are the first ones of the sequence.  They all differ until the
numbers run out. -/
structure Numbered (lead : Char) (o : Office) : Prop where
  sequence : o.barcodes = ⟨lead, .ofNat (o.store.labels.length + 1)⟩
  number : ∀ b ∈ o.store.labels, ∃ (t : Instant) (n : Nat),
    0 < n ∧ n ≤ o.store.labels.length ∧ b = BarcodeSequence.barcode lead t.date (.ofNat n)
  nodup : o.store.labels.length < UInt64.size → o.store.labels.Nodup

theorem NewBooks.numbered (h : o.NewBooks) : Numbered o.barcodes.lead o := by
  have hlabels : o.store.labels = [] := by
    rw [h.store]
    rfl
  refine ⟨?_, ?_, fun _ => ?_⟩
  · rw [hlabels]
    exact h.barcodes
  · rw [hlabels]
    exact fun b hb => absurd hb List.not_mem_nil
  · rw [hlabels]
    exact List.nodup_nil

/-- The next barcode is not carried by any submission. -/
theorem Numbered.next_not_mem (h : Numbered lead o)
    (hlength : o.store.labels.length + 1 < UInt64.size) (now : Instant) :
    (o.barcodes.next now).1 ∉ o.store.labels := by
  intro hmem
  obtain ⟨t, n, hpos, hle, hb⟩ := h.number _ hmem
  rw [h.sequence] at hb
  have hnumber : UInt64.ofNat (o.store.labels.length + 1) = .ofNat n :=
    BarcodeSequence.number_eq_of_barcode_eq hb
  have hn := congrArg UInt64.toNat hnumber
  rw [UInt64.toNat_ofNat_of_lt' hlength, UInt64.toNat_ofNat_of_lt' (by omega)] at hn
  omega

/-- **Every entry keeps the count.** -/
theorem Entry.numbered (h : Entry o o') (ho : Numbered lead o) : Numbered lead o' := by
  obtain ⟨hlabels, hbarcodes⟩ | ⟨hlabels, hbarcodes⟩ := h.labels
  · refine ⟨?_, ?_, ?_⟩
    · rw [hlabels, hbarcodes]
      exact ho.sequence
    · rw [hlabels]
      exact ho.number
    · rw [hlabels]
      exact ho.nodup
  · have hlength : o'.store.labels.length = o.store.labels.length + 1 := hlabels.length_eq
    refine ⟨?_, fun b hb => ?_, fun hsize => ?_⟩
    · rw [hbarcodes, ho.sequence, hlength]
      simp only [BarcodeSequence.next, UInt64.ofNat_add]
      rfl
    · rw [hlength]
      obtain rfl | hb := List.mem_cons.1 (hlabels.mem_iff.1 hb)
      · refine ⟨o.clock, o.store.labels.length + 1, by omega, le_rfl, ?_⟩
        rw [ho.sequence]
        rfl
      · obtain ⟨t, n, hpos, hle, hb⟩ := ho.number b hb
        exact ⟨t, n, hpos, by omega, hb⟩
    · rw [hlabels.nodup_iff, List.nodup_cons]
      rw [hlength] at hsize
      exact ⟨ho.next_not_mem hsize o.clock, ho.nodup (by omega)⟩

/-! ## In every run -/

/-- The books of an office that has only done its regular work. -/
structure InOrder (lead : Char) (o : Office) : Prop where
  steady : o.Steady
  booked : o.Booked
  numbered : Numbered lead o

theorem NewBooks.inOrder (h : o.NewBooks) : InOrder o.barcodes.lead o := by
  refine ⟨h.steady, fun id => ?_, h.numbered⟩
  rw [h.loaded, h.store]
  rfl

theorem InOrder.of_leads (ho : InOrder lead o) (h : Leads SameBooks o o') : InOrder lead o' := by
  refine h.invariant_entries (fun _ ho => ho.steady) ?_ ?_ ?_ ho
  · intro o₁ o₂ h₁ hbetween
    refine ⟨hbetween.steady, ?_, ⟨?_, ?_, ?_⟩⟩
    · rw [Booked, hbetween.store, hbetween.loaded]
      exact h₁.booked
    · rw [hbetween.store, hbetween.barcodes]
      exact h₁.numbered.sequence
    · rw [hbetween.store]
      exact h₁.numbered.number
    · rw [hbetween.store]
      exact h₁.numbered.nodup
  · intro o₁ now h₁
    exact ⟨h₁.steady.of_drill_eq rfl, h₁.booked,
      ⟨h₁.numbered.sequence, h₁.numbered.number, h₁.numbered.nodup⟩⟩
  · intro o₁ o₂ h₁ hentry
    exact ⟨hentry.steady h₁.steady, hentry.booked h₁.booked, hentry.numbered h₁.numbered⟩

/-- The records that the registration system has are those of the submissions that were handed over,
as they are stored. -/
structure HandedOff (o : Office) : Prop where
  once : ∀ s ∈ o.store.records, s.status.isHandedOver = true → ∃ record,
    BatchRecord.ofSubmission s = .ok record ∧ record.Describes s ∧
      o.loaded.filter (·.submissionId = s.id) = [record] ∧
      record.documents.map (·.fileId) = s.files.map (·.id) ∧
      ∀ f ∈ s.files, f.status = .converted
  otherwise : ∀ s ∈ o.store.records, s.status.isHandedOver = false →
    o.loaded.filter (·.submissionId = s.id) = []
  known : ∀ record ∈ o.loaded, ∃ s ∈ o.store.records, s.id = record.submissionId
  barcodes : (o.loaded.map (·.barcode)).Nodup
  /-- As many barcodes have been drawn as submissions carry one. -/
  drawn : o.barcodes.number = .ofNat (o.store.labels.length + 1)

/-- A loaded record is that of a stored submission. -/
theorem Booked.ofSubmission_of_mem (ho : o.Booked) {record : BatchRecord}
    (h : record ∈ o.loaded) :
    ∃ s ∈ o.store.records, s.id = record.submissionId ∧
      BatchRecord.ofSubmission s = .ok record := by
  have hbooked := ho record.submissionId
  have hmem : record ∈ o.loaded.filter (·.submissionId = record.submissionId) :=
    List.mem_filter.2 ⟨h, decide_eq_true rfl⟩
  rw [hbooked, Option.mem_toList, Option.bind_eq_some_iff] at hmem
  obtain ⟨s, hs, hrecord⟩ := hmem
  refine ⟨s, Store.mem_of_find? hs, Store.id_of_find? hs, ?_⟩
  rw [Submission.loadedRecord?] at hrecord
  split at hrecord
  · cases hresult : BatchRecord.ofSubmission s with
    | error e => rw [hresult] at hrecord; cases hrecord
    | ok record' =>
      rw [hresult] at hrecord
      rw [Option.some.inj hrecord]
  · cases hrecord

/-- No submission has two records. -/
theorem Booked.nodup (ho : o.Booked) : o.loaded.Nodup := by
  refine List.Nodup.of_map (·.submissionId) (List.nodup_iff_count_le_one.2 fun id => ?_)
  have hcount : (o.loaded.map (·.submissionId)).count id =
      (o.loaded.filter (·.submissionId = id)).length := by
    rw [List.count, List.countP_map, List.countP_eq_length_filter]
    rfl
  rw [hcount, ho id]
  cases (o.store.find? id).bind Submission.loadedRecord? with
  | none => exact Nat.zero_le 1
  | some record => exact le_rfl

/-- No two records have the same barcode. -/
theorem InOrder.nodup_barcodes (ho : InOrder lead o)
    (hsize : o.store.labels.length < UInt64.size) : (o.loaded.map (·.barcode)).Nodup := by
  refine List.Nodup.map_on (fun r hr r' hr' heq => ?_) ho.booked.nodup
  obtain ⟨s, hs, -, hrecord⟩ := ho.booked.ofSubmission_of_mem hr
  obtain ⟨s', hs', -, hrecord'⟩ := ho.booked.ofSubmission_of_mem hr'
  obtain ⟨b, hb, rfl⟩ := BatchRecord.ofSubmission_eq_ok.1 hrecord
  obtain ⟨b', hb', rfl⟩ := BatchRecord.ofSubmission_eq_ok.1 hrecord'
  have hbb : b = b' := heq
  obtain rfl := Store.eq_of_barcode?_eq (ho.numbered.nodup hsize) hs hs' hb (hbb ▸ hb')
  rw [hbb]

/-- **The registration system has what was handed over.** -/
theorem HandedOff.of_inOrder (ho : InOrder lead o) (hreach : o.Reachable)
    (hsize : o.store.labels.length < UInt64.size) : o.HandedOff where
  once s hs hhanded := by
    have hcarries := hreach.kept Submission.kept_carries s hs hhanded
    obtain ⟨barcode, hbarcode⟩ := Option.isSome_iff_exists.1 hcarries
    have hrecord := BatchRecord.ofSubmission_eq_ok.2 ⟨barcode, hbarcode, rfl⟩
    have hbooked := ho.booked s.id
    have hloaded : s.loadedRecord? = some (.withBarcode s barcode) := by
      rw [Submission.loadedRecord?, if_pos hhanded, hrecord]
      rfl
    rw [Store.find?_of_mem hs, Option.bind_some, hloaded] at hbooked
    refine ⟨.withBarcode s barcode, hrecord, BatchRecord.describes_of_ofSubmission hrecord, hbooked,
      ?_, ?_⟩
    · exact List.map_map
    · exact (hreach.kept Submission.kept_filesFit s hs).converted hhanded
  otherwise s hs hhanded := by
    have hbooked := ho.booked s.id
    rw [Store.find?_of_mem hs, Option.bind_some,
      Submission.loadedRecord?_of_not_handedOver hhanded] at hbooked
    exact hbooked
  known record hrecord := by
    obtain ⟨s, hs, hid, -⟩ := ho.booked.ofSubmission_of_mem hrecord
    exact ⟨s, hs, hid⟩
  barcodes := ho.nodup_barcodes hsize
  drawn := by rw [ho.numbered.sequence]

/-- What is known of a submission that has its barcode: its record is loaded with that barcode or not
at all, and the next attempt that meets the loader at work loads it. -/
structure KeepsBarcode (o : Office) (id barcode : String) : Prop where
  stored : ∃ s, o.store.find? id = some s ∧ s.barcode? = some barcode
  loaded : ∀ record ∈ o.loaded, record.submissionId = id → record.barcode = barcode
  next : ∀ (s : Submission) (now : Instant), o.store.find? id = some s →
    s.status = .readyToSubmit → o.drill.loaderDown = false →
      (o.step now (.handOver id)).2.loaded = o.loaded ++ [.withBarcode s barcode]
  /-- A batch loads it as well, and nothing else of the submission, whatever becomes of the
  others. -/
  nextBatch : ∀ (s : Submission) (now : Instant), o.store.find? id = some s →
    s.status = .readyToSubmit → o.drill.loaderDown = false →
      (o.step now .handOverAll).2.loaded.filter (·.submissionId = id) = [.withBarcode s barcode]

theorem step_handOver (o : Office) (now : Instant) (id : String) :
    (o.step now (.handOver id)).2 = (handOver id { o with clock := now }).2 := by
  rw [step, Operation.perform, Act.map_apply]

theorem InOrder.keepsBarcode (ho : InOrder lead o) {s : Submission} {barcode : String}
    (hs : o.store.find? s.id = some s) (hbarcode : s.barcode? = some barcode) :
    o.KeepsBarcode s.id barcode := by
  have hsteady (now : Instant) : Steady { o with clock := now } := ho.steady.of_drill_eq rfl
  refine ⟨⟨s, hs, hbarcode⟩, fun record hrecord hid => ?_, fun t now ht hready hup => ?_,
    fun t now ht hready hup => ?_⟩
  · obtain ⟨t, ht, htid, hok⟩ := ho.booked.ofSubmission_of_mem hrecord
    obtain ⟨barcode', hbarcode', rfl⟩ := BatchRecord.ofSubmission_eq_ok.1 hok
    have hfound := Store.find?_of_mem ht
    rw [htid, hid, hs] at hfound
    obtain rfl := Option.some.inj hfound
    exact Option.some.inj (hbarcode'.symm.trans hbarcode)
  · rw [hs] at ht
    obtain rfl := Option.some.inj ht
    have hrecord := BatchRecord.ofSubmission_eq_ok.2 ⟨barcode, hbarcode, rfl⟩
    have hdone := handOver_of_labelled (hsteady now) hs hready hrecord
    have hnotDown : ¬({ o with clock := now } : Office).drill.loaderDown = true := by
      rw [hup]
      exact Bool.false_ne_true
    rw [if_neg hnotDown] at hdone
    rw [step_handOver, hdone]
    rfl
  · rw [hs] at ht
    obtain rfl := Option.some.inj ht
    have hbatch : InOrder lead (o.step now .handOverAll).2 :=
      ho.of_leads (Leads.refl.step now .handOverAll)
    have hsent : (o.step now .handOverAll).2.store.find? s.id = some (s.dispatched now) :=
      (hsteady now).find?_handOverAll hup (.refl _) hs hready hbarcode
    have hrecord : (s.dispatched now).loadedRecord? = some (.withBarcode s barcode) := by
      have hsame : BatchRecord.ofSubmission (s.dispatched now) = .ok (.withBarcode s barcode) :=
        BatchRecord.ofSubmission_eq_ok.2 ⟨barcode, hbarcode, rfl⟩
      have hhanded : (s.dispatched now).status.isHandedOver = true := rfl
      rw [Submission.loadedRecord?, if_pos hhanded, hsame]
      rfl
    rw [hbatch.booked, hsent, Option.bind_some, hrecord]
    rfl

/-- Whatever happens later, a submission that has its barcode keeps it. -/
theorem InOrder.keepsBarcode_later (ho : InOrder lead o) {t : Submission} {id barcode : String}
    (ht : o.store.find? id = some t) (hbarcode : t.barcode? = some barcode)
    (hlater : Leads SameBooks o o') : o'.KeepsBarcode id barcode := by
  have hsame : Leads SameStore o o' := hlater.mono fun _ _ hbetween => hbetween.sameStore
  obtain ⟨u, versions, hu, hhistory⟩ := hsame.history ho.steady.undisturbed ht
  have huid := Store.id_of_find? hu
  rw [← huid] at hu ⊢
  exact (ho.of_leads hlater).keepsBarcode hu (hhistory.later.barcode _ hbarcode)

/-- **Every filing is handed over once.**  Take a steady office before its first submission, and let
operations lead to a later one, with the loader and everything else around the store and the books in
and out of order between them.  As long as the numbers of the barcodes have not run out, the loaded
records are those of the submissions that were handed over.  And whenever a submission is tried to be
handed over, alone or in a batch, it keeps the barcode of that attempt. -/
theorem NewBooks.handedOff (h : o.NewBooks) (hleads : Leads SameBooks o o')
    (hsize : o'.store.labels.length < UInt64.size) :
    o'.HandedOff ∧ ∀ s ∈ o'.store.records, s.status = .readyToSubmit →
      o'.drill.barcodesDown = false → ∀ now,
        (∀ o'', Leads SameBooks (o'.step now (.handOver s.id)).2 o'' →
          o''.KeepsBarcode s.id (s.barcode?.getD (o'.barcodes.next now).1)) ∧
        ∃ barcode, s.barcode?.getD barcode = barcode ∧
          ∀ o'', Leads SameBooks (o'.step now .handOverAll).2 o'' →
            o''.KeepsBarcode s.id barcode := by
  have hinOrder : InOrder o.barcodes.lead o' := h.inOrder.of_leads hleads
  have hsame : Leads SameStore o o' := hleads.mono fun _ _ hbetween => hbetween.sameStore
  have hreach : o'.Reachable := hsame.reachable (.start h.store h.steady.undisturbed)
  refine ⟨.of_inOrder hinOrder hreach hsize, fun s hs hready hup now => ?_⟩
  have hsteady : Steady { o' with clock := now } := hinOrder.steady.of_drill_eq rfl
  have hfound := Store.find?_of_mem hs
  constructor
  · intro o'' hlater
    obtain ⟨t, ht, hbarcode⟩ := find?_handOver hsteady hfound hready hup
    rw [← step_handOver] at ht
    have hattempt := hinOrder.of_leads (Leads.refl.step now (.handOver s.id))
    exact hattempt.keepsBarcode_later ht hbarcode hlater
  · obtain ⟨t, barcode, ht, hbarcode, hkept⟩ :=
      hsteady.barcode?_handOverAll hup (.refl _) hfound hready
    have hattempt := hinOrder.of_leads (Leads.refl.step now .handOverAll)
    exact ⟨barcode, hkept, fun o'' hlater => hattempt.keepsBarcode_later ht hbarcode hlater⟩

/-- The filing that stands ready is handed over in a batch while the loader is out of order, and in
another one once it works. -/
def withStatementBatched : Office :=
  (((withStatementReady.step ⟨1719828120, 0⟩ .handOverAll).2).withLoaderDown false).run
    [(⟨1719828180, 0⟩, .handOverAll)]

/-- A filing whose first hand-over meets the loader out of order: it is loaded later on, once, with the
barcode of that attempt, whether it was made alone or in a batch. -/
theorem handedOff_withStatementRejected :
    withStatementRejected.HandedOff ∧
      withStatementRejected.loaded.map (·.barcode) = ["X2418300001"] ∧
      withStatementRejected.KeepsBarcode "sub-1" "X2418300001" ∧
      withStatementBatched.loaded.map (·.barcode) = ["X2418300001"] ∧
      withStatementBatched.KeepsBarcode "sub-1" "X2418300001" := by
  let start := Office.opened .standard OfficeConfig.default.settings .fresh ⟨1719828000, 0⟩
  let attempt : Instant := ⟨1719828120, 0⟩
  let batched := (withStatementReady.step attempt .handOverAll).2
  have hnew : start.NewBooks := ⟨rfl, rfl, rfl, ⟨⟨rfl, rfl, rfl⟩, rfl⟩⟩
  have hstatement : Leads SameBooks start withStatement := Leads.refl.run _
  have hdown : Leads SameBooks start (withStatement.withLoaderDown true) :=
    .between hstatement ⟨rfl, rfl, rfl, ⟨⟨rfl, rfl, rfl⟩, rfl⟩⟩
  have hready : Leads SameBooks start withStatementReady := hdown.run _
  have hup : Leads SameBooks withStatementHeld (withStatementHeld.withLoaderDown false) :=
    .between .refl ⟨rfl, rfl, rfl, ⟨⟨rfl, rfl, rfl⟩, rfl⟩⟩
  have hrejected : Leads SameBooks withStatementHeld withStatementRejected := hup.run _
  have hheld : Leads SameBooks start withStatementHeld := hready.step attempt (.handOver "sub-1")
  have hsteady : withStatementReady.Steady := ⟨⟨rfl, rfl, rfl⟩, rfl⟩
  have hbatchedUp : Leads SameBooks batched (batched.withLoaderDown false) :=
    .between .refl ⟨rfl, rfl, rfl, (hsteady.run [(attempt, .handOverAll)]).withLoaderDown false⟩
  have hbatched : Leads SameBooks batched withStatementBatched := hbatchedUp.run _
  have hstored : ∃ s ∈ withStatementReady.store.records, s.id = "sub-1" ∧
      s.status = .readyToSubmit ∧
      s.barcode?.getD (withStatementReady.barcodes.next attempt).1 = "X2418300001" := by
    decide +kernel
  obtain ⟨s, hs, hid, hstatus, hbarcode⟩ := hstored
  obtain ⟨-, hkeeps⟩ := hnew.handedOff hready (by decide +kernel)
  obtain ⟨hhandedOff, -⟩ := hnew.handedOff (hheld.trans hrejected) (by decide +kernel)
  obtain ⟨halone, barcode, -, hinBatch⟩ := hkeeps s hs hstatus rfl attempt
  rw [hid, hbarcode] at halone
  have hkept := hinBatch withStatementBatched hbatched
  rw [hid] at hkept
  -- the barcode of the batch is the one that is stored
  have hlabel : (withStatementBatched.store.find? "sub-1").bind (·.barcode?) =
      some "X2418300001" := by
    decide +kernel
  obtain ⟨t, ht, htbarcode⟩ := hkept.stored
  rw [ht, Option.bind_some, htbarcode] at hlabel
  obtain rfl := Option.some.inj hlabel
  exact ⟨hhandedOff, by decide +kernel, halone _ hrejected, by decide +kernel, hkept⟩

end Office

end Filing
