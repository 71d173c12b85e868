import Filing.Proofs.Office.Effect

/-!
# The operations as chains of changes

Every operation of an office that nobody disturbs is work in the sense of `Act.Does`: whatever it
answers, and whatever of the office's surroundings is out of order, it changes the store by new
submissions and by moves only.

* `Store.save_eq`, `Store.updateStatus_eq`, `Store.updateBarcode_eq` — the writes to a record that
  is known;
* `Act.Does.find_bind`, `Act.Does.save`, … — the calls of an office;
* `Act.Does.revise` — a submission read, revised and saved;
* `Act.Does.reportWithin`, `Act.Does.handOver` — the two operations that take more steps;
* `Office.step_works` — **every operation is a chain of changes**; `Office.step_works_stored` — **only
  the opening of a submission opens one**.
-/

set_option autoImplicit false

namespace Filing

/-! ## Writes to a known record -/

namespace Store

variable {store : Store} {s t : Submission}

theorem save_eq (hs : store.find? s.id = some s) (hid : t.id = s.id)
    (hversion : t.version = s.version) :
    store.save t = .ok (t.stored s.version, store.put (t.stored s.version)) := by
  rw [save, write, hid, hs]
  simp only [hversion, if_true, Except.map]
  rw [← hid]
  rfl

/-- A record that somebody else has written since it was read is not saved. -/
theorem save_stale (hs : store.find? s.id = some s) (hid : t.id = s.id)
    (hversion : t.version ≠ s.version) : store.save t = .error (.conflict s.id) := by
  rw [save, write, hid, hs]
  dsimp only
  rw [if_neg (Ne.symm hversion)]
  rfl

theorem updateStatus_eq (hs : store.find? s.id = some s) (expected status : Status)
    (now : Instant) :
    store.updateStatus s.id expected status now =
      let t := ({ s with status := status } : Submission).touch now
      if s.status = expected then .ok (t.stored s.version, store.put (t.stored s.version))
      else .error (.conflict s.id) := by
  rw [updateStatus, write, hs]
  dsimp only
  split <;> rfl

theorem updateBarcode_eq (hs : store.find? s.id = some s) (hnone : s.barcode? = none)
    (barcode : String) (now : Instant) :
    store.updateBarcode s.id barcode now =
      let t := (s.updateForm ({ · with barcode := some barcode })).touch now
      .ok (t.stored s.version, store.put (t.stored s.version)) := by
  rw [updateBarcode, write, hs]
  dsimp only
  rw [hnone]
  rfl

/-- After a write the record is found as it was written. -/
theorem find?_put_stored (hs : store.find? s.id = some s) (hid : t.id = s.id) (version : UInt64) :
    (store.put (t.stored version)).find? s.id = some (t.stored version) := by
  rw [find?_put, if_pos (by rw [← hid]; rfl), hs]
  rfl

end Store

open Office

namespace Office

/-- A submission is stored under the identifier. -/
def Stores (o : Office) (id : String) : Prop :=
  (o.store.find? id).isSome

theorem stores_of_find? {o : Office} {id : String} {s : Submission} (h : o.store.find? id = some s) :
    o.Stores id := by
  rw [Stores, h]
  rfl

/-- Where work writes to what is stored only, it opens nothing. -/
theorem Works.stores {may : String → Prop} {o o' : Office} (h : Works may o o')
    (hall : ∀ id, o.Stores id → may id) {id : String} (hid : o'.Stores id) : may id := by
  by_cases hmay : may id
  · exact hmay
  · rw [Stores, h.find?_eq hmay] at hid
    exact hall id hid

theorem onStore_apply {α : Type} {o : Office} (ho : o.Undisturbed) (call : StoreCall)
    (f : Office → Except RepositoryError α × Office) :
    onStore call f o =
      if call ∈ o.drill.storeDown then (.error (.unavailable "database offline"), o) else f o := by
  have h : o.interfere call = o := by
    rw [interfere, ho]
    rfl
  rw [onStore, h]

end Office

namespace Act.Does

variable {ε α : Type} {may : String → Prop} {o : Office}

/-! ## The calls of an office -/

/-- A call to the store that may be down. -/
theorem onStore {call : StoreCall} {f : Office → Except RepositoryError α × Office}
    {post : α → Office → Prop} (ho : o.Undisturbed) (hf : Does may o f post) :
    Does may o (Office.onStore call f) post := by
  by_cases hdown : call ∈ o.drill.storeDown
  · refine of_eq (by rw [onStore_apply ho, if_pos hdown]) .refl ?_
    rintro _ ⟨⟩
  · exact congr_apply (by rw [onStore_apply ho, if_neg hdown]) hf

/-- The rule for a look-up, which changes nothing. -/
theorem find_bind {ε : Type} {id : String} {e : RepositoryError → ε}
    {f : Option Submission → Act ε α} {post : α → Office → Prop} (ho : o.Undisturbed)
    (h : Does may o (f (o.store.find? id)) post) :
    Does may o ((Office.find id).adapt e >>= f) post := by
  have hfind : Does may o (Office.find id) fun found o' => o = o' ∧ o.store.find? id = found :=
    onStore ho (of_eq rfl .refl (by rintro _ ⟨⟩; exact ⟨rfl, rfl⟩))
  refine bind (adapt hfind) fun found o' _ hfound => ?_
  obtain ⟨rfl, rfl⟩ := hfound
  exact h

theorem insert {r : Submission} (reference : String) (presenter : Option Presenter)
    (ho : o.Undisturbed) (hr : r = .opened r.id reference presenter o.clock) (hid : may r.id) :
    Does may o (Office.insert r) fun _ _ => True := by
  refine onStore ho ?_
  by_cases h : o.store.find? r.id = none
  · have hcreate : o.store.create r = .ok (o.store.append r h) := dif_pos h
    refine of_eq (r := .ok r) ?_ (.single (.created reference presenter hr hid h))
      fun _ _ => trivial
    simp only [writes, hcreate, Except.map]
  · have hcreate : o.store.create r = .error .duplicate := dif_neg h
    refine of_eq (r := .error .duplicate) ?_ .refl fun _ _ => trivial
    simp only [writes, hcreate, Except.map]

/-- A write that makes a move of a record as it stands. -/
theorem writes {s t : Submission} {f : Store → Except RepositoryError (Submission × Store)}
    (hid : may s.id) (hs : o.store.find? s.id = some s) (h : Move o s t)
    (hf : f o.store = .ok (t.stored s.version, o.store.put (t.stored s.version))) :
    Does may o (Office.writes f) fun r o' =>
      r = t.stored s.version ∧ o'.store.find? s.id = some r := by
  refine of_eq (r := .ok (t.stored s.version)) ?_ (.single (.moved hid hs h)) ?_
  · simp only [Office.writes, hf]
  · rintro _ ⟨⟩
    exact ⟨rfl, Store.find?_put_stored hs h.sameOrigin.id _⟩

/-- A move of a record as it stands is saved, unless the save is lost. -/
theorem save {s t : Submission} (ho : o.Undisturbed) (hid : may s.id)
    (hs : o.store.find? s.id = some s) (h : Move o s t) :
    Does may o (Office.save t) fun r o' =>
      r = t.stored s.version ∧ o'.store.find? s.id = some r := by
  refine onStore ho ?_
  cases hlost : o.drill.lostSaves with
  | zero =>
    have hsave := Store.save_eq hs h.sameOrigin.id h.sameOrigin.version
    have hwrites : Does may o (Office.writes (·.save t)) _ := writes hid hs h hsave
    exact congr_apply (by simp only [hlost]) hwrites
  | succ n =>
    have hb : Office.Beside o { o with drill := { o.drill with lostSaves := n } } :=
      ⟨rfl, rfl, rfl, rfl, rfl, rfl⟩
    refine of_eq (r := .error (.conflict t.id)) ?_ (.single (.beside hb)) ?_
    · simp only [hlost]
    · rintro _ ⟨⟩

/-- A mail changes nothing that a later write depends on. -/
theorem post (mail : Except NotificationError Notification) :
    Does may o (Office.post mail : Act ε Unit) fun _ o' => Office.Beside o o' := by
  refine always ?_
  cases mail with
  | error e => exact .refl o
  | ok n =>
    simp only [posted]
    split <;> exact ⟨rfl, rfl, rfl, rfl, rfl, rfl⟩

theorem notify (kind : NotificationKind) (s : Submission) (details : List (String × String)) :
    Does may o (Office.notify kind s details : Act ε Unit) fun _ _ => True :=
  get_bind (post _).done

theorem nextBarcode (now : Instant) :
    Does may o (Office.nextBarcode now) fun _ o' => Office.Beside o o' := by
  by_cases hdown : o.drill.barcodesDown
  · exact of_eq (by rw [Office.nextBarcode, if_pos hdown]) .refl (by rintro _ ⟨⟩)
  · have hb : Office.Beside o { o with barcodes := (o.barcodes.next now).2 } :=
      ⟨rfl, rfl, rfl, rfl, rfl, rfl⟩
    exact of_eq (by rw [Office.nextBarcode, if_neg hdown]) (.single (.beside hb)) fun _ _ => hb

theorem load (record : BatchRecord) :
    Does may o (Office.load record) fun _ o' => Office.Beside o o' := by
  by_cases hdown : o.drill.loaderDown
  · exact of_eq (by rw [Office.load, if_pos hdown]) .refl (by rintro _ ⟨⟩)
  · have hb : Office.Beside o { o with loaded := o.loaded ++ [record] } :=
      ⟨rfl, rfl, rfl, rfl, rfl, rfl⟩
    exact of_eq (by rw [Office.load, if_neg hdown]) (.single (.beside hb)) fun _ _ => hb

/-! ## Reading and revising -/

theorem create (ho : o.Undisturbed) (hall : ∀ id, may id) (presenter : Option Presenter) :
    Does may o (Office.create presenter) fun _ _ => True := by
  refine get_bind ?_
  refine bind (always ⟨rfl, rfl, rfl, rfl, rfl, rfl⟩) fun id o₁ _ h₁ => ?_
  refine bind (always ⟨rfl, rfl, rfl, rfl, rfl, rfl⟩) fun reference o₂ _ h₂ => ?_
  have hclock : o₂.clock = o.clock := h₂.clock.trans h₁.clock
  refine adapt (insert reference presenter ?_ ?_ (hall _))
  · exact h₂.slips.trans (h₁.slips.trans ho)
  · rw [hclock]
    rfl

theorem read (ho : o.Undisturbed) (id : String) :
    Does may o (Office.read id) fun s o' => o = o' ∧ o.store.find? id = some s := by
  refine find_bind ho ?_
  split
  · next s hs => exact pure ⟨rfl, hs⟩
  · exact throw

/-- The rule for a submission that is read. -/
theorem read_bind {id : String} {f : Submission → Act Refusal α} {post : α → Office → Prop}
    (ho : o.Undisturbed)
    (h : ∀ s, o.store.find? id = some s → Does may o (f s) post) :
    Does may o (Office.read id >>= f) post := by
  refine bind (read ho id) fun s o' _ hs => ?_
  obtain ⟨rfl, hs⟩ := hs
  exact h s hs

/-- **A submission read, revised and saved.**  What is saved is a move of the record as it was
read, since nothing comes in between. -/
theorem revise {id : String} {revision : Office → Submission → Except Refusal Submission}
    (ho : o.Undisturbed) (hid : o.Stores id → may id)
    (h : ∀ s t, revision o s = .ok t → Move o s t) :
    Does may o (Office.revise id revision) fun r o' =>
      ∃ s t, o.store.find? id = some s ∧ revision o s = .ok t ∧ r = t.stored s.version ∧
        o'.store.find? id = some r := by
  refine read_bind ho fun s hs => get_bind (ofExcept_bind fun t hrevision => ?_)
  have hmay := hid (stores_of_find? hs)
  have hsid := Store.id_of_find? hs
  rw [← hsid] at hmay hs
  refine adapt ((save ho hmay hs (h s t hrevision)).mono fun r o' hr => ?_)
  rw [← hsid]
  exact ⟨s, t, hs, hrevision, hr⟩

/-! ## The operations on one submission -/

theorem notifyVerdict (s : Submission) (verdict : Verdict) :
    Does may o (Office.notifyVerdict s verdict : Act ε Unit) fun _ _ => True := by
  unfold Office.notifyVerdict
  split
  · exact notify _ _ _
  · exact notify _ _ _
  · exact pure trivial

/-- The rule for a mail in front of an answer. -/
theorem tell_pure {tell : Act ε Unit} {a : α} (h : Does may o tell fun _ _ => True) :
    Does may o (tell >>= fun _ => Pure.pure a) fun _ _ => True :=
  bind h fun _ _ _ _ => pure trivial

theorem complete (ho : o.Undisturbed) {id : String} (hid : o.Stores id → may id) :
    Does may o (Office.complete id) fun _ _ => True :=
  bind (revise ho hid fun _ _ h => .complete h) fun _ _ _ _ => tell_pure (notify _ _ _)

theorem recordPayment (ho : o.Undisturbed) {id : String} (hid : o.Stores id → may id)
    (report : Submission.PaymentReport) :
    Does may o (Office.recordPayment id report) fun _ _ => True := by
  refine bind (revise ho hid fun _ _ h => .payment report h) fun s o' _ _ => ?_
  split
  · exact tell_pure (notify _ _ _)
  · exact pure trivial

theorem queue (ho : o.Undisturbed) {id : String} (hid : o.Stores id → may id) :
    Does may o (Office.queue id) fun _ _ => True := by
  refine bind (revise ho hid fun _ _ h => .queue h) fun s o' _ _ => ?_
  split
  · exact tell_pure (notifyVerdict _ _)
  · exact pure trivial

theorem adjudicate (ho : o.Undisturbed) {id : String} (hid : o.Stores id → may id)
    (outcome : FesOutcome) :
    Does may o (Office.adjudicate id outcome) fun _ _ => True :=
  bind (revise ho hid fun _ _ h => .adjudicate outcome h) fun _ _ _ _ => tell_pure (notify _ _ _)

theorem fileOf (upload : Option Upload) :
    Does may o (Office.fileOf upload : Act ε File) fun _ o' => Office.Beside o o' := by
  obtain _ | ⟨_ | id, name, size⟩ := upload
  · exact pure (.refl o)
  · refine bind (always ⟨rfl, rfl, rfl, rfl, rfl, rfl⟩) fun id o' _ h => pure h
  · exact pure (.refl o)

theorem filesOf (uploads : List (Option Upload)) :
    Does may o (uploads.mapM Office.fileOf : Act ε (List File)) fun _ o' =>
      Office.Beside o o' := by
  induction uploads generalizing o with
  | nil => exact pure (.refl o)
  | cons upload rest ih =>
    rw [List.mapM_cons]
    exact bind (fileOf upload) fun f o' _ h => bind ih fun fs o'' _ h' => pure (h.trans h')

theorem upload (ho : o.Undisturbed) {id : String} (hid : o.Stores id → may id)
    (uploads : List (Option Upload)) : Does may o (Office.upload id uploads) fun _ _ => True := by
  refine bind (filesOf uploads) fun files o' h hbeside => ?_
  have hid' : o'.Stores id → may id := by
    rw [Stores, hbeside.store]
    exact hid
  exact (revise (h.undisturbed ho) hid' fun _ _ h => .files files h).done

theorem tellVerdict (progress : Progress) (s : Submission) :
    Does may o (progress.verdict?.forM (Office.notifyVerdict s) : Act ε PUnit) fun _ _ => True := by
  cases progress.verdict? with
  | none => exact pure trivial
  | some verdict => exact notifyVerdict s verdict

theorem keepReport {s : Submission} (fileId : String) (outcome : FileOutcome)
    {again : Act Refusal (Progress × Submission)} (ho : o.Undisturbed) (hid : may s.id)
    (hs : o.store.find? s.id = some s) {r : Progress × Submission}
    (hr : s.report o.desk fileId outcome o.clock = .ok r)
    (hagain : ∀ o', o'.Undisturbed → Does may o' again fun _ _ => True) :
    Does may o (Office.keepReport s.id again r) fun _ _ => True := by
  obtain ⟨progress, revised⟩ := r
  rw [Office.keepReport]
  split
  · exact pure trivial
  · next hnew =>
    have hmove : Move o s revised := .report fileId outcome progress hr (by simpa using hnew)
    refine bind (save ho hid hs hmove).outcome fun answer o' hworks _ => ?_
    split
    · exact tell_pure (tellVerdict progress _)
    · exact hagain o' (hworks.undisturbed ho)
    · exact throw

theorem reportOnce {id : String} (fileId : String) (outcome : FileOutcome)
    {again : Act Refusal (Progress × Submission)} (ho : o.Undisturbed) (hid : o.Stores id → may id)
    (hagain : may id → ∀ o', o'.Undisturbed → Does may o' again fun _ _ => True) :
    Does may o (Office.reportOnce id fileId outcome again) fun _ _ => True := by
  refine read_bind ho fun s hs => get_bind (ofExcept_bind fun r hr => ?_)
  have hmay := hid (stores_of_find? hs)
  obtain rfl := Store.id_of_find? hs
  exact keepReport fileId outcome ho hmay hs hr (hagain hmay)

/-- A report on a file, however often it is tried. -/
theorem reportWithin {id : String} (fileId : String) (outcome : FileOutcome) (retries : Nat)
    (ho : o.Undisturbed) (hid : o.Stores id → may id) :
    Does may o (Office.reportWithin id fileId outcome retries) fun _ _ => True := by
  induction retries generalizing o with
  | zero => exact reportOnce fileId outcome ho hid fun _ o' _ => throw
  | succ n ih => exact reportOnce fileId outcome ho hid fun hmay o' ho' => ih ho' fun _ => hmay

theorem report {id : String} (fileId : String) (outcome : FileOutcome) (ho : o.Undisturbed)
    (hid : o.Stores id → may id) : Does may o (Office.report id fileId outcome) fun _ _ => True :=
  get_bind (reportWithin fileId outcome _ ho hid)

/-! ## The hand-over -/

theorem readReady (ho : o.Undisturbed) (id : String) :
    Does may o (Office.readReady id) fun s o' =>
      o = o' ∧ o.store.find? id = some s ∧ s.status = .readyToSubmit := by
  refine read_bind ho fun s hs => ofExcept_bind fun _ hready => pure ⟨rfl, hs, ?_⟩
  simpa using hready

/-- A barcode for a record that stands ready and has none. -/
theorem updateBarcode {s : Submission} (ho : o.Undisturbed) (hid : may s.id)
    (hs : o.store.find? s.id = some s) (hready : s.status = .readyToSubmit)
    (hnone : s.barcode? = none) (barcode : String) :
    Does may o (Office.updateBarcode s.id barcode o.clock) fun _ _ => True := by
  have hmove : Move o s _ := .barcode barcode hready hnone
  exact onStore ho (writes hid hs hmove (Store.updateBarcode_eq hs hnone barcode o.clock)).done

/-- The record stays ready while it gets its barcode. -/
theorem withBarcode {s : Submission} (ho : o.Undisturbed) (hid : may s.id)
    (hs : o.store.find? s.id = some s) (hready : s.status = .readyToSubmit) :
    Does may o (Office.withBarcode s o.clock) fun t o' =>
      o'.store.find? s.id = some t ∧ t.status = .readyToSubmit := by
  unfold Office.withBarcode
  split
  · exact pure ⟨hs, hready⟩
  · next hnone =>
    refine bind (adapt (nextBarcode _)) fun barcode o₁ _ h₁ => ?_
    have hs₁ : o₁.store.find? s.id = some s := by rw [h₁.store, hs]
    have hbarcode := updateBarcode (h₁.slips.trans ho) hid hs₁ hready (by simpa using hnone)
      barcode
    rw [h₁.clock] at hbarcode
    refine bind (adapt hbarcode) fun _ o₂ h₂ _ => ?_
    refine (readReady (h₂.undisturbed (h₁.slips.trans ho)) s.id).mono fun t o' ht => ?_
    rw [← ht.1]
    exact ht.2

/-- The status of a record that stands ready and has a barcode. -/
theorem updateStatus {s : Submission} (ho : o.Undisturbed) (hid : may s.id)
    (hs : o.store.find? s.id = some s) (hready : s.status = .readyToSubmit)
    (hbarcode : s.barcode?.isSome) :
    Does may o (Office.updateStatus s.id s.status .sentToFes o.clock) fun _ _ => True := by
  have hmove : Move o s _ := .sent hready hbarcode
  refine onStore ho (writes hid hs hmove ?_).done
  rw [Store.updateStatus_eq hs, if_pos rfl]

/-- A hand-over, with a loader that leaves the submission alone.  It writes under the identifier of
the submission only, and not even there while the submission is under way. -/
theorem handOverBeside {underWay : List String} {load : BatchRecord → Act FesError Unit}
    {id : String} (ho : o.Undisturbed) (hid : id ∉ underWay → o.Stores id → may id)
    (hload : ∀ record o', Office.Works may o o' → o'.Undisturbed →
      Does may o' (load record) fun _ o'' => o''.store.find? id = o'.store.find? id) :
    Does may o (Office.handOverBeside underWay load id) fun _ _ => True := by
  unfold Office.handOverBeside
  split
  · exact throw_bind
  · next hfree =>
    refine bind (readReady ho id) fun s o₁ _ h₁ => get_bind ?_
    obtain ⟨rfl, hs, hready⟩ := h₁
    have hmay := hid hfree (stores_of_find? hs)
    have hsid := Store.id_of_find? hs
    rw [← hsid] at hs
    refine bind (withBarcode ho (hsid ▸ hmay) hs hready) fun t o₂ hw₂ ht => ?_
    have htid := Store.id_of_find? ht.1
    refine adapt_ofExcept_bind fun record hrecord => ?_
    have ho₂ := hw₂.undisturbed ho
    rw [hsid] at ht
    refine bind (adapt (hload record o₂ hw₂ ho₂)) fun _ o₃ hw₃ h₃ => ?_
    refine ofExcept_bind fun sent hsent => ?_
    obtain ⟨-, rfl⟩ := Submission.advance_eq_ok.1 hsent
    have hbarcode : t.barcode?.isSome := by
      obtain ⟨barcode, hsome, -⟩ := BatchRecord.ofSubmission_eq_ok.1 hrecord
      rw [hsome]
      rfl
    have hclock : o₃.clock = o.clock := hw₃.clock_eq.trans hw₂.clock_eq
    rw [hsid] at htid
    have ht₃ : o₃.store.find? t.id = some t := by rw [htid, h₃, ht.1]
    have hupdate := updateStatus (hw₃.undisturbed ho₂) (htid ▸ hmay) ht₃ ht.2 hbarcode
    rw [hclock, htid] at hupdate
    refine bind (adapt hupdate) fun _ o₄ hw₄ _ => ?_
    exact (read (hw₄.undisturbed (hw₃.undisturbed ho₂)) id).done

/-- A record is loaded, and another hand-over may come in first; it cannot be one of the same
submission. -/
theorem loadDuring (ho : o.Undisturbed) (hall : ∀ id, o.Stores id → may id) (id : String)
    (record : BatchRecord) :
    Does may o (Office.loadDuring id record) fun _ o' =>
      o'.store.find? id = o.store.find? id := by
  have hload (o' : Office) : Does may o' (Office.load record) fun _ o'' =>
      o''.store.find? id = o'.store.find? id :=
    (load record).mono fun _ o'' h => by rw [h.store]
  refine get_bind ?_
  cases o.drill.reenter with
  | none => exact hload o
  | some other =>
    refine bind (modify ⟨rfl, rfl, rfl, rfl, rfl, rfl⟩) fun _ o₁ _ h₁ => ?_
    have hother : Does (fun i => i ≠ id ∧ may i) o₁
        (Office.handOverBeside [id] Office.load other) fun _ _ => True := by
      refine handOverBeside (h₁.slips.trans ho) (fun h hs => ⟨fun e => h ?_, hall other ?_⟩)
        fun record' o' _ _ => ?_
      · rw [e]
        exact List.mem_singleton_self id
      · rwa [Stores, h₁.store] at hs
      · exact (load record').mono fun _ o'' h => by rw [h.store]
    have hframe : Does (fun i => i ≠ id ∧ may i) o₁
        ((Office.handOverBeside [id] Office.load other).outcome : Act FesError _)
        fun _ o' => o'.store.find? id = o₁.store.find? id :=
      hother.outcome.framed fun h => h.1 rfl
    refine bind (hframe.widen fun i h => h.2) fun result o₂ _ h₂ => ?_
    refine bind (modify ⟨rfl, rfl, rfl, rfl, rfl, rfl⟩) fun _ o₃ _ h₃ => ?_
    refine (hload o₃).mono fun _ o' h => ?_
    rw [h, h₃.store, h₂, h₁.store]

theorem handOver (ho : o.Undisturbed) (hall : ∀ id, o.Stores id → may id) (id : String) :
    Does may o (Office.handOver id) fun _ _ => True :=
  handOverBeside ho (fun _ => hall id) fun record _ hw ho' =>
    loadDuring ho' (fun _ => hw.stores hall) id record

/-! ## Work on many submissions -/

theorem each {β : Type} {operation : String → Act Refusal β} (ids : List String)
    (ho : o.Undisturbed)
    (h : ∀ id o', Office.Works may o o' → o'.Undisturbed →
      Does may o' (operation id) fun _ _ => True) :
    Does may o (Office.each operation ids) fun _ _ => True := by
  induction ids generalizing o with
  | nil => exact pure trivial
  | cons id rest ih =>
    refine bind (h id o .refl ho).outcome fun result o' hw _ => ?_
    have hrest := ih (hw.undisturbed ho) fun id o'' hw' => h id o'' (hw.trans hw')
    exact bind hrest fun report o'' _ _ => pure trivial

/-- A question to the store changes nothing. -/
theorem asks_bind {call : StoreCall} {e : RepositoryError → ε} {β : Type} {f : Store → β}
    {g : β → Act ε α} {post : α → Office → Prop} (ho : o.Undisturbed)
    (h : ∀ b, Does may o (g b) post) :
    Does may o ((Office.onStore call (Office.asks f)).adapt e >>= g) post := by
  have hasks : Does may o (Office.onStore call (Office.asks f)) fun _ o' => o = o' :=
    onStore ho (of_eq rfl .refl fun _ _ => rfl)
  refine bind (adapt hasks) fun b o' _ hb => ?_
  rw [← hb]
  exact h b

theorem queueBatch (ho : o.Undisturbed) (hall : ∀ id, o.Stores id → may id)
    (limit : Option Nat) : Does may o (Office.queueBatch limit) fun _ _ => True := by
  refine get_bind (get_bind (adapt_ofExcept_bind fun forms _ => asks_bind ho fun found => ?_))
  exact each _ ho fun id o' hw ho' => queue ho' fun hid => hw.stores hall hid

theorem handOverAll (ho : o.Undisturbed) (hall : ∀ id, o.Stores id → may id) :
    Does may o Office.handOverAll fun _ _ => True :=
  asks_bind ho fun _ => each _ ho fun id _ hw ho' =>
    handOver ho' (fun _ hid => hw.stores hall hid) id

theorem listDelayed (ho : o.Undisturbed) (status : Status) :
    Does may o (Office.listDelayed status) fun _ _ => True := by
  refine get_bind ?_
  split
  · exact throw
  · exact asks_bind ho fun _ => pure trivial

theorem reportDelayed (ho : o.Undisturbed) (status : Status) :
    Does may o (Office.reportDelayed status) fun _ _ => True := by
  refine bind (listDelayed ho status) fun rows o' _ _ => ?_
  split
  · exact get_bind (tell_pure (post _).done)
  · exact pure trivial

theorem listPaid (ho : o.Undisturbed) (start stop : Instant) :
    Does may o (Office.listPaid start stop) fun _ _ => True :=
  asks_bind ho fun _ => pure trivial

/-! ## Operations -/

/-- **Every operation is a chain of changes.**  Only the opening of a submission writes under an
identifier that nothing is stored under. -/
theorem perform (ho : o.Undisturbed) (operation : Operation) (hall : ∀ id, o.Stores id → may id)
    (hcreate : ∀ presenter, operation = .create presenter → ∀ id, may id) :
    Does may o operation.perform fun _ _ => True := by
  cases operation with
  | create presenter => exact (create ho (hcreate presenter rfl) presenter).map.done
  | read id => exact (read ho id).map.done
  | editCompany id company =>
    exact (revise ho (hall id) fun _ _ h => .company company h).map.done
  | editForm id formType => exact (revise ho (hall id) fun _ _ h => .form formType h).map.done
  | editFiles id files => exact (revise ho (hall id) fun _ _ h => .files files h).map.done
  | upload id uploads => exact (upload ho (hall id) uploads).map.done
  | editSessions id sessions =>
    exact (revise ho (hall id) fun _ _ h => .sessions sessions h).map.done
  | editAuthorised id authorised =>
    exact (revise ho (hall id) fun _ _ h => .authorised authorised h).map.done
  | complete id => exact (complete ho (hall id)).map.done
  | recordPayment id report => exact (recordPayment ho (hall id) report).map.done
  | queue id => exact (queue ho (hall id)).map.done
  | queueBatch limit => exact (queueBatch ho hall limit).map.done
  | report id fileId outcome =>
    exact bind (report fileId outcome ho (hall id)) fun _ _ _ _ => pure trivial
  | handOver id => exact (handOver ho hall id).map.done
  | handOverAll => exact (handOverAll ho hall).map.done
  | adjudicate id outcome => exact (adjudicate ho (hall id) outcome).map.done
  | findFee formType asOf => exact get_bind (adapt (ofExcept _)).map.done
  | findForm formType => exact get_bind (adapt (ofExcept _)).map.done
  | listDelayed status => exact (listDelayed ho status).map.done
  | reportDelayed status => exact (reportDelayed ho status).map.done
  | listPaid start stop => exact (listPaid ho start stop).map.done
  | newFileId => exact (always ⟨rfl, rfl, rfl, rfl, rfl, rfl⟩).map.done

end Act.Does

/-- **A step of an office is a chain of changes.** -/
theorem Office.step_works {o : Office} (ho : o.Undisturbed) (now : Instant)
    (operation : Operation) :
    Works (fun _ => True) { o with clock := now } (o.step now operation).2 := by
  have ho' : Undisturbed { o with clock := now } := ho
  exact (Act.Does.perform ho' operation (fun _ _ => trivial) fun _ _ _ => trivial).works

/-- **Only the opening of a submission opens one**: any other step writes to what is stored. -/
theorem Office.step_works_stored {o : Office} (ho : o.Undisturbed) (now : Instant)
    {operation : Operation} (hother : ∀ presenter, operation ≠ .create presenter) :
    Works o.Stores { o with clock := now } (o.step now operation).2 := by
  have ho' : Undisturbed { o with clock := now } := ho
  exact (Act.Does.perform ho' operation (fun _ hid => hid) fun presenter h =>
    absurd h (hother presenter)).works

end Filing
