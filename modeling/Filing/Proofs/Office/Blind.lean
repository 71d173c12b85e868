import Filing.Proofs.Office.Effect

/-!
# Mails decide nothing

An office hands in its mails and never looks at them again: not at those that were sent, not at those
that were refused, and not at which of them are refused.  So two offices that differ in this only give
the same answers, and store the same records.

* `Office.unmailed` — an office apart from its mails;
* `Act.Blind` — work that does not look at the mails, with one rule for each way to put work together
  and one for each call of the office;
* `Act.Blind.perform` — **no operation looks at the mails**, with `Office.step_unmailed`.
-/

set_option autoImplicit false

namespace Filing

namespace Office

/-- The office apart from its mails: from those that were handed in, and from which are refused. -/
def unmailed (o : Office) : Office :=
  { o with sent := [], refused := [], drill := { o.drill with refuses := fun _ => false } }

end Office

/-- Work that does not look at the mails: offices that differ in them only get the same answer, and
still differ in them only. -/
def Act.Blind {ε α : Type} (w : Act ε α) : Prop :=
  ∀ o o' : Office, o.unmailed = o'.unmailed →
    (w o).1 = (w o').1 ∧ (w o).2.unmailed = (w o').2.unmailed

namespace Act.Blind

variable {ε ε' α β : Type} {w : Act ε α}

/-! ## Putting work together -/

/-- Work that can be done as well at the office apart from its mails. -/
theorem of_unmailed (h : ∀ o, w o.unmailed = ((w o).1, (w o).2.unmailed)) : Blind w := by
  intro o o' ho
  have heq : ((w o).1, (w o).2.unmailed) = ((w o').1, (w o').2.unmailed) := by
    rw [← h o, ho, h o']
  exact Prod.mk.inj heq

theorem pure (a : α) : Blind (Pure.pure a : Act ε α) :=
  fun _ _ ho => ⟨rfl, ho⟩

theorem throw (e : ε) : Blind (MonadExcept.throw e : Act ε α) :=
  fun _ _ ho => ⟨rfl, ho⟩

theorem throw_bind (e : ε) {f : α → Act ε β} :
    Blind ((MonadExcept.throw e : Act ε α) >>= f) :=
  fun _ _ ho => ⟨rfl, ho⟩

theorem ofExcept (x : Except ε α) : Blind (Act.ofExcept x) := by
  intro o o' ho
  rw [ofExcept_apply, ofExcept_apply]
  exact ⟨rfl, ho⟩

theorem bind {f : α → Act ε β} (hw : Blind w) (hf : ∀ a, Blind (f a)) : Blind (w >>= f) := by
  intro o o' ho
  obtain ⟨hanswer, hrest⟩ := hw o o' ho
  rw [bind_apply, bind_apply]
  generalize w o = result at hanswer hrest ⊢
  generalize w o' = result' at hanswer hrest ⊢
  obtain ⟨r, o₁⟩ := result
  obtain ⟨r', o₁'⟩ := result'
  obtain rfl : r = r' := hanswer
  cases r with
  | error e => exact ⟨rfl, hrest⟩
  | ok a => exact hf a o₁ o₁' hrest

/-- The mails are not what is looked at. -/
theorem get_bind {f : Office → Act ε α} (hf : ∀ o, Blind (f o)) (hlook : ∀ o, f o.unmailed = f o) :
    Blind (MonadState.get >>= f) := by
  intro o o' ho
  have hsame : f o = f o' := by
    rw [← hlook o, ho, hlook o']
  rw [get_bind_apply, get_bind_apply, hsame]
  exact hf o' o o' ho

theorem adapt (f : ε → ε') (hw : Blind w) : Blind (w.adapt f) := by
  intro o o' ho
  obtain ⟨hanswer, hrest⟩ := hw o o' ho
  rw [adapt_apply, adapt_apply, hanswer]
  exact ⟨rfl, hrest⟩

theorem map (f : α → β) (hw : Blind w) : Blind (f <$> w) := by
  intro o o' ho
  obtain ⟨hanswer, hrest⟩ := hw o o' ho
  rw [map_apply, map_apply, hanswer]
  exact ⟨rfl, hrest⟩

theorem outcome (hw : Blind w) : Blind (w.outcome : Act ε' (Except ε α)) := by
  intro o o' ho
  obtain ⟨hanswer, hrest⟩ := hw o o' ho
  rw [outcome_apply, outcome_apply, hanswer]
  exact ⟨rfl, hrest⟩

theorem mapM (f : β → Act ε α) (hf : ∀ b, Blind (f b)) (bs : List β) : Blind (bs.mapM f) := by
  induction bs with
  | nil => exact pure []
  | cons b rest ih =>
    rw [List.mapM_cons]
    exact bind (hf b) fun a => bind ih fun as => pure (a :: as)

/-! ## The calls of an office -/

theorem interfere_unmailed (o : Office) (call : StoreCall) :
    o.unmailed.interfere call = (o.interfere call).unmailed := by
  have hslips : o.unmailed.drill.slips = o.drill.slips := rfl
  rw [Office.interfere, Office.interfere, hslips]
  cases Drill.takeSlip call o.drill.slips with
  | mk slip? rest => cases slip? <;> rfl

theorem onStore (call : StoreCall) {f : Office → Except RepositoryError α × Office}
    (hf : ∀ o, f o.unmailed = ((f o).1, (f o).2.unmailed)) : Blind (Office.onStore call f) := by
  refine of_unmailed fun o => ?_
  have hdown : (o.interfere call).unmailed.drill.storeDown =
      (o.interfere call).drill.storeDown := rfl
  rw [Office.onStore, Office.onStore, interfere_unmailed, hf, hdown]
  split <;> rfl

theorem asks (call : StoreCall) (f : Store → α) : Blind (Office.onStore call (Office.asks f)) :=
  onStore call fun _ => rfl

theorem writes_unmailed (f : Store → Except RepositoryError (α × Store)) (o : Office) :
    Office.writes f o.unmailed = ((Office.writes f o).1, (Office.writes f o).2.unmailed) := by
  have hstore : o.unmailed.store = o.store := rfl
  rw [Office.writes, Office.writes, hstore]
  cases f o.store <;> rfl

theorem writes (call : StoreCall) (f : Store → Except RepositoryError (α × Store)) :
    Blind (Office.onStore call (Office.writes f)) :=
  onStore call (writes_unmailed f)

theorem save (s : Submission) : Blind (Office.save s) := by
  refine onStore .save fun o => ?_
  have hlost : o.unmailed.drill.lostSaves = o.drill.lostSaves := rfl
  rw [hlost]
  cases o.drill.lostSaves with
  | zero => exact writes_unmailed _ o
  | succ n => rfl

theorem always {f : Office → α × Office} (hf : ∀ o, f o.unmailed = ((f o).1, (f o).2.unmailed)) :
    Blind (Act.always f : Act ε α) := by
  refine of_unmailed fun o => ?_
  rw [always_apply, always_apply, hf]

theorem modify {f : Office → Office} (hf : ∀ o, f o.unmailed = (f o).unmailed) :
    Blind (modify f : Act ε Unit) := by
  refine of_unmailed fun o => ?_
  rw [modify_apply, modify_apply, hf]

/-- Whether a mail is refused shows in the mails only. -/
theorem post (mail : Except NotificationError Notification) :
    Blind (Office.post mail : Act ε Unit) := by
  have hposted (n : Notification) (o : Office) : (o.posted n).unmailed = o.unmailed := by
    rw [Office.posted]
    split <;> rfl
  intro o o' ho
  cases mail with
  | error e => exact ⟨rfl, ho⟩
  | ok n => exact ⟨rfl, (hposted n o).trans (ho.trans (hposted n o').symm)⟩

theorem notify (kind : NotificationKind) (s : Submission) (details : List (String × String)) :
    Blind (Office.notify kind s details : Act ε Unit) :=
  get_bind (fun _ => post _) fun _ => rfl

theorem nextBarcode (now : Instant) : Blind (Office.nextBarcode now) := by
  refine of_unmailed fun o => ?_
  have hdown : o.unmailed.drill.barcodesDown = o.drill.barcodesDown := rfl
  rw [Office.nextBarcode, Office.nextBarcode, hdown]
  split <;> rfl

theorem load (record : BatchRecord) : Blind (Office.load record) := by
  refine of_unmailed fun o => ?_
  have hdown : o.unmailed.drill.loaderDown = o.drill.loaderDown := rfl
  rw [Office.load, Office.load, hdown]
  split <;> rfl

/-! ## Work on one submission -/

theorem create (presenter : Option Presenter) : Blind (Office.create presenter) :=
  get_bind (fun _ => bind (always fun _ => rfl) fun _ =>
    bind (always fun _ => rfl) fun _ => adapt _ (writes .create _)) fun _ => rfl

theorem read (id : String) : Blind (Office.read id) := by
  refine bind (adapt _ (asks .read _)) fun s? => ?_
  cases s? with
  | none => exact throw _
  | some s => exact pure s

theorem revise (id : String) {revision : Office → Submission → Except Refusal Submission}
    (hrevision : ∀ o s, revision o.unmailed s = revision o s) :
    Blind (Office.revise id revision) := by
  refine bind (read id) fun s => get_bind (fun o => ?_) fun o => ?_
  · exact bind (ofExcept (revision o s)) fun t => adapt _ (save t)
  · rw [hrevision]

theorem upload (id : String) (uploads : List (Option Office.Upload)) :
    Blind (Office.upload id uploads) := by
  refine bind (mapM _ (fun upload => ?_) uploads) fun files => revise id fun _ _ => rfl
  obtain _ | ⟨_ | id, name, size⟩ := upload
  · exact pure _
  · exact bind (always fun _ => rfl) fun _ => pure _
  · exact pure _

theorem complete (id : String) : Blind (Office.complete id) :=
  bind (revise id fun _ _ => rfl) fun s => bind (notify _ s _) fun _ => pure s

theorem recordPayment (id : String) (report : Submission.PaymentReport) :
    Blind (Office.recordPayment id report) := by
  refine bind (revise id fun _ _ => rfl) fun s => ?_
  split
  · exact bind (notify _ s _) fun _ => pure s
  · exact pure s

theorem notifyVerdict (s : Submission) (verdict : Verdict) :
    Blind (Office.notifyVerdict s verdict : Act ε Unit) := by
  unfold Office.notifyVerdict
  split
  · exact notify _ s _
  · exact notify _ s _
  · exact pure _

theorem queue (id : String) : Blind (Office.queue id) := by
  refine bind (revise id fun _ _ => rfl) fun s => ?_
  split
  · exact bind (notifyVerdict s _) fun _ => pure s
  · exact pure s

theorem reportOnce (id fileId : String) (outcome : FileOutcome)
    {again : Act Refusal (Progress × Submission)} (hagain : Blind again) :
    Blind (Office.reportOnce id fileId outcome again) := by
  refine bind (read id) fun s => get_bind (fun o => ?_) fun _ => rfl
  refine bind (ofExcept _) fun ⟨progress, revised⟩ => ?_
  rw [Office.keepReport]
  split
  · exact pure _
  · refine bind (Act.Blind.outcome (save revised)) fun saved => ?_
    split
    · next stored =>
      refine bind ?_ fun _ => pure _
      cases progress.verdict? with
      | none => exact pure _
      | some verdict => exact notifyVerdict stored verdict
    · exact hagain
    · exact throw _

theorem report (id fileId : String) (outcome : FileOutcome) :
    Blind (Office.report id fileId outcome) := by
  refine get_bind (fun o => ?_) fun _ => rfl
  generalize o.settings.retries = retries
  induction retries with
  | zero => exact reportOnce id fileId outcome (throw _)
  | succ retries ih => exact reportOnce id fileId outcome ih

theorem adjudicate (id : String) (outcome : FesOutcome) : Blind (Office.adjudicate id outcome) :=
  bind (revise id fun _ _ => rfl) fun s => bind (notify _ s _) fun _ => pure s

/-! ## Hand-overs -/

theorem readReady (id : String) : Blind (Office.readReady id) :=
  bind (read id) fun s => bind (ofExcept _) fun _ => pure s

theorem withBarcode (s : Submission) (now : Instant) : Blind (Office.withBarcode s now) := by
  rw [Office.withBarcode]
  split
  · exact pure s
  · exact bind (adapt _ (nextBarcode now)) fun barcode =>
      bind (adapt _ (writes .updateBarcode _)) fun _ => readReady s.id

theorem handOverBeside (underWay : List String) {load : BatchRecord → Act FesError Unit}
    (hload : ∀ record, Blind (load record)) (id : String) :
    Blind (Office.handOverBeside underWay load id) := by
  rw [Office.handOverBeside]
  split
  · exact throw_bind _
  · refine bind (readReady id) fun s => get_bind (fun o => ?_) fun o => ?_
    · exact bind (withBarcode s o.clock) fun s => bind (adapt _ (ofExcept _)) fun record =>
        bind (adapt _ (hload record)) fun _ => bind (ofExcept _) fun _ =>
          bind (adapt _ (writes .updateStatus _)) fun _ => read id
    · have hclock : o.unmailed.clock = o.clock := rfl
      rw [hclock]

theorem loadDuring (id : String) (record : BatchRecord) : Blind (Office.loadDuring id record) := by
  refine get_bind (fun o => ?_) fun _ => rfl
  cases o.drill.reenter with
  | none => exact load record
  | some other =>
    exact bind (modify fun _ => rfl) fun _ =>
      bind (Act.Blind.outcome (handOverBeside [id] load other)) fun _ =>
        bind (modify fun _ => rfl) fun _ => load record

theorem handOver (id : String) : Blind (Office.handOver id) :=
  handOverBeside [] (loadDuring id) id

/-! ## Work on many submissions -/

theorem each {operation : String → Act Refusal α} (hoperation : ∀ id, Blind (operation id))
    (ids : List String) : Blind (Office.each operation ids) := by
  induction ids with
  | nil => exact pure _
  | cons id rest ih =>
    exact bind (Act.Blind.outcome (hoperation id)) fun _ => bind ih fun _ => pure _

theorem queueBatch (limit : Option Nat) : Blind (Office.queueBatch limit) :=
  get_bind (fun _ => get_bind (fun _ => bind (adapt _ (ofExcept _)) fun _ =>
    bind (adapt _ (asks .findByStatus _)) fun _ => each queue _) fun _ => rfl) fun _ => rfl

theorem handOverAll : Blind Office.handOverAll :=
  bind (adapt _ (asks .findByStatus _)) fun _ => each handOver _

theorem listDelayed (status : Status) : Blind (Office.listDelayed status) := by
  refine get_bind (fun o => ?_) fun _ => rfl
  split
  · exact throw _
  · exact bind (adapt _ (asks .findDelayed _)) fun _ => pure _

theorem reportDelayed (status : Status) : Blind (Office.reportDelayed status) := by
  refine bind (listDelayed status) fun rows => ?_
  split
  · exact get_bind (fun _ => bind (post _) fun _ => pure _) fun _ => rfl
  · exact pure _

theorem listPaid (start stop : Instant) : Blind (Office.listPaid start stop) :=
  bind (adapt _ (asks .findPaid _)) fun _ => pure _

/-! ## Operations -/

/-- **No operation looks at the mails.** -/
theorem perform (operation : Operation) : Blind operation.perform := by
  cases operation with
  | create presenter => exact map _ (create presenter)
  | read id => exact map _ (read id)
  | editCompany id company => exact map _ (revise id fun _ _ => rfl)
  | editForm id formType => exact map _ (revise id fun _ _ => rfl)
  | editFiles id files => exact map _ (revise id fun _ _ => rfl)
  | upload id uploads => exact map _ (upload id uploads)
  | editSessions id sessions => exact map _ (revise id fun _ _ => rfl)
  | editAuthorised id authorised => exact map _ (revise id fun _ _ => rfl)
  | complete id => exact map _ (complete id)
  | recordPayment id payment => exact map _ (recordPayment id payment)
  | queue id => exact map _ (queue id)
  | queueBatch limit => exact map _ (queueBatch limit)
  | report id fileId outcome => exact bind (report id fileId outcome) fun _ => pure _
  | handOver id => exact map _ (handOver id)
  | handOverAll => exact map _ handOverAll
  | adjudicate id outcome => exact map _ (adjudicate id outcome)
  | findFee formType asOf =>
    exact get_bind (fun _ => map _ (adapt _ (ofExcept _))) fun _ => rfl
  | findForm formType =>
    exact get_bind (fun _ => map _ (adapt _ (ofExcept _))) fun _ => rfl
  | listDelayed status => exact map _ (listDelayed status)
  | reportDelayed status => exact map _ (reportDelayed status)
  | listPaid start stop => exact map _ (listPaid start stop)
  | newFileId => exact map _ (always fun _ => rfl)

end Act.Blind

namespace Office

/-- One step of two offices that differ in their mails only. -/
theorem step_unmailed {o o' : Office} (h : o.unmailed = o'.unmailed) (now : Instant)
    (operation : Operation) :
    (o.step now operation).1 = (o'.step now operation).1 ∧
      (o.step now operation).2.unmailed = (o'.step now operation).2.unmailed := by
  have hclock : ({ o with clock := now } : Office).unmailed =
      ({ o' with clock := now } : Office).unmailed :=
    congrArg (fun o => { o with clock := now }) h
  exact Act.Blind.perform operation _ _ hclock

end Office

end Filing
