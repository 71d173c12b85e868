import Filing.Http.Service
import Filing.Proofs.Office.Log
import Filing.Proofs.Office.Upload
import Filing.Proofs.Requirement
import Filing.Proofs.Routing

/-!
# Uploads that are missing

A request may name files that are not there.  Their places are kept, so that the submission cannot
be completed by oversight: some file of it has no identifier, and that is a fault for a form with
documents, while any file at all is one for a form without.

* `Request.PutsFiles` — the request for new files, with `Request.PutsFiles.exchange_eq`;
* `Office.HoldsOpen` — the submission is open and has files with the given identifiers;
* `Office.Deed.holdsOpen`, `Office.Logs.holdsOpen` — **one thing that is done, and any number of
  them, leave it so**, unless the files are replaced;
* `Office.Steady.withheld` — **a submission whose files have a gap is not completed**.
-/

set_option autoImplicit false

namespace Filing

open Act
open Office (Upload isGap Received)
open Text (isBlankText)

/-! ## The request -/

/-- The request puts uploads in place of the files of a submission. -/
structure Request.PutsFiles (r : Request) (id : String) (uploads : List (Option Upload)) :
    Prop where
  method : r.method = .put
  resource : (Resource.ofParts? r.target.parts).bind Resource.named? = some (.files id)
  body : r.json Exchange.filesSchema.read = .ok uploads

theorem Resource.takes_put {resource : Resource} {id : String}
    (h : resource.named? = some (.files id)) : resource.takes .put = true := by
  cases resource with
  | files raw => rfl
  | fileOutcome raw rawFile =>
    rw [named?] at h
    cases hid : Target.part? raw <;> cases hfile : Target.part? rawFile <;>
      simp [hid, hfile, Seq.seq] at h
  | _ => simp [named?] at h

theorem Request.PutsFiles.exchange_eq {r : Request} {id : String}
    {uploads : List (Option Upload)} (h : r.PutsFiles id uploads) (now : Instant) :
    r.exchange now = .ok ⟨.upload id uploads, 200, Exchange.fullView⟩ := by
  obtain ⟨resource, hparts, hnamed⟩ := Option.bind_eq_some_iff.1 h.resource
  rw [exchange, hparts]
  dsimp only
  rw [h.method, Resource.takes_put hnamed, hnamed]
  show Exchange.ofResource r now (.files id) = _
  rw [Exchange.ofResource, h.body]
  rfl

namespace Response

theorem statusOf_ne (e : Refusal) : statusOf e ≠ 200 := by
  cases e with
  | repository e => cases e <;> simp [statusOf]
  | _ => simp [statusOf]

@[simp] theorem status_forMethod (r : Response) (m : Method) :
    (r.forMethod m).status = r.status := by
  obtain ⟨status, content⟩ := r
  cases m <;> cases content <;> rfl

end Response

/-! ## Submissions with a gap among their files -/

namespace Submission

variable {o : Office} {s t : Submission} {form : Option FormTemplate} {fee : FeeResolution}

/-- A file without an identifier is a fault, with or without documents. -/
theorem validate_ne_ok (h : ∃ file ∈ s.files, isBlankText file.id = true) :
    s.validate form fee ≠ .ok () := by
  intro hvalid
  have hmet := validate_eq_ok_iff_met.1 hvalid
  obtain ⟨file, hfile, hblank⟩ := h
  by_cases helectronic : Requirement.Electronic form
  · have hnone : s.files = [] := hmet .noFiles helectronic
    rw [hnone] at hfile
    cases hfile
  · have hall := (hmet .files helectronic).2 file hfile
    rw [hblank] at hall
    cases hall

/-- **No task but a replacement of the files brings a submission with a gap any further.** -/
theorem files_eq_of_makes {task : Task} (h : task.Makes o s t) (hopened : s.status = .opened)
    (hgap : ∃ file ∈ s.files, isBlankText file.id = true) (hother : ∀ files, task ≠ .files files) :
    t.status = .opened ∧ t.files = s.files := by
  have hapart (hstatus : Status.opened ∉ task.statuses) : False := h.status_ne hstatus hopened
  cases task with
  | company company =>
    obtain ⟨hs, rfl⟩ := editCompany_eq_ok.1 h
    exact ⟨hs, rfl⟩
  | form formType =>
    obtain ⟨hs, fee, -, rfl⟩ := editForm_eq_ok.1 h
    exact ⟨hs, s.files_updateForm fun _ => rfl⟩
  | files files => exact absurd rfl (hother files)
  | sessions sessions =>
    obtain ⟨hs, rfl⟩ := editSessions_eq_ok.1 h
    exact ⟨hs, rfl⟩
  | authorised authorised =>
    obtain ⟨hs, rfl⟩ := editAuthorised_eq_ok.1 h
    exact ⟨hs, rfl⟩
  | complete =>
    obtain ⟨-, form, fee, -, -, hvalid, -⟩ := complete_eq_ok.1 h
    exact absurd hvalid (validate_ne_ok hgap)
  | payment report => exact (hapart (by simp [Task.statuses])).elim
  | queue => exact (hapart (by simp [Task.statuses])).elim
  | report fileId outcome => exact (hapart (by simp [Task.statuses])).elim
  | adjudicate outcome => exact (hapart (by simp [Task.statuses])).elim

/-- While the look-ups work, the form is that of the catalog. -/
theorem registeredForm_eq {desk : CatalogDesk} (h : desk.down = []) :
    s.registeredForm desk = .ok (s.formIn? desk.catalog) := by
  rw [registeredForm, formIn?]
  split
  · next formType htype =>
    rw [htype, CatalogDesk.form?, CatalogDesk.ask, h]
    rfl
  · next htype =>
    rw [htype]
    rfl

theorem exists_currentFee {desk : CatalogDesk} (h : desk.down = []) (now : Instant) :
    ∃ fee, s.currentFee desk now = .ok fee := by
  rw [currentFee]
  split
  · rw [CatalogDesk.resolveFee_eq h]
    exact ⟨_, rfl⟩
  · exact ⟨_, rfl⟩

/-- What validation finds is why the submission is not completed. -/
theorem complete_eq_incomplete {desk : CatalogDesk} {now : Instant} {fault : Incompleteness}
    (hopened : s.status = .opened) (hform : s.registeredForm desk = .ok form)
    (hfee : s.currentFee desk now = .ok fee) (hvalid : s.validate form fee = .error fault) :
    s.complete desk now = .error (.incomplete fault) := by
  have hdemand : s.demand [.opened] = .ok () :=
    demand_eq_ok.2 (List.mem_singleton.2 hopened)
  rw [complete, hdemand, hform, hfee]
  show (refuse .incomplete (s.validate form fee) >>= fun _ => s.price fee now) = _
  rw [hvalid]
  rfl

/-- **With a form that is settled and takes documents, the first gap is the fault.** -/
theorem validate_eq_invalidFileEntry {i : Nat}
    (hgap : s.files.findIdx? (fun file => isBlankText file.id) = some i)
    (hmet : ∀ q ∈ [Requirement.formType, .registration, .authorisation], q.Met s form fee)
    (hpaper : ¬Requirement.Electronic form) :
    s.validate form fee = .error (.invalidFileEntry s.id i) := by
  have hrule : Requirement.files.rule s form fee = some (.invalidFileEntry s.id i) := by
    have hfiles : s.files.isEmpty = false := by
      cases hnil : s.files with
      | nil => rw [hnil] at hgap; cases hgap
      | cons => rfl
    rw [Requirement.rule, filesAttached, Requirement.isElectronic_eq_false_iff.2 hpaper, hfiles,
      hgap]
    rfl
  have hnamed := Requirement.rule_eq_some_iff.1 hrule
  exact validate_eq_error_iff_firstFault.2 ⟨.files,
    { first := ⟨[.formType, .registration, .authorisation], _, rfl, hmet⟩
      violated := hnamed.not_met
      named := hnamed
      submissionId := hnamed.submissionId_eq
      field := hnamed.field_eq }⟩

end Submission

/-! ## What is done in the meantime -/

/-- The event has replaced the files of a submission. -/
def Event.ReplacesFiles (e : Event) (id : String) : Prop :=
  ((∃ files, e.operation = .editFiles id files) ∨ ∃ uploads, e.operation = .upload id uploads) ∧
    ∃ answer, e.result = .ok answer

/-- Only two operations replace the files of a submission. -/
theorem Operation.of_mem_tasks {operation : Operation} {r : Except Refusal Answer} {id : String}
    {files : List File} (h : (id, Task.files files) ∈ operation.tasks r) :
    ((∃ files, operation = .editFiles id files) ∨ ∃ uploads, operation = .upload id uploads) ∧
      ∃ answer, r = .ok answer := by
  have hdone {id' : String} {task : Task} (h : (id, Task.files files) ∈ Office.tasksOf id' task r) :
      id' = id ∧ task = .files files ∧ ∃ answer, r = .ok answer := by
    cases r with
    | error e => cases h
    | ok answer =>
      rw [Office.tasksOf] at h
      split at h
      · cases h
      · obtain ⟨rfl, rfl⟩ := Prod.mk.inj (List.mem_singleton.1 h)
        exact ⟨rfl, rfl, answer, rfl⟩
  cases operation with
  | editFiles id' new =>
    obtain ⟨rfl, -, hok⟩ := hdone h
    exact ⟨.inl ⟨new, rfl⟩, hok⟩
  | upload id' uploads =>
    cases r with
    | error e => cases h
    | ok answer =>
      obtain ⟨s, -, heq⟩ := Option.map_eq_some_iff.1 (Option.mem_toList.1 h)
      obtain ⟨rfl, -⟩ := Prod.mk.inj heq
      exact ⟨.inr ⟨uploads, rfl⟩, answer, rfl⟩
  | queueBatch limit =>
    cases r with
    | error e => cases h
    | ok answer =>
      cases answer with
      | batch report =>
        obtain ⟨_, -, heq⟩ := List.mem_map.1 h
        cases heq
      | _ => cases h
  | editCompany id' new => cases (hdone h).2.1
  | editForm id' new => cases (hdone h).2.1
  | editSessions id' new => cases (hdone h).2.1
  | editAuthorised id' new => cases (hdone h).2.1
  | complete id' => cases (hdone h).2.1
  | recordPayment id' report => cases (hdone h).2.1
  | queue id' => cases (hdone h).2.1
  | report id' fileId outcome => cases (hdone h).2.1
  | adjudicate id' outcome => cases (hdone h).2.1
  | _ => cases r <;> cases h

namespace Office

variable {o o' : Office} {id : String} {ids : List String} {log : List Event}

/-- The submission is open, and its files have these identifiers. -/
def HoldsOpen (o : Office) (id : String) (ids : List String) : Prop :=
  ∃ s, o.store.find? id = some s ∧ s.status = .opened ∧ s.files.map (·.id) = ids

theorem exists_gap {s : Submission} (hids : s.files.map (·.id) = ids)
    (hgap : ∃ id ∈ ids, isBlankText id = true) :
    ∃ file ∈ s.files, isBlankText file.id = true := by
  obtain ⟨id, hid, hblank⟩ := hgap
  obtain ⟨file, hfile, rfl⟩ := List.mem_map.1 (hids ▸ hid)
  exact ⟨file, hfile, hblank⟩

/-- **Nothing that is done takes a submission with a gap out of its editing**, or closes the gap,
but other files. -/
theorem Deed.holdsOpen {task? : Option (String × Task)} (hd : Deed o task? o')
    (h : o.HoldsOpen id ids) (hgap : ∃ id ∈ ids, isBlankText id = true)
    (hother : ∀ files, task? ≠ some (id, .files files)) : o'.HoldsOpen id ids := by
  obtain ⟨r, hr, hopened, hids⟩ := h
  have hput {s t : Submission} (hid : t.id = s.id) (hne : s.id ≠ id) :
      (o.store.put t).find? id = some r := by
    rw [Store.find?_put, if_neg fun heq => hne (hid.symm.trans heq.symm), hr]
  cases hd with
  | aside ids => exact ⟨r, hr, hopened, hids⟩
  | told n hn =>
    obtain ⟨sent, refused, heq⟩ := o.posted_eq n
    rw [heq]
    exact ⟨r, hr, hopened, hids⟩
  | @created new reference presenter hnew hfree =>
    refine ⟨r, ?_, hopened, hids⟩
    have hne : id ≠ new.id := by
      rintro rfl
      cases hfree.symm.trans hr
    exact (Store.find?_append hfree id).trans ((if_neg hne).trans hr)
  | @done s t task hs hmakes =>
    by_cases hid : s.id = id
    · subst hid
      obtain rfl := Option.some.inj (hs.symm.trans hr)
      have hkept := Submission.files_eq_of_makes hmakes hopened (exists_gap hids hgap)
        fun files heq => hother files (by rw [heq])
      exact ⟨_, find?_carriedOut hs hmakes, hkept.1, (congrArg _ hkept.2).trans hids⟩
    · obtain ⟨sent, refused, heq⟩ := o.carriedOut_eq task (t.stored s.version)
      rw [heq]
      exact ⟨r, hput (t := t.stored s.version) hmakes.move.sameOrigin.id hid, hopened, hids⟩
  | @labelled s hs hready hnone =>
    have hne : s.id ≠ id := by
      rintro rfl
      obtain rfl := Option.some.inj (hs.symm.trans hr)
      cases hopened.symm.trans hready
    exact ⟨r, hput rfl hne, hopened, hids⟩
  | @dispatched s record hs hready hrecord =>
    have hne : s.id ≠ id := by
      rintro rfl
      obtain rfl := Option.some.inj (hs.symm.trans hr)
      cases hopened.symm.trans hready
    exact ⟨r, hput rfl hne, hopened, hids⟩

/-- **As long as no event replaces its files, a submission with a gap stays as it is.** -/
theorem Logs.holdsOpen (h : Logs StaysSteady o log o') (ho : o.Steady)
    (hopen : o.HoldsOpen id ids) (hgap : ∃ id ∈ ids, isBlankText id = true)
    (hnone : ∀ e ∈ log, ¬e.ReplacesFiles id) : o'.Steady ∧ o'.HoldsOpen id ids := by
  -- what was done so far has left the files alone
  let Kept (deeds : List Done) : Prop := ∀ d ∈ deeds, d.id = id → ∀ files, d.task ≠ .files files
  let P (deeds : List Done) (o : Office) : Prop := o.Steady ∧ (Kept deeds → o.HoldsOpen id ids)
  have hinvariant : P (journal log) o' := by
    refine h.invariant (P := P) (fun _ _ h => h.1) ?_ ?_ ?_ ⟨ho, fun _ => hopen⟩
    · rintro deeds o₁ o₂ ⟨-, hall⟩ hbetween
      refine ⟨hbetween.steady, fun hkept => ?_⟩
      obtain ⟨s, hs, hrest⟩ := hall hkept
      exact ⟨s, by rw [hbetween.store]; exact hs, hrest⟩
    · rintro deeds o₁ now ⟨hsteady, hall⟩
      exact ⟨hsteady.of_drill_eq rfl, hall⟩
    · rintro deeds o₁ task? o₂ ⟨hsteady, hall⟩ hd
      refine ⟨hd.entries.steady hsteady, fun hkept => ?_⟩
      refine hd.holdsOpen (hall fun d hdeed => hkept d (List.mem_append_left _ hdeed)) hgap ?_
      rintro files rfl
      exact hkept ⟨o₁.clock, id, .files files⟩ (by simp [doneAt]) rfl files rfl
  refine ⟨hinvariant.1, hinvariant.2 fun d hd hid files htask => ?_⟩
  obtain ⟨e, he, hdone⟩ := List.mem_flatMap.1 hd
  obtain ⟨⟨id', task⟩, htasks, rfl⟩ := List.mem_map.1 hdone
  dsimp only at hid htask
  subst hid htask
  exact hnone e he (Operation.of_mem_tasks htasks)

/-! ## Completion -/

/-- A completion that is refused leaves everything as it was. -/
theorem Up.perform_complete_error (ho : o.Up) {s : Submission} (hs : o.store.find? id = some s)
    {e : Refusal} (he : s.complete o.desk o.clock = .error e) :
    (Operation.complete id).perform o = (.error e, o) := by
  have hrevise := revise_apply .complete (fun o => Submission.complete o.desk o.clock) ho
    (fun _ _ h => h) id
  rw [hs] at hrevise
  dsimp only at hrevise
  rw [he] at hrevise
  rw [Operation.perform, map_apply, Office.complete, bind_of_error hrevise]
  rfl

/-- Why a submission with a gap among its files is not completed. -/
theorem HoldsOpen.complete_error (ho : o.Up) (hopen : o.HoldsOpen id ids)
    (hgap : ∃ id ∈ ids, isBlankText id = true) :
    ∃ s, o.store.find? id = some s ∧ s.status = .opened ∧
      ∀ now, ∃ e, o.step now (.complete id) = (.error e, { o with clock := now }) ∧
        (o.desk.down = [] → ∃ fee fault, s.currentFee o.desk now = .ok fee ∧
          s.validate (s.formIn? o.desk.catalog) fee = .error fault ∧ e = .incomplete fault) := by
  obtain ⟨s, hs, hopened, hids⟩ := hopen
  have hfile := exists_gap hids hgap
  refine ⟨s, hs, hopened, fun now => ?_⟩
  have hup : Up { o with clock := now } := ho.of_drill_eq rfl
  cases hcomplete : s.complete o.desk now with
  | ok t =>
    obtain ⟨-, form, fee, -, -, hvalid, -⟩ := Submission.complete_eq_ok.1 hcomplete
    exact absurd hvalid (Submission.validate_ne_ok hfile)
  | error e =>
    refine ⟨e, hup.perform_complete_error hs hcomplete, fun hworks => ?_⟩
    obtain ⟨fee, hfee⟩ := Submission.exists_currentFee (s := s) hworks now
    cases hvalid : s.validate (s.formIn? o.desk.catalog) fee with
    | ok u => exact absurd hvalid (Submission.validate_ne_ok hfile)
    | error fault =>
      have hincomplete := Submission.complete_eq_incomplete hopened
        (Submission.registeredForm_eq hworks) hfee hvalid
      exact ⟨fee, fault, hfee, hvalid, Except.error.inj (hcomplete.symm.trans hincomplete)⟩

/-- A request for new files that succeeds has done so. -/
theorem exists_answer {r : Request} {uploads : List (Option Upload)} (h : r.PutsFiles id uploads)
    {now : Instant} (hok : (o.respond now r).1.status = 200) :
    ∃ answer, (Operation.upload id uploads).perform o = (.ok answer, (o.respond now r).2) := by
  rw [respond, h.exchange_eq] at hok ⊢
  dsimp only at hok ⊢
  generalize (Operation.upload id uploads).perform o = result at hok ⊢
  obtain ⟨e | answer, o'⟩ := result
  · rw [Response.status_forMethod] at hok
    exact absurd hok (Response.statusOf_ne e)
  · exact ⟨answer, rfl⟩

/-- **A submission whose files have a gap is not completed.**  Take a request for new files with an
upload that is missing, or that has a blank identifier, and let it succeed.

* The submission is open, and its files have the identifiers of the uploads; where there was none, a
  fresh one that is not blank; and a blank one where the upload is missing.
* Whatever is done afterwards, be it to the form, and whatever changes around the office: as long as
  no other files take their place, the submission stays open, and its completion is refused at every
  instant and changes nothing.
* While the look-ups of the catalog work, it is refused as incomplete.  And if the conditions that
  count before the files are met, and the form takes documents, the fault is the first gap among the
  uploads. -/
theorem Steady.withheld (ho : o.Steady) {r : Request} {uploads : List (Option Upload)}
    (hputs : r.PutsFiles id uploads) (hgap : ∃ u ∈ uploads, isGap u = true) {now : Instant}
    (hok : (o.respond now r).1.status = 200) :
    (∃ s, (o.respond now r).2.store.find? id = some s ∧ s.status = .opened ∧
      Received o.ids.number uploads (s.files.map (·.id))) ∧
    ∀ log o', Logs StaysSteady (o.respond now r).2 log o' → (∀ e ∈ log, ¬e.ReplacesFiles id) →
      ∃ s, o'.store.find? id = some s ∧ s.status = .opened ∧
        ∀ later, ∃ e, o'.step later (.complete id) = (.error e, { o' with clock := later }) ∧
          (o'.desk.down = [] → ∃ fee fault, s.currentFee o'.desk later = .ok fee ∧
            e = .incomplete fault ∧
            ((∀ q ∈ [Requirement.formType, .registration, .authorisation],
                q.Met s (s.formIn? o'.desk.catalog) fee) →
              ¬Requirement.Electronic (s.formIn? o'.desk.catalog) →
              ∃ i, uploads.findIdx? isGap = some i ∧ fault = .invalidFileEntry id i)) := by
  obtain ⟨answer, hanswer⟩ := exists_answer hputs hok
  obtain ⟨s, hs, hopened, hreceived⟩ := received_upload ho.toUp hanswer
  refine ⟨⟨s, hs, hopened, hreceived⟩, fun log o' hlog hnone => ?_⟩
  have hindex := findIdx?_eq_of_gets hreceived.each
  have hsome : (uploads.findIdx? isGap).isSome := by
    rw [List.findIdx?_isSome, List.any_eq_true]
    exact hgap
  obtain ⟨i, hi⟩ := Option.isSome_iff_exists.1 hsome
  rw [hi] at hindex
  have hblank : ∃ id ∈ s.files.map (·.id), isBlankText id = true := by
    rw [← List.any_eq_true, ← List.findIdx?_isSome, hindex]
    rfl
  have hsteady : (o.respond now r).2.Steady := by
    have hdeeds := deeds_perform ho (.upload id uploads)
    rw [hanswer] at hdeeds
    exact hdeeds.steady ho
  obtain ⟨hsteady', hopen⟩ := hlog.holdsOpen hsteady ⟨s, hs, hopened, rfl⟩ hblank hnone
  obtain ⟨t, ht, htopened, hcomplete⟩ := HoldsOpen.complete_error hsteady'.toUp hopen hblank
  refine ⟨t, ht, htopened, fun later => ?_⟩
  obtain ⟨e, hstep, he⟩ := hcomplete later
  refine ⟨e, hstep, fun hworks => ?_⟩
  obtain ⟨fee, fault, hfee, hvalid, rfl⟩ := he hworks
  refine ⟨fee, fault, hfee, rfl, fun hmet hpaper => ⟨i, hi, ?_⟩⟩
  obtain ⟨t', ht', -, hids⟩ := hopen
  obtain rfl := Option.some.inj (ht'.symm.trans ht)
  rw [← hids, List.findIdx?_map] at hindex
  have hfirst := Submission.validate_eq_invalidFileEntry hindex hmet hpaper
  rw [Store.id_of_find? ht] at hfirst
  exact Except.error.inj (hvalid.symm.trans hfirst)

/-- A request for three files: one without an identifier, one that is missing, and one with a blank
identifier. -/
def patchyFiles : Request where
  method := .put
  target := ⟨["", "efs-submission-api", "submissions", "sub-1", "files"], []⟩
  contentType := some "application/json"
  body := .ofJson (.obj [("files", .arr
    [.obj [("file_name", .str "form.pdf")], .null,
      .obj [("file_id", .str " "), ("file_name", .str "minutes.pdf")]])])

/-- The files are put in place, the filing is made one without documents and back, and in between it
is tried to complete it. -/
theorem withheld_patchyFiles :
    let now : Instant := ⟨1719828000, 0⟩
    let start := (Office.opened .standard OfficeConfig.default.settings .fresh now).run
      [(now, .create none), (now, .editForm "sub-1" "SH01")]
    let requested := start.respond now patchyFiles
    let after := requested.2.run
      [(now, .editForm "sub-1" "SH19"), (now, .complete "sub-1"), (now, .editForm "sub-1" "SH01")]
    requested.1.status = 200 ∧
    (requested.2.store.find? "sub-1").map (fun s => s.files.map (·.id)) =
      some ["file-2", "", " "] ∧
    (after.step now (.complete "sub-1")).1 =
      .error (.incomplete (.invalidFileEntry "sub-1" 1)) := by
  intro now start requested after
  let uploads : List (Option Upload) :=
    [some ⟨none, "form.pdf", 0⟩, none, some ⟨some " ", "minutes.pdf", 0⟩]
  have hputs : patchyFiles.PutsFiles "sub-1" uploads := ⟨rfl, by decide +kernel, rfl⟩
  have hok : requested.1.status = 200 := by decide +kernel
  have hlog : Logs StaysSteady requested.2 _ after := Logs.refl.run _
  have hopened : (Office.opened .standard OfficeConfig.default.settings .fresh now).Steady :=
    ⟨⟨rfl, rfl, rfl⟩, rfl⟩
  have hsteady : start.Steady := hopened.run _
  obtain ⟨-, hlater⟩ := hsteady.withheld hputs ⟨none, by simp [uploads], rfl⟩ hok
  obtain ⟨s, hs, -, hcomplete⟩ := hlater _ after hlog (by simp [events, Event.ReplacesFiles])
  obtain ⟨e, hstep, he⟩ := hcomplete now
  obtain ⟨fee, fault, -, rfl, hfault⟩ := he (by decide +kernel)
  have htype : (after.store.find? "sub-1").bind (·.formType?) = some "SH01" := by decide +kernel
  have hpaper : (after.desk.catalog.form? "SH01").map
      (fun form => (form.fullyElectronic, form.isInsolvency)) = some (false, false) := by
    decide +kernel
  obtain ⟨form, hregistered, hkind⟩ := Option.map_eq_some_iff.1 hpaper
  obtain ⟨helectronic, hinsolvency⟩ := Prod.mk.inj hkind
  rw [hs, Option.bind_some] at htype
  have hform : s.formIn? after.desk.catalog = some form := by
    rw [Submission.formIn?, htype, Option.bind_some, hregistered]
  have htyped : Requirement.formType.Met s (some form) fee :=
    Requirement.isSome_formType?_iff.1 (by rw [htype]; rfl)
  have hsolvent : ¬Requirement.Insolvency (some form) := by
    rintro ⟨_, ⟨⟩, h⟩
    cases hinsolvency.symm.trans h
  have hdocuments : ¬Requirement.Electronic (some form) := by
    rintro ⟨_, ⟨⟩, h⟩
    cases helectronic.symm.trans h
  rw [hform] at hfault
  obtain ⟨i, hi, rfl⟩ := hfault
    (by simpa using ⟨htyped, ⟨form, rfl⟩, fun h => absurd h hsolvent⟩) hdocuments
  obtain rfl : 1 = i := Option.some.inj hi
  exact ⟨hok, by decide +kernel, by rw [hstep]⟩

end Office

end Filing
