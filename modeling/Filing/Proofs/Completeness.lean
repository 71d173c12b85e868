import Filing.Config.Basic
import Filing.Proofs.PaymentGate
import Filing.Proofs.Routing
import Filing.Proofs.Validation

/-!
# What leaves its editing is complete

A submission is checked once, when it is completed.  From then on nothing is taken away from it: the
checks of the files, the payments and the registration system write beside what was filed, and not
into it.  So what was complete then is complete at any later time.

* `Submission.SameFiling` — what was filed is the same, with `Submission.Change.sameFiling`: **past its
  editing, no change touches it**;
* `Submission.Filled`, `Submission.Meets` — nothing is missing, of what every submission needs and of
  what its form asks for;
* `Submission.Complete` — both, with `Submission.complete_of_validate`;
* `Office.Leads.complete_of_not_opened` — **every stored submission that is not open is complete**.

What every submission needs is there whatever happens to the catalog; what the form asks for is there
as long as the catalog is the one that it was checked against.
-/

set_option autoImplicit false

namespace Filing

open Text (isBlankText)

/-! ## What was filed -/

/-- What is filed of a file, which leaves out how far its checks have come. -/
def File.document (f : File) : String × String × UInt64 :=
  (f.id, f.name, f.size)

theorem File.document_decide (f : File) (outcome : FileOutcome) (now : Instant) :
    (f.decide outcome now).document = f.document := by
  cases outcome <;> rfl

namespace Submission

/-- What was filed is the same: everything that is edited, apart from how far the checks of the files
and the payment sessions have come. -/
structure SameFiling (s t : Submission) : Prop where
  formType : t.formType? = s.formType?
  documents : t.files.map File.document = s.files.map File.document
  sessions : t.sessions.map (·.id) = s.sessions.map (·.id)
  fee : t.fee = s.fee
  authorised : t.authorised = s.authorised
  company : t.company = s.company
  presenter : t.presenter = s.presenter
  reference : t.confirmationReference = s.confirmationReference

variable {o : Office} {s t : Submission}

/-- A report of the payment provider changes no identifier of a session. -/
theorem map_id_applyReport {report : PaymentReport} {ps qs : List PaymentSession}
    (h : applyReport report ps = some qs) : qs.map (·.id) = ps.map (·.id) := by
  obtain ⟨before, p, after, rfl, -, -, rfl⟩ := exists_split_of_applyReport h
  rw [List.map_append, List.map_append, List.map_cons, List.map_cons]
  rfl

theorem sameFiling_settled (state : PaymentState) (now : Instant) :
    s.SameFiling (s.settled state now) := by
  cases state <;> exact ⟨rfl, rfl, rfl, rfl, rfl, rfl, rfl, rfl⟩

theorem documents_queueFiles (now : Instant) :
    (s.queueFiles now).files.map File.document = s.files.map File.document := by
  rw [files_queueFiles, List.map_map]
  rfl

theorem documents_decideFile (fileId : String) (outcome : FileOutcome) (now : Instant) :
    (s.decideFile fileId outcome now).files.map File.document = s.files.map File.document := by
  rw [files_decideFile]
  exact File.map_updateFirst (fun f => f.document_decide outcome now) fileId s.files

/-- **Past its editing, no change touches what was filed.** -/
theorem Change.sameFiling (h : s.Change o t) (hs : s.status ≠ .opened) : s.SameFiling t := by
  have hformType := h.formType?_eq hs
  cases h with
  | edited h => exact absurd h.opened hs
  | completed form fee hopened => exact absurd hopened hs
  | paid report sessions hwaiting happly =>
    obtain ⟨-, hdocuments, hids, hfee, hauthorised, hcompany, hpresenter, hreference⟩ :=
      sameFiling_settled (s := { s with sessions := sessions }) report.state o.clock
    exact ⟨hformType, hdocuments, hids.trans (map_id_applyReport happly), hfee, hauthorised,
      hcompany, hpresenter, hreference⟩
  | passed => exact ⟨hformType, documents_queueFiles o.clock, rfl, rfl, rfl, rfl, rfl, rfl⟩
  | started => exact ⟨hformType, documents_queueFiles o.clock, rfl, rfl, rfl, rfl, rfl, rfl⟩
  | reported fileId outcome =>
    exact ⟨hformType, documents_decideFile fileId outcome o.clock, rfl, rfl, rfl, rfl, rfl, rfl⟩
  | decided fileId outcome =>
    exact ⟨hformType, documents_decideFile fileId outcome o.clock, rfl, rfl, rfl, rfl, rfl, rfl⟩
  | labelled barcode =>
    have hfiles : (s.updateForm ({ · with barcode := some barcode })).files = s.files :=
      s.files_updateForm fun _ => rfl
    exact ⟨hformType, congrArg _ hfiles, rfl, rfl, rfl, rfl, rfl, rfl⟩
  | sent => exact ⟨hformType, rfl, rfl, rfl, rfl, rfl, rfl, rfl⟩
  | accepted => exact ⟨hformType, rfl, rfl, rfl, rfl, rfl, rfl, rfl⟩
  | rejected => exact ⟨hformType, rfl, rfl, rfl, rfl, rfl, rfl, rfl⟩

/-! ## What every submission needs -/

/-- Nothing is missing of what every submission needs. -/
structure Filled (s : Submission) : Prop where
  presenter : ∃ p, s.presenter = some p ∧ isBlankText p.email = false
  company : ∃ c, s.company = some c ∧ isBlankText c.number = false ∧ isBlankText c.name = false
  reference : isBlankText s.confirmationReference = false
  sessions : s.sessions ≠ [] ↔ s.payable?.isSome

/-- What a registered form asks of a submission. -/
structure Meets (form : FormTemplate) (s : Submission) : Prop where
  authorised : form.isInsolvency = true → s.authorised = some true
  electronic : form.fullyElectronic = true → s.files = []
  attached : form.fullyElectronic = false →
    s.files ≠ [] ∧ ∀ f ∈ s.files, isBlankText f.id = false

/-- Nothing is missing. -/
structure Complete (catalog : Catalog) (s : Submission) : Prop extends Filled s where
  form : ∃ formType form, s.formType? = some formType ∧ isBlankText formType = false ∧
    catalog.form? formType = some form ∧ s.Meets form

/-- What is needed is still there as long as nobody edits. -/
theorem Filled.of_sameFiling (hs : s.Filled) (h : s.SameFiling t) : t.Filled := by
  refine ⟨?_, ?_, ?_, ?_⟩
  · rw [h.presenter]
    exact hs.presenter
  · rw [h.company]
    exact hs.company
  · rw [h.reference]
    exact hs.reference
  · rw [payable?, h.fee, ne_eq, ← List.map_eq_nil_iff (f := (·.id)), h.sessions,
      List.map_eq_nil_iff]
    exact hs.sessions

theorem Meets.of_sameFiling {form : FormTemplate} (hs : s.Meets form) (h : s.SameFiling t) :
    t.Meets form := by
  have hnil : t.files = [] ↔ s.files = [] := by
    rw [← List.map_eq_nil_iff (f := File.document), h.documents, List.map_eq_nil_iff]
  refine ⟨?_, fun helectronic => hnil.2 (hs.electronic helectronic), fun hpaper => ?_⟩
  · rw [h.authorised]
    exact hs.authorised
  · obtain ⟨hne, hids⟩ := hs.attached hpaper
    refine ⟨fun h => hne (hnil.1 h), fun f hf => ?_⟩
    have hmem : f.document ∈ s.files.map File.document :=
      h.documents ▸ List.mem_map_of_mem hf
    obtain ⟨g, hg, hdocument⟩ := List.mem_map.1 hmem
    have hid : g.id = f.id := congrArg (·.1) hdocument
    rw [← hid]
    exact hids g hg

/-! ## Completion -/

variable {form : Option FormTemplate} {fee : FeeResolution}

/-- What is checked at the completion is there, and what is kept is what was checked: the fee on
record is to be paid exactly if the fee of the check is. -/
theorem filled_priced {desk : CatalogDesk} {now : Instant} (hvalid : s.validate form fee = .ok ())
    (hfee : s.currentFee desk now = .ok fee) : (s.priced fee now).Filled := by
  have hpresenter := presenterPresent_eq_none.1 (rule_of_validate hvalid (by simp [rules]))
  have hcompany := companyPresent_eq_none.1 (rule_of_validate hvalid (by simp [rules]))
  have hreference := referencePresent_eq_none.1 (rule_of_validate hvalid (by simp [rules]))
  have hsessions := sessionsMatchFee_eq_none.1 (rule_of_validate hvalid (by simp [rules]))
  rw [← payable_currentFee hfee] at hsessions
  rw [priced]
  split <;> exact ⟨hpresenter, hcompany, hreference, hsessions⟩

theorem meets_priced {form : FormTemplate} (hvalid : s.validate (some form) fee = .ok ())
    (now : Instant) : (s.priced fee now).Meets form := by
  have hauthorised := insolvencyConfirmed_eq_none.1 (rule_of_validate hvalid (by simp [rules]))
  have hfree := electronicFileFree_eq_none.1 (rule_of_validate hvalid (by simp [rules]))
  have hattached := filesAttached_eq_none.1 (rule_of_validate hvalid (by simp [rules]))
  rw [← files_priced s now fee] at hfree hattached
  refine ⟨?_, hfree, hattached⟩
  rw [priced]
  split <;> exact hauthorised

/-- The form of a submission that is completed is registered. -/
theorem form_priced_of_validate {desk : CatalogDesk} (hvalid : s.validate form fee = .ok ())
    (hform : s.registeredForm desk = .ok form) (now : Instant) :
    ∃ formType form, (s.priced fee now).formType? = some formType ∧
      isBlankText formType = false ∧ desk.catalog.form? formType = some form ∧
      (s.priced fee now).Meets form := by
  obtain ⟨template, rfl⟩ := Option.isSome_iff_exists.1 (isSome_of_validate hvalid)
  have hregistered := eq_formIn?_of_registeredForm hform
  obtain ⟨formType, htype, hfound⟩ := Option.bind_eq_some_iff.1 hregistered.symm
  refine ⟨formType, template, ?_, (Text.nonBlank_eq_some.1 htype).2, hfound,
    meets_priced hvalid now⟩
  rw [formType?, form_priced]
  exact htype

/-! ## Every change -/

/-- **What every submission needs is there once it is not open any more.** -/
theorem kept_filled : Kept fun s => s.status ≠ .opened → s.Filled where
  opened _ _ _ _ h := absurd rfl h
  moved := by
    intro o s t hs h ht
    by_cases hopened : s.status = .opened
    · obtain ⟨form, fee, -, hfee, hvalid, rfl⟩ := h.change.eq_priced_of_opened hopened ht
      exact filled_priced hvalid hfee
    · exact (hs hopened).of_sameFiling (h.change.sameFiling hopened)
  stored _ hs h := by
    obtain ⟨hpresenter, hcompany, hreference, hsessions⟩ := hs h
    exact ⟨hpresenter, hcompany, hreference, hsessions⟩

theorem keptOver_complete (catalog : Catalog) :
    KeptOver catalog fun s => s.status ≠ .opened → s.Complete catalog where
  opened _ _ _ _ h := absurd rfl h
  moved := by
    rintro o s t rfl hs h ht
    by_cases hopened : s.status = .opened
    · obtain ⟨form, fee, hform, hfee, hvalid, rfl⟩ := h.change.eq_priced_of_opened hopened ht
      exact ⟨filled_priced hvalid hfee, form_priced_of_validate hvalid hform o.clock⟩
    · have hsame := h.change.sameFiling hopened
      obtain ⟨hfilled, formType, form, htype, hblank, hfound, hmeets⟩ := hs hopened
      refine ⟨hfilled.of_sameFiling hsame, formType, form, ?_, hblank, hfound,
        hmeets.of_sameFiling hsame⟩
      rw [hsame.formType, htype]
  stored _ hs h := by
    obtain ⟨⟨hpresenter, hcompany, hreference, hsessions⟩, formType, form, htype, hblank, hfound,
      hauthorised, helectronic, hattached⟩ := hs h
    exact ⟨⟨hpresenter, hcompany, hreference, hsessions⟩, formType, form, htype, hblank, hfound,
      hauthorised, helectronic, hattached⟩

end Submission

/-! ## In every run -/

/-- **Nothing incomplete leaves its editing.**  Over a catalog that stays the same, from an empty
store on, every stored submission that is not open is complete. -/
theorem Office.Leads.complete_of_not_opened {o o' : Office} (h : Leads SameCatalog o o')
    (hstore : o.store = .empty) (ho : o.Undisturbed) {s : Submission}
    (hs : s ∈ o'.store.records) (hstatus : s.status ≠ .opened) :
    s.Complete o.desk.catalog :=
  (h.keptOver (Submission.keptOver_complete o.desk.catalog) hstore ho rfl).2 s hs hstatus

namespace Office

/-- A notice in an insolvency, which is completed with one document. -/
def withLiquidation : Office :=
  let now : Instant := ⟨1719828000, 0⟩
  (Office.opened .standard OfficeConfig.default.settings .fresh now).run
    [(now, .create (some ⟨"liquidator@acme.example"⟩)),
      (now, .editCompany "sub-1" ⟨"01234567", "Acme Widgets Ltd"⟩),
      (now, .editForm "sub-1" " LIQ02 "),
      (now, .editFiles "sub-1" [.uploaded "notice" "notice.pdf" 48213]),
      (now, .editAuthorised "sub-1" true),
      (now, .complete "sub-1")]

/-- The document is converted. -/
def withLiquidationReady : Office :=
  let now : Instant := ⟨1719828060, 0⟩
  withLiquidation.run
    [(now, .queue "sub-1"), (now, .report "sub-1" "notice" (.converted (some "c-1") none))]

theorem complete_withLiquidation :
    ∃ s ∈ withLiquidationReady.store.records,
      s.status = .readyToSubmit ∧ s.authorised = some true ∧ s.Complete .standard := by
  let start := Office.opened .standard OfficeConfig.default.settings .fresh ⟨1719828000, 0⟩
  have hcompleted : Leads SameCatalog start withLiquidation := Leads.refl.run _
  have hready : Leads SameCatalog start withLiquidationReady := hcompleted.run _
  have hfound : ∃ s ∈ withLiquidationReady.store.records,
      s.status = .readyToSubmit ∧ s.authorised = some true := by
    decide +kernel
  obtain ⟨s, hs, hstatus, hauthorised⟩ := hfound
  refine ⟨s, hs, hstatus, hauthorised, hready.complete_of_not_opened rfl rfl hs ?_⟩
  rw [hstatus]
  decide

end Office

end Filing
