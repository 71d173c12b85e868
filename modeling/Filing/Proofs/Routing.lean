import Filing.Config.Basic
import Filing.Proofs.Change
import Filing.Proofs.Office.Leads
import Filing.Proofs.Serial
import Filing.Proofs.Validation

/-!
# What a status says about the files and the route

The status of a submission agrees with what is on record of its files: they wait until they are
queued, they are under way together, and once the last of them is decided the status is what the
decision comes to.  It also agrees with the registered form, which decides whether a filing goes to
the registration system or is delivered by e-mail.

* `Status.Fits` — what each status says about the files, with `Submission.Change.filesFit`;
* `Decision.fits_verdict` — a verdict leads to a status that fits the files it was taken from;
* `Submission.Routed` — what the status says about the form, the barcode and the reasons;
* `Office.Leads.filesFit_routed` — **both hold of every stored submission over a fixed catalog**.

The first of them holds whatever happens to the catalog; it is the route that needs one catalog
throughout, since nothing is written down of the form that a decision went by.
-/

set_option autoImplicit false

namespace Filing

/-! ## The files -/

/-- Nothing has been done about the file. -/
structure File.Untouched (f : File) : Prop where
  waiting : f.status = .waiting
  convertedId : f.convertedId = none
  pages : f.pages = none

/-- What a status says about the files. -/
def Status.Fits (files : List File) : Status → Prop
  | .opened | .paymentRequired | .paymentFailed | .submitted => ∀ f ∈ files, f.Untouched
  | .processing =>
    files ≠ [] ∧ (∀ f ∈ files, f.status = .queued ∨ f.status.isDecided = true) ∧
      ∃ f ∈ files, f.status = .queued
  | .readyToSubmit | .processedByEmail | .sentToFes | .accepted | .rejected =>
    ∀ f ∈ files, f.status = .converted
  | .rejectedByVirusScan =>
    (∀ f ∈ files, f.status.isDecided = true) ∧ ∃ f ∈ files, f.status = .failedScan
  | .rejectedByDocumentConverter =>
    (∀ f ∈ files, f.status.isDecided = true) ∧ (∀ f ∈ files, f.status ≠ .failedScan) ∧
      ∃ f ∈ files, f.status = .failedConversion

/-! ### Verdicts -/

namespace Decision

variable {files : List File}

theorem isDecided_of_verdict? {verdict : Verdict} (h : (ofFiles files).verdict? = some verdict) :
    ∀ f ∈ files, f.status.isDecided = true := by
  rw [verdict?_eq] at h
  split at h
  · next hcomplete => exact List.countP_eq_length.1 hcomplete
  · cases h

/-- A decided file that did not fail was converted. -/
theorem converted_of_isDecided {status : FileStatus} (h : status.isDecided = true)
    (hscan : status ≠ .failedScan) (hconversion : status ≠ .failedConversion) :
    status = .converted := by
  cases status with
  | converted => rfl
  | failedScan => exact absurd rfl hscan
  | failedConversion => exact absurd rfl hconversion
  | waiting => cases h
  | queued => cases h

/-- **A verdict leads to a status that fits the files.** -/
theorem fits_verdict {verdict : Verdict} (h : (ofFiles files).verdict? = some verdict)
    (form : Option FormTemplate) : (verdict.destination form).Fits files := by
  have hdecided := isDecided_of_verdict? h
  rw [verdict?_eq] at h
  split at h
  case isFalse => cases h
  have hverdict := Option.some.inj h
  by_cases hscan : ∀ f ∈ files, f.status ≠ .failedScan
  · have hnoScan : (ofFiles files).infected.isEmpty = true := isEmpty_namesWith.2 hscan
    rw [if_pos hnoScan] at hverdict
    by_cases hconversion : ∀ f ∈ files, f.status ≠ .failedConversion
    · have hnoConversion : (ofFiles files).failedConversion.isEmpty = true :=
        isEmpty_namesWith.2 hconversion
      rw [if_pos hnoConversion] at hverdict
      have hconverted : ∀ f ∈ files, f.status = .converted := fun f hf =>
        converted_of_isDecided (hdecided f hf) (hscan f hf) (hconversion f hf)
      subst hverdict
      cases form with
      | none => exact hconverted
      | some form =>
        rw [Verdict.destination]
        split <;> exact hconverted
    · have hsome : ¬(ofFiles files).failedConversion.isEmpty = true := fun hempty =>
        hconversion (isEmpty_namesWith.1 hempty)
      rw [if_neg hsome] at hverdict
      subst hverdict
      push Not at hconversion
      exact ⟨hdecided, hscan, hconversion⟩
  · have hsome : ¬(ofFiles files).infected.isEmpty = true := fun hempty =>
      hscan (isEmpty_namesWith.1 hempty)
    rw [if_neg hsome] at hverdict
    subst hverdict
    push Not at hscan
    exact ⟨hdecided, hscan⟩

end Decision

namespace Submission

variable {o : Office} {s t : Submission}

/-! ### Every change -/

/-- The status agrees with what is on record of the files. -/
def FilesFit (s : Submission) : Prop :=
  s.status.Fits s.files

theorem filesFit_iff {status : Status} (h : s.status = status) : s.FilesFit ↔ status.Fits s.files := by
  rw [FilesFit, h]

/-- The files of a submission that is queued are under way. -/
theorem fits_queueFiles (hfiles : s.files ≠ []) (now : Instant) :
    Status.processing.Fits (s.queueFiles now).files := by
  have hqueued : ∀ f ∈ (s.queueFiles now).files, f.status = .queued := by
    intro f hf
    rw [files_queueFiles] at hf
    obtain ⟨g, -, rfl⟩ := List.mem_map.1 hf
    rfl
  have hne : (s.queueFiles now).files ≠ [] := by
    rw [files_queueFiles]
    exact fun hnil => hfiles (List.map_eq_nil_iff.1 hnil)
  obtain ⟨f, hf⟩ := List.exists_mem_of_ne_nil _ hne
  exact ⟨hne, fun f hf => .inl (hqueued f hf), f, hf, hqueued f hf⟩

/-- Files that are under way are so after a report that leaves the decision open. -/
theorem fits_decideFile (hs : Status.processing.Fits s.files) {fileId : String}
    {outcome : FileOutcome} {now : Instant}
    (hopen : (Decision.ofFiles (s.decideFile fileId outcome now).files).verdict? = none) :
    Status.processing.Fits (s.decideFile fileId outcome now).files := by
  obtain ⟨-, hall, -⟩ := hs
  have hall' : ∀ f ∈ (s.decideFile fileId outcome now).files,
      f.status = .queued ∨ f.status.isDecided = true := by
    intro f hf
    rw [files_decideFile] at hf
    obtain hf | ⟨g, -, -, rfl⟩ := File.mem_updateFirst hf
    · exact hall f hf
    · rw [File.status_decide, File.isDecided_status]
      exact .inr rfl
  -- the decision is open because of a file that is not decided, which can only be queued
  obtain ⟨f, hf, hundecided⟩ := verdict?_ofFiles_eq_none.1 hopen
  refine ⟨List.ne_nil_of_mem hf, hall', f, hf, ?_⟩
  obtain hqueued | hdecided := hall' f hf
  · exact hqueued
  · rw [hundecided] at hdecided
    cases hdecided

/-- **Every change keeps the agreement.** -/
theorem Change.filesFit (h : s.Change o t) (hs : s.FilesFit) : t.FilesFit := by
  cases h with
  | edited h =>
    rw [filesFit_iff h.status]
    obtain hfiles | ⟨files, now, hfiles⟩ := h.files
    · rw [hfiles]
      exact (filesFit_iff h.opened).1 hs
    · intro f hf
      rw [hfiles] at hf
      obtain ⟨g, -, rfl⟩ := List.mem_map.1 hf
      exact ⟨rfl, rfl, rfl⟩
  | completed form fee hopened =>
    have huntouched := (filesFit_iff hopened).1 hs
    rw [FilesFit, files_priced, priced]
    split <;> exact huntouched
  | paid report sessions hwaiting =>
    have huntouched : ∀ f ∈ s.files, f.Untouched := by
      obtain h | h := hwaiting <;> exact (filesFit_iff h).1 hs
    rw [FilesFit, files_settled]
    cases hstate : report.state with
    | paid => exact huntouched
    | failed => exact huntouched
    | cancelled => exact huntouched
    | pending => exact hs
  | passed form hsubmitted hfiles hform =>
    have hnil : (s.queueFiles o.clock).files = [] := by rw [files_queueFiles, hfiles, List.map_nil]
    have hverdict : (Decision.ofFiles (s.queueFiles o.clock).files).verdict? = some .accepted := by
      rw [hnil]
      rfl
    exact Decision.fits_verdict hverdict form
  | started hsubmitted hfiles => exact fits_queueFiles hfiles o.clock
  | reported fileId outcome hprocessing hfind hfile hopen =>
    have hprocessing' : (s.decideFile fileId outcome o.clock).status = .processing := hprocessing
    rw [filesFit_iff hprocessing']
    exact fits_decideFile ((filesFit_iff hprocessing).1 hs) hopen
  | decided fileId outcome verdict form hprocessing hfind hfile hverdict hform =>
    exact Decision.fits_verdict hverdict form
  | labelled barcode hready hnone =>
    have hready' : ((s.updateForm ({ · with barcode := some barcode })).touch o.clock).status =
        .readyToSubmit := hready
    have hfiles : ((s.updateForm ({ · with barcode := some barcode })).touch o.clock).files =
        s.files := s.files_updateForm fun _ => rfl
    rw [filesFit_iff hready', hfiles]
    exact (filesFit_iff hready).1 hs
  | sent hready hsome => exact (filesFit_iff hready).1 hs
  | accepted hsent => exact (filesFit_iff hsent).1 hs
  | rejected reasons hsent => exact (filesFit_iff hsent).1 hs

theorem kept_filesFit : Kept FilesFit where
  opened _ _ _ _ := fun _ hf => absurd hf List.not_mem_nil
  moved hs h := h.change.filesFit hs
  stored _ h := h

end Submission

/-! ## The route -/

/-- Whether a form suits a status: only a form that the registration system does not take is
delivered by e-mail. -/
def Status.Suits (form : FormTemplate) : Status → Prop
  | .processedByEmail => form.fullyElectronic = false ∧ form.fesDelivery = false
  | .readyToSubmit | .sentToFes | .accepted | .rejected =>
    form.fullyElectronic = true ∨ form.fesDelivery = true
  | .opened | .paymentRequired | .paymentFailed | .submitted | .processing | .rejectedByVirusScan
  | .rejectedByDocumentConverter => True

/-- The registration system has the filing. -/
def Status.isHandedOver : Status → Bool
  | .sentToFes | .accepted | .rejected => true
  | .opened | .paymentRequired | .paymentFailed | .submitted | .processing | .processedByEmail
  | .readyToSubmit | .rejectedByVirusScan | .rejectedByDocumentConverter => false

/-- A verdict leads where the form goes. -/
theorem Verdict.suits_destination (verdict : Verdict) (form : FormTemplate) :
    (verdict.destination (some form)).Suits form := by
  cases verdict with
  | rejectedByVirusScan => trivial
  | rejectedByDocumentConverter => trivial
  | accepted =>
    rw [destination]
    split
    · next htaken =>
      have hsuits : form.fullyElectronic = true ∨ form.fesDelivery = true := by simpa using htaken
      exact hsuits
    · next htaken =>
      have hsuits : form.fullyElectronic = false ∧ form.fesDelivery = false := by
        simpa using htaken
      exact hsuits

theorem Verdict.isHandedOver_destination (verdict : Verdict) (form : Option FormTemplate) :
    (verdict.destination form).isHandedOver = false := by
  cases verdict with
  | rejectedByVirusScan => rfl
  | rejectedByDocumentConverter => rfl
  | accepted =>
    cases form with
    | none => rfl
    | some form =>
      rw [destination]
      split <;> rfl

namespace Submission

variable {catalog : Catalog} {o : Office} {s t : Submission} {form : Option FormTemplate}

/-- The form of the submission, as the catalog has it. -/
def formIn? (s : Submission) (catalog : Catalog) : Option FormTemplate :=
  s.formType?.bind catalog.form?

/-- What the status of a submission says about everything but its files and its payment. -/
structure Routed (catalog : Catalog) (s : Submission) : Prop where
  form : s.status ≠ .opened → ∃ form, s.formIn? catalog = some form ∧ s.status.Suits form
  barcode : s.status.isHandedOver = true → s.barcode?.isSome
  reasons : s.rejectReasons ≠ [] → s.status = .rejected

/-- A form that is looked up is the one in the catalog. -/
theorem eq_formIn?_of_registeredForm {desk : CatalogDesk} (h : s.registeredForm desk = .ok form) :
    form = s.formIn? desk.catalog := by
  rw [registeredForm] at h
  rw [formIn?]
  split at h
  · next formType htype =>
    rw [refuse_eq_ok, CatalogDesk.form?, CatalogDesk.ask] at h
    split at h
    · cases h
    · rw [htype, ← Except.ok.inj h]
      rfl
  · next htype => rw [htype, ← Except.ok.inj h]; rfl

/-- The form of a submission past its editing stays the same. -/
theorem Change.formIn?_eq (h : s.Change o t) (hstatus : s.status ≠ .opened) :
    t.formIn? catalog = s.formIn? catalog := by
  rw [formIn?, formIn?, h.formType?_eq hstatus]

/-- Past the editing, the status that a change leads to suits the form. -/
theorem Change.suits {form : FormTemplate} (h : s.Change o t)
    (hform : s.formIn? o.desk.catalog = some form) (hs : s.status.Suits form)
    (hstatus : s.status ≠ .opened) : t.status.Suits form := by
  cases h with
  | edited h => exact absurd h.opened hstatus
  | completed _ fee hopened => exact absurd hopened hstatus
  | paid report sessions hwaiting =>
    cases hstate : report.state with
    | paid => trivial
    | failed => trivial
    | cancelled => trivial
    | pending => exact hs
  | passed found hsubmitted hfiles hfound =>
    rw [eq_formIn?_of_registeredForm hfound, hform]
    exact Verdict.suits_destination .accepted form
  | started => trivial
  | reported => exact hs
  | decided fileId outcome verdict found hprocessing hfind hfile hverdict hfound =>
    rw [eq_formIn?_of_registeredForm hfound, hform]
    exact verdict.suits_destination form
  | labelled => exact hs
  | sent hready => rw [hready] at hs; exact hs
  | accepted hsent => rw [hsent] at hs; exact hs
  | rejected reasons hsent => rw [hsent] at hs; exact hs

/-- A filing gets to the registration system by its hand-over, with a barcode, and stays there. -/
theorem Change.isHandedOver_eq (h : s.Change o t) :
    t.status.isHandedOver = s.status.isHandedOver ∨
      (s.status = .readyToSubmit ∧ s.barcode?.isSome) := by
  cases h with
  | edited h => exact .inl (by rw [h.status, h.opened])
  | completed _ fee hopened =>
    rw [priced, hopened]
    split <;> exact .inl rfl
  | paid report sessions hwaiting =>
    have hbefore : s.status.isHandedOver = false := by
      obtain h | h := hwaiting <;> rw [h] <;> rfl
    rw [hbefore]
    cases hstate : report.state with
    | paid => exact .inl rfl
    | failed => exact .inl rfl
    | cancelled => exact .inl rfl
    | pending => exact .inl hbefore
  | passed form hsubmitted =>
    rw [hsubmitted]
    exact .inl (Verdict.isHandedOver_destination .accepted form)
  | started hsubmitted =>
    rw [hsubmitted]
    exact .inl rfl
  | reported => exact .inl rfl
  | decided fileId outcome verdict form hprocessing =>
    rw [hprocessing]
    exact .inl (verdict.isHandedOver_destination form)
  | labelled => exact .inl rfl
  | sent hready hsome => exact .inr ⟨hready, hsome⟩
  | accepted hsent =>
    rw [hsent]
    exact .inl rfl
  | rejected reasons hsent =>
    rw [hsent]
    exact .inl rfl

/-- The files of a filing that has been handed over were converted. -/
theorem FilesFit.converted (hs : s.FilesFit) (h : s.status.isHandedOver = true) :
    ∀ f ∈ s.files, f.status = .converted := by
  rw [FilesFit] at hs
  generalize s.status = status at hs h
  cases status
  case sentToFes => exact hs
  case accepted => exact hs
  case rejected => exact hs
  all_goals cases h

/-- A filing that has been handed over carries its barcode. -/
def Carries (s : Submission) : Prop :=
  s.status.isHandedOver = true → s.barcode?.isSome

theorem Change.carries (h : s.Change o t) (hs : s.Carries) : t.Carries := by
  intro ht
  have hbarcode : s.barcode?.isSome := by
    obtain heq | ⟨-, hsome⟩ := h.isHandedOver_eq
    · exact hs (heq.symm.trans ht)
    · exact hsome
  obtain heq | ⟨-, hnone⟩ := h.barcode?_eq
  · rw [heq]
    exact hbarcode
  · rw [hnone] at hbarcode
    cases hbarcode

theorem kept_carries : Kept Carries where
  opened _ _ _ _ h := nomatch h
  moved hs h := h.change.carries hs
  stored _ h := h

/-- A submission that is completed has a registered form. -/
theorem Change.formIn?_of_opened (h : s.Change o t) (hs : s.status = .opened)
    (ht : t.status ≠ .opened) :
    ∃ form, t.formIn? o.desk.catalog = some form ∧ t.status.Suits form := by
  obtain ⟨found, fee, hfound, -, hvalid, rfl⟩ := h.eq_priced_of_opened hs ht
  obtain ⟨form, rfl⟩ := Option.isSome_iff_exists.1 (isSome_of_validate hvalid)
  have hform := eq_formIn?_of_registeredForm hfound
  refine ⟨form, ?_, ?_⟩
  · rw [formIn?, formType?, form_priced, hform, formIn?, formType?]
  · rw [priced]
    split <;> trivial

/-- **Every change over the catalog keeps the route.** -/
theorem Change.routed (h : s.Change o t) (hs : s.Routed o.desk.catalog) :
    t.Routed o.desk.catalog := by
  refine ⟨fun ht => ?_, h.carries hs.barcode, fun ht => ?_⟩
  · by_cases hopened : s.status = .opened
    · exact h.formIn?_of_opened hopened ht
    · obtain ⟨form, hform, hsuits⟩ := hs.form hopened
      exact ⟨form, (h.formIn?_eq hopened).trans hform, h.suits hform hsuits hopened⟩
  · obtain heq | hrejected := h.rejectReasons_eq
    · -- reasons that were there before would mean that the submission was at its end
      rw [heq] at ht
      have halive := h.alive
      rw [hs.reasons ht] at halive
      cases halive
    · exact hrejected

theorem keptOver_routed (catalog : Catalog) : KeptOver catalog (Routed catalog) where
  opened _ _ _ _ := ⟨fun h => absurd rfl h, (fun h => nomatch h), fun h => absurd rfl h⟩
  moved := by
    rintro o s t rfl hs h
    exact h.change.routed hs
  stored _ h := ⟨h.form, h.barcode, h.reasons⟩

end Submission

/-! ## In every run -/

/-- **The status agrees with the files and the route.**  Over a catalog that stays the same, from an
empty store on, the status of every stored submission says what it should about the files, the form,
the barcode and the reasons for a rejection. -/
theorem Office.Leads.filesFit_routed {o o' : Office} (h : Leads SameCatalog o o')
    (hstore : o.store = .empty) (ho : o.Undisturbed) {s : Submission}
    (hs : s ∈ o'.store.records) : s.FilesFit ∧ s.Routed o.desk.catalog := by
  have hkept : Submission.KeptOver o.desk.catalog fun s => s.FilesFit ∧ s.Routed o.desk.catalog := by
    have hroute := Submission.keptOver_routed o.desk.catalog
    have hfiles := Submission.kept_filesFit
    refine ⟨fun id reference presenter now => ?_, fun hcatalog hs hmove => ?_, fun version hs => ?_⟩
    · exact ⟨hfiles.opened id reference presenter now, hroute.opened id reference presenter now⟩
    · exact ⟨hfiles.moved hs.1 hmove, hroute.moved hcatalog hs.2 hmove⟩
    · exact ⟨hfiles.stored version hs.1, hroute.stored version hs.2⟩
  exact (h.keptOver hkept hstore ho rfl).2 s hs

namespace Office

/-- An office with a change of address under way: its two documents are queued, and one of them has
been converted. -/
def withAddressChange : Office :=
  let now : Instant := ⟨1719828000, 0⟩
  (Office.opened .standard OfficeConfig.default.settings .fresh now).run
    [(now, .create (some ⟨"filings@acme.example"⟩)),
      (now, .editCompany "sub-1" ⟨"01234567", "Acme Widgets Ltd"⟩),
      (now, .editForm "sub-1" "AD01"),
      (now, .editFiles "sub-1"
        [.uploaded "notice" "notice.pdf" 48213, .uploaded "annex" "annex.pdf" 1024]),
      (now, .complete "sub-1"),
      (now, .queue "sub-1"),
      (now, .report "sub-1" "notice" (.converted (some "c-1") (some 3)))]

/-- The form is not for the registration system, so the last report has the documents delivered by
e-mail. -/
def withAddressDelivered : Office :=
  withAddressChange.run
    [(⟨1719828060, 0⟩, .report "sub-1" "annex" (.converted (some "c-2") none))]

theorem filesFit_withAddressChange :
    (∃ s ∈ withAddressChange.store.records,
        s.status = .processing ∧ s.FilesFit ∧ s.Routed .standard) ∧
      ∃ s ∈ withAddressDelivered.store.records,
        s.status = .processedByEmail ∧ s.FilesFit ∧ s.Routed .standard := by
  let start := Office.opened .standard OfficeConfig.default.settings .fresh ⟨1719828000, 0⟩
  have hbefore : Leads SameCatalog start withAddressChange := Leads.refl.run _
  have hafter : Leads SameCatalog start withAddressDelivered := hbefore.run _
  have hprocessing : ∃ s ∈ withAddressChange.store.records, s.status = .processing := by
    decide +kernel
  have hdelivered : ∃ s ∈ withAddressDelivered.store.records, s.status = .processedByEmail := by
    decide +kernel
  obtain ⟨s, hs, hstatus⟩ := hprocessing
  obtain ⟨t, ht, htstatus⟩ := hdelivered
  exact ⟨⟨s, hs, hstatus, hbefore.filesFit_routed rfl rfl hs⟩,
    t, ht, htstatus, hafter.filesFit_routed rfl rfl ht⟩

end Office

end Filing
