import Filing.Config.Basic
import Filing.Proofs.Office.Regular
import Filing.Proofs.Validation

/-!
# Drafts that can be completed

Whatever was done to a draft, its editor can still bring it to an end: he may start over with every
field that can be edited, and there is a form that asks for little.  What cannot be edited is given
to the draft when it is opened.  Its reference is drawn from a template and is not blank; but its
presenter may be missing, and then the draft is never completed.

* `Operation.Edits` — the five edits of a submission;
* `Submission.Plain` — a submission of the form that asks for little;
* `Office.Furnished` — an office with the standard catalog and the default settings;
* `Office.Serves` — the offices that operations lead to from a furnished one, with
  `Office.Serves.reference`: no record of theirs has a blank reference;
* `Office.Drafts` — an open submission in a furnished office, with `Office.Drafts.edit`: every edit
  that can be made leaves one;
* `Office.Leads.not_completed` — **a submission without a presenter is never completed**;
* `Office.Serves.completable_iff` — **a draft can be completed by edits exactly if its presenter has
  an address**.
-/

set_option autoImplicit false

namespace Filing

open Act
open Text (isBlankText)

/-! ## Edits -/

/-- The operation is an edit of the submission, and it is this task. -/
inductive Operation.Edits (id : String) : Operation → Task → Prop
  | company (company : Company) : Edits id (.editCompany id company) (.company company)
  | form (formType : String) : Edits id (.editForm id formType) (.form formType)
  | files (files : List File) : Edits id (.editFiles id files) (.files files)
  | sessions (sessions : List PaymentSession) :
      Edits id (.editSessions id sessions) (.sessions sessions)
  | authorised (authorised : Bool) :
      Edits id (.editAuthorised id authorised) (.authorised authorised)

/-! ## The plain form -/

/-- The form that asks for little: it is fully electronic, costs nothing and needs no
authorisation. -/
def plainForm : String := "SH19"

theorem exists_plainForm :
    ∃ form, Catalog.standard.form? plainForm = some form ∧ form.fullyElectronic = true ∧
      form.isInsolvency = false := by
  have hknown : (Catalog.standard.form? plainForm).any
      (fun f => f.fullyElectronic && !f.isInsolvency) = true := by
    decide +kernel
  obtain ⟨form, hfound, hkind⟩ := (Option.any_eq_true _ _).1 hknown
  rw [Bool.and_eq_true, Bool.not_eq_true'] at hkind
  exact ⟨form, hfound, hkind⟩

theorem resolveFee_plainForm (now : Instant) :
    Catalog.standard.resolveFee plainForm now = .notApplicable := by
  have hfree : (Catalog.standard.form? plainForm).bind FormTemplate.feeCode? = none := by
    decide +kernel
  rw [Catalog.resolveFee, hfree]

/-- The submission is for a company, with the plain form and nothing beside it. -/
structure Submission.Plain (s : Submission) : Prop where
  form : s.formType? = some plainForm
  files : s.files = []
  sessions : s.sessions = []
  company : ∃ c, s.company = some c ∧ isBlankText c.number = false ∧ isBlankText c.name = false

open Submission in
/-- A submission of the plain form lacks nothing but what it cannot be edited for. -/
theorem Submission.Plain.validate_eq_ok {s : Submission} (h : s.Plain)
    (hpresenter : s.presenterEmail?.isSome)
    (hreference : isBlankText s.confirmationReference = false) {form : FormTemplate}
    (helectronic : form.fullyElectronic = true) (hinsolvency : form.isInsolvency = false) :
    s.validate (some form) .notApplicable = .ok () := by
  have hknown : isElectronic (some form) = true := helectronic
  have hunpaid : FeeResolution.notApplicable.payable.isSome = false := rfl
  refine Submission.validate_eq_ok.2 fun rule hrule => ?_
  simp only [rules, List.mem_cons, List.not_mem_nil, or_false] at hrule
  rcases hrule with rfl | rfl | rfl | rfl | rfl | rfl | rfl | rfl | rfl
  · exact formTypePresent_eq_none.2 (by simp [h.form])
  · exact formTypeRegistered_eq_none.2 rfl
  · exact insolvencyConfirmed_eq_none.2 (by simp [hinsolvency])
  · exact filesAttached_eq_none.2 (by simp [hknown])
  · exact sessionsMatchFee_eq_none.2 (by simp [h.sessions, hunpaid])
  · exact electronicFileFree_eq_none.2 fun _ => h.files
  · exact presenterPresent_eq_none.2 (isSome_presenterEmail?.1 hpresenter)
  · exact companyPresent_eq_none.2 h.company
  · exact referencePresent_eq_none.2 hreference

/-! ## Edits in an office -/

namespace Office

variable {o o' : Office} {s t : Submission} {task : Task} {operation : Operation}

/-- An edit that can be made is made. -/
theorem perform_edit (ho : o.Up) (hedit : operation.Edits s.id task)
    (hs : o.store.find? s.id = some s) (ht : task.Makes o s t) :
    operation.perform o =
      (.ok (.submission (t.stored s.version)), o.carriedOut task (t.stored s.version)) := by
  cases hedit with
  | company company =>
    exact done_edit (.company company) (fun o s => s.editCompany company o.clock) ho
      (fun _ _ h => h) (fun _ => rfl) hs ht
  | form formType =>
    exact done_edit (.form formType) (fun o s => s.editForm o.desk formType o.clock) ho
      (fun _ _ h => h) (fun _ => rfl) hs ht
  | files files =>
    exact done_edit (.files files) (fun o s => s.editFiles files o.clock) ho
      (fun _ _ h => h) (fun _ => rfl) hs ht
  | sessions sessions =>
    exact done_edit (.sessions sessions) (fun o s => s.editSessions sessions o.clock) ho
      (fun _ _ h => h) (fun _ => rfl) hs ht
  | authorised authorised =>
    exact done_edit (.authorised authorised) (fun o s => s.editAuthorised authorised o.clock) ho
      (fun _ _ h => h) (fun _ => rfl) hs ht

open Submission in
/-- What is edited stays open. -/
theorem opened_of_edit (hedit : operation.Edits s.id task) (ht : task.Makes o s t) :
    t.status = .opened := by
  cases hedit with
  | company company =>
    obtain ⟨hopened, rfl⟩ := editCompany_eq_ok.1 ht
    exact hopened
  | form formType =>
    obtain ⟨hopened, fee, -, rfl⟩ := editForm_eq_ok.1 ht
    exact hopened
  | files files =>
    obtain ⟨hopened, rfl⟩ := editFiles_eq_ok.1 ht
    exact hopened
  | sessions sessions =>
    obtain ⟨hopened, rfl⟩ := editSessions_eq_ok.1 ht
    exact hopened
  | authorised authorised =>
    obtain ⟨hopened, rfl⟩ := editAuthorised_eq_ok.1 ht
    exact hopened

/-! ## Furnished offices -/

/-- The office is at its regular work, with the standard catalog and the default settings. -/
structure Furnished (o : Office) : Prop extends Steady o where
  catalog : o.desk.catalog = .standard
  lookUps : o.desk.down = []
  settings : o.settings = OfficeConfig.default.settings

/-- The reference of the next submission is drawn from the template. -/
def DrawsReference (o : Office) : Prop :=
  ∃ words rest, Reference.generate? o.settings.referencePattern words =
    some (o.ids.submissionId.2.reference.1, rest)

theorem Furnished.step (ho : o.Furnished) (now : Instant) (operation : Operation) :
    (o.step now operation).2.Furnished := by
  have hentries := step_entries ho.toSteady now operation
  obtain ⟨hdesk, -, hsettings, hdrill⟩ := hentries.sameAround
  refine ⟨ho.toSteady.of_drill_eq hdrill, ?_, ?_, hsettings.trans ho.settings⟩
  · rw [hdesk]
    exact ho.catalog
  · rw [hdesk]
    exact ho.lookUps

/-- The offices that operations lead to from a furnished one with an empty store.  What else is
around the store may change between two operations; before a submission is opened a reference is
drawn. -/
inductive Serves : Office → Prop
  | start {o : Office} (hstore : o.store = .empty) (ho : o.Furnished) : Serves o
  | around {o o' : Office} (h : Serves o) (hstore : o'.store = o.store) (ho : o'.Furnished) :
      Serves o'
  | step {o : Office} (h : Serves o) (hdrawn : o.DrawsReference) (now : Instant)
      (operation : Operation) : Serves (o.step now operation).2

theorem Serves.furnished (h : o.Serves) : o.Furnished := by
  induction h with
  | start _ ho => exact ho
  | around _ _ ho => exact ho
  | step _ _ now operation ih => exact ih.step now operation

/-- A reference that was drawn from the default template is not blank: it has the template's
hyphen. -/
theorem isBlankText_of_generate? {words rest : List UInt64} {reference : String}
    (h : Reference.generate? OfficeConfig.default.settings.referencePattern words =
      some (reference, rest)) : isBlankText reference = false := by
  obtain ⟨⟨cs, rest'⟩, hcs, hreference⟩ := Option.map_eq_some_iff.1 h
  obtain ⟨rfl, -⟩ := Prod.mk.inj hreference
  have hhyphen : '-' ∈ cs := Reference.mem_of_generateChars? hcs (by decide) (by decide)
  rw [isBlankText, List.all_eq_false]
  refine ⟨'-', ?_, by decide⟩
  rwa [String.toList_ofList]

/-- **No stored submission has a blank reference.** -/
theorem Serves.reference (h : o.Serves) :
    ∀ s ∈ o.store.records, isBlankText s.confirmationReference = false := by
  induction h with
  | start hstore ho =>
    intro s hs
    rw [hstore] at hs
    cases hs
  | around _ hstore _ ih =>
    rw [hstore]
    exact ih
  | @step o h hdrawn now operation ih =>
    have ho := h.furnished
    cases operation with
    | create presenter =>
      have hup : Up { o with clock := now } := ho.toUp.of_drill_eq rfl
      have hcreate := create_apply hup presenter
      rw [Office.step, Operation.perform, map_apply]
      dsimp only at hcreate
      split at hcreate
      · next hfree =>
        rw [hcreate]
        intro s hs
        rcases Store.mem_records_append hfree hs with hs | rfl
        · exact ih s hs
        · obtain ⟨words, rest, hdrawn⟩ := hdrawn
          rw [ho.settings] at hdrawn
          exact isBlankText_of_generate? hdrawn
      · rw [hcreate]
        exact ih
    | _ =>
      -- nothing else opens a submission, and its reference goes with it
      refine step_kept (fun hP hmove => ?_) ho.undisturbed now (by rintro _ ⟨⟩) ih
      exact (congrArg isBlankText hmove.sameOrigin.reference).trans hP

/-! ## Editing a draft -/

/-- The submission is open, and stored in a furnished office. -/
structure Drafts (o : Office) (s : Submission) : Prop where
  furnished : o.Furnished
  found : o.store.find? s.id = some s
  opened : s.status = .opened

/-- What an edit makes of a draft is a draft. -/
theorem Drafts.edit (h : o.Drafts s) (now : Instant) (hedit : operation.Edits s.id task)
    (ht : task.Makes { o with clock := now } s t) :
    (o.step now operation).2.Drafts (t.stored s.version) := by
  have hup : Up { o with clock := now } := h.furnished.toUp.of_drill_eq rfl
  have hperform := perform_edit hup hedit h.found ht
  have hopened : t.status = .opened := opened_of_edit hedit ht
  refine ⟨h.furnished.step now operation, ?_, hopened⟩
  have hid : (t.stored s.version).id = s.id := ht.move.sameOrigin.id
  have hfound := find?_carriedOut (o := { o with clock := now }) h.found ht
  rw [Office.step, hperform, hid]
  exact hfound

/-! ## Completing a draft -/

/-- Edits that leave nothing but the presenter and the reference to ask for. -/
def plainEdits (id : String) (company : Company) : List Operation :=
  [.editCompany id company, .editForm id plainForm, .editFiles id [], .editSessions id []]

/-- A draft of the plain form is completed. -/
theorem Drafts.completed (h : o.Drafts s) (hplain : s.Plain) (hpresenter : s.presenterEmail?.isSome)
    (hreference : isBlankText s.confirmationReference = false) (now : Instant) :
    ∃ t, (o.step now (.complete s.id)).1 = .ok (.submission t) := by
  obtain ⟨form, hfound, helectronic, hinsolvency⟩ := exists_plainForm
  have hvalid := hplain.validate_eq_ok hpresenter hreference helectronic hinsolvency
  have hform : s.registeredForm o.desk = .ok (some form) := by
    rw [Submission.registeredForm, hplain.form]
    dsimp only
    rw [CatalogDesk.form?, CatalogDesk.ask, h.furnished.lookUps, h.furnished.catalog, hfound]
    rfl
  have hfee : s.currentFee o.desk now = .ok .notApplicable := by
    rw [Submission.currentFee, hplain.form]
    dsimp only
    rw [CatalogDesk.resolveFee_eq h.furnished.lookUps, h.furnished.catalog, resolveFee_plainForm]
    rfl
  have hcomplete := Submission.complete_eq_ok.2
    ⟨h.opened, some form, .notApplicable, hform, hfee, hvalid, rfl⟩
  have hup : Up { o with clock := now } := h.furnished.toUp.of_drill_eq rfl
  have hdone := done_complete (o := { o with clock := now }) hup h.found hcomplete
  rw [Office.step, hdone]
  exact ⟨_, rfl⟩

/-- **The plain edits make a draft of the plain form of any draft**, at whatever times they are
made. -/
theorem Drafts.plain (h : o.Drafts s) {company : Company}
    (hnumber : isBlankText company.number = false) (hname : isBlankText company.name = false)
    {timed : List (Instant × Operation)} (htimed : timed.map (·.2) = plainEdits s.id company) :
    ∃ t, (o.run timed).Drafts t ∧ t.Plain ∧ t.id = s.id ∧ t.presenter = s.presenter ∧
      t.confirmationReference = s.confirmationReference := by
  obtain ⟨⟨t₁, _⟩, _, rfl, rfl, hrest₁⟩ := List.map_eq_cons_iff.1 htimed
  obtain ⟨⟨t₂, _⟩, _, rfl, rfl, hrest₂⟩ := List.map_eq_cons_iff.1 hrest₁
  obtain ⟨⟨t₃, _⟩, _, rfl, rfl, hrest₃⟩ := List.map_eq_cons_iff.1 hrest₂
  obtain ⟨⟨t₄, _⟩, _, rfl, rfl, hrest₄⟩ := List.map_eq_cons_iff.1 hrest₃
  obtain rfl := List.map_eq_nil_iff.1 hrest₄
  have hcompany := h.edit t₁ (.company company)
    (Submission.editCompany_eq_ok.2 ⟨h.opened, rfl⟩)
  have hfee := CatalogDesk.resolveFee_eq hcompany.furnished.lookUps plainForm t₂
  have hform := hcompany.edit t₂ (.form plainForm)
    (Submission.editForm_eq_ok.2 ⟨hcompany.opened, _, hfee, rfl⟩)
  have hfiles := hform.edit t₃ (.files []) (Submission.editFiles_eq_ok.2 ⟨hform.opened, rfl⟩)
  have hsessions := hfiles.edit t₄ (.sessions [])
    (Submission.editSessions_eq_ok.2 ⟨hfiles.opened, rfl⟩)
  have htrimmed : Text.nonBlank (some (Text.trim plainForm)) = some plainForm := by decide +kernel
  refine ⟨_, hsessions, ⟨htrimmed, rfl, rfl, company, rfl, hnumber, hname⟩, ?_, ?_, ?_⟩ <;>
    simp only [Submission.stored, Submission.updateForm]

/-! ## Without a presenter -/

/-- A submission without an address to write to is not completed. -/
theorem not_completed (ho : o.Up) {id : String} (hs : o.store.find? id = some s)
    (hnone : s.presenterEmail? = none) (answer : Answer) :
    ((Operation.complete id).perform o).1 ≠ .ok answer := by
  have hcomplete : (Operation.complete id).task? = some (id, .complete) := rfl
  have hhandled := handled_perform ho hcomplete
  have hshown (answer : Answer) (h : ((Operation.complete id).perform o).1 = .ok answer) :
      ∃ s, answer = .submission s :=
    eq_submission_of_map (Office.complete id) o h
  intro hanswer
  generalize (Operation.complete id).perform o = result at hhandled hshown hanswer
  obtain ⟨r, o'⟩ := result
  cases hhandled with
  | refused e => cases hanswer
  | @done _ u t hid hu h =>
    obtain ⟨-, form, fee, -, -, hvalid, -⟩ := Submission.complete_eq_ok.1 h
    have hpresent := Submission.presenterPresent_eq_none.1
      (Submission.rule_of_validate hvalid (by simp [Submission.rules]))
    rw [← Submission.isSome_presenterEmail?] at hpresent
    rw [hid, hs] at hu
    obtain rfl := Option.some.inj hu
    rw [hnone] at hpresent
    cases hpresent
  | @repeated answer _ _ _ hrepeated =>
    obtain ⟨t, rfl⟩ := hshown answer rfl
    cases hrepeated

/-- **A submission without an address to write to is never completed**, whatever happens to it and
around it. -/
theorem Leads.not_completed (h : Leads SameStore o o') (ho : o.Undisturbed) {id : String}
    (hs : o.store.find? id = some s) (hnone : s.presenterEmail? = none) (ho' : o'.Up)
    (now : Instant) (answer : Answer) : (o'.step now (.complete id)).1 ≠ .ok answer := by
  have hmoved {o : Office} {t u : Submission} (ht : t.presenterEmail? = none) (hmove : Move o t u) :
      (u.stored t.version).presenterEmail? = none :=
    (Submission.presenterEmail?_of_move hmove).trans ht
  obtain ⟨t, ht, htnone⟩ := h.find?_kept hmoved ho hs hnone
  have hup : Up { o' with clock := now } := ho'.of_drill_eq rfl
  exact Office.not_completed hup ht htnone answer

/-! ## The drafts that can be completed -/

/-- There are edits of the submission after which it is completed, at whatever times they are
made. -/
def Completable (o : Office) (id : String) : Prop :=
  ∃ edits : List Operation, (∀ edit ∈ edits, ∃ task, edit.Edits id task) ∧
    ∀ timed : List (Instant × Operation), timed.map (·.2) = edits →
      ∀ now, ∃ t, ((o.run timed).step now (.complete id)).1 = .ok (.submission t)

theorem Furnished.run (ho : o.Furnished) (operations : List (Instant × Operation)) :
    (o.run operations).Furnished := by
  induction operations generalizing o with
  | nil => exact ho
  | cons operation rest ih => exact ih (ho.step operation.1 operation.2)

/-- No edits make up for a missing presenter. -/
theorem Serves.not_completable (h : o.Serves) (hs : s ∈ o.store.records)
    (hnone : s.presenterEmail? = none) : ¬o.Completable s.id := by
  rintro ⟨edits, -, hcompleted⟩
  let timed := edits.map fun edit => (o.clock, edit)
  obtain ⟨t, ht⟩ := hcompleted timed (by simp [timed, Function.comp_def]) o.clock
  have hlater : Leads SameStore o (o.run timed) := Leads.refl.run timed
  exact hlater.not_completed h.furnished.undisturbed (Store.find?_of_mem hs) hnone
    (h.furnished.run timed).toUp o.clock _ ht

/-- **No dead end but a missing presenter.**  Take a submission that is open in an office that
operations lead to, with the standard catalog and the default settings.  There are edits of it after
which it is completed exactly if it was opened with a presenter whose address is not blank. -/
theorem Serves.completable_iff (h : o.Serves) (hs : s ∈ o.store.records)
    (hopened : s.status = .opened) : o.Completable s.id ↔ s.presenterEmail?.isSome := by
  constructor
  · intro hcompletable
    rw [← Option.not_isNone, Bool.not_eq_true', Bool.eq_false_iff]
    intro hnone
    exact h.not_completable hs (Option.isNone_iff_eq_none.1 hnone) hcompletable
  · intro hpresenter
    have hdraft : o.Drafts s := ⟨h.furnished, Store.find?_of_mem hs, hopened⟩
    refine ⟨plainEdits s.id ⟨"01234567", "Acme Widgets Ltd"⟩, ?_, fun timed htimed now => ?_⟩
    · simp only [plainEdits, List.forall_mem_cons, List.not_mem_nil, false_implies, implies_true,
        and_true]
      exact ⟨⟨_, .company _⟩, ⟨_, .form _⟩, ⟨_, .files _⟩, ⟨_, .sessions _⟩⟩
    · obtain ⟨t, ht, hplain, hid, hpresent, hreference⟩ :=
        hdraft.plain (by decide) (by decide) htimed
      rw [← hid]
      refine ht.completed hplain ?_ ?_ now
      · rw [Submission.presenterEmail?, hpresent]
        exact hpresenter
      · rw [hreference]
        exact h.reference s hs

/-- A submission that was just opened, with the standard catalog and the default settings. -/
def draft (presenter : Option Presenter) : Office :=
  let now : Instant := ⟨1719828000, 0⟩
  ((opened .standard OfficeConfig.default.settings ⟨[], ["YYYY-YYYY"], 0⟩ now).step now
    (.create presenter)).2

theorem serves_draft (presenter : Option Presenter) : (draft presenter).Serves := by
  have hfurnished : (opened .standard OfficeConfig.default.settings ⟨[], ["YYYY-YYYY"], 0⟩
      ⟨1719828000, 0⟩).Furnished := ⟨⟨⟨rfl, rfl, rfl⟩, rfl⟩, rfl, rfl, rfl⟩
  have hdrawn : Reference.generate? "####-####" (List.replicate 8 0) = some ("YYYY-YYYY", []) := by
    decide +kernel
  exact .step (.start rfl hfurnished) ⟨_, _, hdrawn⟩ _ _

theorem completable_draft :
    (draft (some ⟨"filings@acme.example"⟩)).Serves ∧
      ∃ s ∈ (draft (some ⟨"filings@acme.example"⟩)).store.records, s.status = .opened ∧
        s.presenterEmail?.isSome ∧ (draft (some ⟨"filings@acme.example"⟩)).Completable s.id := by
  have hserves := serves_draft (some ⟨"filings@acme.example"⟩)
  have hfound : ∃ s ∈ (draft (some ⟨"filings@acme.example"⟩)).store.records,
      s.status = .opened ∧ s.presenterEmail?.isSome := by
    decide +kernel
  obtain ⟨s, hs, hopened, hpresenter⟩ := hfound
  exact ⟨hserves, s, hs, hopened, hpresenter, (hserves.completable_iff hs hopened).2 hpresenter⟩

/-- **A draft that was opened without a presenter is a dead end.** -/
theorem not_completable_draft :
    (draft none).Serves ∧ ∃ s ∈ (draft none).store.records,
      s.status = .opened ∧ ¬(draft none).Completable s.id := by
  have hserves := serves_draft none
  have hfound : ∃ s ∈ (draft none).store.records, s.status = .opened ∧
      s.presenterEmail? = none := by
    decide +kernel
  obtain ⟨s, hs, hopened, hnone⟩ := hfound
  exact ⟨hserves, s, hs, hopened, hserves.not_completable hs hnone⟩

end Office

end Filing
