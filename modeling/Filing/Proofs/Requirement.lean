import Filing.Proofs.Validation

/-!
# What completion requires

The nine conditions of completion, each said for itself: what it asks of a submission, and how it
can fail to be met.  Nothing here speaks of rules that are run in a row; that the rules come to the
same is what is proved.

* `Requirement` with `Requirement.all`, the conditions in the order in which they count;
* `Requirement.Met` — the submission meets the condition;
* `Requirement.Names` — the fault that stands for a condition that is not met;
* `Requirement.FirstFault` — the fault of the first condition that is not met;
* `Submission.validate_eq_ok_iff_met`, `Submission.validate_eq_error_iff_firstFault` — validation
  finds exactly that.
-/

set_option autoImplicit false

namespace Filing

open Text (isBlankText)

/-- A condition on a submission that is to be completed. -/
inductive Requirement where
  | formType
  | registration
  | authorisation
  | files
  | sessions
  | noFiles
  | presenter
  | company
  | reference
deriving DecidableEq, Repr

/-- The submission that the fault is about. -/
def Incompleteness.submissionId : Incompleteness → String
  | missingFormDetails id | blankFormType id | unknownFormType id _ | confirmAuthorisedRequired id
  | missingFiles id | invalidFileEntry id _ | paymentSessionsRequired id
  | unexpectedPaymentSessions id | filesNotAllowed id | missingPresenter id | blankPresenterEmail id
  | missingCompany id | blankCompanyNumber id | blankCompanyName id
  | blankConfirmationReference id => id

namespace Requirement

/-- The conditions, the one that counts most first. -/
def all : List Requirement :=
  [formType, registration, authorisation, files, sessions, noFiles, presenter, company, reference]

theorem mem_all (r : Requirement) : r ∈ all := by
  cases r <;> decide

/-- The form is filed without any document. -/
def Electronic (form : Option FormTemplate) : Prop :=
  ∃ template, form = some template ∧ template.fullyElectronic = true

/-- The form is one of insolvency. -/
def Insolvency (form : Option FormTemplate) : Prop :=
  ∃ template, form = some template ∧ template.isInsolvency = true

/-- There is something to pay. -/
def FeePayable (fee : FeeResolution) : Prop :=
  ∃ amount, fee.payable = some amount

/-- The submission, with its registered form and its fee, meets the condition. -/
def Met (s : Submission) (form : Option FormTemplate) (fee : FeeResolution) : Requirement → Prop
  | formType => ∃ details formType,
      s.form = some details ∧ details.formType = some formType ∧ isBlankText formType = false
  | registration => ∃ template, form = some template
  | authorisation => Insolvency form → s.authorised = some true
  | files => ¬Electronic form → s.files ≠ [] ∧ ∀ file ∈ s.files, isBlankText file.id = false
  | sessions => s.sessions ≠ [] ↔ FeePayable fee
  | noFiles => Electronic form → s.files = []
  | presenter => ∃ p, s.presenter = some p ∧ isBlankText p.email = false
  | company => ∃ c,
      s.company = some c ∧ isBlankText c.number = false ∧ isBlankText c.name = false
  | reference => isBlankText s.confirmationReference = false

/-- A condition is not met, and this is the fault that says in what way. -/
inductive Names (s : Submission) (form : Option FormTemplate) (fee : FeeResolution) :
    Requirement → Incompleteness → Prop
  | noForm (h : s.form = none) : Names s form fee formType (.missingFormDetails s.id)
  | blankType (details : FormDetails) (h : s.form = some details)
      (hblank : ∀ t, details.formType = some t → isBlankText t = true) :
      Names s form fee formType (.blankFormType s.id)
  | unregistered (h : form = none) :
      Names s form fee registration (.unknownFormType s.id (s.formType?.getD ""))
  | unauthorised (hinsolvency : Insolvency form) (h : s.authorised ≠ some true) :
      Names s form fee authorisation (.confirmAuthorisedRequired s.id)
  | noFile (hpaper : ¬Electronic form) (h : s.files = []) :
      Names s form fee files (.missingFiles s.id)
  /-- The position that is named is that of the first file without an identifier. -/
  | blankFile (before : List File) (file : File) (after : List File) (hpaper : ¬Electronic form)
      (h : s.files = before ++ file :: after)
      (hbefore : ∀ f ∈ before, isBlankText f.id = false) (hblank : isBlankText file.id = true) :
      Names s form fee files (.invalidFileEntry s.id before.length)
  | unpaid (hpayable : FeePayable fee) (h : s.sessions = []) :
      Names s form fee sessions (.paymentSessionsRequired s.id)
  | needless (hfree : ¬FeePayable fee) (h : s.sessions ≠ []) :
      Names s form fee sessions (.unexpectedPaymentSessions s.id)
  | electronicFiles (helectronic : Electronic form) (h : s.files ≠ []) :
      Names s form fee noFiles (.filesNotAllowed s.id)
  | noPresenter (h : s.presenter = none) :
      Names s form fee presenter (.missingPresenter s.id)
  | blankEmail (p : Presenter) (h : s.presenter = some p) (hblank : isBlankText p.email = true) :
      Names s form fee presenter (.blankPresenterEmail s.id)
  | noCompany (h : s.company = none) : Names s form fee company (.missingCompany s.id)
  | blankNumber (c : Company) (h : s.company = some c) (hblank : isBlankText c.number = true) :
      Names s form fee company (.blankCompanyNumber s.id)
  | blankName (c : Company) (h : s.company = some c) (hnumber : isBlankText c.number = false)
      (hblank : isBlankText c.name = true) :
      Names s form fee company (.blankCompanyName s.id)
  | blankReference (h : isBlankText s.confirmationReference = true) :
      Names s form fee reference (.blankConfirmationReference s.id)

/-- The field of the submission that the condition is about.  A form type is looked for in the form,
so that the form itself is what is missing where there is none. -/
def field (s : Submission) : Requirement → String
  | formType => if s.form.isSome then "form_type" else "form_details"
  | registration => "form_type"
  | authorisation => "confirm_authorised"
  | files | noFiles => "file_details"
  | sessions => "payment_sessions"
  | presenter => "presenter"
  | company => "company"
  | reference => "confirmation_reference"

/-- The rule that looks after the condition. -/
def rule : Requirement → Submission.Rule
  | formType => Submission.formTypePresent
  | registration => Submission.formTypeRegistered
  | authorisation => Submission.insolvencyConfirmed
  | files => Submission.filesAttached
  | sessions => Submission.sessionsMatchFee
  | noFiles => Submission.electronicFileFree
  | presenter => Submission.presenterPresent
  | company => Submission.companyPresent
  | reference => Submission.referencePresent

theorem rules_eq : Submission.rules = all.map rule := rfl

variable {s : Submission} {form : Option FormTemplate} {fee : FeeResolution}

/-! ## A fault and its condition -/

theorem isElectronic_iff : Submission.isElectronic form = true ↔ Electronic form :=
  Option.any_eq_true _ form

theorem isElectronic_eq_false_iff : Submission.isElectronic form = false ↔ ¬Electronic form := by
  rw [← isElectronic_iff, Bool.not_eq_true]

theorem any_isInsolvency_iff : form.any (·.isInsolvency) = true ↔ Insolvency form :=
  Option.any_eq_true _ form

theorem isSome_payable_iff : fee.payable.isSome = true ↔ FeePayable fee :=
  Option.isSome_iff_exists

theorem isSome_formType?_iff : s.formType?.isSome ↔ formType.Met s form fee := by
  simp only [Option.isSome_iff_exists, Submission.formType?, Text.nonBlank_eq_some,
    Option.bind_eq_some_iff]
  constructor
  · rintro ⟨t, ⟨details, hform, htype⟩, ht⟩
    exact ⟨details, t, hform, htype, ht⟩
  · rintro ⟨details, t, hform, htype, ht⟩
    exact ⟨t, ⟨details, hform, htype⟩, ht⟩

/-- **The rule has nothing to say exactly where the condition is met.** -/
theorem rule_eq_none_iff (r : Requirement) : r.rule s form fee = none ↔ r.Met s form fee := by
  cases r with
  | formType =>
    rw [rule, Submission.formTypePresent_eq_none]
    exact isSome_formType?_iff
  | registration =>
    rw [rule, Submission.formTypeRegistered_eq_none, Option.isSome_iff_exists, Met]
  | authorisation =>
    rw [rule, Submission.insolvencyConfirmed_eq_none, any_isInsolvency_iff, Met]
  | files =>
    rw [rule, Submission.filesAttached_eq_none, isElectronic_eq_false_iff, Met]
  | sessions =>
    rw [rule, Submission.sessionsMatchFee_eq_none, isSome_payable_iff, Met]
  | noFiles =>
    rw [rule, Submission.electronicFileFree_eq_none, isElectronic_iff, Met]
  | presenter => rw [rule, Submission.presenterPresent_eq_none, Met]
  | company => rw [rule, Submission.companyPresent_eq_none, Met]
  | reference => rw [rule, Submission.referencePresent_eq_none, Met]

/-- A fault that is named is the one that the rule finds. -/
theorem Names.rule_eq {r : Requirement} {fault : Incompleteness} (h : Names s form fee r fault) :
    r.rule s form fee = some fault := by
  cases h with
  | noForm h => simp [rule, Submission.formTypePresent, h]
  | blankType details h hblank =>
    have htype : s.formType?.isSome = false := by
      rw [Submission.formType?, Text.nonBlank, h, Option.bind_some, Option.isSome_filter]
      cases ht : details.formType with
      | none => rfl
      | some t => simp [hblank t ht]
    simp [rule, Submission.formTypePresent, h, htype]
  | unregistered h => simp [rule, Submission.formTypeRegistered, h]
  | unauthorised hinsolvency h =>
    exact if_pos ⟨any_isInsolvency_iff.2 hinsolvency, h⟩
  | noFile hpaper h =>
    simp [rule, Submission.filesAttached, isElectronic_eq_false_iff.2 hpaper, h]
  | blankFile before file after hpaper h hbefore hblank =>
    have hindex : s.files.findIdx? (fun f => isBlankText f.id) = some before.length := by
      have hnone : before.findIdx? (fun f => isBlankText f.id) = none :=
        List.findIdx?_eq_none_iff.2 hbefore
      simp [h, List.findIdx?_append, hnone, List.findIdx?_cons, hblank]
    have hfiles : s.files.isEmpty = false := by simp [h]
    simp only [rule, Submission.filesAttached, isElectronic_eq_false_iff.2 hpaper, hfiles, hindex]
    rfl
  | unpaid hpayable h =>
    simp [rule, Submission.sessionsMatchFee, isSome_payable_iff.2 hpayable, h]
  | needless hfree h =>
    have hpayable : fee.payable.isSome = false := by
      rwa [← isSome_payable_iff, Bool.not_eq_true] at hfree
    have hsessions : s.sessions.isEmpty = false := by simpa using h
    simp [rule, Submission.sessionsMatchFee, hpayable, hsessions]
  | electronicFiles helectronic h =>
    simp [rule, Submission.electronicFileFree, isElectronic_iff.2 helectronic, h]
  | noPresenter h => simp [rule, Submission.presenterPresent, h]
  | blankEmail p h hblank => simp [rule, Submission.presenterPresent, h, hblank]
  | noCompany h => simp [rule, Submission.companyPresent, h]
  | blankNumber c h hblank => simp [rule, Submission.companyPresent, h, hblank]
  | blankName c h hnumber hblank => simp [rule, Submission.companyPresent, h, hnumber, hblank]
  | blankReference h => simp [rule, Submission.referencePresent, h]

/-- Whatever is not all there has a first gap. -/
theorem exists_blankFile (hfiles : ¬∀ file ∈ s.files, isBlankText file.id = false) :
    ∃ before file after, s.files = before ++ file :: after ∧
      (∀ f ∈ before, isBlankText f.id = false) ∧ isBlankText file.id = true := by
  have hfind : (s.files.find? fun f => isBlankText f.id).isSome := by
    simpa using hfiles
  obtain ⟨file, hfile⟩ := Option.isSome_iff_exists.1 hfind
  obtain ⟨hblank, before, after, hsplit, hbefore⟩ := List.find?_eq_some_iff_append.1 hfile
  exact ⟨before, file, after, hsplit, by simpa using hbefore, hblank⟩

/-- **Where a condition is not met, there is a fault that names it.** -/
theorem exists_names {r : Requirement} (h : ¬r.Met s form fee) :
    ∃ fault, Names s form fee r fault := by
  cases r with
  | formType =>
    cases hform : s.form with
    | none => exact ⟨_, .noForm hform⟩
    | some details =>
      refine ⟨_, .blankType details hform fun t ht => ?_⟩
      exact eq_true_of_ne_false fun hblank => h ⟨details, t, hform, ht, hblank⟩
  | registration =>
    exact ⟨_, .unregistered (Option.eq_none_iff_forall_ne_some.2 fun t ht => h ⟨t, ht⟩)⟩
  | authorisation =>
    obtain ⟨hinsolvency, hauthorised⟩ := Classical.not_imp.1 h
    exact ⟨_, .unauthorised hinsolvency hauthorised⟩
  | files =>
    obtain ⟨hpaper, hfiles⟩ := Classical.not_imp.1 h
    by_cases hnone : s.files = []
    · exact ⟨_, .noFile hpaper hnone⟩
    · obtain ⟨before, file, after, hsplit, hbefore, hblank⟩ :=
        exists_blankFile fun hall => hfiles ⟨hnone, hall⟩
      exact ⟨_, .blankFile before file after hpaper hsplit hbefore hblank⟩
  | sessions =>
    by_cases hpayable : FeePayable fee
    · by_cases hsessions : s.sessions = []
      · exact ⟨_, .unpaid hpayable hsessions⟩
      · exact absurd (iff_of_true hsessions hpayable) h
    · by_cases hsessions : s.sessions = []
      · exact absurd (iff_of_false (not_not_intro hsessions) hpayable) h
      · exact ⟨_, .needless hpayable hsessions⟩
  | noFiles =>
    obtain ⟨helectronic, hfiles⟩ := Classical.not_imp.1 h
    exact ⟨_, .electronicFiles helectronic hfiles⟩
  | presenter =>
    cases hpresenter : s.presenter with
    | none => exact ⟨_, .noPresenter hpresenter⟩
    | some p =>
      cases hblank : isBlankText p.email with
      | true => exact ⟨_, .blankEmail p hpresenter hblank⟩
      | false => exact absurd ⟨p, hpresenter, hblank⟩ h
  | company =>
    cases hcompany : s.company with
    | none => exact ⟨_, .noCompany hcompany⟩
    | some c =>
      cases hnumber : isBlankText c.number with
      | true => exact ⟨_, .blankNumber c hcompany hnumber⟩
      | false =>
        cases hname : isBlankText c.name with
        | true => exact ⟨_, .blankName c hcompany hnumber hname⟩
        | false => exact absurd ⟨c, hcompany, hnumber, hname⟩ h
  | reference =>
    cases hblank : isBlankText s.confirmationReference with
    | true => exact ⟨_, .blankReference hblank⟩
    | false => exact absurd hblank h

/-- **The rule finds exactly the fault that is named.** -/
theorem rule_eq_some_iff {r : Requirement} {fault : Incompleteness} :
    r.rule s form fee = some fault ↔ Names s form fee r fault := by
  refine ⟨fun hrule => ?_, Names.rule_eq⟩
  have hmet : ¬r.Met s form fee := fun hmet => by
    rw [r.rule_eq_none_iff.2 hmet] at hrule
    cases hrule
  obtain ⟨named, hnamed⟩ := exists_names hmet
  obtain rfl : named = fault := Option.some.inj (hnamed.rule_eq.symm.trans hrule)
  exact hnamed

/-- A condition for which a fault is named is not met. -/
theorem Names.not_met {r : Requirement} {fault : Incompleteness} (h : Names s form fee r fault) :
    ¬r.Met s form fee := fun hmet => by
  rw [← r.rule_eq_none_iff, h.rule_eq] at hmet
  cases hmet

/-- A fault is about the submission at hand. -/
theorem Names.submissionId_eq {r : Requirement} {fault : Incompleteness}
    (h : Names s form fee r fault) : fault.submissionId = s.id := by
  cases h <;> rfl

/-- A fault points at the field that its condition is about. -/
theorem Names.field_eq {r : Requirement} {fault : Incompleteness} (h : Names s form fee r fault) :
    fault.field = r.field s := by
  cases h with
  | noForm h => simp [field, h, Incompleteness.field]
  | blankType details h _ => simp [field, h, Incompleteness.field]
  | _ => rfl

/-! ## The first fault -/

/-- The fault of the first condition that a submission does not meet.  Nothing is asked of the
conditions behind it. -/
structure FirstFault (s : Submission) (form : Option FormTemplate) (fee : FeeResolution)
    (r : Requirement) (fault : Incompleteness) : Prop where
  /-- The conditions in front of it are met. -/
  first : ∃ before after, all = before ++ r :: after ∧ ∀ q ∈ before, q.Met s form fee
  violated : ¬r.Met s form fee
  named : Names s form fee r fault
  submissionId : fault.submissionId = s.id
  field : fault.field = r.field s

end Requirement

namespace Submission

variable {s : Submission} {form : Option FormTemplate} {fee : FeeResolution}

theorem validate_eq_ok_iff_met :
    s.validate form fee = .ok () ↔ ∀ r : Requirement, r.Met s form fee := by
  rw [validate_eq_ok, Requirement.rules_eq]
  simp only [List.forall_mem_map, Requirement.rule_eq_none_iff]
  exact ⟨fun h r => h r r.mem_all, fun h r _ => h r⟩

theorem validate_eq_error {fault : Incompleteness} :
    s.validate form fee = .error fault ↔
      (rules.findSome? fun rule => rule s form fee) = some fault := by
  rw [validate]
  cases rules.findSome? fun rule => rule s form fee <;> simp

/-- **Validation fails with the fault of the first condition that is not met.** -/
theorem validate_eq_error_iff_firstFault {fault : Incompleteness} :
    s.validate form fee = .error fault ↔
      ∃ r : Requirement, r.FirstFault s form fee fault := by
  rw [validate_eq_error, Requirement.rules_eq, List.findSome?_map, List.findSome?_eq_some_iff]
  constructor
  · rintro ⟨before, r, after, hall, hrule, hbefore⟩
    have hnamed := Requirement.rule_eq_some_iff.1 hrule
    exact ⟨r,
      { first := ⟨before, after, hall, fun q hq => q.rule_eq_none_iff.1 (hbefore q hq)⟩
        violated := hnamed.not_met
        named := hnamed
        submissionId := hnamed.submissionId_eq
        field := hnamed.field_eq }⟩
  · rintro ⟨r, h⟩
    obtain ⟨before, after, hall, hbefore⟩ := h.first
    exact ⟨before, r, after, hall, h.named.rule_eq,
      fun q hq => q.rule_eq_none_iff.2 (hbefore q hq)⟩

/-- **Validation accepts a submission exactly if it meets all nine conditions, and otherwise names
the first one that it does not meet, whatever comes behind.** -/
theorem examined (s : Submission) (form : Option FormTemplate) (fee : FeeResolution) :
    (s.validate form fee = .ok () ↔ ∀ r : Requirement, r.Met s form fee) ∧
      ∀ fault, s.validate form fee = .error fault ↔
        ∃ r : Requirement, r.FirstFault s form fee fault :=
  ⟨validate_eq_ok_iff_met, fun _ => validate_eq_error_iff_firstFault⟩

/-- An empty record has a fault in nearly every respect; the form is the one to be named. -/
example : (opened "1" "" none ⟨0, 0⟩).validate none .notApplicable =
    .error (.missingFormDetails "1") := rfl

end Submission

end Filing
