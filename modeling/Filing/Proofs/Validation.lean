import Filing.Proofs.Revision

/-!
# What the rules ask

Each rule of completion looks for a fault.  Here each of them is said the other way round: what holds
of a submission in which the rule finds none.

* `Text.nonBlank_eq_some` — a text that is there and not blank;
* `Submission.formTypePresent_eq_none`, … — one equivalence for each rule;
* `Submission.rule_of_validate` — a submission that may be completed passes every one of them, with
  what is used of it most: `form_isSome_of_validate`, `isSome_of_validate`,
  `sessions_ne_nil_of_validate`.
-/

set_option autoImplicit false

namespace Filing

theorem Text.nonBlank_eq_some {text : Option String} {t : String} :
    nonBlank text = some t ↔ text = some t ∧ isBlankText t = false := by
  rw [nonBlank, Option.filter_eq_some_iff, Bool.not_eq_true']

namespace Submission

open Text (isBlankText)

variable {s : Submission} {form : Option FormTemplate} {fee : FeeResolution}

/-- A form without a type and a missing form are told apart in the wording only. -/
theorem formTypePresent_eq_none : formTypePresent s form fee = none ↔ s.formType?.isSome := by
  rw [formTypePresent]
  cases hform : s.form with
  | none => simp [formType?, hform, Text.nonBlank]
  | some details =>
    dsimp only
    split <;> simp_all

theorem formTypeRegistered_eq_none : formTypeRegistered s form fee = none ↔ form.isSome := by
  rw [formTypeRegistered]
  split <;> simp_all

theorem insolvencyConfirmed_eq_none :
    insolvencyConfirmed s form fee = none ↔
      (form.any (·.isInsolvency) = true → s.authorised = some true) := by
  rw [insolvencyConfirmed]
  split
  · next h => exact iff_of_false (by simp) fun hall => h.2 (hall h.1)
  · next h =>
    refine iff_of_true rfl fun hinsolvency => ?_
    exact Decidable.not_not.1 fun hauthorised => h ⟨hinsolvency, hauthorised⟩

theorem filesAttached_eq_none :
    filesAttached s form fee = none ↔
      (isElectronic form = false → s.files ≠ [] ∧ ∀ f ∈ s.files, isBlankText f.id = false) := by
  rw [filesAttached]
  split
  · next helectronic => simp [helectronic]
  · next helectronic =>
    have hpaper : isElectronic form = false := by simpa using helectronic
    by_cases hfiles : s.files = []
    · simp [hpaper, hfiles]
    · simp [hpaper, hfiles, List.findIdx?_eq_none_iff]

theorem sessionsMatchFee_eq_none :
    sessionsMatchFee s form fee = none ↔ (s.sessions ≠ [] ↔ fee.payable.isSome) := by
  rw [sessionsMatchFee]
  cases fee.payable <;> cases s.sessions <;> simp

theorem electronicFileFree_eq_none :
    electronicFileFree s form fee = none ↔ (isElectronic form = true → s.files = []) := by
  rw [electronicFileFree]
  split
  · next h => exact iff_of_false (by simp) fun hall => by simp [hall h.1] at h
  · next h =>
    refine iff_of_true rfl fun helectronic => ?_
    exact Decidable.not_not.1 fun hfiles => h ⟨helectronic, by simpa using hfiles⟩

/-- There is an address to write to exactly where there is a presenter with one that is not blank. -/
theorem isSome_presenterEmail? :
    s.presenterEmail?.isSome ↔ ∃ p, s.presenter = some p ∧ isBlankText p.email = false := by
  rw [presenterEmail?]
  cases s.presenter with
  | none => simp [Text.nonBlank]
  | some p => simp [Text.nonBlank, Option.isSome_filter]

theorem presenterPresent_eq_none :
    presenterPresent s form fee = none ↔
      ∃ p, s.presenter = some p ∧ isBlankText p.email = false := by
  rw [presenterPresent]
  cases s.presenter with
  | none => simp
  | some p => simp

theorem companyPresent_eq_none :
    companyPresent s form fee = none ↔
      ∃ c, s.company = some c ∧ isBlankText c.number = false ∧ isBlankText c.name = false := by
  rw [companyPresent]
  cases s.company with
  | none => simp
  | some c =>
    cases hnumber : isBlankText c.number with
    | true => simp [hnumber]
    | false => simp [hnumber]

theorem referencePresent_eq_none :
    referencePresent s form fee = none ↔ isBlankText s.confirmationReference = false := by
  rw [referencePresent]
  split <;> simp_all

/-- A submission that may be completed passes every rule. -/
theorem rule_of_validate (h : s.validate form fee = .ok ()) {rule : Rule} (hrule : rule ∈ rules) :
    rule s form fee = none :=
  validate_eq_ok.1 h rule hrule

/-- A submission is completed only with a form. -/
theorem form_isSome_of_validate (h : s.validate form fee = .ok ()) : s.form.isSome := by
  have htype := formTypePresent_eq_none.1 (rule_of_validate h (by simp [rules]))
  cases hform : s.form with
  | none => simp [formType?, hform, Text.nonBlank] at htype
  | some details => rfl

/-- The form is a registered one. -/
theorem isSome_of_validate (h : s.validate form fee = .ok ()) : form.isSome :=
  formTypeRegistered_eq_none.1 (rule_of_validate h (by simp [rules]))

/-- A submission with something to pay is completed only with a payment session. -/
theorem sessions_ne_nil_of_validate (h : s.validate form fee = .ok ())
    (hpayable : fee.payable.isSome) : s.sessions ≠ [] :=
  (sessionsMatchFee_eq_none.1 (rule_of_validate h (by simp [rules]))).2 hpayable

end Submission

end Filing
