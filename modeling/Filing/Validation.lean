import Filing.Fee

/-!
# Completeness of a submission

What a submission has to hold before it may be completed.

* `Incompleteness` — the faults, with their wording and the field they point at;
* `Submission.rules` — the conditions, in the order in which they are looked at;
* `Submission.validate` — the first fault, if there is one.
-/

set_option autoImplicit false

namespace Filing

/-- Why a submission cannot be completed. -/
inductive Incompleteness where
  | missingFormDetails (id : String)
  | blankFormType (id : String)
  | unknownFormType (id formType : String)
  | confirmAuthorisedRequired (id : String)
  | missingFiles (id : String)
  | invalidFileEntry (id : String) (index : Nat)
  | paymentSessionsRequired (id : String)
  | unexpectedPaymentSessions (id : String)
  | filesNotAllowed (id : String)
  | missingPresenter (id : String)
  | blankPresenterEmail (id : String)
  | missingCompany (id : String)
  | blankCompanyNumber (id : String)
  | blankCompanyName (id : String)
  | blankConfirmationReference (id : String)
deriving DecidableEq

namespace Incompleteness

/-- The wording of a fault. -/
def message : Incompleteness → String
  | missingFormDetails id => s!"form details are missing for submission [{id}]"
  | blankFormType id => s!"form type is blank for submission [{id}]"
  | unknownFormType id formType =>
    s!"form type [{formType}] is not registered for submission [{id}]"
  | confirmAuthorisedRequired id =>
    s!"confirm authorised must be true for insolvency form on submission [{id}]"
  | missingFiles id => s!"file details are missing for submission [{id}]"
  | invalidFileEntry id index => s!"file details entry {index} is empty for submission [{id}]"
  | paymentSessionsRequired id =>
    s!"payment sessions are required for fee-bearing submission [{id}]"
  | unexpectedPaymentSessions id =>
    s!"payment sessions are not allowed for submission [{id}] without a fee"
  | filesNotAllowed id =>
    s!"files are not allowed for fully electronic form on submission [{id}]"
  | missingPresenter id => s!"presenter is missing for submission [{id}]"
  | blankPresenterEmail id => s!"presenter email is blank for submission [{id}]"
  | missingCompany id => s!"company is missing for submission [{id}]"
  | blankCompanyNumber id => s!"company number is blank for submission [{id}]"
  | blankCompanyName id => s!"company name is blank for submission [{id}]"
  | blankConfirmationReference id => s!"confirmation reference is blank for submission [{id}]"

/-- The field that a fault points at. -/
def field : Incompleteness → String
  | missingFormDetails _ => "form_details"
  | blankFormType _ | unknownFormType _ _ => "form_type"
  | confirmAuthorisedRequired _ => "confirm_authorised"
  | missingFiles _ | invalidFileEntry _ _ | filesNotAllowed _ => "file_details"
  | paymentSessionsRequired _ | unexpectedPaymentSessions _ => "payment_sessions"
  | missingPresenter _ | blankPresenterEmail _ => "presenter"
  | missingCompany _ | blankCompanyNumber _ | blankCompanyName _ => "company"
  | blankConfirmationReference _ => "confirmation_reference"

end Incompleteness

namespace Submission

open Text (isBlankText)

/-- A condition on a submission, its registered form and its fee: the fault if it does not hold. -/
abbrev Rule := Submission → Option FormTemplate → FeeResolution → Option Incompleteness

/-- The form is known to be fully electronic. -/
def isElectronic (form : Option FormTemplate) : Bool :=
  form.any (·.fullyElectronic)

/-- There is a form with a type. -/
def formTypePresent : Rule := fun s _ _ =>
  match s.form with
  | none => some (.missingFormDetails s.id)
  | some _ => if s.formType?.isSome then none else some (.blankFormType s.id)

/-- The form type is registered. -/
def formTypeRegistered : Rule := fun s form _ =>
  if form.isSome then none else some (.unknownFormType s.id (s.formType?.getD ""))

/-- An insolvency form is confirmed to be authorised. -/
def insolvencyConfirmed : Rule := fun s form _ =>
  if form.any (·.isInsolvency) ∧ s.authorised ≠ some true then
    some (.confirmAuthorisedRequired s.id)
  else none

/-- A form that is not fully electronic has files, and each of them has an identifier. -/
def filesAttached : Rule := fun s form _ =>
  if isElectronic form then none
  else if s.files.isEmpty then some (.missingFiles s.id)
  else (s.files.findIdx? fun f => isBlankText f.id).map (.invalidFileEntry s.id)

/-- There are payment sessions exactly where there is a fee to pay. -/
def sessionsMatchFee : Rule := fun s _ fee =>
  match fee.payable.isSome, s.sessions.isEmpty with
  | true, true => some (.paymentSessionsRequired s.id)
  | false, false => some (.unexpectedPaymentSessions s.id)
  | _, _ => none

/-- A fully electronic form has no files. -/
def electronicFileFree : Rule := fun s form _ =>
  if isElectronic form ∧ !s.files.isEmpty then some (.filesNotAllowed s.id) else none

/-- There is a presenter with an e-mail address. -/
def presenterPresent : Rule := fun s _ _ =>
  match s.presenter with
  | none => some (.missingPresenter s.id)
  | some p => if isBlankText p.email then some (.blankPresenterEmail s.id) else none

/-- There is a company with a number and a name. -/
def companyPresent : Rule := fun s _ _ =>
  match s.company with
  | none => some (.missingCompany s.id)
  | some c =>
    if isBlankText c.number then some (.blankCompanyNumber s.id)
    else if isBlankText c.name then some (.blankCompanyName s.id)
    else none

/-- There is a confirmation reference. -/
def referencePresent : Rule := fun s _ _ =>
  if isBlankText s.confirmationReference then some (.blankConfirmationReference s.id) else none

/-- The conditions, in the order in which they are looked at. -/
def rules : List Rule :=
  [formTypePresent, formTypeRegistered, insolvencyConfirmed, filesAttached, sessionsMatchFee,
    electronicFileFree, presenterPresent, companyPresent, referencePresent]

/-- The submission may be completed, or the first of its faults. -/
def validate (s : Submission) (form : Option FormTemplate) (fee : FeeResolution) :
    Except Incompleteness Unit :=
  match rules.findSome? fun rule => rule s form fee with
  | none => .ok ()
  | some e => .error e

end Submission

end Filing
