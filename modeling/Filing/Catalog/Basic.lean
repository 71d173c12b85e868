import Filing.Catalog.Form
import Filing.Catalog.Payment

/-!
# The catalog

The registered forms, by form type, and the payment templates.

* `Catalog` with `Catalog.ofTemplates`, `insertForm`, `insertPayment`;
* `Catalog.form?` — look-up of a form type, with white space around it or not;
* `Catalog.allForms` — the forms by increasing form type;
* `Catalog.standard` — the catalog of a service without exports.
-/

set_option autoImplicit false

namespace Filing

/-- Registered forms by form type, and payment templates. -/
structure Catalog where
  forms : Index FormTemplate
  payments : List PaymentTemplate

namespace Catalog

/-- No forms and no prices. -/
def empty : Catalog := ⟨.empty, []⟩

/-- The catalog of the given templates; a later form replaces an earlier one of its type. -/
def ofTemplates (forms : List FormTemplate) (payments : List PaymentTemplate) : Catalog :=
  ⟨Index.ofList (forms.map fun f => (f.formType, f)), payments⟩

/-- The catalog with one more form. -/
def insertForm (c : Catalog) (f : FormTemplate) : Catalog :=
  { c with forms := c.forms.insert f.formType f }

/-- The catalog with one more payment template. -/
def insertPayment (c : Catalog) (t : PaymentTemplate) : Catalog :=
  { c with payments := c.payments ++ [t] }

/-- The form of a form type, with white space around it or not. -/
def form? (c : Catalog) (formType : String) : Option FormTemplate :=
  c.forms.find? (Text.trim formType)

/-- All forms, by increasing form type. -/
def allForms (c : Catalog) : List FormTemplate :=
  c.forms.values

/-- The payment template of a fee code in force at an instant. -/
def activeAsOf (c : Catalog) (feeCode : String) (asOf : Instant) : Option PaymentTemplate :=
  selectActive c.payments feeCode asOf

/-! ## The standard catalog -/

/-- The forms of the standard catalog. -/
def standardForms : List FormTemplate :=
  [.electronic "SH19" "Statement of capital" none,
    .paper "CC01" "Notice of restriction on the articles" (some "CC01"),
    .paper "SH01" "Return of allotment of shares" none,
    (.paper "AD01" "Change of registered office address" none : FormTemplate).deliveredByEmail,
    (.paper "LIQ02" "Notice of statement of affairs" none : FormTemplate).inCategory
      FormTemplate.insolvencyCategory,
    (.paper "DS01" "Striking off application by a company" (some "DS01") :
      FormTemplate).withSameDay]

/-- A payment template of one item that can be paid by card or from an account. -/
def standardPayment (feeCode : String) (start : Date) (amount description : String) :
    PaymentTemplate where
  feeCode := feeCode
  activeFrom := .startOfDay start
  items := [⟨amount, description, ["credit-card", "account"]⟩]
  status := "active"
  links := PaymentTemplate.selfLink feeCode (.startOfDay start)

/-- The payment templates of the standard catalog. -/
def standardPayments : List PaymentTemplate :=
  [standardPayment "CC01" ⟨2020, 1, 1⟩ "10" "Restriction on the articles",
    standardPayment "DS01" ⟨2020, 1, 1⟩ "10" "Striking off application",
    standardPayment "DS01" ⟨2024, 5, 1⟩ "33" "Striking off application"]

/-- The catalog of a service without exports. -/
def standard : Catalog :=
  ofTemplates standardForms standardPayments

end Catalog

end Filing
