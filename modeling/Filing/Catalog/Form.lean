import Filing.Submission.Json

/-!
# Form templates

A form template registers a form type and says how filings of that form are priced and routed.

* `FormTemplate` with the two kinds of form, `FormTemplate.paper` and `FormTemplate.electronic`;
* `FormTemplate.isInsolvency` — the form needs a confirmation that it is authorised;
* `FormTemplate.feeCode?` — the fee code, trimmed, unless it is blank.
-/

set_option autoImplicit false

namespace Filing

/-- The registration of a form type. -/
structure FormTemplate where
  formType : String
  description : String
  feeCode : Option String
  /-- The form goes to the registration system without attached files. -/
  fullyElectronic : Bool
  /-- The converted files go to the registration system, not to an internal mailbox. -/
  fesDelivery : Bool
  /-- Filings of the form are taken up before others. -/
  sameDay : Bool
  category : String
deriving DecidableEq

namespace FormTemplate

/-- The category of forms that belong to no other. -/
def generalCategory : String := "General"

/-- The category of insolvency forms. -/
def insolvencyCategory : String := "Insolvency"

/-- A form with attached files that go to the registration system. -/
def paper (formType description : String) (feeCode : Option String) : FormTemplate where
  formType := formType
  description := description
  feeCode := feeCode
  fullyElectronic := false
  fesDelivery := true
  sameDay := false
  category := generalCategory

/-- A form without attached files. -/
def electronic (formType description : String) (feeCode : Option String) : FormTemplate :=
  { paper formType description feeCode with fullyElectronic := true }

/-- The form in another category. -/
def inCategory (f : FormTemplate) (category : String) : FormTemplate :=
  { f with category := category }

/-- The form with its files delivered to an internal mailbox. -/
def deliveredByEmail (f : FormTemplate) : FormTemplate :=
  { f with fesDelivery := false }

/-- The form with its filings taken up before others. -/
def withSameDay (f : FormTemplate) : FormTemplate :=
  { f with sameDay := true }

/-- The form is an insolvency form, however its category is spelled. -/
def isInsolvency (f : FormTemplate) : Bool :=
  Text.sameIgnoringCase (Text.trim f.category) insolvencyCategory

/-- The fee code without white space around it, unless it is blank. -/
def feeCode? (f : FormTemplate) : Option String :=
  Text.nonBlank (f.feeCode.map Text.trim)

open Schema
open Reading (text boolean)

def toJson (f : FormTemplate) : Json :=
  .obj
    [("form_type", .str f.formType), ("description", .str f.description),
      ("fee_code", .option .str f.feeCode), ("fully_electronic", .bool f.fullyElectronic),
      ("fes_delivery", .bool f.fesDelivery), ("same_day", .bool f.sameDay),
      ("category", .str f.category)]

def schema : Schema FormTemplate :=
  FormTemplate.mk <$> required "form_type" text <*> required "description" text <*>
    possible "fee_code" text <*> required "fully_electronic" boolean <*>
    required "fes_delivery" boolean <*> required "same_day" boolean <*>
    required "category" text

end FormTemplate

end Filing
