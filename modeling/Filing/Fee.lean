import Filing.Catalog.Basic
import Filing.Decimal
import Filing.Repository

/-!
# Fees

What a form costs at an instant, and when that is something to pay.

* `payableAmount` — the amount that a text spells, if it is more than nothing;
* `FeeResolution` — what became of the question for a fee;
* `Catalog.resolveFee` — the fee of a form type at an instant.
-/

set_option autoImplicit false

namespace Filing

/-- The amount of a text, unless it is no number or not more than zero. -/
def payableAmount (s : String) : Option Decimal :=
  (Decimal.ofText? (Text.trim s)).filter Decimal.isPositive

/-- The fee of a form type at an instant. -/
inductive FeeResolution where
  /-- The form type is unknown, or has no fee code. -/
  | notApplicable
  /-- The fee code has no template in force. -/
  | noActiveTemplate (feeCode : String)
  /-- The first item of the template in force has no amount that is a number. -/
  | unusable (feeCode : String) (rawAmount : Option String)
  | due (feeCode amount : String)
deriving DecidableEq

namespace FeeResolution

/-- A template is in force. -/
def templateFound : FeeResolution → Bool
  | unusable .. | due .. => true
  | notApplicable | noActiveTemplate .. => false

/-- The amount that is kept with a submission: as the template writes it. -/
def storedAmount : FeeResolution → Option String
  | due _ amount => some amount
  | unusable _ rawAmount => rawAmount
  | notApplicable => none
  | noActiveTemplate _ => none

/-- The amount that has to be paid. -/
def payable : FeeResolution → Option Decimal
  | due _ amount => payableAmount amount
  | _ => none

/-- The amount of the first item of a template, trimmed, unless it is blank. -/
def rawAmount? (t : PaymentTemplate) : Option String :=
  Text.nonBlank (t.items.head?.map fun i => Text.trim i.amount)

/-- The fee under a fee code, given the template in force. -/
def ofTemplate (feeCode : String) : Option PaymentTemplate → FeeResolution
  | none => noActiveTemplate feeCode
  | some t =>
    match rawAmount? t with
    | none => unusable feeCode none
    | some amount =>
      if (Decimal.ofText? amount).isSome then due feeCode amount
      else unusable feeCode (some amount)

def toJson : FeeResolution → Json
  | notApplicable => .obj [("resolution", .str "not_applicable")]
  | noActiveTemplate feeCode =>
    .obj [("resolution", .str "no_active_template"), ("fee_code", .str feeCode)]
  | unusable feeCode rawAmount =>
    .obj [("resolution", .str "unusable"), ("fee_code", .str feeCode),
      ("raw_amount", .option .str rawAmount)]
  | due feeCode amount =>
    .obj [("resolution", .str "due"), ("fee_code", .str feeCode), ("amount", .str amount)]

open Schema
open Reading (text)

/-- The members of a fee, whose kind is named. -/
def schema? (kind : String) : Option (Schema FeeResolution) :=
  if kind = "not_applicable" then some (pure notApplicable)
  else if kind = "no_active_template" then some (noActiveTemplate <$> required "fee_code" text)
  else if kind = "unusable" then
    some (unusable <$> required "fee_code" text <*> possible "raw_amount" text)
  else if kind = "due" then some (due <$> required "fee_code" text <*> required "amount" text)
  else none

/-- A fee out of an object that names its kind. -/
def ofReading (r : Reading) : Except Fault FeeResolution := do
  let schema ← (r.member "resolution").parsed schema?
  schema.read r

end FeeResolution

/-- The fee of a form type at an instant. -/
def Catalog.resolveFee (c : Catalog) (formType : String) (asOf : Instant) : FeeResolution :=
  match (c.form? formType).bind FormTemplate.feeCode? with
  | none => .notApplicable
  | some feeCode => .ofTemplate feeCode (c.activeAsOf feeCode asOf)

/-! ## Look-ups that may fail -/

/-- The ways to ask a catalog. -/
inductive CatalogLookup where
  | form
  | allForms
  | payments
deriving DecidableEq

/-- A catalog, some of whose look-ups are out of order. -/
structure CatalogDesk where
  catalog : Catalog
  down : List CatalogLookup

namespace CatalogDesk

/-- The answer of a look-up, unless it is out of order. -/
def ask {α : Type} (d : CatalogDesk) (lookup : CatalogLookup) (answer : α) :
    Except RepositoryError α :=
  if lookup ∈ d.down then .error (.unavailable "catalog offline") else .ok answer

/-- The form of a form type. -/
def form? (d : CatalogDesk) (formType : String) : Except RepositoryError (Option FormTemplate) :=
  d.ask .form (d.catalog.form? formType)

/-- All forms. -/
def allForms (d : CatalogDesk) : Except RepositoryError (List FormTemplate) :=
  d.ask .allForms d.catalog.allForms

/-- The fee of a form type at an instant. -/
def resolveFee (d : CatalogDesk) (formType : String) (asOf : Instant) :
    Except RepositoryError FeeResolution := do
  match (← d.form? formType).bind FormTemplate.feeCode? with
  | none => return .notApplicable
  | some feeCode =>
    return .ofTemplate feeCode (← d.ask .payments (d.catalog.activeAsOf feeCode asOf))

/-- While all look-ups work, the fee is that of the catalog. -/
theorem resolveFee_eq {d : CatalogDesk} (h : d.down = []) (formType : String) (asOf : Instant) :
    d.resolveFee formType asOf = .ok (d.catalog.resolveFee formType asOf) := by
  simp only [resolveFee, form?, ask, h, List.not_mem_nil, ite_false, Catalog.resolveFee, bind,
    Except.bind]
  split <;> rfl

end CatalogDesk

end Filing
