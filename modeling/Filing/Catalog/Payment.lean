import Filing.Submission.Json

/-!
# Payment templates

A payment template gives the price of a fee code from a point in time on, until a later template of
the same fee code takes its place.

* `PaymentTemplate`, with `PaymentItem`s;
* `selectActive` — the template of a fee code that is in force at an instant.
-/

set_option autoImplicit false

namespace Filing

/-- One line of a price. -/
structure PaymentItem where
  amount : String
  description : String
  methods : List String
deriving DecidableEq

/-- The price of a fee code from an instant on. -/
structure PaymentTemplate where
  feeCode : String
  activeFrom : Instant
  items : List PaymentItem
  status : String
  links : Index String
deriving DecidableEq

/-- The later of two templates, the second of two that start together. -/
def laterTemplate (best : Option PaymentTemplate) (t : PaymentTemplate) : Option PaymentTemplate :=
  match best with
  | none => some t
  | some b => if b.activeFrom ≤ t.activeFrom then some t else some b

/-- The template of a fee code that is in force: of those that have started, the one that started
last, and the last in the list of those that started together. -/
def selectActive (templates : List PaymentTemplate) (feeCode : String) (asOf : Instant) :
    Option PaymentTemplate :=
  (templates.filter fun t => t.feeCode == feeCode && decide (t.activeFrom ≤ asOf)).foldl
    laterTemplate none

open Schema
open Reading (text many instant textIndex)

namespace PaymentItem

def toJson (i : PaymentItem) : Json :=
  .obj
    [("amount", .str i.amount), ("description", .str i.description),
      ("available_payment_methods", .list .str i.methods)]

def schema : Schema PaymentItem :=
  PaymentItem.mk <$> required "amount" text <*> required "description" text <*>
    defaulted "available_payment_methods" [] (many text)

end PaymentItem

namespace PaymentTemplate

def toJson (t : PaymentTemplate) : Json :=
  .obj
    [("fee_code", .str t.feeCode), ("active_from", t.activeFrom.toJson),
      ("items", .list PaymentItem.toJson t.items), ("status", .str t.status),
      ("links", .obj (t.links.entries.map fun e => (e.1, .str e.2)))]

def schema : Schema PaymentTemplate :=
  PaymentTemplate.mk <$> required "fee_code" text <*> required "active_from" instant <*>
    required "items" (many PaymentItem.schema.read) <*> required "status" text <*>
    defaulted "links" .empty textIndex

/-- The links of a template: to itself, by its fee code and the date it starts on. -/
def selfLink (feeCode : String) (activeFrom : Instant) : Index String :=
  Index.empty.insert "self" s!"/payment-templates/{feeCode}/{activeFrom.date.toText}"

end PaymentTemplate

end Filing
