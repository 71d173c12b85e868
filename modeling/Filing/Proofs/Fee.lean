import Filing.Fee
import Filing.Proofs.Blank

/-!
# The fee on record

With a submission only the text of its fee is kept, and not what the catalog answered when it was
asked.  That is enough: reading the text again tells what has to be paid.

* `Catalog.resolveFee_trim`, `CatalogDesk.eq_resolveFee` — whoever asks for a fee is told what the
  catalog says, with white space around the form type or not;
* `FeeResolution.payable_ofTemplate`, `CatalogDesk.payable_of_resolveFee` — **the text of a fee that
  the catalog has given reads back as the amount to pay**.
-/

set_option autoImplicit false

namespace Filing

/-! ## Reading a fee again -/

namespace FeeResolution

theorem trim_rawAmount {t : PaymentTemplate} {amount : String} (h : rawAmount? t = some amount) :
    Text.trim amount = amount := by
  rw [rawAmount?, Text.nonBlank, Option.filter_eq_some_iff] at h
  obtain ⟨h, -⟩ := h
  obtain ⟨item, -, rfl⟩ := Option.map_eq_some_iff.1 h
  exact Text.trim_trim item.amount

/-- An amount that is no number is kept as it is, and is not read as a number later. -/
theorem payable_ofTemplate (feeCode : String) (t : Option PaymentTemplate) :
    (ofTemplate feeCode t).storedAmount.bind payableAmount = (ofTemplate feeCode t).payable := by
  cases t with
  | none => rfl
  | some t =>
    rw [ofTemplate]
    cases hraw : rawAmount? t with
    | none => rfl
    | some amount =>
      dsimp only
      by_cases hnumber : (Decimal.ofText? amount).isSome = true
      · rw [if_pos hnumber, storedAmount, payable, Option.bind_some]
      · have hnone : Decimal.ofText? amount = none := by simpa using hnumber
        have hunpayable : payableAmount amount = none := by
          rw [payableAmount, trim_rawAmount hraw, hnone]
          rfl
        rw [if_neg hnumber, storedAmount, payable, Option.bind_some, hunpayable]
        · exact fun _ _ h => nomatch h

end FeeResolution

/-! ## Asking for a fee -/

/-- White space around a form type does not matter. -/
theorem Catalog.resolveFee_trim (c : Catalog) (formType : String) (asOf : Instant) :
    c.resolveFee (Text.trim formType) asOf = c.resolveFee formType asOf := by
  rw [resolveFee, resolveFee, form?, form?, Text.trim_trim]

/-- A look-up that is answered is answered by the catalog. -/
theorem CatalogDesk.ask_eq_ok {α : Type} {d : CatalogDesk} {lookup : CatalogLookup} {answer a : α}
    (h : d.ask lookup answer = .ok a) : a = answer := by
  rw [ask] at h
  split at h
  · cases h
  · exact (Except.ok.inj h).symm

/-- The fee that is answered is that of the catalog. -/
theorem CatalogDesk.eq_resolveFee {d : CatalogDesk} {formType : String} {asOf : Instant}
    {fee : FeeResolution} (h : d.resolveFee formType asOf = .ok fee) :
    fee = d.catalog.resolveFee formType asOf := by
  rw [resolveFee] at h
  rw [Catalog.resolveFee]
  cases hform : d.form? formType with
  | error e => simp only [hform, bind, Except.bind, reduceCtorEq] at h
  | ok form =>
    obtain rfl := ask_eq_ok hform
    cases hcode : (d.catalog.form? formType).bind FormTemplate.feeCode? with
    | none =>
      simp only [hform, hcode, bind, Except.bind] at h
      exact (Except.ok.inj h).symm
    | some feeCode =>
      simp only [hform, hcode, bind, Except.bind] at h
      cases hpayments : d.ask .payments (d.catalog.activeAsOf feeCode asOf) with
      | error e => simp only [hpayments, reduceCtorEq] at h
      | ok t =>
        simp only [hpayments] at h
        obtain rfl := ask_eq_ok hpayments
        exact (Except.ok.inj h).symm

theorem Catalog.payable_resolveFee (c : Catalog) (formType : String) (asOf : Instant) :
    (c.resolveFee formType asOf).storedAmount.bind payableAmount =
      (c.resolveFee formType asOf).payable := by
  rw [resolveFee]
  split
  · rfl
  · exact FeeResolution.payable_ofTemplate _ _

theorem CatalogDesk.payable_of_resolveFee {d : CatalogDesk} {formType : String} {asOf : Instant}
    {fee : FeeResolution} (h : d.resolveFee formType asOf = .ok fee) :
    fee.storedAmount.bind payableAmount = fee.payable := by
  rw [eq_resolveFee h]
  exact d.catalog.payable_resolveFee formType asOf

end Filing
