import Filing.Catalog.Import
import Filing.Proofs.Csv.Table
import Filing.Proofs.Register
import Mathlib.Data.List.Forall2

/-!
# Forms out of an export

Forms are written into an export and read out of it by rules that do not mirror each other: a flag
is written as one word and read as any of several, a form without a fee code and a blank fee code
look alike, and fields are trimmed on the way back.

* `FormTemplate.Portable` — nothing in the form is lost on the way;
* `FormTemplate.fits_toRecord`, `FormTemplate.ofRow_toRecord` — the record of a portable form fits
  the columns, and its row says the form;
* `FormTemplate.exported` — **portable forms survive an export**;
* `FormTemplate.ofCsv_eq_ok_iff` — an export that is accepted, row by row;
* `FormTemplate.registered` — **the forms of an accepted export are listed and found**.  What is
  typed is trimmed before it is looked up, in the same way as an export is when it is read.
-/

set_option autoImplicit false

namespace Filing

namespace FormTemplate

open Csv (Fits Tabular rowOf)

/-- The texts of the form are trimmed, and those that may be left out are not blank where they are
there. -/
structure Portable (f : FormTemplate) : Prop where
  formType : Text.trim f.formType = f.formType
  description : Text.trim f.description = f.description
  feeCode : ∀ code, f.feeCode = some code →
    Text.trim code = code ∧ Text.isBlankText code = false
  category : Text.trim f.category = f.category
  category_not_blank : Text.isBlankText f.category = false

theorem tabular_columns : Tabular columns where
  several := by decide
  nodup := by decide
  trimmed := by decide +kernel
  unmarked := by decide +kernel

/-- The word for a flag, as `toRecord` writes it, is read as the flag. -/
theorem flag?_word (b : Bool) : flag? (if b then "true" else "false") = some b := by
  cases b <;> decide +kernel

theorem trim_word (b : Bool) :
    Text.trim (if b then "true" else "false") = if b then "true" else "false" := by
  cases b <;> decide +kernel

variable {f : FormTemplate}

theorem Portable.trim_feeCode (h : f.Portable) :
    Text.trim (f.feeCode.getD "") = f.feeCode.getD "" := by
  cases hcode : f.feeCode with
  | none => decide +kernel
  | some code => exact (h.feeCode code hcode).1

theorem Portable.nonBlank_feeCode (h : f.Portable) :
    Text.nonBlank (some (f.feeCode.getD "")) = f.feeCode := by
  cases hcode : f.feeCode with
  | none => rfl
  | some code => exact if_pos (by simp [h.feeCode code hcode])

theorem Portable.nonBlank_category (h : f.Portable) :
    Text.nonBlank (some f.category) = some f.category :=
  if_pos (by simp [h.category_not_blank])

theorem flagFault?_word (b : Bool) : flagFault? (if b then "true" else "false") = none := by
  rw [flagFault?, flag?_word]

theorem fits_toRecord (h : f.Portable) : Fits columns f.toRecord where
  length := rfl
  trimmed := by
    simp only [toRecord, List.forall_mem_cons, trim_word]
    exact ⟨h.formType, h.description, h.trim_feeCode, trivial, trivial, trivial, h.category,
      List.forall_mem_nil _⟩
  faultless := by
    simp only [columns, toRecord, List.zip_cons_cons, List.zip_nil_left, List.forall_mem_cons,
      flagFault?_word]
    exact ⟨trivial, trivial, trivial, trivial, trivial, trivial, trivial, List.forall_mem_nil _⟩

theorem ofRow_toRecord (h : f.Portable) : ofRow (rowOf columns f.toRecord) = f := by
  have hform : Csv.field (rowOf columns f.toRecord) "form_type" = f.formType := rfl
  have hdescription : Csv.field (rowOf columns f.toRecord) "description" = f.description := rfl
  have hfee : Csv.field? (rowOf columns f.toRecord) "fee_code" = some (f.feeCode.getD "") := rfl
  have helectronic : Csv.field (rowOf columns f.toRecord) "fully_electronic" =
      if f.fullyElectronic then "true" else "false" := rfl
  have hfes : Csv.field (rowOf columns f.toRecord) "fes_delivery" =
      if f.fesDelivery then "true" else "false" := rfl
  have hsame : Csv.field (rowOf columns f.toRecord) "same_day" =
      if f.sameDay then "true" else "false" := rfl
  have hcategory : Csv.field? (rowOf columns f.toRecord) "category" = some f.category := rfl
  rw [ofRow, hform, hdescription, hfee, helectronic, hfes, hsame, hcategory, h.nonBlank_feeCode,
    h.nonBlank_category, flag?_word, flag?_word, flag?_word]
  rfl

/-- A pass that may fail succeeds if it does so everywhere. -/
theorem mapM_eq_ok_iff {α β ε : Type} {read : α → Except ε β} {as : List α} {bs : List β} :
    as.mapM read = .ok bs ↔ List.Forall₂ (fun a b => read a = .ok b) as bs := by
  induction as generalizing bs with
  | nil =>
    rw [List.forall₂_nil_left_iff]
    exact ⟨fun h => (Except.ok.inj h).symm, fun h => h ▸ rfl⟩
  | cons a as ih =>
    rw [List.mapM_cons, List.forall₂_cons_left_iff]
    cases hread : read a with
    | error e => simp [bind, Except.bind]
    | ok b =>
      cases hrest : as.mapM read with
      | error e => simp [← ih, hrest, bind, Except.bind]
      | ok rest => simp [← ih, hrest, bind, Except.bind, pure, Except.pure, eq_comm]

theorem mapM_ok {α β ε : Type} {read : α → Except ε β} {write : β → α} {bs : List β}
    (h : ∀ b ∈ bs, read (write b) = .ok b) : (bs.map write).mapM read = .ok bs := by
  rw [mapM_eq_ok_iff, List.forall₂_map_left_iff, List.forall₂_same]
  exact h

/-- **Portable forms survive an export**: what is written of them is read back as the same forms in
the same order, whatever marks their texts hold. -/
theorem exported {forms : List FormTemplate} (h : ∀ f ∈ forms, f.Portable) :
    ofCsv (Text.encode (toCsv forms)) = .ok forms := by
  have htable : Csv.table columns (Text.encode (toCsv forms)) =
      forms.map fun f => .ok (rowOf columns f.toRecord) := by
    rw [toCsv, Csv.table_render tabular_columns, List.map_map]
    · rfl
    · intro fs hfs
      obtain ⟨f, hf, rfl⟩ := List.mem_map.1 hfs
      exact fits_toRecord (h f hf)
  rw [ofCsv, htable]
  refine mapM_ok fun f hf => ?_
  rw [Except.map, ofRow_toRecord (h f hf)]
  rfl

/-- Forms whose texts hold every mark, line ends and a character beyond ASCII among them. -/
def marked : List FormTemplate :=
  [paper "SH01" "Return of allotment, \"statement\"\r\nof capital" (some "SH-01,\"A\""),
    { electronic "\"" ",," none with category := "Prêt\n, \"other\"", sameDay := true }]

theorem exported_marked :
    (∀ f ∈ marked, f.Portable) ∧ ofCsv (Text.encode (toCsv marked)) = .ok marked := by
  have hportable : ∀ f ∈ marked, f.Portable := by
    simp only [marked, List.forall_mem_cons]
    refine ⟨⟨by decide +kernel, by decide +kernel, ?_, by decide +kernel, by decide +kernel⟩,
      ⟨by decide +kernel, by decide +kernel, ?_, by decide +kernel, by decide +kernel⟩,
      List.forall_mem_nil _⟩
    · rintro _ ⟨⟩
      exact ⟨by decide +kernel, by decide +kernel⟩
    · rintro _ ⟨⟩
  exact ⟨hportable, exported hportable⟩

/-! ## The forms of an export -/

variable {input : List UInt8} {forms : List FormTemplate}

/-- An export is accepted if all of its rows can be read, and its forms are what they say. -/
theorem ofCsv_eq_ok_iff :
    ofCsv input = .ok forms ↔
      ∃ rows : List (List (String × String)),
        Csv.table columns input = rows.map .ok ∧ forms = rows.map ofRow := by
  rw [ofCsv, mapM_eq_ok_iff]
  constructor
  · intro h
    generalize Csv.table columns input = table at h
    induction h with
    | nil => exact ⟨[], rfl, rfl⟩
    | @cons row f table forms hrow _ ih =>
      obtain ⟨rows, rfl, rfl⟩ := ih
      cases row with
      | error e => cases hrow
      | ok row =>
        obtain rfl := Except.ok.inj hrow
        exact ⟨row :: rows, rfl, rfl⟩
  · rintro ⟨rows, htable, rfl⟩
    rw [htable, List.forall₂_map_left_iff, List.forall₂_map_right_iff, List.forall₂_same]
    exact fun row _ => rfl

/-- The form type of a row has no white space around it. -/
theorem trim_formType_ofRow {row : List (String × String)}
    (h : ∀ p ∈ row, Text.trim p.2 = p.2) :
    Text.trim (ofRow row).formType = (ofRow row).formType := by
  have hfield : (ofRow row).formType = (Index.seek "form_type" row).getD "" := rfl
  rw [hfield]
  cases hseek : Index.seek "form_type" row with
  | none =>
    show Text.trim "" = ""
    decide +kernel
  | some formType =>
    show Text.trim formType = formType
    exact h ("form_type", formType) (Index.mem_of_seek hseek)

theorem trim_formType_of_ofCsv (h : ofCsv input = .ok forms) {f : FormTemplate} (hf : f ∈ forms) :
    Text.trim f.formType = f.formType := by
  obtain ⟨rows, htable, rfl⟩ := ofCsv_eq_ok_iff.1 h
  obtain ⟨row, hrow, rfl⟩ := List.mem_map.1 hf
  have hmem : .ok row ∈ Csv.table columns input := htable ▸ List.mem_map_of_mem hrow
  exact trim_formType_ofRow fun p hp => Csv.trim_of_mem_table hmem hp

/-- **The forms of an accepted export are listed, and are found**, whatever payment templates are
registered with them. -/
theorem registered (h : ofCsv input = .ok forms) (payments : List PaymentTemplate) :
    ∃ rows : List (List (String × String)),
      Csv.table columns input = rows.map .ok ∧ forms = rows.map ofRow ∧
        (Catalog.ofTemplates forms payments).Registers forms := by
  obtain ⟨rows, htable, hforms⟩ := ofCsv_eq_ok_iff.1 h
  exact ⟨rows, htable, hforms,
    Catalog.registers_ofTemplates (fun f hf => trim_formType_of_ofCsv h hf) payments⟩

/-- An export in which a form type comes twice, with different white space around it, and one form
type is beyond ASCII. -/
def replaced : List UInt8 :=
  Text.encode <|
    "description,form_type,fully_electronic,fes_delivery,same_day\nOld,SH01,no,yes,no\n" ++
      "Prêt,\u00a0É1\u2003,,Y,0\nNew,\" SH01 \",1,TRUE,no\n"

/-- The forms of the export, the replaced one among them. -/
def replacedForms : List FormTemplate :=
  [paper "SH01" "Old" none, paper "É1" "Prêt" none, electronic "SH01" "New" none]

theorem registered_replaced :
    ofCsv replaced = .ok replacedForms ∧
      ∃ rows : List (List (String × String)),
        Csv.table columns replaced = rows.map .ok ∧ replacedForms = rows.map ofRow ∧
          (Catalog.ofTemplates replacedForms Catalog.standardPayments).Registers
            replacedForms := by
  have hforms : ofCsv replaced = .ok replacedForms := by decide +kernel
  exact ⟨hforms, registered hforms Catalog.standardPayments⟩

end FormTemplate

end Filing
