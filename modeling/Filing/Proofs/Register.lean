import Filing.Catalog.Basic
import Filing.Proofs.Blank
import Filing.Proofs.Utf8

/-!
# The register of forms

Forms are registered each under its form type.  They are listed by the form type as it stands in the
template, and looked up by a form type that somebody typed, which is trimmed first: the two agree
for templates whose form types are trimmed.

* `Catalog.Keyed` — every form is registered under its own form type;
* `FormTemplate.LastOfType` — no later form has the form type;
* `Catalog.find?_ofTemplates_eq_some_iff` — what is registered under a form type is the last form
  of it;
* `Catalog.Registers`, `Catalog.registers_ofTemplates` — **the catalog of forms lists them and has
  them found**.
-/

set_option autoImplicit false

namespace Filing

namespace FormTemplate

variable {forms : List FormTemplate}

/-- The form is one of the forms, and no later one has its form type. -/
def LastOfType (f : FormTemplate) (forms : List FormTemplate) : Prop :=
  ∃ before after, forms = before ++ f :: after ∧ ∀ g ∈ after, g.formType ≠ f.formType

theorem LastOfType.mem {f : FormTemplate} (h : f.LastOfType forms) : f ∈ forms := by
  obtain ⟨before, after, rfl, -⟩ := h
  exact List.mem_append_right before List.mem_cons_self

end FormTemplate

namespace Catalog

variable {c : Catalog} {forms : List FormTemplate} {payments : List PaymentTemplate}
  {f : FormTemplate} {formType : String}

/-! ## Under its own form type -/

/-- Every form is registered under its own form type. -/
def Keyed (c : Catalog) : Prop :=
  ∀ e ∈ c.forms.entries, e.1 = e.2.formType

instance (c : Catalog) : Decidable c.Keyed :=
  inferInstanceAs (Decidable (∀ e ∈ c.forms.entries, e.1 = e.2.formType))

theorem keyed_ofTemplates (forms : List FormTemplate) (payments : List PaymentTemplate) :
    (ofTemplates forms payments).Keyed := by
  intro e he
  obtain ⟨f, -, rfl⟩ := List.mem_map.1 (Index.mem_of_mem_ofList he)
  rfl

theorem Keyed.insertForm (hc : c.Keyed) (f : FormTemplate) : (c.insertForm f).Keyed := by
  intro e he
  obtain rfl | he := Index.mem_place he
  · rfl
  · exact hc e he

theorem Keyed.mem_allForms (hc : c.Keyed) :
    f ∈ c.allForms ↔ c.forms.find? f.formType = some f := by
  rw [Index.find?_eq_some_iff]
  refine ⟨fun hf => ?_, fun hf => List.mem_map_of_mem (f := Prod.snd) hf⟩
  obtain ⟨e, he, rfl⟩ := List.mem_map.1 hf
  rw [← hc e he]
  exact he

/-! ## Under the form type of several forms -/

theorem find?_ofTemplates :
    (ofTemplates forms payments).forms.find? formType =
      forms.reverse.find? (formType = ·.formType) := by
  have hseek (fs : List FormTemplate) :
      Index.seek formType (fs.map fun f => (f.formType, f)) =
        fs.find? (formType = ·.formType) := by
    induction fs with
    | nil => rfl
    | cons f fs ih =>
      rw [List.map_cons, Index.seek, List.find?_cons, ih]
      by_cases h : formType = f.formType <;> simp [h]
  rw [ofTemplates, Index.find?_ofList, ← List.map_reverse, hseek]

/-- Under a form type the last form of it is registered. -/
theorem find?_ofTemplates_eq_some_iff :
    (ofTemplates forms payments).forms.find? formType = some f ↔
      f.formType = formType ∧ f.LastOfType forms := by
  rw [find?_ofTemplates, List.find?_eq_some_iff_append]
  constructor
  · rintro ⟨htype, after, before, hsplit, hafter⟩
    obtain rfl : formType = f.formType := of_decide_eq_true htype
    refine ⟨rfl, before.reverse, after.reverse, ?_, fun g hg heq => ?_⟩
    · rw [← List.reverse_reverse forms, hsplit]
      simp
    · simpa [heq] using hafter g (List.mem_reverse.1 hg)
  · rintro ⟨rfl, before, after, rfl, hafter⟩
    refine ⟨decide_eq_true rfl, after.reverse, before.reverse, by simp, fun g hg => ?_⟩
    simpa using (hafter g (List.mem_reverse.1 hg)).symm

theorem find?_ofTemplates_eq_none (h : formType ∉ forms.map (·.formType)) :
    (ofTemplates forms payments).forms.find? formType = none := by
  rw [find?_ofTemplates, List.find?_eq_none]
  intro f hf
  have hne : formType ≠ f.formType :=
    fun heq => h (heq ▸ List.mem_map_of_mem (List.mem_reverse.1 hf))
  simpa using hne

theorem mem_allForms_ofTemplates :
    f ∈ (ofTemplates forms payments).allForms ↔ f.LastOfType forms := by
  rw [(keyed_ofTemplates forms payments).mem_allForms, find?_ofTemplates_eq_some_iff]
  exact and_iff_right rfl

/-! ## Listed and found -/

/-- The catalog lists the forms, one of each form type, and a form is found under its form type. -/
structure Registers (c : Catalog) (forms : List FormTemplate) : Prop where
  /-- Of the forms of one form type the last one is listed. -/
  listed : ∀ f, f ∈ c.allForms ↔ f.LastOfType forms
  /-- A form is listed for every form type that there is. -/
  formTypes : ∀ formType,
    formType ∈ c.allForms.map (·.formType) ↔ formType ∈ forms.map (·.formType)
  /-- No form type is listed twice, and all are in the order of their bytes. -/
  increasing : c.allForms.Pairwise fun f g => Text.encode f.formType < Text.encode g.formType
  /-- White space around the form type does not matter. -/
  found : ∀ f ∈ c.allForms, ∀ u v, Text.isBlankText u = true → Text.isBlankText v = true →
    c.form? (u ++ f.formType ++ v) = some f
  missing : ∀ s, Text.trim s ∉ forms.map (·.formType) → c.form? s = none

/-- Of every form type that there is some form is the last. -/
theorem exists_lastOfType (h : formType ∈ forms.map (·.formType)) :
    ∃ f : FormTemplate, f.formType = formType ∧ f.LastOfType forms := by
  obtain ⟨g, hg, rfl⟩ := List.mem_map.1 h
  cases hfind : (ofTemplates forms []).forms.find? g.formType with
  | some f => exact ⟨f, find?_ofTemplates_eq_some_iff.1 hfind⟩
  | none =>
    rw [find?_ofTemplates, List.find?_eq_none] at hfind
    exact absurd (decide_eq_true rfl) (hfind g (List.mem_reverse.2 hg))

theorem registers_ofTemplates (htrim : ∀ f ∈ forms, Text.trim f.formType = f.formType)
    (payments : List PaymentTemplate) : (ofTemplates forms payments).Registers forms where
  listed _ := mem_allForms_ofTemplates
  formTypes formType := by
    constructor
    · intro h
      obtain ⟨f, hf, rfl⟩ := List.mem_map.1 h
      exact List.mem_map_of_mem (mem_allForms_ofTemplates.1 hf).mem
    · intro h
      obtain ⟨f, rfl, hlast⟩ := exists_lastOfType h
      exact List.mem_map_of_mem (mem_allForms_ofTemplates.2 hlast)
  increasing := by
    have hkeyed := keyed_ofTemplates forms payments
    rw [allForms, Index.values, List.pairwise_map]
    refine (ofTemplates forms payments).forms.sorted.imp_of_mem fun he hd hlt => ?_
    rw [← hkeyed _ he, ← hkeyed _ hd]
    exact Text.encode_lt hlt
  found f hf u v hu hv := by
    have hlast := mem_allForms_ofTemplates.1 hf
    rw [form?, Text.trim_append hu hv, htrim f hlast.mem]
    exact find?_ofTemplates_eq_some_iff.2 ⟨rfl, hlast⟩
  missing _ hs := find?_ofTemplates_eq_none hs

end Catalog

end Filing
