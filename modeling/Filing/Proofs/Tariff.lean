import Filing.Proofs.Fee
import Filing.Proofs.PaymentExport
import Filing.Proofs.Validation

/-!
# Prices over time

A fee code has a price from each of several instants on, and a form type is charged at the price
that was in force when the question was asked.

* `PaymentTemplate.LastStarted` — what it is to be in force, said by where the template stands in
  its list: nothing in front of it starts later, and everything behind it starts earlier;
* `PaymentTemplate.selectActive_eq_none_iff`, `selectActive_eq_some_iff_lastStarted` — the pass over
  the templates finds exactly that, whether or not two of them start together;
* `PaymentTemplate.WithMore` — templates put in anywhere in a list: `selectActive_withMore`;
* `Catalog.templateInForce?` — the template that a form type is charged by;
* `FeeResolution.ofTemplate_eq_due_iff`, `CatalogDesk.resolveFee_eq_due_iff` — when there is an
  amount.

`InForce`, from the exports, does not tell apart templates that start together.  `LastStarted` does,
and needs no assumption on the list.
-/

set_option autoImplicit false

namespace Filing

/-! ## Blank texts -/

namespace Text

theorem nonBlank_map_trim_eq_some {text : Option String} {t : String} :
    nonBlank (text.map trim) = some t ↔
      ∃ raw, text = some raw ∧ isBlankText raw = false ∧ t = trim raw := by
  rw [nonBlank_eq_some, Option.map_eq_some_iff]
  constructor
  · rintro ⟨⟨raw, hraw, rfl⟩, hblank⟩
    exact ⟨raw, hraw, by rwa [isBlankText_trim] at hblank, rfl⟩
  · rintro ⟨raw, hraw, hblank, rfl⟩
    exact ⟨⟨raw, hraw, rfl⟩, by rwa [isBlankText_trim]⟩

end Text

namespace PaymentTemplate

variable {ts ts' : List PaymentTemplate} {feeCode : String} {asOf later : Instant}
  {t u : PaymentTemplate}

/-! ## The template in force -/

/-- The template is one of the fee code, and has started. -/
def StartedFor (feeCode : String) (asOf : Instant) (t : PaymentTemplate) : Prop :=
  t.feeCode = feeCode ∧ t.activeFrom ≤ asOf

instance (feeCode : String) (asOf : Instant) (t : PaymentTemplate) :
    Decidable (StartedFor feeCode asOf t) :=
  inferInstanceAs (Decidable (t.feeCode = feeCode ∧ t.activeFrom ≤ asOf))

theorem StartedFor.mono (h : StartedFor feeCode asOf t) (hle : asOf ≤ later) :
    StartedFor feeCode later t :=
  ⟨h.1, Instant.le_trans h.2 hle⟩

/-- Of the templates of the fee code that have started, none starts later than this one, and those
that start together with it stand in front of it. -/
def LastStarted (ts : List PaymentTemplate) (feeCode : String) (asOf : Instant)
    (t : PaymentTemplate) : Prop :=
  StartedFor feeCode asOf t ∧ ∃ before after, ts = before ++ t :: after ∧
    (∀ u ∈ before, StartedFor feeCode asOf u → u.activeFrom ≤ t.activeFrom) ∧
    ∀ u ∈ after, StartedFor feeCode asOf u → u.activeFrom < t.activeFrom

theorem LastStarted.mem (h : LastStarted ts feeCode asOf t) : t ∈ ts := by
  obtain ⟨-, before, after, rfl, -, -⟩ := h
  exact List.mem_append_right _ List.mem_cons_self

/-- No other template of the fee code that has started starts later. -/
theorem LastStarted.latest (h : LastStarted ts feeCode asOf t) (hu : u ∈ ts)
    (hstarted : StartedFor feeCode asOf u) : u.activeFrom ≤ t.activeFrom := by
  obtain ⟨-, before, after, rfl, hbefore, hafter⟩ := h
  rcases List.mem_append.1 hu with hu | hu
  · exact hbefore u hu hstarted
  · rcases List.mem_cons.1 hu with rfl | hu
    · exact Instant.le_refl _
    · exact Instant.le_of_lt (hafter u hu hstarted)

/-- One more template at the end is the last to have started if the others start no later. -/
theorem LastStarted.concat_self (ht : StartedFor feeCode asOf t)
    (hall : ∀ u ∈ ts, StartedFor feeCode asOf u → u.activeFrom ≤ t.activeFrom) :
    LastStarted (ts ++ [t]) feeCode asOf t :=
  ⟨ht, ts, [], rfl, hall, fun _ hu => absurd hu List.not_mem_nil⟩

/-- One more template at the end changes nothing unless it has started, and no earlier. -/
theorem LastStarted.concat (h : LastStarted ts feeCode asOf t)
    (hu : StartedFor feeCode asOf u → u.activeFrom < t.activeFrom) :
    LastStarted (ts ++ [u]) feeCode asOf t := by
  obtain ⟨ht, before, after, rfl, hbefore, hafter⟩ := h
  refine ⟨ht, before, after ++ [u], by simp, hbefore, fun v hv hstarted => ?_⟩
  rcases List.mem_append.1 hv with hv | hv
  · exact hafter v hv hstarted
  · rw [List.mem_singleton] at hv
    subst hv
    exact hu hstarted

theorem selectActive_eq_foldl :
    selectActive ts feeCode asOf =
      (ts.filter fun t => StartedFor feeCode asOf t).foldl laterTemplate none := by
  rw [selectActive]
  congr 1
  refine List.filter_congr fun t _ => Bool.eq_iff_iff.2 ?_
  rw [decide_eq_true_iff, StartedFor, Bool.and_eq_true, beq_iff_eq, decide_eq_true_iff]

/-- One more template at the end is in force if it has started and does not start earlier than the
one so far. -/
theorem selectActive_concat :
    selectActive (ts ++ [t]) feeCode asOf =
      if StartedFor feeCode asOf t then laterTemplate (selectActive ts feeCode asOf) t
      else selectActive ts feeCode asOf := by
  simp only [selectActive_eq_foldl, List.filter_append, List.foldl_append]
  by_cases h : StartedFor feeCode asOf t <;> simp [h]

theorem laterTemplate_ne_none (best : Option PaymentTemplate) (t : PaymentTemplate) :
    laterTemplate best t ≠ none := by
  cases best with
  | none => exact Option.some_ne_none t
  | some b =>
    rw [laterTemplate]
    split <;> exact Option.some_ne_none _

/-- **Nothing is in force exactly as long as no template of the fee code has started.** -/
theorem selectActive_eq_none_iff :
    selectActive ts feeCode asOf = none ↔ ∀ t ∈ ts, ¬StartedFor feeCode asOf t := by
  induction ts using List.reverseRecOn with
  | nil => simp [selectActive]
  | append_singleton ts t ih =>
    rw [selectActive_concat]
    by_cases h : StartedFor feeCode asOf t
    · rw [if_pos h]
      exact iff_of_false (laterTemplate_ne_none _ _) fun hnone => hnone t (by simp) h
    · rw [if_neg h, ih]
      simp [or_imp, forall_and, h]

/-- What is in force is the template that started last. -/
theorem lastStarted_of_selectActive (h : selectActive ts feeCode asOf = some t) :
    LastStarted ts feeCode asOf t := by
  induction ts using List.reverseRecOn generalizing t with
  | nil => cases h
  | append_singleton ts v ih =>
    rw [selectActive_concat] at h
    by_cases hv : StartedFor feeCode asOf v
    · rw [if_pos hv] at h
      cases hbest : selectActive ts feeCode asOf with
      | none =>
        obtain rfl : v = t := by simpa [hbest, laterTemplate] using h
        have hnone := selectActive_eq_none_iff.1 hbest
        exact .concat_self hv fun u hu hstarted => absurd hstarted (hnone u hu)
      | some best =>
        have hlast := ih hbest
        rw [hbest, laterTemplate] at h
        by_cases hle : best.activeFrom ≤ v.activeFrom
        · -- the new one takes over: all the others are behind it
          rw [if_pos hle] at h
          obtain rfl := Option.some.inj h
          exact .concat_self hv fun u hu hstarted =>
            Instant.le_trans (hlast.latest hu hstarted) hle
        · rw [if_neg hle] at h
          obtain rfl := Option.some.inj h
          exact hlast.concat fun _ => Instant.not_le.1 hle
    · rw [if_neg hv] at h
      exact (ih h).concat fun hstarted => absurd hstarted hv

/-- Two templates cannot both be the last to have started. -/
theorem LastStarted.eq (h : LastStarted ts feeCode asOf t) (h' : LastStarted ts feeCode asOf u) :
    t = u := by
  obtain ⟨ht, before, after, hsplit, hbefore, hafter⟩ := h
  obtain ⟨hu, before', after', hsplit', hbefore', hafter'⟩ := h'
  -- whichever stands behind the other starts strictly earlier and not earlier
  rcases List.append_eq_append_iff.1 (hsplit.symm.trans hsplit') with
    ⟨middle, rfl, hmiddle⟩ | ⟨middle, rfl, hmiddle⟩
  · cases middle with
    | nil => exact (List.cons.inj hmiddle).1
    | cons v middle =>
      obtain ⟨rfl, rfl⟩ := List.cons.inj hmiddle
      exact absurd (hbefore' t (by simp) ht) (Instant.not_le.2 (hafter u (by simp) hu))
  · cases middle with
    | nil => exact (List.cons.inj hmiddle).1.symm
    | cons v middle =>
      obtain ⟨rfl, rfl⟩ := List.cons.inj hmiddle
      exact absurd (hbefore u (by simp) hu) (Instant.not_le.2 (hafter' t (by simp) ht))

/-- **The template in force is the one that started last, the last in the list of those that
started together.** -/
theorem selectActive_eq_some_iff_lastStarted :
    selectActive ts feeCode asOf = some t ↔ LastStarted ts feeCode asOf t := by
  refine ⟨lastStarted_of_selectActive, fun h => ?_⟩
  cases hchosen : selectActive ts feeCode asOf with
  | none => exact absurd h.1 (selectActive_eq_none_iff.1 hchosen t h.mem)
  | some u => rw [(lastStarted_of_selectActive hchosen).eq h]

/-! ## Other lists, other instants -/

/-- The first list with some templates put in anywhere. -/
inductive WithMore (P : PaymentTemplate → Prop) : List PaymentTemplate → List PaymentTemplate → Prop
  | nil : WithMore P [] []
  | keep (t : PaymentTemplate) {ts ts' : List PaymentTemplate} (h : WithMore P ts ts') :
      WithMore P (t :: ts) (t :: ts')
  | add (t : PaymentTemplate) {ts ts' : List PaymentTemplate} (hnew : P t) (h : WithMore P ts ts') :
      WithMore P ts (t :: ts')

/-- **Templates of another fee code, and those that have not started, do not count.** -/
theorem selectActive_withMore {P : PaymentTemplate → Prop} (h : WithMore P ts ts')
    (hidle : ∀ t, P t → ¬StartedFor feeCode asOf t) :
    selectActive ts' feeCode asOf = selectActive ts feeCode asOf := by
  rw [selectActive_eq_foldl, selectActive_eq_foldl]
  congr 1
  induction h with
  | nil => rfl
  | keep t _ ih => rw [List.filter_cons, List.filter_cons, ih]
  | add t hnew _ ih => rw [List.filter_cons_of_neg (by simpa using hidle t hnew), ih]

/-- **The order of templates does not matter where no two of them start together for one fee
code.** -/
theorem selectActive_perm (hnodup : (ts.map key).Nodup) (h : ts.Perm ts') :
    selectActive ts' feeCode asOf = selectActive ts feeCode asOf :=
  selectActive_congr ((h.map key).nodup_iff.1 hnodup) hnodup (fun _ => h.mem_iff.symm) feeCode asOf

/-- **A price in force is followed by one that starts no earlier.** -/
theorem selectActive_mono (hle : asOf ≤ later) (h : selectActive ts feeCode asOf = some t) :
    ∃ t', selectActive ts feeCode later = some t' ∧ t.activeFrom ≤ t'.activeFrom := by
  have hlast := lastStarted_of_selectActive h
  have hstarted : StartedFor feeCode later t := hlast.1.mono hle
  cases hnext : selectActive ts feeCode later with
  | none => exact absurd hstarted (selectActive_eq_none_iff.1 hnext t hlast.mem)
  | some t' => exact ⟨t', rfl, (lastStarted_of_selectActive hnext).latest hlast.mem hstarted⟩

end PaymentTemplate

/-! ## What a form type is charged by -/

namespace Catalog

open PaymentTemplate (LastStarted)

variable {c : Catalog} {formType feeCode : String} {asOf : Instant}

/-- The fee code of a form type. -/
def feeCode? (c : Catalog) (formType : String) : Option String :=
  (c.form? formType).bind FormTemplate.feeCode?

/-- The template that a form type is charged by at an instant. -/
def templateInForce? (c : Catalog) (formType : String) (asOf : Instant) : Option PaymentTemplate :=
  (c.feeCode? formType).bind fun feeCode => c.activeAsOf feeCode asOf

/-- A form type has a fee code if it is registered with one that is not blank. -/
theorem feeCode?_eq_some_iff :
    c.feeCode? formType = some feeCode ↔
      ∃ form raw, c.form? formType = some form ∧ form.feeCode = some raw ∧
        Text.isBlankText raw = false ∧ feeCode = Text.trim raw := by
  rw [feeCode?, Option.bind_eq_some_iff]
  simp only [FormTemplate.feeCode?, Text.nonBlank_map_trim_eq_some]
  constructor
  · rintro ⟨form, hform, raw, hraw, hblank, rfl⟩
    exact ⟨form, raw, hform, hraw, hblank, rfl⟩
  · rintro ⟨form, raw, hform, hraw, hblank, rfl⟩
    exact ⟨form, hform, raw, hraw, hblank, rfl⟩

end Catalog

/-- The first item of the template names an amount that is a number. -/
def PaymentTemplate.Prices (t : PaymentTemplate) (amount : String) : Prop :=
  ∃ item, t.items.head? = some item ∧ amount = Text.trim item.amount ∧
    (Decimal.ofText? amount).isSome

namespace FeeResolution

variable {t : PaymentTemplate} {t? : Option PaymentTemplate} {feeCode code amount : String}

/-- A blank text is no number. -/
theorem rawAmount?_eq_some_of_prices (h : t.Prices amount) : rawAmount? t = some amount := by
  obtain ⟨item, hitem, rfl, hnumber⟩ := h
  have hblank : Text.isBlankText (Text.trim item.amount) = false := by
    refine Bool.eq_false_iff.2 fun hblank => ?_
    rw [Text.isBlankText_trim] at hblank
    have hempty : Decimal.ofText? "" = none := by decide
    rw [Text.trim_eq_empty hblank, hempty] at hnumber
    cases hnumber
  rw [rawAmount?, Text.nonBlank_eq_some, hitem]
  exact ⟨rfl, hblank⟩

theorem prices_of_rawAmount? (h : rawAmount? t = some amount)
    (hnumber : (Decimal.ofText? amount).isSome) : t.Prices amount := by
  rw [rawAmount?, Text.nonBlank_eq_some, Option.map_eq_some_iff] at h
  obtain ⟨⟨item, hitem, rfl⟩, -⟩ := h
  exact ⟨item, hitem, rfl, hnumber⟩

theorem ofTemplate_eq_due_iff :
    ofTemplate feeCode t? = due code amount ↔
      code = feeCode ∧ ∃ t, t? = some t ∧ t.Prices amount := by
  cases t? with
  | none => simp [ofTemplate]
  | some t =>
    rw [ofTemplate]
    constructor
    · intro h
      cases hraw : rawAmount? t with
      | none => simp [hraw] at h
      | some raw =>
        rw [hraw] at h
        dsimp only at h
        split at h
        · next hnumber =>
          cases h
          exact ⟨rfl, t, rfl, prices_of_rawAmount? hraw hnumber⟩
        · cases h
    · rintro ⟨rfl, t, ⟨⟩, hprices⟩
      have hraw := rawAmount?_eq_some_of_prices hprices
      obtain ⟨-, -, -, hnumber⟩ := hprices
      simp only [hraw, hnumber, if_true]

end FeeResolution

/-! ## Asking for the fee -/

namespace CatalogDesk

variable {d : CatalogDesk} {formType feeCode amount : String} {asOf : Instant}

theorem ask_eq_ok_iff {α : Type} {lookup : CatalogLookup} {answer a : α} :
    d.ask lookup answer = .ok a ↔ lookup ∉ d.down ∧ a = answer := by
  rw [ask]
  split
  · next h => exact iff_of_false (by simp) fun hup => hup.1 h
  · next h => rw [Except.ok.injEq, eq_comm, iff_and_self]; exact fun _ => h

/-- The fee, by the fee code of the form type. -/
theorem resolveFee_eq_ok_iff {fee : FeeResolution} :
    d.resolveFee formType asOf = .ok fee ↔ CatalogLookup.form ∉ d.down ∧
      match d.catalog.feeCode? formType with
      | none => fee = .notApplicable
      | some feeCode => CatalogLookup.payments ∉ d.down ∧
          fee = .ofTemplate feeCode (d.catalog.activeAsOf feeCode asOf) := by
  rw [resolveFee, form?, bind_eq_ok]
  simp only [ask_eq_ok_iff, Catalog.feeCode?]
  cases hcode : (d.catalog.form? formType).bind FormTemplate.feeCode? with
  | none =>
    constructor
    · rintro ⟨form, ⟨hform, rfl⟩, h⟩
      rw [hcode] at h
      exact ⟨hform, (Except.ok.inj h).symm⟩
    · rintro ⟨hform, rfl⟩
      refine ⟨_, ⟨hform, rfl⟩, ?_⟩
      rw [hcode]
      rfl
  | some feeCode =>
    constructor
    · rintro ⟨form, ⟨hform, rfl⟩, h⟩
      rw [hcode] at h
      obtain ⟨t, ht, hfee⟩ := bind_eq_ok.1 h
      obtain ⟨hpayments, rfl⟩ := ask_eq_ok_iff.1 ht
      exact ⟨hform, hpayments, (Except.ok.inj hfee).symm⟩
    · rintro ⟨hform, hpayments, rfl⟩
      refine ⟨_, ⟨hform, rfl⟩, ?_⟩
      rw [hcode]
      exact bind_eq_ok.2 ⟨_, ask_eq_ok_iff.2 ⟨hpayments, rfl⟩, rfl⟩

/-- Only the templates of the fee code of the form type count. -/
theorem resolveFee_congr_feeCode {forms : Index FormTemplate} {ts ts' : List PaymentTemplate}
    (down : List CatalogLookup)
    (h : ∀ feeCode, (Catalog.mk forms ts).feeCode? formType = some feeCode →
      selectActive ts' feeCode asOf = selectActive ts feeCode asOf) :
    (CatalogDesk.mk ⟨forms, ts'⟩ down).resolveFee formType asOf =
      (CatalogDesk.mk ⟨forms, ts⟩ down).resolveFee formType asOf := by
  simp only [resolveFee, form?, ask, Catalog.form?, Catalog.activeAsOf]
  split
  · rfl
  · dsimp only [bind, Except.bind]
    split
    · rfl
    · next feeCode hcode => rw [h feeCode hcode]

/-- What is answered tells of the template in force: whether there is one, and what its first item
says. -/
theorem of_resolveFee {fee : FeeResolution} (h : d.resolveFee formType asOf = .ok fee) :
    fee.templateFound = (d.catalog.templateInForce? formType asOf).isSome ∧
      fee.storedAmount =
        (d.catalog.templateInForce? formType asOf).bind FeeResolution.rawAmount? := by
  obtain ⟨-, h⟩ := resolveFee_eq_ok_iff.1 h
  rw [Catalog.templateInForce?]
  cases hcode : d.catalog.feeCode? formType with
  | none =>
    rw [hcode] at h
    obtain rfl := h
    exact ⟨rfl, rfl⟩
  | some feeCode =>
    rw [hcode] at h
    obtain ⟨-, rfl⟩ := h
    rw [Option.bind_some]
    cases d.catalog.activeAsOf feeCode asOf with
    | none => exact ⟨rfl, rfl⟩
    | some t =>
      rw [FeeResolution.ofTemplate, Option.bind_some]
      cases hraw : FeeResolution.rawAmount? t with
      | none => exact ⟨rfl, rfl⟩
      | some amount =>
        dsimp only
        split <;> exact ⟨rfl, rfl⟩

/-- **There is an amount exactly where the form type has a fee code, a template is in force, and its
first item names a number.** -/
theorem resolveFee_eq_due_iff :
    d.resolveFee formType asOf = .ok (.due feeCode amount) ↔
      (CatalogLookup.form ∉ d.down ∧ CatalogLookup.payments ∉ d.down) ∧
      d.catalog.feeCode? formType = some feeCode ∧
      ∃ t, PaymentTemplate.LastStarted d.catalog.payments feeCode asOf t ∧ t.Prices amount := by
  rw [resolveFee_eq_ok_iff]
  simp only [← PaymentTemplate.selectActive_eq_some_iff_lastStarted]
  cases hcode : d.catalog.feeCode? formType with
  | none => simp
  | some code =>
    dsimp only
    rw [eq_comm (a := FeeResolution.due feeCode amount), FeeResolution.ofTemplate_eq_due_iff,
      Option.some.injEq]
    constructor
    · rintro ⟨hform, hpayments, rfl, t, ht, hprices⟩
      exact ⟨⟨hform, hpayments⟩, rfl, t, ht, hprices⟩
    · rintro ⟨⟨hform, hpayments⟩, rfl, t, ht, hprices⟩
      exact ⟨hform, hpayments, rfl, t, ht, hprices⟩

end CatalogDesk

namespace PaymentTemplate

open Catalog (standardPayment standardPayments)

/-- How prices follow one another.

* Nothing is in force exactly as long as no template of the fee code has started; and what is in
  force is the template that started last, the last in the list of those that started together.
* A fee does not change when templates are put in anywhere that start later or have another fee
  code.
* It does not change either when templates are put in another order, if no two of them have the same
  fee code and start.
* The fee tells of the template in force; and from any instant to a later one, the start of that
  template never moves back.
* There is an amount exactly where the form is registered with a fee code that is not blank, a
  template is in force, and the amount of its first item, trimmed, is a number. -/
theorem prevailing (ts : List PaymentTemplate) :
    (∀ feeCode asOf,
      (selectActive ts feeCode asOf = none ↔ ∀ t ∈ ts, ¬StartedFor feeCode asOf t) ∧
      ∀ t, selectActive ts feeCode asOf = some t ↔ LastStarted ts feeCode asOf t) ∧
    ∀ (forms : Index FormTemplate) (down : List CatalogLookup) (formType : String)
      (asOf : Instant),
      (∀ ts',
        WithMore (fun t => asOf < t.activeFrom ∨
          (Catalog.mk forms ts).feeCode? formType ≠ some t.feeCode) ts ts' →
        (CatalogDesk.mk ⟨forms, ts'⟩ down).resolveFee formType asOf =
          (CatalogDesk.mk ⟨forms, ts⟩ down).resolveFee formType asOf) ∧
      (∀ ts', (ts.map key).Nodup → ts.Perm ts' →
        (CatalogDesk.mk ⟨forms, ts'⟩ down).resolveFee formType asOf =
          (CatalogDesk.mk ⟨forms, ts⟩ down).resolveFee formType asOf) ∧
      (∀ fee, (CatalogDesk.mk ⟨forms, ts⟩ down).resolveFee formType asOf = .ok fee →
        let inForce := (Catalog.mk forms ts).templateInForce? formType asOf
        fee.templateFound = inForce.isSome ∧
          fee.storedAmount = inForce.bind FeeResolution.rawAmount?) ∧
      (∀ later t, asOf ≤ later →
        (Catalog.mk forms ts).templateInForce? formType asOf = some t →
        ∃ t', (Catalog.mk forms ts).templateInForce? formType later = some t' ∧
          t.activeFrom ≤ t'.activeFrom) ∧
      ∀ feeCode amount,
        (CatalogDesk.mk ⟨forms, ts⟩ down).resolveFee formType asOf = .ok (.due feeCode amount) ↔
          (CatalogLookup.form ∉ down ∧ CatalogLookup.payments ∉ down) ∧
          (∃ form raw, forms.find? (Text.trim formType) = some form ∧ form.feeCode = some raw ∧
            Text.isBlankText raw = false ∧ feeCode = Text.trim raw) ∧
          ∃ t, LastStarted ts feeCode asOf t ∧
            ∃ item, t.items.head? = some item ∧ amount = Text.trim item.amount ∧
              (Decimal.ofText? amount).isSome := by
  refine ⟨fun feeCode asOf =>
    ⟨selectActive_eq_none_iff, fun t => selectActive_eq_some_iff_lastStarted⟩,
    fun forms down formType asOf => ⟨?_, ?_, ?_, ?_, ?_⟩⟩
  · intro ts' hmore
    refine CatalogDesk.resolveFee_congr_feeCode down fun feeCode hcode => ?_
    refine selectActive_withMore hmore fun t hidle hstarted => ?_
    rcases hidle with hfuture | hother
    · exact Instant.not_le.2 hfuture hstarted.2
    · exact hother (by rw [hcode, hstarted.1])
  · intro ts' hnodup hperm
    exact CatalogDesk.resolveFee_congr_feeCode down fun _ _ => selectActive_perm hnodup hperm
  · intro fee h
    exact CatalogDesk.of_resolveFee h
  · intro later t hle h
    rw [Catalog.templateInForce?, Option.bind_eq_some_iff] at h
    obtain ⟨feeCode, hcode, ht⟩ := h
    obtain ⟨t', ht', hstart⟩ := selectActive_mono hle ht
    exact ⟨t', by rw [Catalog.templateInForce?, hcode]; exact ht', hstart⟩
  · intro feeCode amount
    rw [CatalogDesk.resolveFee_eq_due_iff, Catalog.feeCode?_eq_some_iff]
    rfl

/-- The prices of the standard catalog with two more among them: one to come, and one of another fee
code. -/
def withTwoMore : List PaymentTemplate :=
  standardPayment "DS01" ⟨2030, 1, 1⟩ "40" "Striking off application" ::
    (standardPayments ++ [standardPayment "CC01" ⟨2024, 5, 1⟩ "12" "Restriction on the articles"])

theorem prevailing_standard :
    let forms := Catalog.standard.forms
    let june := Instant.startOfDay ⟨2024, 6, 1⟩
    let fee (ts : List PaymentTemplate) :=
      (CatalogDesk.mk ⟨forms, ts⟩ []).resolveFee " DS01" june
    LastStarted standardPayments "DS01" june
      (standardPayment "DS01" ⟨2024, 5, 1⟩ "33" "Striking off application") ∧
    fee withTwoMore = fee standardPayments ∧ fee standardPayments.reverse = fee standardPayments ∧
    (∃ t, (Catalog.mk forms standardPayments).templateInForce? " DS01"
        (.startOfDay ⟨2024, 7, 1⟩) = some t ∧ Instant.startOfDay ⟨2024, 5, 1⟩ ≤ t.activeFrom) ∧
    fee standardPayments = .ok (.due "DS01" "33") := by
  intro forms june fee
  obtain ⟨hselect, hfee⟩ := prevailing standardPayments
  obtain ⟨hmore, hperm, -, hlater, hdue⟩ := hfee forms [] " DS01" june
  have hcurrent := ((hselect "DS01" june).2
    (standardPayment "DS01" ⟨2024, 5, 1⟩ "33" "Striking off application")).1 (by decide +kernel)
  refine ⟨hcurrent, hmore _ ?_, hperm _ (by decide +kernel) (List.reverse_perm _).symm, ?_, ?_⟩
  · refine .add _ (.inl (by decide +kernel)) ?_
    exact .keep _ (.keep _ (.keep _ (.add _ (.inr (by decide +kernel)) .nil)))
  · exact hlater _ (standardPayment "DS01" ⟨2024, 5, 1⟩ "33" "Striking off application")
      (by decide +kernel) (by decide +kernel)
  · exact (hdue "DS01" "33").2 ⟨by simp, ⟨_, "DS01", rfl, rfl, by decide, by decide +kernel⟩, _,
      hcurrent, _, rfl, by decide +kernel, by decide +kernel⟩

end PaymentTemplate

end Filing
