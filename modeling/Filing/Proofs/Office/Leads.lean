import Filing.Proofs.Office.Reach

/-!
# From one office to a later one

What operations make of an office over time, with changes around it from one operation to the next.
How much may change there is a relation of its own, so that a result can ask for a catalog that stays
the same, or for nothing but the store.

* `Office.SameStore`, `Office.SameCatalog` — what may happen between two operations;
* `Office.Leads` — the offices that come about later, with `Office.Leads.run`;
* `Office.Leads.invariant` — **what every change keeps holds of every later office**;
* `Office.Leads.find?_kept` — a stored submission stays stored, and **what every move of it keeps
  holds of what is stored of it later on**;
* `Submission.KeptOver` — a property of submissions that every change keeps while the catalog stays
  the same, with `Office.Leads.keptOver`.
-/

set_option autoImplicit false

namespace Filing

namespace Office

/-! ## Between operations -/

/-- Everything but the store may have changed, and still nobody else writes into it. -/
structure SameStore (o o' : Office) : Prop where
  store : o'.store = o.store
  undisturbed : o'.Undisturbed

/-- Everything but the store and the catalog may have changed.  A look-up may be out of order. -/
structure SameCatalog (o o' : Office) : Prop extends SameStore o o' where
  catalog : o'.desk.catalog = o.desk.catalog

/-! ## Later offices -/

/-- The offices that operations lead to from an office, with changes of some kind between them. -/
inductive Leads (between : Office → Office → Prop) (o : Office) : Office → Prop
  | refl : Leads between o o
  | between {o₁ o₂} (h : Leads between o o₁) (ho : between o₁ o₂) : Leads between o o₂
  | step {o₁} (h : Leads between o o₁) (now : Instant) (operation : Operation) :
      Leads between o (o₁.step now operation).2

namespace Leads

variable {between : Office → Office → Prop} {o o₁ o₂ : Office}

theorem trans (h : Leads between o o₁) (h' : Leads between o₁ o₂) : Leads between o o₂ := by
  induction h' with
  | refl => exact h
  | between _ ho ih => exact .between ih ho
  | step _ now operation ih => exact .step ih now operation

theorem run (h : Leads between o o₁) (operations : List (Instant × Operation)) :
    Leads between o (o₁.run operations) := by
  induction operations generalizing o₁ with
  | nil => exact h
  | cons operation rest ih => exact ih (.step h operation.1 operation.2)

/-- **What every change keeps holds of every later office.** -/
theorem invariant {P : Office → Prop} (hundisturbed : ∀ o, P o → o.Undisturbed)
    (hbetween : ∀ o o', P o → between o o' → P o')
    (hclock : ∀ o now, P o → P { o with clock := now })
    (heffect : ∀ o o', P o → Effect (fun _ => True) o o' → P o')
    (h : Leads between o o₁) (ho : P o) : P o₁ := by
  induction h with
  | refl => exact ho
  | between _ h ih => exact hbetween _ _ ih h
  | @step o₂ _ now operation ih =>
    have hworks := step_works (hundisturbed o₂ ih) now operation
    have hstart : P { o₂ with clock := now } := hclock o₂ now ih
    generalize (o₂.step now operation).2 = o₃ at hworks ⊢
    induction hworks with
    | refl => exact hstart
    | tail _ he ih => exact heffect _ _ ih he

theorem mono {between' : Office → Office → Prop} (hm : ∀ o o', between o o' → between' o o')
    (h : Leads between o o₁) : Leads between' o o₁ := by
  induction h with
  | refl => exact .refl
  | between _ ho ih => exact .between ih (hm _ _ ho)
  | step _ now operation ih => exact .step ih now operation

theorem undisturbed (h : Leads SameStore o o₁) (ho : o.Undisturbed) : o₁.Undisturbed :=
  h.invariant (fun _ h => h) (fun _ _ _ h => h.undisturbed) (fun _ _ h => h)
    (fun _ _ h he => he.undisturbed h) ho

/-- What comes later is reachable as well. -/
theorem reachable (h : Leads SameStore o o₁) (ho : o.Reachable) : o₁.Reachable := by
  induction h with
  | refl => exact ho
  | between _ hbetween ih => exact ih.around hbetween.store hbetween.undisturbed
  | step _ now operation ih => exact ih.step now operation

end Leads

/-! ## A stored submission later on -/

variable {o o' : Office} {s : Submission} {id : String}

/-- A change leaves a stored submission as it is, or it is a move of it. -/
theorem Effect.find?_moved {may : String → Prop} (h : Effect may o o')
    (hs : o.store.find? id = some s) :
    ∃ t, o'.store.find? id = some t ∧ (t = s ∨ ∃ u, Move o s u ∧ t = u.stored s.version) := by
  cases h with
  | beside h => exact ⟨s, by rw [h.store, hs], .inl rfl⟩
  | @created r reference presenter hr hid hfree =>
    refine ⟨s, ?_, .inl rfl⟩
    rw [Store.find?_append, if_neg, hs]
    rintro rfl
    rw [hfree] at hs
    cases hs
  | @moved r t hid hr hmove =>
    rw [Store.find?_put]
    by_cases hsame : id = (t.stored r.version).id
    · -- the record that is written is the one that was looked up
      have hrs : r = s := by
        rw [hsame, show (t.stored r.version).id = t.id from rfl, hmove.sameOrigin.id, hr] at hs
        exact Option.some.inj hs
      subst hrs
      rw [if_pos hsame, hs]
      exact ⟨t.stored r.version, rfl, .inr ⟨t, hmove, rfl⟩⟩
    · rw [if_neg hsame]
      exact ⟨s, hs, .inl rfl⟩

/-- **A stored submission stays stored, and what every move of it keeps holds of it later on.** -/
theorem Leads.find?_kept {P : Submission → Prop}
    (hmoved : ∀ {o t u}, P t → Move o t u → P (u.stored t.version))
    (h : Leads SameStore o o') (ho : o.Undisturbed) (hs : o.store.find? id = some s) (hP : P s) :
    ∃ t, o'.store.find? id = some t ∧ P t := by
  let Kept (o : Office) : Prop := o.Undisturbed ∧ ∃ t, o.store.find? id = some t ∧ P t
  have hkept : Kept o' := by
    refine h.invariant (P := Kept) (fun _ h => h.1) ?_ (fun _ _ h => h) ?_ ⟨ho, s, hs, hP⟩
    · rintro o₁ o₂ ⟨-, hfound⟩ hbetween
      refine ⟨hbetween.undisturbed, ?_⟩
      rw [hbetween.store]
      exact hfound
    · rintro o₁ o₂ ⟨hundisturbed, t, ht, hP⟩ heffect
      refine ⟨heffect.undisturbed hundisturbed, ?_⟩
      rcases heffect.find?_moved ht with ⟨u, hu, rfl | ⟨v, hmove, rfl⟩⟩
      · exact ⟨u, hu, hP⟩
      · exact ⟨_, hu, hmoved hP hmove⟩
  exact hkept.2

end Office

/-! ## Invariants of submissions over a catalog -/

/-- A property that a fresh submission has and that every move keeps that goes by the given
catalog, whatever version the record gets when it is stored. -/
structure Submission.KeptOver (catalog : Catalog) (P : Submission → Prop) : Prop where
  opened : ∀ id reference presenter now, P (.opened id reference presenter now)
  moved : ∀ {o s t}, o.desk.catalog = catalog → P s → Move o s t → P t
  stored : ∀ {t} version, P t → P (t.stored version)

/-- **A property that every change over a catalog keeps holds of every stored submission.** -/
theorem Office.Leads.keptOver {catalog : Catalog} {P : Submission → Prop}
    (hP : Submission.KeptOver catalog P) {o o' : Office} (h : Leads SameCatalog o o')
    (hstore : o.store = .empty) (ho : o.Undisturbed) (hcatalog : o.desk.catalog = catalog) :
    o'.desk.catalog = catalog ∧ ∀ s ∈ o'.store.records, P s := by
  let Good (o : Office) : Prop :=
    o.Undisturbed ∧ o.desk.catalog = catalog ∧ ∀ s ∈ o.store.records, P s
  have hgood : Good o' := by
    refine h.invariant (P := Good) (fun _ h => h.1) ?_ (fun _ _ h => h) ?_ ⟨ho, hcatalog, ?_⟩
    · rintro o₁ o₂ ⟨-, hcatalog, hall⟩ hbetween
      refine ⟨hbetween.undisturbed, hbetween.catalog.trans hcatalog, ?_⟩
      rw [hbetween.store]
      exact hall
    · rintro o₁ o₂ ⟨hundisturbed, hcatalog, hall⟩ heffect
      refine ⟨heffect.undisturbed hundisturbed, by rw [heffect.desk_eq, hcatalog], ?_⟩
      intro s hs
      obtain hs | ⟨reference, presenter, hfresh⟩ | ⟨r, hr, t, hmove, rfl⟩ :=
        heffect.mem_records hs
      · exact hall s hs
      · rw [hfresh]
        exact hP.opened _ _ _ _
      · exact hP.stored _ (hP.moved hcatalog (hall r hr) hmove)
    · intro s hs
      rw [hstore] at hs
      cases hs
  exact hgood.2

end Filing
