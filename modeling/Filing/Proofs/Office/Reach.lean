import Filing.Proofs.Office.Work

/-!
# Offices that operations lead to

An office starts out with an empty store, and everything in the store is put there by operations.
Between operations everything else may change: the catalog, the clock, the settings, the mail, and
what is out of order.

* `Office.Reachable` — the offices that can come about in this way, with `Office.Reachable.run`;
* `Submission.Kept` — a property that a fresh submission has and that every change keeps;
* `Office.Reachable.kept` — **such a property holds of every stored submission**.

A batch whose parts read the clock at different times is a run of its parts, so nothing is lost by
giving every operation one instant of its own.
-/

set_option autoImplicit false

namespace Filing

/-! ## The records of a store after a change -/

namespace Store

variable {store : Store} {r s : Submission}

theorem mem_records_append (h : store.find? r.id = none) (hs : s ∈ (store.append r h).records) :
    s ∈ store.records ∨ s = r := by
  have hs : s ∈ store.records ++ [r] := hs
  rwa [List.mem_append, List.mem_singleton] at hs

theorem mem_records_put (hs : s ∈ (store.put r).records) : s ∈ store.records ∨ s = r := by
  obtain ⟨s', hs', rfl⟩ := List.mem_map.1 hs
  by_cases hid : s'.id = r.id
  · rw [if_pos hid]
    exact Or.inr rfl
  · rw [if_neg hid]
    exact Or.inl hs'

/-- The place of a record: no other one has its identifier. -/
theorem exists_split (hs : s ∈ store.records) :
    ∃ before after, store.records = before ++ s :: after ∧
      ∀ x ∈ before ++ after, x.id ≠ s.id := by
  obtain ⟨before, after, hsplit⟩ := List.append_of_mem hs
  have hnodup := store.nodup
  rw [hsplit, List.map_append, List.map_cons, List.perm_middle.nodup_iff, List.nodup_cons,
    ← List.map_append] at hnodup
  exact ⟨before, after, hsplit, fun x hx hid => hnodup.1 (hid ▸ List.mem_map_of_mem hx)⟩

/-- The new record stands where the old one was. -/
theorem records_put (hs : store.find? r.id = some s) :
    ∃ before after, store.records = before ++ s :: after ∧
      (store.put r).records = before ++ r :: after := by
  obtain ⟨before, after, hsplit, hother⟩ := exists_split (mem_of_find? hs)
  have hsid := id_of_find? hs
  rw [hsid] at hother
  have hkept (l : List Submission) (hl : ∀ x ∈ l, x.id ≠ r.id) :
      (l.map fun x => if x.id = r.id then r else x) = l := by
    rw [List.map_congr_left fun x hx => if_neg (hl x hx), List.map_id']
  refine ⟨before, after, hsplit, ?_⟩
  have hput : (store.put r).records =
      store.records.map fun x => if x.id = r.id then r else x := rfl
  rw [hput, hsplit, List.map_append, List.map_cons, if_pos hsid,
    hkept before fun x hx => hother x (List.mem_append_left _ hx),
    hkept after fun x hx => hother x (List.mem_append_right _ hx)]

end Store

/-- After a change every record is an old one, a fresh one, or what a move has made of an old one. -/
theorem Office.Effect.mem_records {may : String → Prop} {o o' : Office} (h : Effect may o o')
    {s : Submission} (hs : s ∈ o'.store.records) :
    s ∈ o.store.records ∨
      (∃ reference presenter, s = .opened s.id reference presenter o.clock) ∨
      ∃ r ∈ o.store.records, ∃ t, Move o r t ∧ s = t.stored r.version := by
  cases h with
  | beside h =>
    rw [h.store] at hs
    exact Or.inl hs
  | @created r reference presenter hr hid hfree =>
    obtain hs | rfl := Store.mem_records_append hfree hs
    · exact Or.inl hs
    · exact Or.inr (Or.inl ⟨reference, presenter, hr⟩)
  | @moved r t hid hfind hmove =>
    obtain hs | rfl := Store.mem_records_put hs
    · exact Or.inl hs
    · exact Or.inr (Or.inr ⟨r, Store.mem_of_find? hfind, t, hmove, rfl⟩)

/-! ## Reachable offices -/

/-- An office that operations lead to from an empty store.  Between two operations everything but
the store may change. -/
inductive Office.Reachable : Office → Prop
  | start {o} (hstore : o.store = .empty) (ho : o.Undisturbed) : Reachable o
  | around {o o'} (h : Reachable o) (hstore : o'.store = o.store) (ho : o'.Undisturbed) :
      Reachable o'
  | step {o} (h : Reachable o) (now : Instant) (operation : Operation) :
      Reachable (o.step now operation).2

namespace Office.Reachable

/-- An office is reachable from its opening on. -/
theorem opened (catalog : Catalog) (settings : Settings) (ids : IdSupply) (clock : Instant) :
    (Office.opened catalog settings ids clock).Reachable :=
  .start rfl rfl

theorem undisturbed {o : Office} (h : o.Reachable) : o.Undisturbed := by
  induction h with
  | start _ ho => exact ho
  | around _ _ ho => exact ho
  | step _ now operation ih => exact (step_works ih now operation).undisturbed ih

theorem run {o : Office} (h : o.Reachable) (operations : List (Instant × Operation)) :
    (o.run operations).Reachable := by
  induction operations generalizing o with
  | nil => exact h
  | cons operation rest ih => exact ih (h.step operation.1 operation.2)

end Office.Reachable

/-! ## Invariants of submissions -/

/-- A property that a fresh submission has and that every move keeps, whatever version the record
gets when it is stored. -/
structure Submission.Kept (P : Submission → Prop) : Prop where
  opened : ∀ id reference presenter now, P (.opened id reference presenter now)
  moved : ∀ {o s t}, P s → Move o s t → P t
  stored : ∀ {t} version, P t → P (t.stored version)

namespace Submission.Kept

variable {P : Submission → Prop} {may : String → Prop} {o o' : Office}

theorem effect (hP : Kept P) (h : Office.Effect may o o') (ho : ∀ s ∈ o.store.records, P s) :
    ∀ s ∈ o'.store.records, P s := by
  intro s hs
  obtain hs | ⟨reference, presenter, hfresh⟩ | ⟨r, hr, t, hmove, rfl⟩ := h.mem_records hs
  · exact ho s hs
  · rw [hfresh]
    exact hP.opened _ _ _ _
  · exact hP.stored _ (hP.moved (ho r hr) hmove)

theorem works (hP : Kept P) (h : Office.Works may o o') (ho : ∀ s ∈ o.store.records, P s) :
    ∀ s ∈ o'.store.records, P s := by
  induction h with
  | refl => exact ho
  | tail _ he ih => exact hP.effect he ih

end Submission.Kept

/-- **What moves keep is kept by every operation but the opening of a submission.** -/
theorem Office.step_kept {P : Submission → Prop}
    (hmoved : ∀ {o s t}, P s → Move o s t → P (t.stored s.version)) {o : Office}
    (ho : o.Undisturbed) (now : Instant) {operation : Operation}
    (hother : ∀ presenter, operation ≠ .create presenter) (hall : ∀ s ∈ o.store.records, P s) :
    ∀ s ∈ (o.step now operation).2.store.records, P s := by
  have hworks := step_works_stored ho now hother
  have hstored : ∀ id, o.Stores id → Stores { o with clock := now } id := fun _ hid => hid
  have hstart : ∀ s ∈ ({ o with clock := now } : Office).store.records, P s := hall
  generalize (o.step now operation).2 = o' at hworks
  generalize ({ o with clock := now } : Office) = o₀ at hworks hstored hstart
  suffices hkept : (∀ id, o.Stores id → o'.Stores id) ∧ ∀ s ∈ o'.store.records, P s from hkept.2
  induction hworks with
  | refl => exact ⟨hstored, hstart⟩
  | tail _ he ih =>
    obtain ⟨hstored, hkept⟩ := ih
    cases he with
    | beside h =>
      simp only [Stores, h.store]
      exact ⟨hstored, hkept⟩
    | @created r reference presenter hr hid hfree =>
      -- what may be written is stored already
      have hfound := hstored _ hid
      rw [Stores, hfree] at hfound
      cases hfound
    | @moved s t hid hs hmove =>
      refine ⟨fun id hid => ?_, fun u hu => ?_⟩
      · have hfound := hstored id hid
        rw [Stores] at hfound ⊢
        rw [Store.find?_put]
        split
        · rwa [Option.isSome_map]
        · exact hfound
      · rcases Store.mem_records_put hu with hu | rfl
        · exact hkept u hu
        · exact hmoved (hkept s (Store.mem_of_find? hs)) hmove

/-- **A property that every change keeps holds of every stored submission.** -/
theorem Office.Reachable.kept {P : Submission → Prop} (hP : Submission.Kept P) {o : Office}
    (h : o.Reachable) : ∀ s ∈ o.store.records, P s := by
  induction h with
  | start hstore _ =>
    intro s hs
    rw [hstore] at hs
    cases hs
  | around _ hstore _ ih =>
    rw [hstore]
    exact ih
  | step h now operation ih =>
    exact hP.works (step_works h.undisturbed now operation) ih

end Filing
