import Filing.Proofs.Office.Regular

/-!
# Batches

An operation for each of many submissions is a loop over their identifiers, each of which has its
turn.  The submissions are those at one status, of which the store has each one once; it may list
them in any order.

* `Store.idsAt` — the identifiers of the submissions at a status, with `Store.mem_idsAt`;
* `Office.Reordered` — the same office, whose store lists its submissions in another order;
* `Office.MidBatch` — what is true while a batch is under way;
* `Office.each_midBatch` — **the rule for batches**: what one turn makes of a submission is made of
  all of them.
-/

set_option autoImplicit false

namespace Filing

open Act

/-! ## The submissions at a status -/

namespace Store

variable {store store' : Store} {status : Status} {id : String}

/-- The identifiers of the submissions at a status. -/
def idsAt (store : Store) (status : Status) : List String :=
  (store.records.filter (·.status = status)).map (·.id)

theorem nodup_idsAt (store : Store) (status : Status) : (store.idsAt status).Nodup :=
  store.nodup.sublist (List.filter_sublist.map _)

theorem mem_idsAt : id ∈ store.idsAt status ↔ ∃ s, store.find? id = some s ∧ s.status = status := by
  rw [idsAt, List.mem_map]
  constructor
  · rintro ⟨s, hs, rfl⟩
    obtain ⟨hmem, hstatus⟩ := List.mem_filter.1 hs
    exact ⟨s, find?_of_mem hmem, of_decide_eq_true hstatus⟩
  · rintro ⟨s, hs, hstatus⟩
    exact ⟨s, List.mem_filter.2 ⟨mem_of_find? hs, decide_eq_true hstatus⟩, id_of_find? hs⟩

/-- Where the same submissions are found, the same ones are at a status. -/
theorem idsAt_perm (h : ∀ id, store'.find? id = store.find? id) (status : Status) :
    (store'.idsAt status).Perm (store.idsAt status) := by
  refine (List.perm_ext_iff_of_nodup (nodup_idsAt _ _) (nodup_idsAt _ _)).2 fun id => ?_
  rw [mem_idsAt, mem_idsAt, h]

/-- Whatever a list of the submissions at a status prefers, it has each of them once. -/
theorem perm_byStatus (store : Store) (status : Status) (preferred : Submission → Bool) :
    ((store.byStatus status preferred).map (·.id)).Perm (store.idsAt status) :=
  (List.mergeSort_perm _ _).map _

/-- The order in which a store lists its submissions does not matter to who looks one up. -/
theorem find?_eq_of_perm (h : store'.records.Perm store.records) (id : String) :
    store'.find? id = store.find? id := by
  cases hs : store.find? id with
  | none =>
    rw [find?_eq_none] at hs ⊢
    rwa [(h.map (·.id)).mem_iff]
  | some s =>
    obtain rfl := id_of_find? hs
    exact find?_of_mem (h.mem_iff.2 (mem_of_find? hs))

end Store

namespace Office

/-! ## The order of the store -/

/-- The same office, whose store lists the same submissions in another order. -/
structure Reordered (o o' : Office) : Prop where
  records : o'.store.records.Perm o.store.records
  rest : o' = { o with store := o'.store }

variable {o o' : Office}

theorem Reordered.sameAround (h : o.Reordered o') : o.SameAround o' := by
  rw [h.rest]
  exact ⟨rfl, rfl, rfl, rfl⟩

theorem Reordered.refl (o : Office) : o.Reordered o :=
  ⟨.refl _, rfl⟩

theorem Reordered.withClock (h : o.Reordered o') (now : Instant) :
    Reordered { o with clock := now } { o' with clock := now } := by
  refine ⟨h.records, ?_⟩
  rw [h.rest]

theorem Reordered.idsAt (h : o.Reordered o') (status : Status) :
    (o'.store.idsAt status).Perm (o.store.idsAt status) :=
  (h.records.filter _).map _

theorem Reordered.perm_byStatus (h : o.Reordered o') (status : Status)
    (preferred : Submission → Bool) :
    ((o'.store.byStatus status preferred).map (·.id)).Perm (o.store.idsAt status) :=
  (o'.store.perm_byStatus status preferred).trans (h.idsAt status)

theorem Reordered.find?_eq (h : o.Reordered o') (id : String) :
    o'.store.find? id = o.store.find? id :=
  Store.find?_eq_of_perm h.records id

/-! ## The rule for batches -/

/-- What is made of one submission by its turn. -/
structure Turn (made : Submission → Submission → Prop) (o : Office) (id : String) (o' : Office) :
    Prop where
  around : o.SameAround o'
  made : ∃ s t, o.store.find? id = some s ∧ made s t ∧ o'.store.find? id = some t
  others : ∀ id', id' ≠ id → o'.store.find? id' = o.store.find? id'

/-- While a batch is under way, something was made of those that had their turn, and everything else
is as it was. -/
structure MidBatch (made : Submission → Submission → Prop) (o : Office) (done : List String)
    (o' : Office) : Prop where
  around : o.SameAround o'
  made : ∀ id ∈ done, ∃ s t, o.store.find? id = some s ∧ made s t ∧ o'.store.find? id = some t
  others : ∀ id, id ∉ done → o'.store.find? id = o.store.find? id

variable {made : Submission → Submission → Prop} {o₁ o₂ : Office} {id : String}
  {done ids : List String} {status : Status}

theorem Reordered.midBatch (h : o.Reordered o₁) : MidBatch made o [] o₁ :=
  ⟨h.sameAround, fun _ hid => absurd hid List.not_mem_nil, fun id _ => h.find?_eq id⟩

/-- What was made of a submission that is known. -/
theorem MidBatch.made_of_find? (h : o.MidBatch made done o₁) (hid : id ∈ done) {s : Submission}
    (hs : o.store.find? id = some s) : ∃ t, made s t ∧ o₁.store.find? id = some t := by
  obtain ⟨s', t, hs', ht, hfound⟩ := h.made id hid
  obtain rfl := Option.some.inj (hs.symm.trans hs')
  exact ⟨t, ht, hfound⟩

theorem MidBatch.turn (h : o.MidBatch made done o₁) (hturn : o₁.Turn made id o₂)
    (hfresh : id ∉ done) : o.MidBatch made (done ++ [id]) o₂ where
  around := h.around.trans hturn.around
  made id' hid' := by
    obtain hid' | hid' := List.mem_append.1 hid'
    · obtain ⟨s, t, hs, ht, hfound⟩ := h.made id' hid'
      refine ⟨s, t, hs, ht, ?_⟩
      rw [hturn.others id' fun heq => hfresh (heq ▸ hid'), hfound]
    · obtain rfl := List.mem_singleton.1 hid'
      obtain ⟨s, t, hs, ht, hfound⟩ := hturn.made
      exact ⟨s, t, (h.others id' hfresh).symm.trans hs, ht, hfound⟩
  others id' hid' := by
    rw [List.mem_append, List.mem_singleton, not_or] at hid'
    rw [hturn.others id' hid'.2, h.others id' hid'.1]

/-- Where nothing that is made is at a status, those at the status are those that had no turn. -/
theorem MidBatch.mem_idsAt (h : o.MidBatch made done o')
    (hmade : ∀ s t, made s t → t.status ≠ status) :
    id ∈ o'.store.idsAt status ↔ id ∈ o.store.idsAt status ∧ id ∉ done := by
  rw [Store.mem_idsAt, Store.mem_idsAt]
  by_cases hid : id ∈ done
  · obtain ⟨s, t, -, ht, hfound⟩ := h.made id hid
    simp [hid, hfound, hmade s t ht]
  · rw [h.others id hid]
    simp [hid]

/-- Where nothing that is made changes its status, the same submissions are at a status. -/
theorem MidBatch.idsAt_perm (h : o.MidBatch made done o')
    (hmade : ∀ s t, made s t → t.status = s.status) (status : Status) :
    (o'.store.idsAt status).Perm (o.store.idsAt status) := by
  refine (List.perm_ext_iff_of_nodup (o'.store.nodup_idsAt _)
    (o.store.nodup_idsAt _)).2 fun id => ?_
  rw [Store.mem_idsAt, Store.mem_idsAt]
  by_cases hid : id ∈ done
  · obtain ⟨s, t, hs, ht, hfound⟩ := h.made id hid
    simp [hs, hfound, hmade s t ht]
  · rw [h.others id hid]

section
variable {α : Type} {operation : String → Act Refusal α} {note : String → BatchReport → BatchReport}
  {Also : List String → Office → Prop}
  (hturn : ∀ done id o₁, o.MidBatch made done o₁ → Also done o₁ → id ∉ done →
    id ∈ o₁.store.idsAt status →
      (∀ report, BatchReport.record id (operation id o₁).1 report = note id report) ∧
        o₁.Turn made id (operation id o₁).2 ∧ Also (done ++ [id]) (operation id o₁).2)
include hturn

/-- The rest of a batch that is under way. -/
theorem each_midBatch_append (hids : (done ++ ids).Nodup)
    (hstatus : ∀ id ∈ ids, id ∈ o.store.idsAt status) (h : o.MidBatch made done o₁)
    (halso : Also done o₁) :
    ∃ o', each operation ids o₁ = (.ok (ids.foldr note .empty), o') ∧
      o.MidBatch made (done ++ ids) o' ∧ Also (done ++ ids) o' := by
  induction ids generalizing done o₁ with
  | nil =>
    rw [List.append_nil]
    exact ⟨o₁, rfl, h, halso⟩
  | cons id rest ih =>
    have hfresh : id ∉ done := fun hid =>
      (List.nodup_append.1 hids).2.2 id hid id List.mem_cons_self rfl
    have hid : id ∈ o₁.store.idsAt status := by
      rw [Store.mem_idsAt, h.others id hfresh, ← Store.mem_idsAt]
      exact hstatus id List.mem_cons_self
    obtain ⟨hnote, hthis, halso'⟩ := hturn done id o₁ h halso hfresh hid
    have happend : done ++ id :: rest = done ++ [id] ++ rest := List.append_cons done id rest
    rw [happend] at hids ⊢
    obtain ⟨o', hrest, hend⟩ := ih hids (fun id' hid' => hstatus id' (List.mem_cons_of_mem _ hid'))
      (h.turn hthis hfresh) halso'
    refine ⟨o', ?_, hend⟩
    rw [each_cons hrest, hnote, List.foldr_cons]

/-- **The rule for batches.**  Take a batch of submissions at a status.  What a turn makes of one of
them is made of all of them, and nothing else is changed; what else is true while the batch is under
way, and is kept by every turn, is true at its end.  The report has one note for each, as long as it
can be told beforehand what a turn is noted as. -/
theorem each_midBatch (hids : ids.Nodup) (hstatus : ∀ id ∈ ids, id ∈ o.store.idsAt status)
    (h : o.Reordered o₁) (halso : Also [] o₁) :
    ∃ o', each operation ids o₁ = (.ok (ids.foldr note .empty), o') ∧ o.MidBatch made ids o' ∧
      Also ids o' := by
  have hstart : ([] ++ ids).Nodup := hids
  exact each_midBatch_append hturn hstart hstatus h.midBatch halso

end

/-- The note on a turn that has succeeded. -/
def noteProcessed (id : String) (report : BatchReport) : BatchReport :=
  { report with processed := id :: report.processed }

/-- The note on a turn that was refused. -/
def noteFailed (reason id : String) (report : BatchReport) : BatchReport :=
  { report with failed := (id, reason) :: report.failed }

/-- The report on a batch of which every turn has succeeded. -/
theorem foldr_noteProcessed (ids : List String) : ids.foldr noteProcessed .empty = ⟨ids, []⟩ := by
  induction ids with
  | nil => rfl
  | cons id rest ih =>
    rw [List.foldr_cons, ih]
    rfl

/-- The report on a batch of which every turn was refused, for one reason. -/
theorem foldr_noteFailed (reason : String) (ids : List String) :
    ids.foldr (noteFailed reason) .empty = ⟨[], ids.map (·, reason)⟩ := by
  induction ids with
  | nil => rfl
  | cons id rest ih =>
    rw [List.foldr_cons, ih]
    rfl

end Office

end Filing
