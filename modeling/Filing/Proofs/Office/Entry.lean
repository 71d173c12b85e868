import Filing.Proofs.Office.Report

/-!
# An office at its regular work

An office is steady when its store answers, loses nothing, and nobody writes into it from the side.
The catalog, the barcodes, the loader and the mail may still fail.  Then everything that is done
comes down to entries in the store and in the books beside it: the barcodes that were drawn and the
records that were loaded.

* `Office.Steady` — the office at its regular work;
* `Office.Entry` — one write, with what it does to the books, and `Office.Entries`, a chain of them;
* `Act.Answers` — work on one submission whose answer is what is stored, with the rules for it.
-/

set_option autoImplicit false

namespace Filing

open Act

/-! ## Entries -/

namespace Submission

/-- The record of a submission that gets its barcode. -/
def labelled (s : Submission) (barcode : String) (now : Instant) : Submission :=
  ((s.updateForm ({ · with barcode := some barcode })).touch now).stored s.version

/-- The record of a submission that has been handed over. -/
def dispatched (s : Submission) (now : Instant) : Submission :=
  (({ s with status := .sentToFes } : Submission).touch now).stored s.version

end Submission

namespace Office

/-- The store answers and loses no save, nobody interferes, and no hand-over comes in while another
one is under way. -/
structure Steady (o : Office) : Prop extends Up o where
  alone : o.drill.reenter = none

/-- The office after a submission got the next barcode. -/
def label (o : Office) (s : Submission) : Office :=
  let (barcode, barcodes) := o.barcodes.next o.clock
  { o with store := o.store.put (s.labelled barcode o.clock), barcodes := barcodes }

/-- The office after a record was loaded, and the submission is marked as handed over. -/
def dispatch (o : Office) (s : Submission) (record : BatchRecord) : Office :=
  { o with store := o.store.put (s.dispatched o.clock), loaded := o.loaded ++ [record] }

/-- One write, with what it does to the books. -/
inductive Entry (o : Office) : Office → Prop
  | aside (ids : IdSupply) (sent refused : List Notification) :
      Entry o { o with ids := ids, sent := sent, refused := refused }
  | created {r : Submission} (reference : String) (presenter : Option Presenter)
      (hr : r = .opened r.id reference presenter o.clock) (h : o.store.find? r.id = none) :
      Entry o { o with store := o.store.append r h }
  | revised {s t : Submission} (hs : o.store.find? s.id = some s) (h : Move o s t)
      (hready : s.status ≠ .readyToSubmit) :
      Entry o { o with store := o.store.put (t.stored s.version) }
  | labelled {s : Submission} (hs : o.store.find? s.id = some s)
      (hready : s.status = .readyToSubmit) (hnone : s.barcode? = none) : Entry o (o.label s)
  | dispatched {s : Submission} {record : BatchRecord} (hs : o.store.find? s.id = some s)
      (hready : s.status = .readyToSubmit) (hrecord : BatchRecord.ofSubmission s = .ok record) :
      Entry o (o.dispatch s record)

/-- A chain of entries. -/
def Entries : Office → Office → Prop :=
  Relation.ReflTransGen Entry

variable {o o' : Office}

/-- The surroundings are the same: the catalog, the clock, the settings, and what is out of
order. -/
structure SameAround (o o' : Office) : Prop where
  desk : o'.desk = o.desk
  clock : o'.clock = o.clock
  settings : o'.settings = o.settings
  drill : o'.drill = o.drill

theorem SameAround.trans {o₁ : Office} (h : SameAround o o₁) (h' : SameAround o₁ o') :
    SameAround o o' :=
  ⟨h'.desk.trans h.desk, h'.clock.trans h.clock, h'.settings.trans h.settings,
    h'.drill.trans h.drill⟩

theorem Entry.sameAround (h : Entry o o') : SameAround o o' := by
  cases h <;> exact ⟨rfl, rfl, rfl, rfl⟩

/-- Entries leave the surroundings of the office as they are. -/
theorem Entries.sameAround (h : Entries o o') : SameAround o o' := by
  induction h with
  | refl => exact ⟨rfl, rfl, rfl, rfl⟩
  | tail _ he ih => exact ih.trans he.sameAround

theorem Steady.of_drill_eq (ho : o.Steady) (h : o'.drill = o.drill) : o'.Steady := by
  refine ⟨ho.toUp.of_drill_eq h, ?_⟩
  rw [h]
  exact ho.alone

theorem Entry.steady (h : Entry o o') (ho : o.Steady) : o'.Steady :=
  ho.of_drill_eq h.sameAround.drill

theorem Entries.steady (h : Entries o o') (ho : o.Steady) : o'.Steady :=
  ho.of_drill_eq h.sameAround.drill

theorem find?_label {s : Submission} (hs : o.store.find? s.id = some s) :
    (o.label s).store.find? s.id = some (s.labelled (o.barcodes.next o.clock).1 o.clock) := by
  let t := (s.updateForm ({ · with barcode := some (o.barcodes.next o.clock).1 })).touch o.clock
  have hid : t.id = s.id := rfl
  exact Store.find?_put_stored hs hid s.version

theorem find?_dispatch {s : Submission} (hs : o.store.find? s.id = some s)
    (record : BatchRecord) :
    (o.dispatch s record).store.find? s.id = some (s.dispatched o.clock) := by
  have hid : (({ s with status := .sentToFes } : Submission).touch o.clock).id = s.id := rfl
  exact Store.find?_put_stored hs hid s.version

/-- Nothing that is kept in the office has changed: no record and no mail. -/
structure LeftAlone (o o' : Office) : Prop where
  store : o'.store = o.store
  loaded : o'.loaded = o.loaded
  sent : o'.sent = o.sent
  refused : o'.refused = o.refused

end Office

/-! ## Answers -/

/-- Work on one submission, which is found in an answer by `view`.  An answer shows what is stored,
and a refusal leaves everything alone. -/
structure Act.Answers {α : Type} (o : Office) (id : String) (view : α → Option Submission)
    (w : Act Refusal α) : Prop where
  entries : Office.Entries o (w o).2
  ok : ∀ a, (w o).1 = .ok a → ∃ s, view a = some s ∧ (w o).2.store.find? id = some s
  refused : ∀ e, (w o).1 = .error e → o.LeftAlone (w o).2

namespace Act

variable {α β : Type} {o o' : Office} {id : String} {view : α → Option Submission}
  {w : Act Refusal α}

theorem Answers.of_ok {a : α} {s : Submission} (h : w o = (.ok a, o'))
    (hentries : Office.Entries o o') (hview : view a = some s)
    (hs : o'.store.find? id = some s) : Answers o id view w := by
  refine ⟨?_, ?_, ?_⟩
  · rw [h]
    exact hentries
  · rw [h]
    rintro _ ⟨⟩
    exact ⟨s, hview, hs⟩
  · rw [h]
    rintro _ ⟨⟩

theorem Answers.of_error {e : Refusal} (ids : IdSupply)
    (h : w o = (.error e, { o with ids := ids })) : Answers o id view w := by
  refine ⟨?_, ?_, ?_⟩
  · rw [h]
    exact .single (.aside ids o.sent o.refused)
  · rw [h]
    rintro _ ⟨⟩
  · rw [h]
    exact fun _ _ => ⟨rfl, rfl, rfl, rfl⟩

/-- Identifiers may be given out before the work. -/
theorem Answers.of_ids {w' : Act Refusal α} (ids : IdSupply) (h : w o = w' { o with ids := ids })
    (hw : Answers { o with ids := ids } id view w') : Answers o id view w := by
  obtain ⟨hentries, hok, hrefused⟩ := hw
  refine ⟨?_, ?_, ?_⟩
  · rw [h]
    exact .head (.aside ids o.sent o.refused) hentries
  · rw [h]
    exact hok
  · rw [h]
    intro e he
    obtain ⟨hstore, hloaded, hsent, hrefused⟩ := hrefused e he
    exact ⟨hstore, hloaded, hsent, hrefused⟩

/-- The answer may be put in another form. -/
theorem Answers.map {view' : β → Option Submission} {f : α → β} (h : Answers o id view w)
    (hf : ∀ a, view' (f a) = view a) : Answers o id view' (f <$> w) := by
  obtain ⟨hentries, hok, hrefused⟩ := h
  refine ⟨?_, ?_, ?_⟩
  · rw [map_apply]
    exact hentries
  · rw [map_apply]
    intro b hb
    cases hr : (w o).1 with
    | error e => rw [hr] at hb; cases hb
    | ok a =>
      rw [hr] at hb
      obtain rfl := Except.ok.inj hb
      rw [hf]
      exact hok a hr
  · rw [map_apply]
    intro e he
    cases hr : (w o).1 with
    | error e' => exact hrefused e' hr
    | ok a => rw [hr] at he; cases he

end Act

end Filing
