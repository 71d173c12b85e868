import Filing.Repository
import Filing.Submission.Basic

/-!
# The store of submissions

The stored submissions, at most one under each identifier.  Writes are conditional, so that nobody
overwrites what he has not seen, and each write raises the version of the record by one.

* `Store.find?` — look-up; `Store.create` — a new record;
* `Store.save`, `Store.updateStatus`, `Store.updateBarcode` — the three ways to write a record, all
  of them `Store.write`;
* `Store.byStatus`, `Store.delayed`, `Store.paid` — the finders, each with its order;
* `Store.find?_put`, `Store.find?_append` — what a change does to every look-up.
-/

set_option autoImplicit false

namespace Filing

/-- The stored submissions, in the order in which they came. -/
structure Store where
  records : List Submission
  nodup : (records.map (·.id)).Nodup

namespace Store

/-- No submissions. -/
def empty : Store := ⟨[], List.nodup_nil⟩

instance : Inhabited Store := ⟨empty⟩

/-- The number of submissions. -/
def size (s : Store) : Nat := s.records.length

/-- The submission under an identifier. -/
def find? (s : Store) (id : String) : Option Submission :=
  s.records.find? (·.id = id)

theorem id_of_find? {s : Store} {id : String} {r : Submission} (h : s.find? id = some r) :
    r.id = id := by
  simpa using List.find?_some h

theorem mem_of_find? {s : Store} {id : String} {r : Submission} (h : s.find? id = some r) :
    r ∈ s.records :=
  List.mem_of_find?_eq_some h

theorem find?_eq_none {s : Store} {id : String} :
    s.find? id = none ↔ id ∉ s.records.map (·.id) := by
  simp [find?]

/-- Every stored submission is found under its identifier. -/
theorem find?_of_mem {s : Store} {r : Submission} (h : r ∈ s.records) :
    s.find? r.id = some r := by
  obtain ⟨records, hnodup⟩ := s
  simp only [find?] at h ⊢
  induction records with
  | nil => cases h
  | cons r' rest ih =>
    rw [List.map_cons, List.nodup_cons] at hnodup
    rcases List.mem_cons.1 h with rfl | h
    · simp
    · have hne : r'.id ≠ r.id := fun e => hnodup.1 (e ▸ List.mem_map_of_mem h)
      rw [List.find?_cons_of_neg (by simpa using hne)]
      exact ih hnodup.2 h

/-! ## Changes -/

theorem nodup_append {s : Store} {r : Submission} (h : s.find? r.id = none) :
    ((s.records ++ [r]).map (·.id)).Nodup := by
  rw [List.map_append, List.map_cons, List.map_nil, List.nodup_append]
  refine ⟨s.nodup, by simp, fun a ha b hb => ?_⟩
  rw [List.mem_singleton.1 hb]
  exact fun e => find?_eq_none.1 h (e ▸ ha)

/-- The store with one more submission, under a free identifier. -/
def append (s : Store) (r : Submission) (h : s.find? r.id = none) : Store :=
  ⟨s.records ++ [r], nodup_append h⟩

theorem map_id_put (records : List Submission) (r : Submission) :
    (records.map fun r' => if r'.id = r.id then r else r').map (·.id) = records.map (·.id) := by
  rw [List.map_map]
  refine List.map_congr_left fun r' _ => ?_
  simp only [Function.comp]
  split
  · next h => exact h.symm
  · rfl

/-- The store with the given record in place of the one under its identifier. -/
def put (s : Store) (r : Submission) : Store :=
  ⟨s.records.map fun r' => if r'.id = r.id then r else r', (map_id_put s.records r).symm ▸ s.nodup⟩

/-- After `append`, the new record is found, and everything else as before. -/
theorem find?_append {s : Store} {r : Submission} (h : s.find? r.id = none) (id : String) :
    (s.append r h).find? id = if id = r.id then some r else s.find? id := by
  simp only [append, find?, List.find?_append]
  split
  · next e =>
    have hs : s.records.find? (·.id = r.id) = none := h
    rw [e, hs]
    simp
  · next e => simp [Ne.symm e]

/-- After `put`, the record is found where there was one, and everything else as before. -/
theorem find?_put (s : Store) (r : Submission) (id : String) :
    (s.put r).find? id = if id = r.id then (s.find? id).map fun _ => r else s.find? id := by
  obtain ⟨records, hnodup⟩ := s
  simp only [put, find?]
  clear hnodup
  induction records with
  | nil => simp
  | cons r' rest ih =>
    rw [List.map_cons, List.find?_cons, List.find?_cons, ih]
    by_cases h : r'.id = r.id
    · by_cases hid : id = r.id
      · simp [h, hid]
      · simp [h, hid, Ne.symm hid]
    · by_cases hid : id = r.id
      · simp [h, hid]
      · by_cases hr' : r'.id = id
        · simp [hid, hr']
        · simp [h, hid, hr']

/-- The store with a new record, unless its identifier is taken. -/
def create (s : Store) (r : Submission) : Except RepositoryError Store :=
  if h : s.find? r.id = none then .ok (s.append r h) else .error .duplicate

/-- A write: `f` makes a new record of the stored one, or refuses.  The identifier stays, and the
version goes up by one. -/
def write (s : Store) (id : String) (f : Submission → Except RepositoryError Submission) :
    Except RepositoryError (Submission × Store) :=
  match s.find? id with
  | none => .error .notFound
  | some stored =>
    (f stored).map fun r =>
      let r := { r with id := id, version := stored.version + 1 }
      (r, s.put r)

/-- A record saved as a whole, if nobody has written it since it was read. -/
def save (s : Store) (r : Submission) : Except RepositoryError (Submission × Store) :=
  s.write r.id fun stored =>
    if stored.version = r.version then .ok r else .error (.conflict r.id)

/-- A new status, if the record still has the expected one. -/
def updateStatus (s : Store) (id : String) (expected status : Status) (now : Instant) :
    Except RepositoryError (Submission × Store) :=
  s.write id fun stored =>
    if stored.status = expected then .ok ({ stored with status := status }.touch now)
    else .error (.conflict id)

/-- A barcode, if the record has none or the same one. -/
def updateBarcode (s : Store) (id barcode : String) (now : Instant) :
    Except RepositoryError (Submission × Store) :=
  s.write id fun stored =>
    if stored.barcode?.all (· = barcode) then
      .ok ((stored.updateForm ({ · with barcode := some barcode })).touch now)
    else .error (.conflict id)

/-! ## Finders -/

/-- The order in which submissions are worked off: those that are preferred first, then those that
were submitted earlier, then those that were opened earlier. -/
def workOrder (preferred : Submission → Bool) (a b : Submission) : Bool :=
  if preferred a ≠ preferred b then preferred a
  else if a.submittedAt ≠ b.submittedAt then Instant.optionalLe a.submittedAt b.submittedAt
  else a.createdAt ≤ b.createdAt

/-- The submissions at a status, in the order of work. -/
def byStatus (s : Store) (status : Status) (preferred : Submission → Bool) : List Submission :=
  (s.records.filter (·.status = status)).mergeSort (workOrder preferred)

/-- The submissions at a status that were last changed before an instant, oldest change first. -/
def delayed (s : Store) (status : Status) (before : Instant) : List Submission :=
  (s.records.filter fun r => r.status = status ∧ r.modifiedAt < before).mergeSort
    fun a b => a.modifiedAt ≤ b.modifiedAt

/-- The submissions at one of the given statuses that were paid from one instant up to another one,
oldest payment first. -/
def paid (s : Store) (statuses : List Status) (start stop : Instant) : List Submission :=
  (s.records.filter fun r =>
      r.status ∈ statuses ∧ r.paidAt.any fun t => start ≤ t ∧ t < stop).mergeSort
    fun a b => Instant.optionalLe a.paidAt b.paidAt

end Store

end Filing
