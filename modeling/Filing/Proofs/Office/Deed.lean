import Filing.Proofs.Office.Entry
import Filing.Proofs.Task

/-!
# What is done in a steady office

The entries of a steady office say what is written.  Here the tasks among them are named, together with
the one mail that goes with each, so that a chain of them is an account of what was done to whom, and
of who was told.

* `Office.carriedOut` — the office after a task;
* `Office.Deed` — one thing that is done, and `Office.Deeds`, a chain of them with its tasks;
* `Office.Deeds.entries` — every deed is a chain of entries.
-/

set_option autoImplicit false

namespace Filing

open Act

namespace Office

variable {o o₁ o' : Office}

/-! ## Deeds -/

/-- The office after a task: what it has made of the submission is stored, and somebody is told. -/
def carriedOut (o : Office) (task : Task) (t : Submission) : Office :=
  ({ o with store := o.store.put t } : Office).notified t (task.letter? t)

/-- One thing that is done, and the task that it was, if it was one. -/
inductive Deed (o : Office) : Option (String × Task) → Office → Prop
  | aside (ids : IdSupply) : Deed o none { o with ids := ids }
  /-- A mail that is about no submission in particular. -/
  | told (n : Notification) (h : n.submissionId = none) : Deed o none (o.posted n)
  | created {r : Submission} (reference : String) (presenter : Option Presenter)
      (hr : r = .opened r.id reference presenter o.clock) (h : o.store.find? r.id = none) :
      Deed o none { o with store := o.store.append r h }
  | done {s t : Submission} {task : Task} (hs : o.store.find? s.id = some s)
      (h : task.Makes o s t) :
      Deed o (some (s.id, task)) (o.carriedOut task (t.stored s.version))
  | labelled {s : Submission} (hs : o.store.find? s.id = some s)
      (hready : s.status = .readyToSubmit) (hnone : s.barcode? = none) : Deed o none (o.label s)
  | dispatched {s : Submission} {record : BatchRecord} (hs : o.store.find? s.id = some s)
      (hready : s.status = .readyToSubmit) (hrecord : BatchRecord.ofSubmission s = .ok record) :
      Deed o none (o.dispatch s record)

/-- A chain of deeds, with the tasks among them. -/
inductive Deeds (o : Office) : List (String × Task) → Office → Prop
  | refl : Deeds o [] o
  | tail {tasks o₁ task? o₂} (h : Deeds o tasks o₁) (hdeed : Deed o₁ task? o₂) :
      Deeds o (tasks ++ task?.toList) o₂

variable {task? : Option (String × Task)} {tasks more : List (String × Task)}

theorem Deeds.single (h : Deed o task? o') : Deeds o task?.toList o' :=
  .tail .refl h

theorem Deeds.trans (h : Deeds o tasks o₁) (h' : Deeds o₁ more o') :
    Deeds o (tasks ++ more) o' := by
  induction h' with
  | refl =>
    rw [List.append_nil]
    exact h
  | tail _ hdeed ih =>
    rw [← List.append_assoc]
    exact .tail ih hdeed

theorem carriedOut_eq (o : Office) (task : Task) (t : Submission) :
    ∃ sent refused, o.carriedOut task t =
      { o with store := o.store.put t, sent := sent, refused := refused } :=
  notified_eq _ _ _

/-- After a task the submission is stored as the task has made it. -/
theorem find?_carriedOut {s t : Submission} {task : Task} (hs : o.store.find? s.id = some s)
    (h : task.Makes o s t) :
    (o.carriedOut task (t.stored s.version)).store.find? s.id = some (t.stored s.version) := by
  obtain ⟨sent, refused, heq⟩ := o.carriedOut_eq task (t.stored s.version)
  rw [heq]
  exact Store.find?_put_stored hs h.move.sameOrigin.id s.version

/-- **Every deed is a chain of entries.** -/
theorem Deed.entries (h : Deed o task? o') : Entries o o' := by
  cases h with
  | aside ids => exact .single (.aside ids o.sent o.refused)
  | told n =>
    obtain ⟨sent, refused, heq⟩ := o.posted_eq n
    rw [heq]
    exact .single (.aside o.ids sent refused)
  | created reference presenter hr h => exact .single (.created reference presenter hr h)
  | @done s t task hs h =>
    obtain ⟨sent, refused, heq⟩ := o.carriedOut_eq task (t.stored s.version)
    rw [heq]
    have hrevised : Entry o { o with store := o.store.put (t.stored s.version) } :=
      .revised hs h.move h.notReady
    exact .tail (.single hrevised) (.aside o.ids sent refused)
  | labelled hs hready hnone => exact .single (.labelled hs hready hnone)
  | dispatched hs hready hrecord => exact .single (.dispatched hs hready hrecord)

theorem Deeds.entries (h : Deeds o tasks o') : Entries o o' := by
  induction h with
  | refl => exact .refl
  | tail _ hdeed ih => exact ih.trans hdeed.entries

theorem Deeds.steady (h : Deeds o tasks o') (ho : o.Steady) : o'.Steady :=
  h.entries.steady ho

end Office

end Filing
