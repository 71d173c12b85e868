import Filing.Store

/-!
# Drills

A drill puts things around an office out of order, or lets somebody else write into its store
between two of its steps, to see how the office copes.

* `StoreCall` — the calls that an office makes to its store;
* `Slip` — a write by somebody else, just before a call;
* `Drill` with `Drill.none`, where everything works and nobody interferes.
-/

set_option autoImplicit false

namespace Filing

/-- The calls that an office makes to its store. -/
inductive StoreCall where
  | read
  | create
  | save
  | updateStatus
  | updateBarcode
  | findByStatus
  | findDelayed
  | findPaid
deriving DecidableEq

/-- A write by somebody else, just before the next call of a kind. -/
structure Slip where
  before : StoreCall
  id : String
  status : Option Status
  barcode : Option String
  at_ : Instant

namespace Slip

/-- The store after a write, or as it was if the write was refused. -/
def settle {α : Type} (s : Store) : Except RepositoryError (α × Store) → Store
  | .ok (_, s') => s'
  | .error _ => s

/-- The store after the barcode of a slip, and after its status. -/
def apply (slip : Slip) (s : Store) : Store :=
  let s := match slip.barcode with
    | some barcode => settle s (s.updateBarcode slip.id barcode slip.at_)
    | none => s
  match slip.status, s.find? slip.id with
  | some status, some r => settle s (s.updateStatus slip.id r.status status slip.at_)
  | _, _ => s

end Slip

/-- What is out of order, and what others do in the meantime. -/
structure Drill where
  /-- Writes by others, each of which happens once. -/
  slips : List Slip
  /-- The store does not answer these calls. -/
  storeDown : List StoreCall
  /-- So many of the next saves lose against somebody else. -/
  lostSaves : Nat
  barcodesDown : Bool
  loaderDown : Bool
  reasonsDown : Bool
  /-- The mails that are refused, by the number of mails that were handed in before. -/
  refuses : Nat → Bool
  /-- A hand-over that comes in while the next record is being loaded. -/
  reenter : Option String

/-- Everything works and nobody interferes. -/
def Drill.none : Drill where
  slips := []
  storeDown := []
  lostSaves := 0
  barcodesDown := false
  loaderDown := false
  reasonsDown := false
  refuses _ := false
  reenter := Option.none

/-- The slip that happens before a call, if there is one, and the slips that are left. -/
def Drill.takeSlip (call : StoreCall) : List Slip → Option Slip × List Slip
  | [] => (Option.none, [])
  | slip :: rest =>
    if slip.before = call then (some slip, rest)
    else ((takeSlip call rest).1, slip :: (takeSlip call rest).2)

end Filing
