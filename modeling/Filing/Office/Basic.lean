import Filing.Catalog.Basic
import Filing.Fee
import Filing.Fes
import Filing.Notification
import Filing.Office.Drill
import Filing.Refusal

/-!
# The filing office

The office works on submissions.  It has a store for them, the catalog, a clock, a supply of
identifiers and of barcodes, and keeps a log of what it sends out.

* `Settings` — how the office works;
* `IdSupply` — fresh identifiers and confirmation references;
* `Office` with `Office.opened`;
* `Act` — work that changes an office and may be refused.  What was done before a refusal stays
  done.
-/

set_option autoImplicit false

namespace Filing

/-- How an office works. -/
structure Settings where
  /-- The template of confirmation references. -/
  referencePattern : String
  /-- How many submissions are queued at a time. -/
  batchSize : Nat
  /-- A submission that has not moved for this span of time is delayed. -/
  delayedAfter : Int
  /-- How often a report on a file is tried again after somebody else was faster. -/
  retries : Nat
  mail : MailSettings

/-! ## Identifiers -/

/-- The identifiers that are still to be given out. -/
structure IdSupply where
  /-- Identifiers of the next submissions; after them, submissions are numbered. -/
  reserved : List String
  /-- The next confirmation references, the last of which stays; without any, references are made
  from the last number. -/
  references : List String
  /-- The last number. -/
  number : Nat

namespace IdSupply

/-- A supply of numbers only. -/
def fresh : IdSupply := ⟨[], [], 0⟩

/-- A number. -/
def draw (s : IdSupply) : Nat × IdSupply :=
  (s.number + 1, { s with number := s.number + 1 })

/-- An identifier for a submission. -/
def submissionId (s : IdSupply) : String × IdSupply :=
  match s.reserved with
  | id :: rest => (id, { s with reserved := rest })
  | [] =>
    let (n, s) := s.draw
    (s!"sub-{n}", s)

/-- A confirmation reference. -/
def reference (s : IdSupply) : String × IdSupply :=
  match s.references with
  | [] => ("REF-" ++ String.ofList (Text.padded 4 s.number), s)
  | [r] => (r, s)
  | r :: rest => (r, { s with references := rest })

/-- An identifier for a file. -/
def fileId (s : IdSupply) : String × IdSupply :=
  let (n, s) := s.draw
  (s!"file-{n}", s)

end IdSupply

/-! ## Offices -/

/-- An office with everything around it. -/
structure Office where
  store : Store
  desk : CatalogDesk
  clock : Instant
  settings : Settings
  ids : IdSupply
  barcodes : BarcodeSequence
  /-- The reasons of the registration system, by barcode. -/
  reasons : Index (List String)
  /-- The records that the registration system has taken. -/
  loaded : List BatchRecord
  /-- The mails that were sent. -/
  sent : List Notification
  /-- The mails that were refused. -/
  refused : List Notification
  /-- What became of the hand-overs that came in while a record was being loaded. -/
  reentered : List (Except Refusal Status)
  drill : Drill

/-- The character that the barcodes of an office open with. -/
def Office.barcodeLead : Char := 'X'

/-- An office that has just opened. -/
def Office.opened (catalog : Catalog) (settings : Settings) (ids : IdSupply) (clock : Instant) :
    Office where
  store := .empty
  desk := ⟨catalog, []⟩
  clock := clock
  settings := settings
  ids := ids
  barcodes := .fresh Office.barcodeLead
  reasons := .empty
  loaded := []
  sent := []
  refused := []
  reentered := []
  drill := .none

/-- Work that changes an office and may fail. -/
abbrev Act (ε α : Type) := ExceptT ε (StateM Office) α

namespace Act

variable {ε α : Type}

/-- Work that cannot fail. -/
def always (f : Office → α × Office) : Act ε α :=
  ExceptT.lift (f : StateM Office α)

/-- The outcome of work, which is no failure of whoever asks for it. -/
def outcome {ε' : Type} (w : Act ε α) : Act ε' (Except ε α) :=
  ExceptT.lift w.run

/-- A result that does not depend on the office. -/
def ofExcept : Except ε α → Act ε α
  | .ok a => pure a
  | .error e => throw e

end Act

end Filing
