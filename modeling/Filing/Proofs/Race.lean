import Filing.Proofs.Office.Report

/-!
# Reports that race

Any number of clients report on the files of one submission at the same time.  Each of them reads
the record, works out what its report makes of it, and saves the result if nobody else has written
in the meantime; otherwise it reads again.  The store does one thing at a time, but between the
reading and the saving of one client others may come in as often as they like.

However the clients are interleaved, the record is at every point what the reports that have been
saved so far make of it one after another.

* `Race`, `Race.Stage`, `Race.State` — the clients, how far each of them has come, and the store;
* `Race.call`, `Race.run` — one call to the store, and any number of calls in any order;
* `Race.rest_call` — a client makes the calls of a report of an office;
* `Race.Invariant` — every client that is about to save has seen a point of the serial run, which
  is the present one exactly when the versions agree;
* `Race.serialised` — **every state is that of a serial run**.
-/

set_option autoImplicit false

namespace Filing

/-! ## Clients of one submission -/

/-- What clients report on one submission, over one catalog. -/
structure Race (ι : Type) where
  desk : CatalogDesk
  id : String
  fileId : ι → String
  outcome : ι → FileOutcome

namespace Race

/-- How far a client has come with its report. -/
inductive Stage where
  /-- It is about to read, and may lose so many saves. -/
  | reading (retries : Nat)
  /-- It has read and is about to save. -/
  | saving (retries : Nat) (time : Instant) (progress : Progress) (revised : Submission)
  | answered (answer : Except Refusal (Progress × Submission))

/-- The store, the clients, and the reports whose saves have succeeded, in the order of the saves. -/
structure State (ι : Type) where
  store : Store
  stage : ι → Stage
  log : List (ι × Delivery)

variable {ι : Type} (race : Race ι)

/-- The report of a client that reads the clock at some time. -/
def delivery (i : ι) (time : Instant) : Delivery :=
  ⟨race.fileId i, race.outcome i, time⟩

/-- What a client does with what it has read: it stops on a refusal and on a repeated report. -/
def attempt (i : ι) (retries : Nat) (time : Instant) : Option Submission → Stage
  | none => .answered (.error (.notFound race.id))
  | some s =>
    match s.report race.desk (race.fileId i) (race.outcome i) time with
    | .error e => .answered (.error e)
    | .ok (progress, revised) =>
      if progress.isDuplicate then .answered (.ok (progress, revised))
      else .saving retries time progress revised

/-- What a client does after somebody else was faster. -/
def again : Nat → Stage
  | 0 => .answered (.error (.conflict race.id))
  | retries + 1 => .reading retries

section

variable [DecidableEq ι]

/-- A client reads the record. -/
def read (r : State ι) (i : ι) (retries : Nat) (time : Instant) : State ι :=
  { r with
    stage := Function.update r.stage i (race.attempt i retries time (r.store.find? race.id)) }

/-- A client saves its revision, unless somebody else was faster. -/
def save (r : State ι) (i : ι) (retries : Nat) (time : Instant) (progress : Progress)
    (revised : Submission) : State ι :=
  match r.store.save revised with
  | .ok (stored, store) =>
    { store := store
      stage := Function.update r.stage i (.answered (.ok (progress, stored)))
      log := r.log ++ [(i, race.delivery i time)] }
  | .error (.conflict _) => { r with stage := Function.update r.stage i (race.again retries) }
  | .error e =>
    { r with stage := Function.update r.stage i (.answered (.error (.ofWrite race.id e))) }

/-- The next call of a client to the store, if it has one left; a client that reads the record
looks at the clock. -/
def call (r : State ι) (i : ι) (time : Instant) : State ι :=
  match r.stage i with
  | .reading retries => race.read r i retries time
  | .saving retries time progress revised => race.save r i retries time progress revised
  | .answered _ => r

/-- Calls of the clients in some order. -/
def run (r : State ι) (schedule : List (ι × Instant)) : State ι :=
  schedule.foldl (fun r c => race.call r c.1 c.2) r

end

/-- The clients set out; each of them may lose a number of saves. -/
def start (store : Store) (retries : ι → Nat) : State ι :=
  ⟨store, fun i => .reading (retries i), []⟩

/-! ## The client and the office

A report of an office is a read of the record and a save, with whatever others do in between.  A
client of a race makes these two calls, and its stage says which part of the report is left. -/

section

/-- What a client at a stage has left to do. -/
def rest (i : ι) : Stage → Act Refusal (Progress × Submission)
  | .reading retries => Office.reportWithin race.id (race.fileId i) (race.outcome i) retries
  | .saving retries _ progress revised =>
    Office.keepReport race.id
      (Office.reportAgain race.id (race.fileId i) (race.outcome i) retries) (progress, revised)
  | .answered answer => .ofExcept answer

variable {race}

theorem rest_again (i : ι) (retries : Nat) :
    race.rest i (race.again retries) =
      Office.reportAgain race.id (race.fileId i) (race.outcome i) retries := by
  cases retries <;> rfl

theorem rest_attempt {o : Office} (ho : o.Up) (hdesk : race.desk = o.desk) (i : ι)
    (retries : Nat) :
    race.rest i (.reading retries) o =
      race.rest i (race.attempt i retries o.clock (o.store.find? race.id)) o := by
  rw [rest, Office.reportWithin_eq]
  cases hs : o.store.find? race.id with
  | none => rw [Office.reportOnce_of_none _ _ ho hs, attempt, rest, Act.ofExcept_apply]
  | some s =>
    rw [Office.reportOnce_apply _ _ ho hs, attempt, hdesk]
    cases s.report o.desk (race.fileId i) (race.outcome i) o.clock with
    | error e => rw [rest, Act.ofExcept_apply]
    | ok answer =>
      obtain ⟨progress, revised⟩ := answer
      dsimp only
      by_cases hdup : progress.isDuplicate = true
      · rw [if_pos hdup, rest, Act.ofExcept_apply, Office.keepReport_of_duplicate hdup]
      · rw [if_neg hdup, rest]

variable [DecidableEq ι] {r : State ι} {i : ι}

theorem rest_save {o : Office} (ho : o.Up) (hstore : r.store = o.store) {progress : Progress}
    (hnew : progress.isDuplicate = false) (retries : Nat) (time : Instant) (revised : Submission) :
    let r' := race.save r i retries time progress revised
    ∃ sent refused, race.rest i (.saving retries time progress revised) o =
      race.rest i (r'.stage i)
        { o with store := r'.store, sent := sent, refused := refused } := by
  rw [rest, save, hstore]
  cases hsave : o.store.save revised with
  | ok answer =>
    obtain ⟨stored, store⟩ := answer
    obtain ⟨sent, refused, hkeep⟩ := Office.keepReport_of_save ho hnew hsave
    refine ⟨sent, refused, ?_⟩
    dsimp only
    rw [hkeep, Function.update_self, rest, Act.ofExcept_apply]
  | error e =>
    refine ⟨o.sent, o.refused, ?_⟩
    cases e with
    | conflict other =>
      dsimp only
      rw [Office.keepReport_of_conflict ho hnew hsave, Function.update_self, rest_again]
    | duplicate | notFound | unavailable reason =>
      rw [Office.keepReport_of_error ho hnew hsave fun _ => RepositoryError.noConfusion]
      dsimp only
      rw [Function.update_self, rest, Act.ofExcept_apply]

/-- **A client makes the calls of a report of an office.**  What it has left to do before a call
comes, whatever others have written by then, to the call and what it has left to do after it. -/
theorem rest_call {o : Office} (ho : o.Up) (hdesk : race.desk = o.desk) (hstore : r.store = o.store)
    (hnew : ∀ retries time progress revised,
      r.stage i = .saving retries time progress revised → progress.isDuplicate = false) :
    let r' := race.call r i o.clock
    ∃ sent refused, race.rest i (r.stage i) o =
      race.rest i (r'.stage i)
        { o with store := r'.store, sent := sent, refused := refused } := by
  rw [call]
  cases hi : r.stage i with
  | reading retries =>
    refine ⟨o.sent, o.refused, ?_⟩
    dsimp only
    rw [rest_attempt ho hdesk, read]
    dsimp only
    rw [Function.update_self, hstore]
  | saving retries time progress revised =>
    exact rest_save ho hstore (hnew _ _ _ _ hi) retries time revised
  | answered answer =>
    refine ⟨o.sent, o.refused, ?_⟩
    dsimp only
    rw [hi, hstore]

end

/-! ## The invariant

A client that is about to save has worked on the record as some first part of the log makes it.  The
others may have saved since then, and then its version is an old one. -/

/-- How far a client has come, seen from the log of the saves. -/
inductive Seen (s : Submission) (log : List (ι × Delivery)) (i : ι) : Stage → Prop
  | reading {retries} (hi : i ∉ log.map Prod.fst) : Seen s log i (.reading retries)
  | saving {retries time progress revised} (hi : i ∉ log.map Prod.fst) (before : List Delivery)
      (hbefore : before <+: log.map Prod.snd)
      (hreport : (s.serial race.desk before).report race.desk (race.fileId i) (race.outcome i) time =
        .ok (progress, revised))
      (hnew : progress.isDuplicate = false) :
      Seen s log i (.saving retries time progress revised)
  | refused {e} (hi : i ∉ log.map Prod.fst) : Seen s log i (.answered (.error e))
  | repeated {progress t} (hi : i ∉ log.map Prod.fst) (hdup : progress.isDuplicate = true) :
      Seen s log i (.answered (.ok (progress, t)))
  | saved {progress revised} (before : List (ι × Delivery)) (time : Instant)
      (hbefore : before ++ [(i, race.delivery i time)] <+: log)
      (hreport : (s.serial race.desk (before.map Prod.snd)).report race.desk (race.fileId i)
        (race.outcome i) time = .ok (progress, revised))
      (hnew : progress.isDuplicate = false) :
      Seen s log i (.answered (.ok (progress,
        s.serial race.desk (before.map Prod.snd ++ [race.delivery i time]))))

/-- The state of a race is that of a serial run of its log, which starts at a submission `s` of a
store `store`. -/
structure Invariant (s : Submission) (store : Store) (r : State ι) : Prop where
  record : r.store.find? race.id = some (s.serial race.desk (r.log.map Prod.snd))
  others : ∀ id, id ≠ race.id → r.store.find? id = store.find? id
  counted : s.Counted race.desk (r.log.map Prod.snd)
  once : (r.log.map Prod.fst).Nodup
  seen : ∀ i, race.Seen s r.log i (r.stage i)

variable {race} {s : Submission} {store : Store} {r : State ι} {i : ι}

/-- What others save does not take anything back that a client has seen. -/
theorem Seen.concat {log : List (ι × Delivery)} {stage : Stage} (h : race.Seen s log i stage)
    {j : ι} (hne : i ≠ j) (d : Delivery) : race.Seen s (log ++ [(j, d)]) i stage := by
  have hmem (hi : i ∉ log.map Prod.fst) : i ∉ (log ++ [(j, d)]).map Prod.fst := by
    rw [List.map_append, List.mem_append]
    rintro (hi' | hi')
    · exact hi hi'
    · exact hne (List.mem_singleton.1 hi')
  have hlog : log <+: log ++ [(j, d)] := List.prefix_append log [(j, d)]
  cases h with
  | reading hi => exact .reading (hmem hi)
  | saving hi before hbefore hreport hnew =>
    exact .saving (hmem hi) before (hbefore.trans (hlog.map Prod.snd)) hreport hnew
  | refused hi => exact .refused (hmem hi)
  | repeated hi hdup => exact .repeated (hmem hi) hdup
  | saved before time hbefore hreport hnew =>
    exact .saved before time (hbefore.trans hlog) hreport hnew

theorem invariant_start (hs : store.find? race.id = some s) (retries : ι → Nat) :
    race.Invariant s store (start store retries) where
  record := hs
  others _ _ := rfl
  counted := .nil
  once := List.nodup_nil
  seen _ := .reading List.not_mem_nil

section

variable [DecidableEq ι]

/-- A client that moves on without saving. -/
theorem Invariant.update (h : race.Invariant s store r) {stage : Stage}
    (hi : race.Seen s r.log i stage) :
    race.Invariant s store { r with stage := Function.update r.stage i stage } := by
  refine ⟨h.record, h.others, h.counted, h.once, fun j => ?_⟩
  dsimp only
  by_cases hj : j = i
  · rw [hj, Function.update_self]
    exact hi
  · rw [Function.update_of_ne hj]
    exact h.seen j

theorem Invariant.read (h : race.Invariant s store r) {retries : Nat} (time : Instant)
    (hi : r.stage i = .reading retries) : race.Invariant s store (race.read r i retries time) := by
  have hfree : i ∉ r.log.map Prod.fst := by
    have hseen := h.seen i
    rw [hi] at hseen
    cases hseen with
    | reading hi => exact hi
  refine h.update ?_
  rw [h.record, attempt]
  cases hreport : (s.serial race.desk (r.log.map Prod.snd)).report race.desk (race.fileId i)
      (race.outcome i) time with
  | error e => exact .refused hfree
  | ok answer =>
    obtain ⟨progress, revised⟩ := answer
    dsimp only
    by_cases hdup : progress.isDuplicate = true
    · rw [if_pos hdup]
      exact .repeated hfree hdup
    · rw [if_neg hdup]
      exact .saving hfree _ (List.prefix_refl _) hreport (by simpa using hdup)

theorem Invariant.save (h : race.Invariant s store r) (hsize : s.files.length < UInt64.size)
    {retries : Nat} {time : Instant} {progress : Progress} {revised : Submission}
    (hi : r.stage i = .saving retries time progress revised) :
    race.Invariant s store (race.save r i retries time progress revised) := by
  have hseen := h.seen i
  rw [hi] at hseen
  cases hseen with
  | saving hfree before hbefore hreport hnew =>
    have hrevised := Submission.report_of_counts (d := race.delivery i time) hreport hnew
    have hrecord := h.record
    have hsid := Store.id_of_find? hrecord
    rw [← hsid] at hrecord
    have hid : revised.id = (s.serial race.desk (r.log.map Prod.snd)).id := by
      rw [hrevised.origin.id, Submission.id_serial, Submission.id_serial]
    by_cases hcurrent : before = r.log.map Prod.snd
    · -- nobody has saved since the client has read, so the write is the next one of the serial run
      subst hcurrent
      have hsave := Store.save_eq hrecord hid hrevised.origin.version
      have hnext := Submission.reported_of_ok (d := race.delivery i time) hreport hnew
      rw [← Submission.serial_concat] at hnext
      rw [Race.save, hsave]
      refine ⟨?_, ?_, ?_, ?_, fun j => ?_⟩
      · rw [← hsid, Store.find?_put_stored hrecord hid, ← hnext, List.map_append]
        rfl
      · intro id hne
        rw [Store.find?_put, if_neg, h.others id hne]
        rintro rfl
        exact hne (hid.trans hsid)
      · rw [List.map_append]
        exact h.counted.concat ⟨progress, revised, hreport, hnew⟩
      · rw [List.map_append, List.nodup_append]
        refine ⟨h.once, List.nodup_singleton _, ?_⟩
        rintro a ha b hb rfl
        rw [List.mem_singleton.1 hb] at ha
        exact hfree ha
      · dsimp only
        by_cases hj : j = i
        · rw [hj, Function.update_self, ← hnext]
          exact .saved r.log time (List.prefix_refl _) hreport hnew
        · rw [Function.update_of_ne hj]
          exact (h.seen j).concat hj _
    · -- the version is an old one
      have hstale : revised.version ≠ (s.serial race.desk (r.log.map Prod.snd)).version := by
        rw [hrevised.origin.version]
        exact fun hversion => hcurrent (h.counted.eq_of_version_eq hbefore hsize hversion)
      rw [Race.save, Store.save_stale hrecord hid hstale]
      refine h.update ?_
      cases retries with
      | zero => exact .refused hfree
      | succ n => exact .reading hfree

/-- One call keeps the invariant. -/
theorem Invariant.call (h : race.Invariant s store r) (hsize : s.files.length < UInt64.size) (i : ι)
    (time : Instant) : race.Invariant s store (race.call r i time) := by
  rw [Race.call]
  split
  · next hi => exact h.read time hi
  · next hi => exact h.save hsize hi
  · exact h

/-- So do any number of calls in any order. -/
theorem Invariant.run (h : race.Invariant s store r) (hsize : s.files.length < UInt64.size)
    (schedule : List (ι × Instant)) : race.Invariant s store (race.run r schedule) := by
  induction schedule generalizing r with
  | nil => exact h
  | cons c rest ih => exact ih (h.call hsize c.1 c.2)

end

/-! ## The serial run -/

/-- In a log where nobody stands twice, an entry has one place. -/
theorem eq_of_concat_prefix {β : Type} {log before before' : List (ι × β)} {d d' : β}
    (hlog : (log.map Prod.fst).Nodup) (h : before ++ [(i, d)] <+: log)
    (h' : before' ++ [(i, d')] <+: log) : before = before' ∧ d = d' := by
  -- an entry further on would have to stand after its own copy
  have hplace {before before' : List (ι × β)} {d d' : β} (h : before ++ [(i, d)] <+: log)
      (h' : before' ++ [(i, d')] <+: log) : ¬before.length < before'.length := by
    intro hlt
    have hbefore : before ++ [(i, d)] <+: before' := by
      refine List.prefix_of_prefix_length_le h ((List.prefix_append _ _).trans h') ?_
      rw [List.length_append, List.length_singleton]
      omega
    have hmem : i ∈ before'.map Prod.fst := by
      refine (hbefore.map Prod.fst).subset ?_
      rw [List.map_append]
      exact List.mem_append_right _ (List.mem_singleton_self i)
    have hnodup := hlog.sublist (h'.map Prod.fst).sublist
    rw [List.map_append, List.nodup_append] at hnodup
    exact hnodup.2.2 i hmem i (List.mem_singleton_self i) rfl
  have hlength : (before ++ [(i, d)]).length = (before' ++ [(i, d')]).length := by
    have hle := hplace h h'
    have hge := hplace h' h
    rw [List.length_append, List.length_append, List.length_singleton, List.length_singleton]
    omega
  have heq : before ++ [(i, d)] = before' ++ [(i, d')] :=
    (List.prefix_of_prefix_length_le h h' (Nat.le_of_eq hlength)).eq_of_length hlength
  obtain ⟨hbefore, hentry⟩ := List.append_inj' heq rfl
  exact ⟨hbefore, (Prod.mk.inj (List.singleton_inj.1 hentry)).2⟩

/-- The state of a race is that of a serial run: the reports whose saves have succeeded are taken
one after another, in the order of the saves, and nothing else has happened to the record. -/
structure Serialised (race : Race ι) (s : Submission) (store : Store) (r : State ι) : Prop where
  /-- The record is what the saved reports make of it. -/
  record : r.store.find? race.id = some (s.serial race.desk (r.log.map Prod.snd))
  /-- Other records are left alone. -/
  others : ∀ id, id ≠ race.id → r.store.find? id = store.find? id
  /-- No client saves twice. -/
  once : (r.log.map Prod.fst).Nodup
  /-- The clients who have saved are those who are told that their report counts. -/
  saved : ∀ i, i ∈ r.log.map Prod.fst ↔
    ∃ progress t, r.stage i = .answered (.ok (progress, t)) ∧ progress.isDuplicate = false
  /-- Each saved report is its client's own, counts when its turn comes, and is answered as in the
  serial run. -/
  turn : ∀ before i d, before ++ [(i, d)] <+: r.log →
    (∃ time, d = race.delivery i time) ∧
      ∃ progress t,
        (s.serial race.desk (before.map Prod.snd)).report race.desk d.fileId d.outcome d.time =
          .ok (progress, t) ∧
        progress.isDuplicate = false ∧
        r.stage i = .answered
          (.ok (progress, s.serial race.desk (before.map Prod.snd ++ [d])))
  /-- Each saved report decides one file more. -/
  decided : (s.serial race.desk (r.log.map Prod.snd)).files.countP (·.status.isDecided) =
    s.files.countP (·.status.isDecided) + r.log.length
  /-- After each save, the record is under way as long as a file is undecided; the save that decides
  the last one moves it to where the verdict on all files leads. -/
  upToDate : ∀ before, before <+: r.log →
    (s.serial race.desk (before.map Prod.snd)).UpToDate race.desk

theorem Seen.of_mem {log : List (ι × Delivery)} {stage : Stage} (h : race.Seen s log i stage)
    (hi : i ∈ log.map Prod.fst) : ∃ before time progress revised,
      before ++ [(i, race.delivery i time)] <+: log ∧
      (s.serial race.desk (before.map Prod.snd)).report race.desk (race.fileId i) (race.outcome i)
        time = .ok (progress, revised) ∧ progress.isDuplicate = false ∧
      stage = .answered (.ok (progress,
        s.serial race.desk (before.map Prod.snd ++ [race.delivery i time]))) := by
  cases h with
  | reading hfree => exact absurd hi hfree
  | saving hfree => exact absurd hi hfree
  | refused hfree => exact absurd hi hfree
  | repeated hfree => exact absurd hi hfree
  | saved before time hbefore hreport hnew =>
    exact ⟨before, time, _, _, hbefore, hreport, hnew, rfl⟩

theorem Seen.mem {log : List (ι × Delivery)} {progress : Progress} {t : Submission}
    (h : race.Seen s log i (.answered (.ok (progress, t)))) (hnew : progress.isDuplicate = false) :
    i ∈ log.map Prod.fst := by
  cases h with
  | repeated _ hdup =>
    rw [hdup] at hnew
    cases hnew
  | saved before time hbefore =>
    refine (hbefore.map Prod.fst).subset ?_
    rw [List.map_append]
    exact List.mem_append_right _ (List.mem_singleton_self i)

theorem serialised_of_invariant (h : race.Invariant s store r) (hs : s.UpToDate race.desk) :
    race.Serialised s store r where
  record := h.record
  others := h.others
  once := h.once
  saved i := by
    constructor
    · intro hi
      obtain ⟨_, _, progress, _, -, -, hnew, hstage⟩ := (h.seen i).of_mem hi
      exact ⟨progress, _, hstage, hnew⟩
    · rintro ⟨progress, t, hstage, hnew⟩
      have hseen := h.seen i
      rw [hstage] at hseen
      exact hseen.mem hnew
  turn before i d hbefore := by
    have hi : i ∈ r.log.map Prod.fst := by
      refine (hbefore.map Prod.fst).subset ?_
      rw [List.map_append]
      exact List.mem_append_right _ (List.mem_singleton_self i)
    obtain ⟨before', time, progress, revised, hbefore', hreport, hnew, hstage⟩ :=
      (h.seen i).of_mem hi
    obtain ⟨rfl, rfl⟩ := eq_of_concat_prefix h.once hbefore hbefore'
    exact ⟨⟨time, rfl⟩, progress, revised, hreport, hnew, hstage⟩
  decided := by
    rw [h.counted.countP_serial, List.length_map]
  upToDate before _ := hs.serial (before.map Prod.snd)

end Race

/-- **Reports that race are serialisable.**  Any number of clients report on the files of a
submission that is under way with a file to decide.  Whatever the order of their calls to the store
and whatever the clock says, the state is that of a serial run.  There are fewer files than a record
has versions, which are machine words: no list in memory is longer. -/
theorem Race.serialised {ι : Type} [DecidableEq ι] (race : Race ι) {s : Submission} {store : Store}
    (hs : store.find? race.id = some s) (hstatus : s.status = .processing)
    (hopen : ∃ f ∈ s.files, f.status.isDecided = false) (hsize : s.files.length < UInt64.size)
    (retries : ι → Nat) (schedule : List (ι × Instant)) :
    race.Serialised s store (race.run (start store retries) schedule) := by
  have hstart := (invariant_start hs retries).run hsize schedule
  exact serialised_of_invariant hstart (s.upToDate_of_underWay race.desk hstatus hopen)

namespace Race

/-- One client for each file of a submission; the one finds the allotment in order, the other one
finds the covering letter infected. -/
def twoClients : Race Bool where
  desk := ⟨.standard, []⟩
  id := "sub-1"
  fileId first := if first then "allotment" else "cover"
  outcome first := if first then .converted (some "pdf-1") (some 4) else .infected

/-- Both clients read before either of them saves, so the second one has to read again. -/
def twoClientsRun : State Bool :=
  let store : Store := ⟨[Submission.twoFiles], List.nodup_singleton _⟩
  twoClients.run (start store fun _ => 3)
    [(true, ⟨1, 0⟩), (false, ⟨2, 0⟩), (true, ⟨3, 0⟩), (false, ⟨4, 0⟩), (false, ⟨5, 0⟩),
      (false, ⟨6, 0⟩)]

theorem serialised_twoClients :
    twoClients.Serialised Submission.twoFiles ⟨[Submission.twoFiles], List.nodup_singleton _⟩
      twoClientsRun ∧
    twoClientsRun.log.map Prod.fst = [true, false] ∧
    (twoClientsRun.store.find? "sub-1").map (·.status) = some .rejectedByVirusScan := by
  refine ⟨twoClients.serialised ?_ rfl ?_ ?_ _ _, by decide +kernel, by decide +kernel⟩
  · decide
  · exact ⟨.uploaded "cover" "c.pdf" 1, by decide, rfl⟩
  · decide

end Race

end Filing
