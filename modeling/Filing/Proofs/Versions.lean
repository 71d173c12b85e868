import Filing.Store
import Mathlib.Data.UInt

/-!
# No update is lost

A store is asked by many, and each of them goes by what he has read, which may be out of date.  The
version of a record tells: it goes up by one with every write, so a record that is saved under the
version it was read with has not been written since.

* `Store.Request` with `Store.perform` — what is asked of a store, and what becomes of it;
* `Store.after`, `Store.writesTo` — the store after a list of requests, and how many of them have
  written a record;
* `Store.Fits` — no version comes to the end of its count;
* `Store.find?_after` — **the version counts the writes**;
* `Store.Honours`, `Store.no_lost_update` — every request does what it should, and **a record is
  saved exactly if nobody has written it since it was read**.
-/

set_option autoImplicit false

namespace Filing.Store

/-! ## Requests -/

/-- What is asked of a store. -/
inductive Request where
  | create (r : Submission)
  | read (id : String)
  | save (r : Submission)
  | updateStatus (id : String) (expected status : Status) (now : Instant)
  | updateBarcode (id barcode : String) (now : Instant)

namespace Request

/-- The identifier of the record that a request is about. -/
def id : Request → String
  | create r | save r => r.id
  | read id | updateStatus id _ _ _ | updateBarcode id _ _ => id

/-- The request is to write a record that is there. -/
def isWrite : Request → Bool
  | save _ | updateStatus .. | updateBarcode .. => true
  | create _ | read _ => false

end Request

/-- What is answered to a request. -/
abbrev Answer := Except RepositoryError (Option Submission)

/-- The answer to a write, and the store after it.  A write that is refused changes nothing. -/
def settled (s : Store) : Except RepositoryError (Submission × Store) → Answer × Store
  | .ok (r, s') => (.ok (some r), s')
  | .error e => (.error e, s)

/-- The answer to a request, and the store after it. -/
def perform (s : Store) : Request → Answer × Store
  | .create r => s.settled ((s.create r).map fun s' => (r, s'))
  | .read id => (.ok (s.find? id), s)
  | .save r => s.settled (s.save r)
  | .updateStatus id expected status now => s.settled (s.updateStatus id expected status now)
  | .updateBarcode id barcode now => s.settled (s.updateBarcode id barcode now)

/-- The store after a list of requests. -/
def after (s : Store) : List Request → Store
  | [] => s
  | q :: rest => (s.perform q).2.after rest

/-- The request has written the record under an identifier. -/
def Writes (s : Store) (id : String) (q : Request) : Prop :=
  q.isWrite = true ∧ q.id = id ∧ (s.perform q).1.isOk = true

instance (s : Store) (id : String) (q : Request) : Decidable (s.Writes id q) :=
  inferInstanceAs (Decidable (_ ∧ _ ∧ _))

/-- How many of the requests have written the record under an identifier. -/
def writesTo (s : Store) (id : String) : List Request → Nat
  | [] => 0
  | q :: rest => (if s.Writes id q then 1 else 0) + (s.perform q).2.writesTo id rest

/-- No version comes to the end of its count. -/
def Fits (s : Store) : List Request → Prop
  | [] => True
  | q :: rest =>
    (s.Writes q.id q → (s.find? q.id).all (·.version.toNat + 1 < UInt64.size) = true) ∧
      (s.perform q).2.Fits rest

instance decidableFits (s : Store) : (requests : List Request) → Decidable (s.Fits requests)
  | [] => inferInstanceAs (Decidable True)
  | q :: rest =>
    have := decidableFits (s.perform q).2 rest
    inferInstanceAs (Decidable (_ ∧ _))

section

variable {s : Store}

theorem after_append (requests more : List Request) :
    s.after (requests ++ more) = (s.after requests).after more := by
  induction requests generalizing s with
  | nil => rfl
  | cons q rest ih => exact ih

theorem fits_append {requests more : List Request} :
    s.Fits (requests ++ more) ↔ s.Fits requests ∧ (s.after requests).Fits more := by
  induction requests generalizing s with
  | nil => exact (and_iff_right trivial).symm
  | cons q rest ih =>
    rw [List.cons_append, Fits, Fits, ih, and_assoc]
    rfl

end

/-! ## One request -/

section

variable {s : Store} {q : Request} {id : String} {r t : Submission}

/-- What a write comes to: the record that was there is replaced by one of the next version. -/
theorem write_eq_ok {s' : Store} {f : Submission → Except RepositoryError Submission} :
    s.write id f = .ok (t, s') ↔ ∃ stored r, s.find? id = some stored ∧ f stored = .ok r ∧
      t = { r with id := id, version := stored.version + 1 } ∧ s' = s.put t := by
  rw [write]
  cases s.find? id with
  | none => simp
  | some stored =>
    simp only [Option.some.injEq, exists_and_left, exists_eq_left']
    cases f stored with
    | error e => simp [Except.map]
    | ok r =>
      simp only [Except.map, Except.ok.injEq, Prod.mk.injEq, exists_eq_left', @eq_comm _ t,
        @eq_comm _ s']
      constructor
      · rintro ⟨rfl, rfl⟩
        exact ⟨rfl, rfl⟩
      · rintro ⟨rfl, rfl⟩
        exact ⟨rfl, rfl⟩

/-- A write is answered with the record that it has made of the stored one. -/
theorem settled_write_eq_ok {f : Submission → Except RepositoryError Submission} {answer} :
    (s.settled (s.write id f)).1 = .ok answer ↔ ∃ stored r, s.find? id = some stored ∧
      f stored = .ok r ∧ answer = some { r with id := id, version := stored.version + 1 } := by
  have hsettled (x : Except RepositoryError (Submission × Store)) :
      (s.settled x).1 = .ok answer ↔ ∃ t s', x = .ok (t, s') ∧ answer = some t := by
    cases x with
    | error e => simp [settled]
    | ok result => simp [settled, Prod.ext_iff, eq_comm]
  rw [hsettled]
  constructor
  · rintro ⟨t, s', hwrite, rfl⟩
    obtain ⟨stored, r, hstored, hr, rfl, -⟩ := write_eq_ok.1 hwrite
    exact ⟨stored, r, hstored, hr, rfl⟩
  · rintro ⟨stored, r, hstored, hr, rfl⟩
    exact ⟨_, _, write_eq_ok.2 ⟨stored, r, hstored, hr, rfl, rfl⟩, rfl⟩

/-- A write of a record that fulfils a condition. -/
theorem ite_eq_ok {p : Prop} [Decidable p] {e : RepositoryError} :
    (if p then .ok t else .error e : Except RepositoryError Submission) = .ok r ↔ p ∧ r = t := by
  split
  · next hp => simp [hp, eq_comm]
  · next hp => simp [hp]

/-- The three kinds of writes differ in what they ask of the record, and in what they make of it. -/
theorem perform_of_isWrite (s : Store) (h : q.isWrite = true) :
    ∃ f, s.perform q = s.settled (s.write q.id f) := by
  cases q with
  | create r => cases h
  | read id => cases h
  | save r => exact ⟨_, rfl⟩
  | updateStatus id expected status now => exact ⟨_, rfl⟩
  | updateBarcode id barcode now => exact ⟨_, rfl⟩

/-- A write that was answered has put a record of the next version where there was one. -/
theorem perform_of_writes (h : s.Writes id q) :
    ∃ stored r, s.find? id = some stored ∧ r.id = id ∧ r.version = stored.version + 1 ∧
      s.perform q = (.ok (some r), s.put r) := by
  obtain ⟨hwrite, rfl, hok⟩ := h
  obtain ⟨f, hperform⟩ := perform_of_isWrite s hwrite
  rw [hperform] at hok ⊢
  cases hresult : s.write q.id f with
  | error e =>
    rw [hresult] at hok
    cases hok
  | ok result =>
    obtain ⟨t, s'⟩ := result
    obtain ⟨stored, r, hstored, -, ht, rfl⟩ := write_eq_ok.1 hresult
    refine ⟨stored, t, hstored, ?_, ?_, rfl⟩
    · rw [ht]
    · rw [ht]

/-- A request leaves every record alone but the one that it writes, or that it creates. -/
theorem find?_perform (hid : id ≠ q.id) : (s.perform q).2.find? id = s.find? id := by
  cases hwrite : q.isWrite with
  | true =>
    by_cases hwrites : s.Writes q.id q
    · obtain ⟨stored, r, -, hr, -, hperform⟩ := perform_of_writes hwrites
      rw [hperform, find?_put, if_neg (hr ▸ hid)]
    · obtain ⟨f, hperform⟩ := perform_of_isWrite s hwrite
      rw [Writes, hperform] at hwrites
      rw [hperform]
      cases hresult : s.write q.id f with
      | error e => rfl
      | ok result =>
        rw [hresult] at hwrites
        exact absurd ⟨hwrite, rfl, rfl⟩ hwrites
  | false =>
    cases q with
    | create r =>
      rw [perform, create]
      split
      · next hfree => exact (find?_append hfree id).trans (if_neg hid)
      · rfl
    | read id' => rfl
    | save r => cases hwrite
    | updateStatus id' expected status now => cases hwrite
    | updateBarcode id' barcode now => cases hwrite

/-- A request that is refused changes nothing. -/
theorem perform_of_error {e : RepositoryError} (h : (s.perform q).1 = .error e) :
    (s.perform q).2 = s := by
  have hsettled (x : Except RepositoryError (Submission × Store))
      (hx : (s.settled x).1 = .error e) : (s.settled x).2 = s := by
    cases x with
    | error e' => rfl
    | ok result => cases hx
  cases q with
  | create r => exact hsettled _ h
  | read id => rfl
  | save r => exact hsettled _ h
  | updateStatus id expected status now => exact hsettled _ h
  | updateBarcode id barcode now => exact hsettled _ h

/-- A record that is there is still there after a request that does not write it. -/
theorem find?_perform_of_not_writes (hr : s.find? id = some r) (h : ¬s.Writes id q) :
    (s.perform q).2.find? id = some r := by
  by_cases hid : id = q.id
  · cases hresult : (s.perform q).1 with
    | error e => rw [perform_of_error hresult, hr]
    | ok answer =>
      cases hwrite : q.isWrite with
      | true =>
        refine absurd ⟨hwrite, hid.symm, ?_⟩ h
        rw [hresult]
        rfl
      | false =>
        cases q with
        | create new =>
          -- the identifier is taken
          have htaken : ¬s.find? new.id = none := by
            rw [show new.id = id from hid.symm, hr]
            exact Option.some_ne_none r
          rw [perform, create, dif_neg htaken]
          exact hr
        | read id' => exact hr
        | save new => cases hwrite
        | updateStatus id' expected status now => cases hwrite
        | updateBarcode id' barcode now => cases hwrite
  · rw [find?_perform hid, hr]

end

/-! ## Many requests -/

section

variable {s : Store} {id : String} {r : Submission}

theorem toNat_version_succ {version : UInt64} (h : version.toNat + 1 < UInt64.size) :
    (version + 1).toNat = version.toNat + 1 := by
  rw [UInt64.toNat_add, UInt64.toNat_one]
  exact Nat.mod_eq_of_lt h

/-- **The version counts the writes.**  A record that is there stays there, and its version goes up by
one with every request that writes it. -/
theorem find?_after (hr : s.find? id = some r) {requests : List Request} (hfits : s.Fits requests) :
    ∃ r', (s.after requests).find? id = some r' ∧
      r'.version.toNat = r.version.toNat + s.writesTo id requests := by
  induction requests generalizing s r with
  | nil => exact ⟨r, hr, rfl⟩
  | cons q rest ih =>
    obtain ⟨hfit, hrest⟩ := hfits
    rw [after, writesTo]
    by_cases hwrites : s.Writes id q
    · obtain ⟨stored, new, hstored, hid, hversion, hperform⟩ := perform_of_writes hwrites
      obtain rfl := Option.some.inj (hr.symm.trans hstored)
      have hnew : (s.perform q).2.find? id = some new := by
        rw [hperform, find?_put, if_pos hid.symm, hr]
        rfl
      obtain ⟨r', hr', hcount⟩ := ih hnew hrest
      obtain rfl := hwrites.2.1
      have hsize : r.version.toNat + 1 < UInt64.size := by
        have hall := hfit hwrites
        rw [hr] at hall
        exact of_decide_eq_true hall
      refine ⟨r', hr', ?_⟩
      rw [hcount, hversion, toNat_version_succ hsize, if_pos hwrites, Nat.add_assoc]
    · obtain ⟨r', hr', hcount⟩ := ih (find?_perform_of_not_writes hr hwrites) hrest
      refine ⟨r', hr', ?_⟩
      rw [hcount, if_neg hwrites, Nat.zero_add]

/-- A record is saved if its version is the one that is stored. -/
theorem isOk_perform_save {stored t : Submission} (h : s.find? t.id = some stored) :
    (s.perform (.save t)).1.isOk = true ↔ stored.version = t.version := by
  rw [perform, save, write, h]
  dsimp only
  split
  · next hversion => exact iff_of_true rfl hversion
  · next hversion => exact iff_of_false Bool.false_ne_true hversion

end

/-! ## The result -/

/-- A request does what it should. -/
structure Honours (s : Store) (q : Request) : Prop where
  /-- An identifier is given once. -/
  taken : ∀ r, q = .create r → (s.find? r.id).isSome → (s.perform q).1 = .error .duplicate
  created : ∀ r, q = .create r → s.find? r.id = none →
    (s.perform q).1 = .ok (some r) ∧ (s.perform q).2.find? r.id = some r
  /-- A write raises the version of the record by one. -/
  counted : q.isWrite = true → ∀ answer, (s.perform q).1 = .ok answer →
    ∃ stored r, s.find? q.id = some stored ∧ answer = some r ∧
      (s.perform q).2.find? q.id = some r ∧ r.version.toNat = stored.version.toNat + 1
  read : ∀ id, q = .read id → s.perform q = (.ok (s.find? id), s)
  /-- A record is saved under the stored version only, and kept as it is but for its version. -/
  saved : ∀ t, q = .save t → ∀ answer, (s.perform q).1 = .ok answer ↔
    ∃ stored, s.find? t.id = some stored ∧ stored.version = t.version ∧
      answer = some { t with version := t.version + 1 }
  /-- The status is changed if it is the expected one; with it changes the time of the last change,
  and nothing else. -/
  moved : ∀ id expected status now, q = .updateStatus id expected status now →
    ∀ answer, (s.perform q).1 = .ok answer ↔
      ∃ stored, s.find? id = some stored ∧ stored.status = expected ∧
        answer = some { stored with
          status := status, modifiedAt := now, version := stored.version + 1 }
  /-- The barcode is noted down if there is none or the same one; with it changes the time of the
  last change, and nothing else.  Where there is no form, one without a type and files is made. -/
  labelled : ∀ id barcode now, q = .updateBarcode id barcode now →
    ∀ answer, (s.perform q).1 = .ok answer ↔
      ∃ stored, s.find? id = some stored ∧
        (stored.barcode? = none ∨ stored.barcode? = some barcode) ∧
        answer = some { stored with
          form := some { stored.form.getD ⟨none, none, []⟩ with barcode := some barcode }
          modifiedAt := now
          version := stored.version + 1 }
  others : ∀ id, id ≠ q.id → (s.perform q).2.find? id = s.find? id
  refused : ∀ e, (s.perform q).1 = .error e → (s.perform q).2 = s

theorem honours_of_fits {s : Store} {q : Request} {rest : List Request}
    (h : s.Fits (q :: rest)) : s.Honours q where
  taken r hq htaken := by
    rw [hq, perform, create, dif_neg (Option.isSome_iff_ne_none.1 htaken)]
    rfl
  created r hq hfree := by
    rw [hq, perform, create, dif_pos hfree]
    exact ⟨rfl, (find?_append hfree r.id).trans (if_pos rfl)⟩
  counted hwrite answer hanswer := by
    have hwrites : s.Writes q.id q := ⟨hwrite, rfl, by rw [hanswer]; rfl⟩
    obtain ⟨stored, r, hstored, hid, hversion, hperform⟩ := perform_of_writes hwrites
    have hsize : stored.version.toNat + 1 < UInt64.size := by
      have hall := h.1 hwrites
      rw [hstored] at hall
      exact of_decide_eq_true hall
    rw [hperform] at hanswer
    refine ⟨stored, r, hstored, (Except.ok.inj hanswer).symm, ?_, ?_⟩
    · rw [hperform, find?_put, if_pos hid.symm, hstored]
      rfl
    · rw [hversion, toNat_version_succ hsize]
  read id hq := by
    rw [hq]
    rfl
  saved t hq answer := by
    rw [hq, perform, save, settled_write_eq_ok]
    refine exists_congr fun stored => ?_
    simp only [ite_eq_ok]
    constructor
    · rintro ⟨r, hstored, ⟨hversion, rfl⟩, rfl⟩
      exact ⟨hstored, hversion, by rw [hversion]⟩
    · rintro ⟨hstored, hversion, rfl⟩
      exact ⟨t, hstored, ⟨hversion, rfl⟩, by rw [hversion]⟩
  moved id expected status now hq answer := by
    rw [hq, perform, updateStatus, settled_write_eq_ok]
    refine exists_congr fun stored => ?_
    simp only [ite_eq_ok]
    constructor
    · rintro ⟨r, hstored, ⟨hstatus, rfl⟩, rfl⟩
      exact ⟨hstored, hstatus, by rw [← id_of_find? hstored]; rfl⟩
    · rintro ⟨hstored, hstatus, rfl⟩
      exact ⟨_, hstored, ⟨hstatus, rfl⟩, by rw [← id_of_find? hstored]; rfl⟩
  labelled id barcode now hq answer := by
    have hfree (stored : Submission) : stored.barcode?.all (· = barcode) = true ↔
        stored.barcode? = none ∨ stored.barcode? = some barcode := by
      cases stored.barcode? <;> simp
    rw [hq, perform, updateBarcode, settled_write_eq_ok]
    refine exists_congr fun stored => ?_
    simp only [ite_eq_ok, hfree]
    constructor
    · rintro ⟨r, hstored, ⟨hbarcode, rfl⟩, rfl⟩
      exact ⟨hstored, hbarcode, by rw [← id_of_find? hstored]; rfl⟩
    · rintro ⟨hstored, hbarcode, rfl⟩
      exact ⟨_, hstored, ⟨hbarcode, rfl⟩, by rw [← id_of_find? hstored]; rfl⟩
  others id hid := find?_perform hid
  refused e he := perform_of_error he

/-- **No update is lost.**  Take any list of requests to a store that starts out empty, in which no
version comes to the end of its count.  Each of them does what it should; and a record that was read,
and is saved with any changes but to its identifier and its version, is saved exactly if no request in
between has written it. -/
theorem no_lost_update {before after : List Request} {q : Request}
    (hfits : empty.Fits (before ++ q :: after)) :
    (empty.after before).Honours q ∧
      ∀ (earlier between : List Request) (id : String) (r t : Submission),
        before = earlier ++ .read id :: between →
          ((empty.after earlier).perform (.read id)).1 = .ok (some r) →
            q = .save t → t.id = r.id → t.version = r.version →
              (((empty.after before).perform q).1.isOk = true ↔
                (empty.after earlier).writesTo id between = 0) := by
  obtain ⟨hbefore, hq⟩ := fits_append.1 hfits
  refine ⟨honours_of_fits hq, ?_⟩
  rintro earlier between id r t rfl hread rfl hid hversion
  obtain ⟨-, hbetween⟩ := fits_append.1 hbefore
  have hr : (empty.after earlier).find? id = some r := Except.ok.inj hread
  obtain ⟨stored, hstored, hcount⟩ := find?_after hr hbetween.2
  have hafter : empty.after (earlier ++ .read id :: between) = (empty.after earlier).after between := by
    rw [after_append]
    rfl
  rw [hafter, isOk_perform_save (by rw [hid, id_of_find? hr]; exact hstored), hversion,
    ← UInt64.toNat_inj]
  have hwrites : ((empty.after earlier).perform (.read id)).2.writesTo id between =
      (empty.after earlier).writesTo id between := rfl
  omega

/-- Somebody reads a record, and somebody else moves it on and notes down its barcode: the first one
cannot save any more what he makes of it. -/
theorem no_lost_update_twoClients :
    let now : Instant := ⟨1719828000, 0⟩
    let later : Instant := ⟨1719828060, 0⟩
    let r := Submission.opened "sub-1" "REF-0001" none now
    let moved : Request := .updateStatus "sub-1" .opened .paymentRequired later
    let labelled : Request := .updateBarcode "sub-1" "X2418300001" later
    let stale : Request := .save { r with company := some ⟨"01234567", "Acme Widgets Ltd"⟩ }
    empty.Fits [.create r, .read "sub-1", moved, labelled, stale] ∧
      (empty.after [.create r, .read "sub-1", moved, labelled]).Honours stale ∧
      ((empty.after [.create r, .read "sub-1", moved, labelled]).perform stale).1.isOk = false ∧
      (empty.after [.create r, .read "sub-1", moved, labelled, stale]).find? "sub-1" =
        some { r with
          status := .paymentRequired
          form := some ⟨some "X2418300001", none, []⟩
          modifiedAt := later
          version := 2 } := by
  intro now later r moved labelled stale
  have hfits : empty.Fits ([.create r, .read "sub-1", moved, labelled] ++ stale :: []) := by
    decide +kernel
  obtain ⟨hhonours, hsaved⟩ := no_lost_update hfits
  have hread : ((empty.after [.create r]).perform (.read "sub-1")).1 = .ok (some r) := by
    decide +kernel
  have hwritten : (empty.after [.create r]).writesTo "sub-1" [moved, labelled] = 2 := by
    decide +kernel
  have hiff := hsaved [.create r] [moved, labelled] "sub-1" r _ rfl hread rfl rfl rfl
  rw [hwritten] at hiff
  exact ⟨hfits, hhonours, Bool.eq_false_iff.2 fun hok => absurd (hiff.1 hok) (by decide),
    by decide +kernel⟩

end Filing.Store
