import Filing.Proofs.Numeral
import Filing.Proofs.Office.Single

/-!
# The identifiers of uploads

An upload keeps the identifier that it comes with, and gets a fresh one where it has none.  The
place of an upload that is missing is held by a file without an identifier.

* `Office.isGap` — nothing can come of the upload: it is missing, or its identifier is blank;
* `Office.Gets`, `Office.Received` — the identifiers that uploads get;
* `Office.received_filesOf` — **uploads get identifiers so**; `Office.upload_apply`, which makes an
  upload an edit;
* `Office.findIdx?_eq_of_gets` — a blank identifier stands exactly where there is a gap.
-/

set_option autoImplicit false

namespace Filing.Office

open Act
open Text (isBlankText)

/-- The upload is missing, or its identifier is blank. -/
def isGap : Option Upload → Bool
  | none => true
  | some upload => upload.id.any isBlankText

/-- The upload is there and has no identifier. -/
def isUnnamed : Option Upload → Bool
  | none => false
  | some upload => upload.id.isNone

/-- The identifier that an upload gets, where `number` is the last number that was given out. -/
inductive Gets (number : Nat) : Option Upload → String → Prop
  | missing : Gets number none ""
  | given (id name : String) (size : UInt64) : Gets number (some ⟨some id, name, size⟩) id
  | fresh (n : Nat) (h : number < n) (name : String) (size : UInt64) :
      Gets number (some ⟨none, name, size⟩) s!"file-{n}"

/-- The identifiers of the uploads that had none. -/
def freshIds (uploads : List (Option Upload)) (ids : List String) : List String :=
  ((uploads.zip ids).filter fun e => isUnnamed e.1).map (·.2)

/-- The identifiers that uploads get, where `number` is the last number that was given out. -/
structure Received (number : Nat) (uploads : List (Option Upload)) (ids : List String) : Prop where
  each : List.Forall₂ (Gets number) uploads ids
  /-- No fresh identifier is given out twice. -/
  distinct : (freshIds uploads ids).Nodup
  /-- Fresh identifiers come from numbers that were not given out before. -/
  fresh : ∀ id ∈ freshIds uploads ids,
    isBlankText id = false ∧ ∃ n, number < n ∧ id = s!"file-{n}"

variable {number more : Nat} {uploads : List (Option Upload)} {upload : Option Upload}
  {ids : List String} {id : String}

/-! ## Numbered identifiers -/

theorem isBlankText_fileId (n : Nat) : isBlankText s!"file-{n}" = false := by
  have hlead : ("file-" : String).toList.all Text.isBlank = false := by decide
  have happend : (s!"file-{n}" : String).toList = "file-".toList ++ (toString n).toList :=
    String.toList_append
  rw [isBlankText, happend, List.all_append, hlead, Bool.false_and]

theorem fileId_injective {m n : Nat} (h : s!"file-{m}" = s!"file-{n}") : m = n := by
  have hdigits : Nat.toDigits 10 m = Nat.toDigits 10 n := by
    simpa [ToString.toString, Nat.repr, String.ext_iff] using h
  have hread := Text.digits?_toDigits m
  rw [hdigits, Text.digits?_toDigits] at hread
  exact (Option.some.inj hread).symm

/-! ## One upload -/

theorem Gets.mono (h : Gets more upload id) (hle : number ≤ more) : Gets number upload id := by
  cases h with
  | missing => exact .missing
  | given id name size => exact .given id name size
  | fresh n hn name size => exact .fresh n (Nat.lt_of_le_of_lt hle hn) name size

/-- An identifier is blank exactly where there is a gap. -/
theorem Gets.isBlankText_eq (h : Gets number upload id) : isBlankText id = isGap upload := by
  cases h with
  | missing => rfl
  | given id name size => rfl
  | fresh n hn name size => exact isBlankText_fileId n

/-! ## Many uploads -/

/-- **The first blank identifier stands where the first gap is.** -/
theorem findIdx?_eq_of_gets (h : List.Forall₂ (Gets number) uploads ids) :
    ids.findIdx? isBlankText = uploads.findIdx? isGap := by
  induction h with
  | nil => rfl
  | cons hgets _ ih => rw [List.findIdx?_cons, List.findIdx?_cons, hgets.isBlankText_eq, ih]

theorem Received.nil : Received number [] [] where
  each := .nil
  distinct := List.nodup_nil
  fresh _ h := absurd h List.not_mem_nil

/-- An upload that gets no fresh identifier. -/
theorem Received.cons (h : Received number uploads ids) (hgets : Gets number upload id)
    (hnamed : isUnnamed upload = false) : Received number (upload :: uploads) (id :: ids) := by
  have hfresh : freshIds (upload :: uploads) (id :: ids) = freshIds uploads ids := by
    simp [freshIds, hnamed]
  exact ⟨.cons hgets h.each, hfresh ▸ h.distinct, hfresh ▸ h.fresh⟩

/-- An upload that gets the next number. -/
theorem Received.cons_fresh (h : Received (number + 1) uploads ids) (name : String)
    (size : UInt64) :
    Received number (some ⟨none, name, size⟩ :: uploads) (s!"file-{number + 1}" :: ids) := by
  have hfresh : freshIds (some ⟨none, name, size⟩ :: uploads) (s!"file-{number + 1}" :: ids) =
      s!"file-{number + 1}" :: freshIds uploads ids := by
    simp [freshIds, isUnnamed]
  refine ⟨.cons (.fresh _ (Nat.lt_succ_self number) name size)
    (h.each.imp fun _ _ hgets => hgets.mono (Nat.le_succ number)), ?_, ?_⟩
  · rw [hfresh, List.nodup_cons]
    refine ⟨fun hmem => ?_, h.distinct⟩
    obtain ⟨-, n, hn, heq⟩ := h.fresh _ hmem
    exact Nat.ne_of_lt hn (fileId_injective heq)
  · rw [hfresh, List.forall_mem_cons]
    refine ⟨⟨isBlankText_fileId _, _, Nat.lt_succ_self number, rfl⟩, fun id hid => ?_⟩
    obtain ⟨hblank, n, hn, heq⟩ := h.fresh id hid
    exact ⟨hblank, n, Nat.lt_of_succ_lt hn, heq⟩

/-- **Uploads get their identifiers, and nothing else changes but the supply of them.** -/
theorem received_filesOf (uploads : List (Option Upload)) (o : Office) :
    ∃ files ids,
      (uploads.mapM fileOf : Act Refusal (List File)) o = (.ok files, { o with ids := ids }) ∧
      Received o.ids.number uploads (files.map (·.id)) := by
  induction uploads generalizing o with
  | nil => exact ⟨[], o.ids, rfl, .nil⟩
  | cons upload rest ih =>
    obtain _ | ⟨_ | id, name, size⟩ := upload
    · obtain ⟨files, ids, hrest, hreceived⟩ := ih o
      refine ⟨.uploaded "" "" 0 :: files, ids, ?_, hreceived.cons .missing rfl⟩
      rw [List.mapM_cons, bind_of_ok (rfl : fileOf none o = (.ok (.uploaded "" "" 0), o)),
        bind_of_ok hrest]
      rfl
    · let o₁ : Office := { o with ids := o.ids.fileId.2 }
      obtain ⟨files, ids, hrest, hreceived⟩ := ih o₁
      have hfile : (fileOf (some ⟨none, name, size⟩) : Act Refusal File) o =
          (.ok (.uploaded o.ids.fileId.1 name size), o₁) := rfl
      refine ⟨.uploaded o.ids.fileId.1 name size :: files, ids, ?_,
        hreceived.cons_fresh name size⟩
      rw [List.mapM_cons, bind_of_ok hfile, bind_of_ok hrest]
      rfl
    · obtain ⟨files, ids, hrest, hreceived⟩ := ih o
      have hfile : (fileOf (some ⟨some id, name, size⟩) : Act Refusal File) o =
          (.ok (.uploaded id name size), o) := rfl
      refine ⟨.uploaded id name size :: files, ids, ?_, hreceived.cons (.given id name size) rfl⟩
      rw [List.mapM_cons, bind_of_ok hfile, bind_of_ok hrest]
      rfl

/-- **An upload is an edit of the files**, once these have their identifiers. -/
theorem upload_apply (id : String) (uploads : List (Option Upload)) (o : Office) :
    ∃ files ids, (Operation.upload id uploads).perform o =
        (Operation.editFiles id files).perform { o with ids := ids } ∧
      Received o.ids.number uploads (files.map (·.id)) := by
  obtain ⟨files, ids, hfiles, hreceived⟩ := received_filesOf uploads o
  refine ⟨files, ids, ?_, hreceived⟩
  rw [Operation.perform, Operation.perform, map_apply, map_apply, Office.upload, bind_of_ok hfiles]

/-- After an upload that is answered, the files of the open submission are those of the uploads. -/
theorem received_upload {o o' : Office} (ho : o.Up) {answer : Answer}
    (h : (Operation.upload id uploads).perform o = (.ok answer, o')) :
    ∃ s, o'.store.find? id = some s ∧ s.status = .opened ∧
      Received o.ids.number uploads (s.files.map (·.id)) := by
  have hshown : ∃ s, answer = .submission s :=
    eq_submission_of_map (Office.upload id uploads) o (congrArg Prod.fst h)
  obtain ⟨files, supply, hperform, hreceived⟩ := upload_apply id uploads o
  have hup : Up { o with ids := supply } := ho.of_drill_eq rfl
  have hhandled := handled_perform hup
    (rfl : (Operation.editFiles id files).task? = some (id, .files files))
  rw [← hperform, h] at hhandled
  cases hhandled with
  | @done answer s t hid hs hmakes hanswer hnew =>
    obtain ⟨hopened, ht⟩ := Submission.editFiles_eq_ok.1 hmakes
    have hfiles : (t.stored s.version).files.map (·.id) = files.map (·.id) := by
      have hnew : (t.stored s.version).files = files.map (Submission.startOver o.clock) := by
        rw [ht]
        rfl
      rw [hnew, List.map_map]
      rfl
    refine ⟨t.stored s.version, ?_, ?_, hfiles.symm ▸ hreceived⟩
    · rw [← hid]
      exact find?_carriedOut hs hmakes
    · rw [ht]
      exact hopened
  | repeated hs hanswer hrepeated =>
    obtain ⟨s, rfl⟩ := hshown
    cases hrepeated

end Filing.Office
