import Filing.Decision

/-!
# One report on a file

What a single report does to the files of a submission.  A report finds the first file of its
identifier; if nothing has been reported on that file yet, the file is decided and every other file
stays as it is.

* `File.updateFirst_eq_append` — where the changed file stands, and what stands around it;
* `Submission.decideFile` — the submission after a report that counted;
* `Submission.recordOutcome_eq` — the three answers to a report, and `recordOutcome_eq_ok`;
* `Decision.verdict?_eq` — the verdict, and `verdict?_eq_none`, when it is still open.
-/

set_option autoImplicit false

namespace Filing

/-! ## Deciding a file -/

namespace File

variable (f : File) (outcome : FileOutcome) (now : Instant)

@[simp] theorem id_decide : (f.decide outcome now).id = f.id := by
  cases outcome <;> rfl

@[simp] theorem name_decide : (f.decide outcome now).name = f.name := by
  cases outcome <;> rfl

@[simp] theorem status_decide : (f.decide outcome now).status = outcome.status := by
  cases outcome <;> rfl

/-- Every outcome decides. -/
@[simp] theorem isDecided_status (outcome : FileOutcome) : outcome.status.isDecided = true := by
  cases outcome <;> rfl

/-! ## The first file of an identifier -/

/-- The changed file is the first of its identifier, and the files around it are the old ones. -/
theorem updateFirst_eq_append {files : List File} {id : String} {f : File}
    (h : files.find? (·.id = id) = some f) (change : File → File) :
    ∃ l r, files = l ++ f :: r ∧ f.id = id ∧ (∀ g ∈ l, g.id ≠ id) ∧
      updateFirst id change files = l ++ change f :: r := by
  induction files with
  | nil => simp at h
  | cons g rest ih =>
    rw [List.find?_cons] at h
    by_cases hg : g.id = id
    · rw [decide_eq_true hg] at h
      obtain rfl := Option.some.inj h
      exact ⟨[], rest, rfl, hg, by simp, by rw [updateFirst, if_pos hg]; rfl⟩
    · rw [decide_eq_false hg] at h
      obtain ⟨l, r, hrest, hf, hl, hup⟩ := ih h
      refine ⟨g :: l, r, by rw [hrest]; rfl, hf, ?_, ?_⟩
      · intro x hx
        rcases List.mem_cons.1 hx with rfl | hx
        · exact hg
        · exact hl x hx
      · rw [updateFirst, if_neg hg, hup]
        rfl

/-- A file after a change is an old one, or the changed one. -/
theorem mem_updateFirst {files : List File} {id : String} {change : File → File} {f : File}
    (h : f ∈ updateFirst id change files) :
    f ∈ files ∨ ∃ g ∈ files, g.id = id ∧ f = change g := by
  induction files with
  | nil => exact Or.inl h
  | cons g rest ih =>
    rw [updateFirst] at h
    by_cases hg : g.id = id
    · rw [if_pos hg] at h
      obtain rfl | h := List.mem_cons.1 h
      · exact Or.inr ⟨g, List.mem_cons_self, hg, rfl⟩
      · exact Or.inl (List.mem_cons_of_mem g h)
    · rw [if_neg hg] at h
      obtain rfl | h := List.mem_cons.1 h
      · exact Or.inl List.mem_cons_self
      obtain h | ⟨f', hf', hid, rfl⟩ := ih h
      · exact Or.inl (List.mem_cons_of_mem g h)
      · exact Or.inr ⟨f', List.mem_cons_of_mem g hf', hid, rfl⟩

/-- A change keeps what it does not mention of any file. -/
theorem map_updateFirst {β : Type} {view : File → β} {change : File → File}
    (h : ∀ f, view (change f) = view f) (id : String) (files : List File) :
    (updateFirst id change files).map view = files.map view := by
  induction files with
  | nil => rfl
  | cons g rest ih =>
    rw [updateFirst]
    split
    · rw [List.map_cons, List.map_cons, h]
    · rw [List.map_cons, List.map_cons, ih]

/-- Where no two files share an identifier, the first file of it is the only one. -/
theorem updateFirst_eq_map {files : List File} (h : (files.map (·.id)).Nodup) (id : String)
    (change : File → File) :
    updateFirst id change files = files.map fun f => if f.id = id then change f else f := by
  induction files with
  | nil => rfl
  | cons g rest ih =>
    rw [List.map_cons, List.nodup_cons] at h
    rw [updateFirst, List.map_cons]
    split
    · next hg =>
      have hrest : rest.map (fun f => if f.id = id then change f else f) = rest.map fun f => f :=
        List.map_congr_left fun f hf =>
          if_neg fun hid => h.1 (by rw [hg, ← hid]; exact List.mem_map_of_mem hf)
      rw [hrest, List.map_id']
    · rw [ih h.2]

/-- A report on an undecided file decides one file more. -/
theorem countP_updateFirst {files : List File} {id : String} {f : File}
    (h : files.find? (·.id = id) = some f) (hf : f.status.isDecided = false)
    (outcome : FileOutcome) (now : Instant) :
    (updateFirst id (·.decide outcome now) files).countP (·.status.isDecided) =
      files.countP (·.status.isDecided) + 1 := by
  obtain ⟨l, r, hfiles, -, -, hup⟩ := updateFirst_eq_append h (·.decide outcome now)
  rw [hup, hfiles, List.countP_append, List.countP_append, List.countP_cons, List.countP_cons, hf,
    status_decide, isDecided_status]
  simp only [if_true, Bool.false_eq_true, if_false]
  omega

end File

/-! ## The state of the decision -/

namespace Decision

/-- The files of a kind have a name on the list of that kind exactly when there are any. -/
theorem isEmpty_namesWith {status : FileStatus} {files : List File} :
    (namesWith status files).isEmpty = true ↔ ∀ f ∈ files, f.status ≠ status := by
  rw [namesWith, List.isEmpty_map, List.isEmpty_iff, List.filter_eq_nil_iff]
  simp only [decide_eq_true_eq]

/-- The verdict, by the lists of the files that failed. -/
theorem verdict?_eq (d : Decision) :
    d.verdict? =
      if d.received = d.expected then
        some (if d.infected.isEmpty then
          if d.failedConversion.isEmpty then .accepted else .rejectedByDocumentConverter
        else .rejectedByVirusScan)
      else none := by
  rw [verdict?, isComplete]
  by_cases hcomplete : d.received = d.expected
  · rw [if_pos hcomplete, hcomplete]
    cases d.infected.isEmpty <;> cases d.failedConversion.isEmpty <;> simp
  · rw [if_neg hcomplete, if_pos (by simpa using hcomplete)]

theorem verdict?_eq_none {d : Decision} : d.verdict? = none ↔ d.received ≠ d.expected := by
  rw [verdict?_eq]
  split
  · next h => simp [h]
  · next h => simp [h]

@[simp] theorem verdict?_progress (d : Decision) : d.progress.verdict? = d.verdict? := by
  rw [progress]
  split
  · next h => rw [h]; rfl
  · next h => rw [h]; rfl

@[simp] theorem isDuplicate_progress (d : Decision) : d.progress.isDuplicate = false := by
  rw [progress]
  split <;> rfl

end Decision

/-! ## The answers to a report -/

namespace Submission

theorem form_of_mem_files {s : Submission} {f : File} (h : f ∈ s.files) :
    ∃ form, s.form = some form ∧ form.files = s.files := by
  cases hform : s.form with
  | none => simp [files, hform] at h
  | some form => exact ⟨form, rfl, by simp [files, hform]⟩

/-- The submission with the first file of an identifier decided. -/
def decideFile (s : Submission) (fileId : String) (outcome : FileOutcome) (now : Instant) :
    Submission :=
  { s with
    form := s.form.map fun form =>
      { form with files := File.updateFirst fileId (·.decide outcome now) form.files }
    modifiedAt := now }

section

variable (s : Submission) (fileId : String) (outcome : FileOutcome) (now : Instant)

@[simp] theorem files_decideFile :
    (s.decideFile fileId outcome now).files =
      File.updateFirst fileId (·.decide outcome now) s.files := by
  cases h : s.form <;> simp [decideFile, files, h, File.updateFirst]

@[simp] theorem formType?_decideFile :
    (s.decideFile fileId outcome now).formType? = s.formType? := by
  cases h : s.form <;> simp [decideFile, formType?, h]

end

/-- A submission with a form knows three answers to a report: the file is not attached, it has
reported before, or it is decided. -/
theorem recordOutcome_eq {s : Submission} (h : s.form.isSome) (fileId : String)
    (outcome : FileOutcome) (now : Instant) :
    s.recordOutcome fileId outcome now =
      match s.files.find? (·.id = fileId) with
      | none => .error (.unknownFile s.id fileId)
      | some file =>
        if file.status.isDecided then
          .ok (.duplicate (s.files.countP (·.status.isDecided)) s.files.length, s)
        else
          .ok ((Decision.ofFiles (s.decideFile fileId outcome now).files).progress,
            s.decideFile fileId outcome now) := by
  obtain ⟨form, hform⟩ := Option.isSome_iff_exists.1 h
  have hfiles : s.files = form.files := by rw [files, hform]; rfl
  rw [files_decideFile, hfiles]
  cases hfind : form.files.find? (·.id = fileId) with
  | none => simp only [recordOutcome, hform, hfind]
  | some file =>
    simp only [recordOutcome, hform, hfind, decideFile, Option.map_some]
    rfl

/-- A report is taken when its file is attached.  It changes the submission unless the file has
reported before. -/
theorem recordOutcome_eq_ok {s t : Submission} {fileId : String} {outcome : FileOutcome}
    {now : Instant} {progress : Progress} :
    s.recordOutcome fileId outcome now = .ok (progress, t) ↔
      ∃ file, s.files.find? (·.id = fileId) = some file ∧
        if file.status.isDecided then
          progress = .duplicate (s.files.countP (·.status.isDecided)) s.files.length ∧ t = s
        else
          progress = (Decision.ofFiles (s.decideFile fileId outcome now).files).progress ∧
            t = s.decideFile fileId outcome now := by
  cases hform : s.form with
  | none => simp [recordOutcome, hform, files]
  | some form =>
    rw [recordOutcome_eq (by rw [hform]; rfl)]
    cases s.files.find? (·.id = fileId) with
    | none => simp
    | some file =>
      simp only [Option.some.injEq, exists_eq_left']
      split
      · simp only [Except.ok.injEq, Prod.mk.injEq, @eq_comm _ progress, @eq_comm _ t]
      · simp only [Except.ok.injEq, Prod.mk.injEq, @eq_comm _ progress, @eq_comm _ t]

/-- A report that counted. -/
theorem recordOutcome_not_duplicate {s t : Submission} {fileId : String} {outcome : FileOutcome}
    {now : Instant} {progress : Progress}
    (h : s.recordOutcome fileId outcome now = .ok (progress, t))
    (hnew : progress.isDuplicate = false) :
    ∃ file, s.files.find? (·.id = fileId) = some file ∧ file.status.isDecided = false ∧
      progress = (Decision.ofFiles t.files).progress ∧ t = s.decideFile fileId outcome now := by
  obtain ⟨file, hfind, hcase⟩ := recordOutcome_eq_ok.1 h
  split at hcase
  · rw [hcase.1] at hnew
    exact absurd hnew (by simp [Progress.isDuplicate])
  · next hfile =>
    obtain ⟨hprogress, rfl⟩ := hcase
    exact ⟨file, hfind, by simpa using hfile, hprogress, rfl⟩

end Submission

end Filing
