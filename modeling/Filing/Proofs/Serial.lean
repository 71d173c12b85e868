import Filing.Proofs.Aggregation
import Filing.Proofs.Office.Effect

/-!
# Reports one after another

A report on a file of a stored submission either counts, and then the submission is saved with one
file more decided, or it leaves the record alone.  Here reports are taken one after another, with
nobody in between: this is what the work of several clients is measured by.

* `Submission.Counts` — a report that counts, with what it leaves in `report_of_counts`;
* `Submission.reported`, `Submission.serial` — the record after one report and after many;
* `Submission.UpToDate` — where a submission stands fits what its files say;
* `Submission.Counted` — every report of a list counts, with the number of writes in
  `Counted.version_serial` and the number of decided files in `Counted.countP_serial`.
-/

set_option autoImplicit false

namespace Filing

namespace Submission

/-! ## One report -/

/-- The report is taken, and it is the first one on its file. -/
def Counts (desk : CatalogDesk) (s : Submission) (d : Delivery) : Prop :=
  ∃ progress t, s.report desk d.fileId d.outcome d.time = .ok (progress, t) ∧
    progress.isDuplicate = false

/-- The record of a submission after a report. -/
def reported (desk : CatalogDesk) (s : Submission) (d : Delivery) : Submission :=
  match s.report desk d.fileId d.outcome d.time with
  | .ok (progress, t) => if progress.isDuplicate then s else t.stored s.version
  | .error _ => s

/-- Where a submission stands fits what its files say: it is under way while a file is undecided,
and after that it is where the verdict leads. -/
structure UpToDate (desk : CatalogDesk) (s : Submission) : Prop where
  underWay : s.status = .processing ↔ ∃ f ∈ s.files, f.status.isDecided = false
  settled : (∀ f ∈ s.files, f.status.isDecided = true) →
    ∃ verdict form, (Decision.ofFiles s.files).verdict? = some verdict ∧
      s.registeredForm desk = .ok form ∧ s.status = verdict.destination form

variable {desk : CatalogDesk} {s t : Submission} {d : Delivery} {progress : Progress}

theorem verdict?_ofFiles_eq_none {files : List File} :
    (Decision.ofFiles files).verdict? = none ↔ ∃ f ∈ files, f.status.isDecided = false := by
  have hcount : (Decision.ofFiles files).received = (Decision.ofFiles files).expected ↔
      ∀ f ∈ files, f.status.isDecided = true :=
    List.countP_eq_length
  rw [Decision.verdict?_eq_none, ne_eq, hcount]
  push Not
  simp only [ne_eq, Bool.not_eq_true]

/-- A submission that is under way with a file to decide is where it should be. -/
theorem upToDate_of_underWay (desk : CatalogDesk) (hstatus : s.status = .processing)
    (hopen : ∃ f ∈ s.files, f.status.isDecided = false) : s.UpToDate desk := by
  refine ⟨iff_of_true hstatus hopen, fun hall => ?_⟩
  obtain ⟨f, hf, hundecided⟩ := hopen
  rw [hall f hf] at hundecided
  cases hundecided

/-- What a report that counts leaves, before it is saved. -/
structure Report (desk : CatalogDesk) (s : Submission) (d : Delivery) (t : Submission) : Prop where
  found : ∃ file, s.files.find? (·.id = d.fileId) = some file ∧ file.status.isDecided = false
  underWay : s.status = .processing
  files : t.files = File.updateFirst d.fileId (·.decide d.outcome d.time) s.files
  origin : s.SameOrigin t
  formType : t.formType? = s.formType?
  upToDate : t.UpToDate desk

theorem report_of_counts (h : s.report desk d.fileId d.outcome d.time = .ok (progress, t))
    (hnew : progress.isDuplicate = false) : s.Report desk d t := by
  obtain ⟨hstatus, u, hu, ht⟩ := report_eq_ok.1 h
  obtain ⟨file, hfind, hfile, hprogress, rfl⟩ := recordOutcome_not_duplicate hu hnew
  rw [hprogress, Decision.verdict?_progress] at ht
  split at ht
  · next hnone =>
    rw [verdict?_ofFiles_eq_none] at hnone
    subst ht
    exact ⟨⟨file, hfind, hfile⟩, hstatus, files_decideFile .., ⟨rfl, rfl, rfl, rfl, rfl⟩,
      formType?_decideFile .., upToDate_of_underWay desk hstatus hnone⟩
  · next verdict hsome =>
    obtain ⟨form, hform, rfl⟩ := ht
    have hall : ¬∃ f ∈ (s.decideFile d.fileId d.outcome d.time).files,
        f.status.isDecided = false := by
      rw [← verdict?_ofFiles_eq_none, hsome]
      exact Option.some_ne_none verdict
    refine ⟨⟨file, hfind, hfile⟩, hstatus, files_decideFile .., ⟨rfl, rfl, rfl, rfl, rfl⟩,
      formType?_decideFile .., ?_, ?_⟩
    · exact iff_of_false (destination_ne_processing verdict form) hall
    · refine fun _ => ⟨verdict, form, hsome, ?_, rfl⟩
      rw [← hform]
      exact registeredForm_congr (formType?_decideFile ..) desk

theorem reported_of_ok (h : s.report desk d.fileId d.outcome d.time = .ok (progress, t))
    (hnew : progress.isDuplicate = false) : s.reported desk d = t.stored s.version := by
  rw [reported, h]
  dsimp only
  rw [hnew]
  rfl

/-- A report that does not count leaves the record alone. -/
theorem reported_of_not_counts (h : ¬s.Counts desk d) : s.reported desk d = s := by
  rw [reported]
  split
  · next progress t heq =>
    cases hdup : progress.isDuplicate with
    | true => rfl
    | false => exact absurd ⟨progress, t, heq, hdup⟩ h
  · rfl

/-- What a report that counts makes of the record. -/
theorem reported_of_counts (h : s.Counts desk d) :
    ∃ t, s.reported desk d = t.stored s.version ∧ s.Report desk d t := by
  obtain ⟨progress, t, hreport, hnew⟩ := h
  exact ⟨t, reported_of_ok hreport hnew, report_of_counts hreport hnew⟩

/-- A report that counts decides the first file of its identifier. -/
theorem files_reported (h : s.Counts desk d) :
    (s.reported desk d).files = File.updateFirst d.fileId (·.decide d.outcome d.time) s.files := by
  obtain ⟨t, heq, ht⟩ := reported_of_counts h
  rw [← ht.files, heq]
  rfl

/-! ## Many reports -/

/-- The record of a submission after reports, one after another. -/
def serial (desk : CatalogDesk) (s : Submission) (ds : List Delivery) : Submission :=
  ds.foldl (reported desk) s

/-- Every report of a list counts when its turn comes. -/
def Counted (desk : CatalogDesk) (s : Submission) (ds : List Delivery) : Prop :=
  ∀ before d, before ++ [d] <+: ds → (s.serial desk before).Counts desk d

variable {ds before : List Delivery}

theorem serial_concat : s.serial desk (ds ++ [d]) = (s.serial desk ds).reported desk d := by
  rw [serial, List.foldl_append]
  rfl

/-- **What every report that counts keeps is kept by all of them.** -/
theorem serial_kept {P : Submission → Prop} (hs : P s)
    (hP : ∀ s d t, P s → s.Report desk d t → P (t.stored s.version)) (ds : List Delivery) :
    P (s.serial desk ds) := by
  induction ds using List.reverseRecOn with
  | nil => exact hs
  | append_singleton ds d ih =>
    rw [serial_concat]
    by_cases h : (s.serial desk ds).Counts desk d
    · obtain ⟨t, heq, ht⟩ := reported_of_counts h
      rw [heq]
      exact hP _ d t ih ht
    · rw [reported_of_not_counts h]
      exact ih

/-- Where the submission stands fits its files all the way. -/
theorem UpToDate.serial (hs : s.UpToDate desk) (ds : List Delivery) :
    (s.serial desk ds).UpToDate desk :=
  serial_kept hs (fun _ _ _ _ ht => ⟨ht.upToDate.underWay, ht.upToDate.settled⟩) ds

/-- No report changes the identifiers of the files. -/
theorem map_id_files_serial (desk : CatalogDesk) (s : Submission) (ds : List Delivery) :
    (s.serial desk ds).files.map (·.id) = s.files.map (·.id) := by
  refine serial_kept (P := fun u => u.files.map (·.id) = s.files.map (·.id)) rfl ?_ ds
  intro u d t hu ht
  have hfiles : (t.stored u.version).files = t.files := rfl
  rw [hfiles, ht.files, File.map_updateFirst (fun f => File.id_decide f d.outcome d.time), hu]

@[simp] theorem id_serial : (s.serial desk ds).id = s.id :=
  serial_kept (P := fun u => u.id = s.id) rfl (fun _ _ _ hu ht => ht.origin.id.trans hu) ds

theorem registeredForm_serial (desk : CatalogDesk) (s : Submission) (ds : List Delivery) :
    (s.serial desk ds).registeredForm desk = s.registeredForm desk := by
  have htype : (s.serial desk ds).formType? = s.formType? :=
    serial_kept (P := fun u => u.formType? = s.formType?) rfl
      (fun _ _ _ hu ht => ht.formType.trans hu) ds
  exact registeredForm_congr htype desk

namespace Counted

theorem nil : s.Counted desk [] := by
  intro before d h
  exact absurd (List.prefix_nil.1 h) (by simp)

theorem of_prefix (h : s.Counted desk ds) (hbefore : before <+: ds) : s.Counted desk before :=
  fun _ _ hd => h _ _ (hd.trans hbefore)

theorem concat (h : s.Counted desk ds) (hd : (s.serial desk ds).Counts desk d) :
    s.Counted desk (ds ++ [d]) := by
  intro before e hbefore
  obtain heq | hbefore := List.prefix_concat_iff.1 hbefore
  · obtain ⟨rfl, he⟩ := List.append_inj' heq rfl
    rw [(List.singleton_inj.1 he)]
    exact hd
  · exact h before e hbefore

theorem counts (h : s.Counted desk (ds ++ [d])) : (s.serial desk ds).Counts desk d :=
  h ds d (List.prefix_refl _)

/-- Every report that counts is one write. -/
theorem version_serial (h : s.Counted desk ds) :
    (s.serial desk ds).version = s.version + UInt64.ofNat ds.length := by
  induction ds using List.reverseRecOn with
  | nil => exact (UInt64.add_zero _).symm
  | append_singleton ds d ih =>
    obtain ⟨t, heq, -⟩ := reported_of_counts h.counts
    have hversion : ((s.serial desk ds).reported desk d).version =
        (s.serial desk ds).version + 1 := by
      rw [heq]
      rfl
    rw [serial_concat, hversion, ih (h.of_prefix (List.prefix_append ds [d])), List.length_append,
      List.length_singleton, UInt64.ofNat_add, ← UInt64.add_assoc]
    rfl

/-- **Every report that counts decides one file more**: none is lost, and none counts twice. -/
theorem countP_serial (h : s.Counted desk ds) :
    (s.serial desk ds).files.countP (·.status.isDecided) =
      s.files.countP (·.status.isDecided) + ds.length := by
  induction ds using List.reverseRecOn with
  | nil => rfl
  | append_singleton ds d ih =>
    obtain ⟨t, -, ht⟩ := reported_of_counts h.counts
    obtain ⟨file, hfind, hfile⟩ := ht.found
    rw [serial_concat, files_reported h.counts, File.countP_updateFirst hfind hfile,
      ih (h.of_prefix (List.prefix_append ds [d])), List.length_append, List.length_singleton,
      Nat.add_assoc]

theorem length_le (h : s.Counted desk ds) : ds.length ≤ s.files.length := by
  have hcount := h.countP_serial
  have hle := List.countP_le_length (p := fun f : File => f.status.isDecided)
    (l := (s.serial desk ds).files)
  have hlength := congrArg List.length (map_id_files_serial desk s ds)
  rw [List.length_map, List.length_map] at hlength
  omega

/-- **The version tells how many reports have counted**, as long as there are fewer files than
versions. -/
theorem eq_of_version_eq (h : s.Counted desk ds) (hbefore : before <+: ds)
    (hsize : s.files.length < UInt64.size)
    (hversion : (s.serial desk before).version = (s.serial desk ds).version) : before = ds := by
  have hle := hbefore.length_le
  have hfiles := h.length_le
  rw [h.version_serial, (h.of_prefix hbefore).version_serial, UInt64.add_right_inj] at hversion
  have hnat := congrArg UInt64.toNat hversion
  rw [UInt64.toNat_ofNat_of_lt' (by omega), UInt64.toNat_ofNat_of_lt' (by omega)] at hnat
  exact hbefore.eq_of_length hnat

end Counted

end Submission

end Filing
