import Filing.Config.Basic
import Filing.Proofs.Office.Reach
import Filing.Proofs.Office.Report

/-!
# Where the reports on all files leave a submission

Once every attached file has been reported on, the decision is final and the submission is no longer
under way — if the files can be told apart.  Nothing keeps two files from having the same identifier,
and then every report under it is taken for the first of them: the other one is never decided, and
the submission stays under way for good.

* `Submission.FirstDecided` — of the files with one identifier only the first is ever decided;
* `Submission.kept_underWay` — what every submission under way has, in every office;
* `File.nodup_of_pairwise` — so a final decision means that the identifiers differ;
* `Submission.decided_of_named` — and if they differ, a named file is decided;
* `Office.Reachable.leaves_processing_iff` — **the reports on all files are the end of the checks
  exactly when no two files share an identifier**.
-/

set_option autoImplicit false

namespace Filing

/-! ## Files with one identifier -/

namespace File

variable {files : List File} {id : String} {change : File → File}

/-- A file behind another one of the same identifier is not decided. -/
def Shadowed (f g : File) : Prop :=
  f.id = g.id → g.status.isDecided = false

theorem pairwise_updateFirst (hchange : ∀ f, (change f).id = f.id)
    (h : files.Pairwise Shadowed) : (updateFirst id change files).Pairwise Shadowed := by
  induction files with
  | nil => exact h
  | cons g rest ih =>
    obtain ⟨hg, hrest⟩ := List.pairwise_cons.1 h
    rw [updateFirst]
    by_cases hid : g.id = id
    · rw [if_pos hid]
      refine List.pairwise_cons.2 ⟨fun f hf hsame => hg f hf ?_, hrest⟩
      rw [← hsame, hchange]
    · rw [if_neg hid]
      refine List.pairwise_cons.2 ⟨fun f hf hsame => ?_, ih hrest⟩
      obtain hf | ⟨f', -, hid', rfl⟩ := mem_updateFirst hf
      · exact hg f hf hsame
      · -- the changed file has another identifier than this one
        rw [hchange, hid'] at hsame
        exact absurd hsame hid

/-- Where all files are decided, none stands behind another one of the same identifier. -/
theorem nodup_of_pairwise (h : files.Pairwise Shadowed)
    (hall : ∀ f ∈ files, f.status.isDecided = true) : (files.map (·.id)).Nodup := by
  rw [List.Nodup, List.pairwise_map]
  refine h.imp_of_mem fun _ hg hshadowed hsame => ?_
  have hundecided := hshadowed hsame
  rw [hall _ hg] at hundecided
  cases hundecided

end File

/-! ## Submissions under way -/

namespace Submission

/-- What a submission under way has: a file to decide, and of the files with one identifier only the
first may have been decided. -/
structure FirstDecided (s : Submission) : Prop where
  undecided : ∃ f ∈ s.files, f.status.isDecided = false
  shadowed : s.files.Pairwise File.Shadowed

variable {desk : CatalogDesk} {s t : Submission} {d : Delivery} {ds : List Delivery}

theorem Report.shadowed (h : s.Report desk d t) (hs : s.files.Pairwise File.Shadowed) :
    t.files.Pairwise File.Shadowed := by
  rw [h.files]
  exact File.pairwise_updateFirst (fun f => File.id_decide f d.outcome d.time) hs

theorem firstDecided_queueFiles (hfiles : s.files ≠ []) (now : Instant) :
    (s.queueFiles now).FirstDecided := by
  have hqueued : ∀ f ∈ (s.queueFiles now).files, f.status.isDecided = false := by
    intro f hf
    rw [files_queueFiles] at hf
    obtain ⟨g, -, rfl⟩ := List.mem_map.1 hf
    rfl
  refine ⟨?_, List.pairwise_of_forall_mem_list fun _ _ g hg _ => hqueued g hg⟩
  have hne : (s.queueFiles now).files ≠ [] := by
    rw [files_queueFiles]
    exact fun hnil => hfiles (List.map_eq_nil_iff.1 hnil)
  obtain ⟨f, hf⟩ := List.exists_mem_of_ne_nil _ hne
  exact ⟨f, hf, hqueued f hf⟩

/-- The invariant of a submission that may be under way. -/
def UnderWay (s : Submission) : Prop :=
  s.status = .processing → s.FirstDecided

/-- **Every move keeps it.**  Only queueing puts a submission under way, and only reports keep it
there. -/
theorem UnderWay.move {o : Office} (hs : s.UnderWay) (h : Move o s t) : t.UnderWay := by
  intro ht
  cases h with
  | company company h =>
    obtain ⟨hopened, rfl⟩ := editCompany_eq_ok.1 h
    exact absurd (hopened.symm.trans ht) (by decide)
  | form formType h =>
    obtain ⟨hopened, fee, -, rfl⟩ := editForm_eq_ok.1 h
    exact absurd (hopened.symm.trans ht) (by decide)
  | files files h =>
    obtain ⟨hopened, rfl⟩ := editFiles_eq_ok.1 h
    exact absurd (hopened.symm.trans ht) (by decide)
  | sessions sessions h =>
    obtain ⟨hopened, rfl⟩ := editSessions_eq_ok.1 h
    exact absurd (hopened.symm.trans ht) (by decide)
  | authorised authorised h =>
    obtain ⟨hopened, rfl⟩ := editAuthorised_eq_ok.1 h
    exact absurd (hopened.symm.trans ht) (by decide)
  | complete h =>
    obtain ⟨-, form, fee, -, -, -, rfl⟩ := complete_eq_ok.1 h
    rw [priced] at ht
    split at ht <;> cases ht
  | payment report h =>
    obtain ⟨hstatus, sessions, -, rfl⟩ := recordPayment_eq_ok.1 h
    cases hstate : report.state <;> rw [hstate] at ht
    case paid => cases ht
    case failed => cases ht
    case cancelled => cases ht
    case pending =>
      have ht : s.status = .processing := ht
      rw [ht] at hstatus
      obtain h | h := hstatus <;> cases h
  | queue h =>
    obtain ⟨-, h⟩ := queue_eq_ok.1 h
    split at h
    · obtain ⟨form, -, rfl⟩ := h
      exact absurd ht (destination_ne_processing .accepted form)
    · next hfiles =>
      have hne : s.files ≠ [] := by
        rintro hnil
        rw [hnil] at hfiles
        exact hfiles rfl
      obtain ⟨hundecided, hshadowed⟩ := firstDecided_queueFiles hne o.clock
      rw [h]
      exact ⟨hundecided, hshadowed⟩
  | report fileId outcome progress h hnew =>
    have hreport := report_of_counts (d := ⟨fileId, outcome, o.clock⟩) h hnew
    exact ⟨hreport.upToDate.underWay.1 ht, hreport.shadowed (hs hreport.underWay).shadowed⟩
  | barcode barcode hready hnone => exact absurd (hready.symm.trans ht) (by decide)
  | sent hready hsome => cases ht
  | adjudicate outcome h =>
    obtain ⟨-, rfl⟩ := adjudicate_eq_ok.1 h
    cases outcome <;> cases ht

theorem kept_underWay : Kept UnderWay where
  opened _ _ _ _ h := by cases h
  moved hs h := hs.move h
  stored version h ht := by
    obtain ⟨hundecided, hshadowed⟩ := h ht
    exact ⟨hundecided, hshadowed⟩

/-! ## After the reports -/

/-- A report that can be looked up counts on a file that is not decided yet. -/
theorem counts_of_undecided {form : Option FormTemplate} (hform : s.registeredForm desk = .ok form)
    (hstatus : s.status = .processing) {f : File}
    (hfind : s.files.find? (·.id = d.fileId) = some f) (hf : f.status.isDecided = false) :
    s.Counts desk d := by
  let u := s.decideFile d.fileId d.outcome d.time
  obtain ⟨progress, hrecord, hnew⟩ : ∃ progress,
      s.recordOutcome d.fileId d.outcome d.time = .ok (progress, u) ∧
        progress.isDuplicate = false := by
    refine ⟨(Decision.ofFiles u.files).progress, recordOutcome_eq_ok.2 ⟨f, hfind, ?_⟩,
      Decision.isDuplicate_progress _⟩
    rw [if_neg (by simp [hf])]
    exact ⟨rfl, rfl⟩
  -- the last report needs the form, to see where its verdict leads
  cases hverdict : progress.verdict? with
  | none =>
    have hreport : s.report desk d.fileId d.outcome d.time = .ok (progress, u) := by
      refine report_eq_ok.2 ⟨hstatus, u, hrecord, ?_⟩
      rw [hverdict]
    exact ⟨progress, u, hreport, hnew⟩
  | some verdict =>
    let target := verdict.destination form
    have hreport : s.report desk d.fileId d.outcome d.time =
        .ok (progress, { u with status := target, modifiedAt := d.time }) := by
      refine report_eq_ok.2 ⟨hstatus, u, hrecord, ?_⟩
      rw [hverdict]
      exact ⟨_, hform, rfl⟩
    exact ⟨progress, _, hreport, hnew⟩

/-- Where the files can be told apart, a file that is reported on is decided. -/
theorem decided_of_named {form : Option FormTemplate} (hform : s.registeredForm desk = .ok form)
    (hstatus : s.status = .processing) (hnodup : (s.files.map (·.id)).Nodup) :
    ∀ f ∈ (s.reported desk d).files, f.id = d.fileId → f.status.isDecided = true := by
  intro f hf hid
  by_cases hcounts : s.Counts desk d
  · rw [files_reported hcounts, File.updateFirst_eq_map hnodup] at hf
    obtain ⟨g, hg, rfl⟩ := List.mem_map.1 hf
    by_cases hgid : g.id = d.fileId
    · rw [if_pos hgid, File.status_decide, File.isDecided_status]
    · rw [if_neg hgid] at hid
      exact absurd hid hgid
  · rw [reported_of_not_counts hcounts] at hf
    obtain ⟨g, hfind⟩ : ∃ g, s.files.find? (·.id = d.fileId) = some g := by
      rw [← Option.isSome_iff_exists, List.find?_isSome]
      exact ⟨f, hf, by simpa using hid⟩
    have hgid : g.id = d.fileId := by simpa using List.find?_some hfind
    have hgf : g = f :=
      List.inj_on_of_nodup_map hnodup (List.mem_of_find?_eq_some hfind) hf (hgid.trans hid.symm)
    rw [hgf] at hfind
    by_contra hundecided
    exact hcounts (counts_of_undecided hform hstatus hfind (by simpa using hundecided))

/-- While a submission stays under way, every file that is named is decided. -/
theorem decided_serial {form : Option FormTemplate} (hform : s.registeredForm desk = .ok form)
    (hnodup : (s.files.map (·.id)).Nodup)
    (hstatus : (s.serial desk ds).status = .processing) :
    ∀ f ∈ (s.serial desk ds).files, f.id ∈ ds.map (·.fileId) → f.status.isDecided = true := by
  induction ds using List.reverseRecOn with
  | nil => exact fun f _ hid => absurd hid List.not_mem_nil
  | append_singleton ds d ih =>
    intro f hf hid
    rw [serial_concat] at hstatus hf
    have hbefore : (s.serial desk ds).status = .processing := by
      by_cases h : (s.serial desk ds).Counts desk d
      · obtain ⟨t, -, ht⟩ := reported_of_counts h
        exact ht.underWay
      · rwa [reported_of_not_counts h] at hstatus
    rw [List.map_append, List.mem_append] at hid
    obtain hid | hid := hid
    · by_cases h : (s.serial desk ds).Counts desk d
      · rw [files_reported h] at hf
        obtain hf | ⟨g, -, -, rfl⟩ := File.mem_updateFirst hf
        · exact ih hbefore f hf hid
        · rw [File.status_decide, File.isDecided_status]
      · rw [reported_of_not_counts h] at hf
        exact ih hbefore f hf hid
    · rw [← registeredForm_serial desk s ds] at hform
      rw [← map_id_files_serial desk s ds] at hnodup
      exact decided_of_named hform hbefore hnodup f hf (List.mem_singleton.1 hid)

theorem shadowed_serial (hs : s.files.Pairwise File.Shadowed) (ds : List Delivery) :
    (s.serial desk ds).files.Pairwise File.Shadowed :=
  serial_kept (P := fun u => u.files.Pairwise File.Shadowed) hs
    (fun _ _ _ hu ht => ht.shadowed hu) ds

/-- **The reports on all files end the checks exactly when no two files share an identifier**, and
the catalog can tell what form they belong to. -/
theorem serial_ne_processing_iff (hstatus : s.status = .processing) (hs : s.FirstDecided)
    (hds : (ds.map (·.fileId)).Perm (s.files.map (·.id))) :
    (s.serial desk ds).status ≠ .processing ↔
      (s.files.map (·.id)).Nodup ∧ ∃ form, s.registeredForm desk = .ok form := by
  have hupToDate := (upToDate_of_underWay desk hstatus hs.undecided).serial ds
  rw [ne_eq, hupToDate.underWay]
  constructor
  · intro hopen
    have hall : ∀ f ∈ (s.serial desk ds).files, f.status.isDecided = true := by
      intro f hf
      by_contra hundecided
      exact hopen ⟨f, hf, by simpa using hundecided⟩
    obtain ⟨_, form, -, hform, -⟩ := hupToDate.settled hall
    rw [registeredForm_serial] at hform
    refine ⟨?_, form, hform⟩
    rw [← map_id_files_serial desk s ds]
    exact File.nodup_of_pairwise (shadowed_serial hs.shadowed ds) hall
  · rintro ⟨hnodup, form, hform⟩ ⟨f, hf, hundecided⟩
    have hnamed : f.id ∈ ds.map (·.fileId) := by
      rw [hds.mem_iff, ← map_id_files_serial desk s ds]
      exact List.mem_map_of_mem hf
    have hprocessing := hupToDate.underWay.2 ⟨f, hf, hundecided⟩
    rw [decided_serial hform hnodup hprocessing f hf hnamed] at hundecided
    cases hundecided

end Submission

/-! ## In every office -/

/-- **When the reports on all files end the checks.**  Take a submission under way in any office that
operations lead to, and report on its files, once for each entry of the list and in any order, while
the store loses no save.  The submission leaves the checks exactly when no two files share an
identifier and the catalog answers what form they belong to. -/
theorem Office.Reachable.leaves_processing_iff {o : Office} (h : o.Reachable) (hup : o.Up)
    {s : Submission} (hs : s ∈ o.store.records) (hstatus : s.status = .processing)
    {ds : List Delivery} (hds : (ds.map (·.fileId)).Perm (s.files.map (·.id))) :
    ∃ t, (o.run (ds.map (delivered s.id))).store.find? s.id = some t ∧
      (t.status ≠ .processing ↔
        (s.files.map (·.id)).Nodup ∧ ∃ form, s.registeredForm o.desk = .ok form) := by
  have hfirst : s.FirstDecided := h.kept Submission.kept_underWay s hs hstatus
  refine ⟨s.serial o.desk ds, find?_run_delivered hup (Store.find?_of_mem hs) ds, ?_⟩
  exact Submission.serial_ne_processing_iff hstatus hfirst hds

namespace Office

/-- An office with one submission under way, with two files of the given identifiers. -/
def withTwoFiles (first second : String) : Office :=
  let now : Instant := ⟨1719828000, 0⟩
  (Office.opened .standard OfficeConfig.default.settings .fresh now).run
    [(now, .create (some ⟨"filings@acme.example"⟩)),
      (now, .editCompany "sub-1" ⟨"01234567", "Acme Widgets Ltd"⟩),
      (now, .editForm "sub-1" "SH01"),
      (now, .editFiles "sub-1"
        [.uploaded first "allotment.pdf" 2048, .uploaded second "copy.pdf" 2048]),
      (now, .complete "sub-1"),
      (now, .queue "sub-1")]

/-- Reports that two files are converted. -/
def twoReports (first second : String) : List Delivery :=
  [⟨first, .converted none none, ⟨1719828060, 0⟩⟩, ⟨second, .converted none none, ⟨1719828120, 0⟩⟩]

/-- Files that can be told apart. -/
theorem leaves_processing_withTwoFiles :
    ∃ s ∈ (withTwoFiles "allotment" "copy").store.records,
      s.status = .processing ∧
      ∃ t, ((withTwoFiles "allotment" "copy").run
          ((twoReports "copy" "allotment").map (delivered s.id))).store.find? s.id = some t ∧
        (t.status ≠ .processing ↔
          (s.files.map (·.id)).Nodup ∧
            ∃ form, s.registeredForm (withTwoFiles "allotment" "copy").desk = .ok form) ∧
        t.status = .readyToSubmit := by
  have hreach : (withTwoFiles "allotment" "copy").Reachable := (Reachable.opened _ _ _ _).run _
  have hup : (withTwoFiles "allotment" "copy").Up :=
    ⟨hreach.undisturbed, by decide +kernel, by decide +kernel⟩
  have hfound : ∃ s ∈ (withTwoFiles "allotment" "copy").store.records,
      s.status = .processing ∧
        ((twoReports "copy" "allotment").map (·.fileId)).Perm (s.files.map (·.id)) ∧
        (((withTwoFiles "allotment" "copy").run
          ((twoReports "copy" "allotment").map (delivered s.id))).store.find? s.id).map
            (·.status) = some .readyToSubmit := by
    decide +kernel
  obtain ⟨s, hs, hstatus, hds, hready⟩ := hfound
  obtain ⟨t, ht, hiff⟩ := hreach.leaves_processing_iff hup hs hstatus hds
  rw [ht] at hready
  exact ⟨s, hs, hstatus, t, ht, hiff, Option.some.inj hready⟩

/-- Two files of one identifier strand their submission: there has been a report for each of them,
and it is still under way. -/
theorem stranded_withTwoFiles :
    (withTwoFiles "allotment" "allotment").Reachable ∧ (withTwoFiles "allotment" "allotment").Up ∧
      (withTwoFiles "allotment" "allotment").desk.down = [] ∧
      ∃ s ∈ (withTwoFiles "allotment" "allotment").store.records,
        s.status = .processing ∧
        ((twoReports "allotment" "allotment").map (·.fileId)).Perm (s.files.map (·.id)) ∧
        (((withTwoFiles "allotment" "allotment").run
          ((twoReports "allotment" "allotment").map (delivered s.id))).store.find? s.id).map
            (·.status) = some .processing := by
  have hreach : (withTwoFiles "allotment" "allotment").Reachable :=
    (Reachable.opened _ _ _ _).run _
  refine ⟨hreach, ⟨hreach.undisturbed, by decide +kernel, by decide +kernel⟩, ?_, ?_⟩
  · decide +kernel
  · decide +kernel

end Office

end Filing
