import Filing.Proofs.Decision
import Mathlib.Data.List.Induction
import Mathlib.Data.List.Nodup

/-!
# Reports in any order

The reports on the files of a submission arrive one by one, in any order, some of them more than
once, and some on files that are not attached.  What comes of them depends on the first report on
each attached file only: the files on record, how far the decision has come at each point, and the
verdict.

* `Delivery` — a report that arrives, with `Delivery.first?`, the one that counts for a file;
* `File.Settled` — what is on record of a file after deliveries;
* `Submission.verdictBy`, `Submission.decisionBy` — the verdict and the decision by the reports that
  count;
* `Submission.after`, `Submission.answers` — a submission after a list of deliveries, and what they
  were answered;
* `Submission.Unreported.files_after` — every file is settled by its first report, by induction on
  the deliveries from the last one;
* `Submission.Unreported.filter_isFinal_answers` — at most one answer is final, and which one;
* `Submission.Unreported.aggregated` — **the whole account of a list of deliveries**.
-/

set_option autoImplicit false

namespace Filing

/-! ## Deliveries -/

/-- A report that is delivered. -/
structure Delivery where
  fileId : String
  outcome : FileOutcome
  time : Instant
deriving DecidableEq

namespace Delivery

/-- The first delivery that names a file. -/
def first? (ds : List Delivery) (fileId : String) : Option Delivery :=
  ds.find? (·.fileId = fileId)

/-- The outcome that counts for a file. -/
def firstOutcome? (ds : List Delivery) (fileId : String) : Option FileOutcome :=
  (first? ds fileId).map (·.outcome)

variable {ds ds' : List Delivery} {d : Delivery} {fileId : String}

theorem isSome_first? : (first? ds fileId).isSome ↔ fileId ∈ ds.map (·.fileId) := by
  rw [first?, List.find?_isSome]
  simp only [decide_eq_true_eq, List.mem_map]

theorem isSome_firstOutcome? :
    (firstOutcome? ds fileId).isSome ↔ fileId ∈ ds.map (·.fileId) := by
  rw [firstOutcome?, Option.isSome_map, isSome_first?]

theorem first?_eq_none : first? ds fileId = none ↔ fileId ∉ ds.map (·.fileId) := by
  rw [← isSome_first?, Option.not_isSome_iff_eq_none]

theorem first?_concat : first? (ds ++ [d]) fileId =
    (first? ds fileId).or (if d.fileId = fileId then some d else none) := by
  rw [first?, List.find?_append, List.find?_singleton]
  simp only [decide_eq_true_eq]
  rfl

/-- A delivery on another file counts for nothing here. -/
theorem first?_concat_of_ne (h : d.fileId ≠ fileId) :
    first? (ds ++ [d]) fileId = first? ds fileId := by
  rw [first?_concat, if_neg h, Option.or_none]

/-- A repeated delivery counts for nothing. -/
theorem first?_concat_of_mem (h : fileId ∈ ds.map (·.fileId)) :
    first? (ds ++ [d]) fileId = first? ds fileId := by
  obtain ⟨e, he⟩ := Option.isSome_iff_exists.1 (isSome_first?.2 h)
  rw [first?_concat, he, Option.some_or]

theorem first?_concat_self (h : d.fileId ∉ ds.map (·.fileId)) :
    first? (ds ++ [d]) d.fileId = some d := by
  rw [first?_concat, first?_eq_none.2 h, Option.none_or, if_pos rfl]

/-- Where no file is named twice, the order of the deliveries does not matter. -/
theorem first?_perm (h : ds.Perm ds') (hnodup : (ds.map (·.fileId)).Nodup) (fileId : String) :
    first? ds' fileId = first? ds fileId := by
  cases hfirst : first? ds fileId with
  | none =>
    rw [first?_eq_none] at hfirst ⊢
    rwa [← (h.map (·.fileId)).mem_iff]
  | some d =>
    have hmem : fileId ∈ ds'.map (·.fileId) := by
      rw [← (h.map (·.fileId)).mem_iff, ← isSome_first?, hfirst]
      rfl
    obtain ⟨e, he⟩ := Option.isSome_iff_exists.1 (isSome_first?.2 hmem)
    have hd : d.fileId = fileId := by simpa using List.find?_some hfirst
    have he' : e.fileId = fileId := by simpa using List.find?_some he
    have hde : e = d := by
      refine List.inj_on_of_nodup_map hnodup ?_ (List.mem_of_find?_eq_some hfirst) ?_
      · exact h.mem_iff.2 (List.mem_of_find?_eq_some he)
      · rw [he', hd]
    rw [he, hde]

end Delivery

open Delivery

/-! ## A file and its deliveries -/

namespace File

/-- What is on record of a file after deliveries: what the first one that names it says, and what
was there before where it says nothing. -/
inductive Settled (ds : List Delivery) (f : File) : File → Prop
  | unnamed (h : first? ds f.id = none) : Settled ds f f
  | converted {convertedId : Option String} {pages : Option UInt32} {time : Instant}
      (h : first? ds f.id = some ⟨f.id, .converted convertedId pages, time⟩) :
      Settled ds f
        { f with
          status := .converted
          convertedId := convertedId
          pages := pages
          modifiedAt := some time }
  | infected {time : Instant} (h : first? ds f.id = some ⟨f.id, .infected, time⟩) :
      Settled ds f { f with status := .failedScan, modifiedAt := some time }
  | conversionFailed {time : Instant}
      (h : first? ds f.id = some ⟨f.id, .conversionFailed, time⟩) :
      Settled ds f { f with status := .failedConversion, modifiedAt := some time }

/-- A file after deliveries: the first one that names it counts. -/
def settledBy (f : File) (ds : List Delivery) : File :=
  match first? ds f.id with
  | some d => f.decide d.outcome d.time
  | none => f

/-- A file without the time of its last change. -/
def undated (f : File) : File :=
  { f with modifiedAt := none }

variable {f : File} {ds ds' : List Delivery}

/-- **A file is settled by the first delivery that names it.** -/
theorem settled_settledBy (ds : List Delivery) (f : File) : f.Settled ds (f.settledBy ds) := by
  rw [settledBy]
  cases hfirst : first? ds f.id with
  | none => exact .unnamed hfirst
  | some d =>
    obtain ⟨fileId, outcome, time⟩ := d
    obtain rfl : fileId = f.id := by simpa using List.find?_some hfirst
    cases outcome with
    | converted convertedId pages => exact .converted hfirst
    | infected => exact .infected hfirst
    | conversionFailed => exact .conversionFailed hfirst

@[simp] theorem id_settledBy : (f.settledBy ds).id = f.id := by
  rw [settledBy]
  split
  · rw [id_decide]
  · rfl

@[simp] theorem name_settledBy : (f.settledBy ds).name = f.name := by
  rw [settledBy]
  split
  · rw [name_decide]
  · rfl

theorem settledBy_congr (h : first? ds' f.id = first? ds f.id) :
    f.settledBy ds' = f.settledBy ds := by
  rw [settledBy, settledBy, h]

/-- A file is decided once it has been named. -/
theorem isDecided_settledBy (ds : List Delivery) (hf : f.status.isDecided = false) :
    (f.settledBy ds).status.isDecided = true ↔ f.id ∈ ds.map (·.fileId) := by
  rw [← isSome_first?, settledBy]
  cases first? ds f.id with
  | none => simp [hf]
  | some d => simp

/-- A status that says that a file is decided comes from the outcome that counts. -/
theorem status_settledBy (hf : f.status.isDecided = false) {status : FileStatus}
    (hstatus : status.isDecided = true) :
    (f.settledBy ds).status = status ↔
      ∃ outcome, firstOutcome? ds f.id = some outcome ∧ outcome.status = status := by
  have hne : f.status ≠ status := by
    rintro rfl
    rw [hf] at hstatus
    cases hstatus
  rw [settledBy, firstOutcome?]
  cases first? ds f.id with
  | none => simp [hne]
  | some d => simp

/-- When a file was decided does not matter for what else is on record. -/
theorem undated_decide (outcome : FileOutcome) (now now' : Instant) :
    (f.decide outcome now).undated = (f.decide outcome now').undated := by
  cases outcome <;> rfl

theorem undated_settledBy_congr (h : firstOutcome? ds' f.id = firstOutcome? ds f.id) :
    (f.settledBy ds').undated = (f.settledBy ds).undated := by
  rw [firstOutcome?, firstOutcome?] at h
  rw [settledBy, settledBy]
  cases hd : first? ds f.id with
  | none =>
    rw [hd, Option.map_none, Option.map_eq_none_iff] at h
    rw [h]
  | some d =>
    rw [hd, Option.map_some, Option.map_eq_some_iff] at h
    obtain ⟨d', hd', houtcome⟩ := h
    rw [hd']
    dsimp only
    rw [houtcome]
    exact undated_decide d.outcome d'.time d.time

end File

/-! ## The decision and the deliveries -/

/-- How many files have reported, as an answer says it. -/
def Progress.received : Progress → Nat
  | pending received _ => received
  | duplicate received _ => received
  | finalized decision _ => decision.received

namespace Submission

/-- The files of a submission can be told apart, and nothing has been reported on any of them. -/
structure Unreported (s : Submission) : Prop where
  nonempty : s.files ≠ []
  nodup : (s.files.map (·.id)).Nodup
  undecided : ∀ f ∈ s.files, f.status.isDecided = false

/-- How many of the attached files are named. -/
def named (s : Submission) (ds : List Delivery) : Nat :=
  s.files.countP fun f => f.id ∈ ds.map (·.fileId)

/-- Every attached file is named. -/
def AllNamed (s : Submission) (ds : List Delivery) : Prop :=
  ∀ f ∈ s.files, f.id ∈ ds.map (·.fileId)

instance (s : Submission) (ds : List Delivery) : Decidable (s.AllNamed ds) :=
  inferInstanceAs (Decidable (∀ f ∈ s.files, f.id ∈ ds.map (·.fileId)))

/-- The verdict by the outcomes that count. -/
def verdictBy (s : Submission) (ds : List Delivery) : Verdict :=
  if ∃ f ∈ s.files, firstOutcome? ds f.id = some .infected then .rejectedByVirusScan
  else if ∃ f ∈ s.files, firstOutcome? ds f.id = some .conversionFailed then
    .rejectedByDocumentConverter
  else .accepted

/-- The names of the files for which an outcome counts, in their order. -/
def namesBy (s : Submission) (ds : List Delivery) (outcome : FileOutcome) : List String :=
  (s.files.filter fun f => firstOutcome? ds f.id = some outcome).map (·.name)

/-- The decision by the outcomes that count. -/
def decisionBy (s : Submission) (ds : List Delivery) : Decision where
  expected := s.files.length
  received := s.named ds
  changed := decide (∃ f ∈ s.files, firstOutcome? ds f.id = some .infected ∨
    firstOutcome? ds f.id = some .conversionFailed)
  infected := s.namesBy ds .infected
  failedConversion := s.namesBy ds .conversionFailed

section

variable {s : Submission} {ds ds' : List Delivery}

theorem named_eq_length : s.named ds = s.files.length ↔ s.AllNamed ds := by
  rw [named, List.countP_eq_length, AllNamed]
  simp only [decide_eq_true_eq]

theorem named_congr (h : ∀ f ∈ s.files, firstOutcome? ds' f.id = firstOutcome? ds f.id) :
    s.named ds' = s.named ds := by
  refine List.countP_congr fun f hf => ?_
  simp only [decide_eq_true_eq, ← isSome_firstOutcome?, h f hf]

theorem allNamed_congr (h : ∀ f ∈ s.files, firstOutcome? ds' f.id = firstOutcome? ds f.id) :
    s.AllNamed ds' ↔ s.AllNamed ds := by
  refine forall₂_congr fun f hf => ?_
  rw [← isSome_firstOutcome?, ← isSome_firstOutcome?, h f hf]

theorem verdictBy_congr (h : ∀ f ∈ s.files, firstOutcome? ds' f.id = firstOutcome? ds f.id) :
    s.verdictBy ds' = s.verdictBy ds := by
  have hexists (outcome : FileOutcome) :
      (∃ f ∈ s.files, firstOutcome? ds' f.id = some outcome) ↔
        ∃ f ∈ s.files, firstOutcome? ds f.id = some outcome := by
    refine exists_congr fun f => and_congr_right fun hf => ?_
    rw [h f hf]
  simp only [verdictBy, hexists]

theorem decisionBy_congr (h : ∀ f ∈ s.files, firstOutcome? ds' f.id = firstOutcome? ds f.id) :
    s.decisionBy ds' = s.decisionBy ds := by
  have hnames (outcome : FileOutcome) : s.namesBy ds' outcome = s.namesBy ds outcome :=
    congrArg (List.map File.name) (List.filter_congr fun f hf => by rw [h f hf])
  have hexists : (∃ f ∈ s.files, firstOutcome? ds' f.id = some .infected ∨
        firstOutcome? ds' f.id = some .conversionFailed) ↔
      ∃ f ∈ s.files, firstOutcome? ds f.id = some .infected ∨
        firstOutcome? ds f.id = some .conversionFailed :=
    exists_congr fun f => and_congr_right fun hf => by rw [h f hf]
  simp only [decisionBy, named_congr h, hnames, hexists]

theorem isEmpty_namesBy {outcome : FileOutcome} :
    (s.namesBy ds outcome).isEmpty = true ↔
      ¬∃ f ∈ s.files, firstOutcome? ds f.id = some outcome := by
  rw [namesBy, List.isEmpty_map, List.isEmpty_iff, List.filter_eq_nil_iff]
  simp only [decide_eq_true_eq, not_exists, not_and]

/-- **The verdict is that of the first reports**, and there is one once all files are named. -/
theorem verdict?_decisionBy (s : Submission) (ds : List Delivery) :
    (s.decisionBy ds).verdict? = if s.AllNamed ds then some (s.verdictBy ds) else none := by
  rw [Decision.verdict?_eq, verdictBy]
  simp only [decisionBy, named_eq_length, isEmpty_namesBy, ite_not]

theorem progress_decisionBy (s : Submission) (ds : List Delivery) :
    (s.decisionBy ds).progress =
      if s.AllNamed ds then .finalized (s.decisionBy ds) (s.verdictBy ds)
      else .pending (s.named ds) s.files.length := by
  rw [Decision.progress, verdict?_decisionBy]
  by_cases hall : s.AllNamed ds
  · rw [if_pos hall, if_pos hall]
  · rw [if_neg hall, if_neg hall]
    rfl

/-- The files with a status are those for which the outcome counts that leads to it. -/
theorem namesWith_settled (h : s.Unreported) (ds : List Delivery) (outcome : FileOutcome)
    (honly : ∀ o : FileOutcome, o.status = outcome.status → o = outcome) :
    Decision.namesWith outcome.status (s.files.map (·.settledBy ds)) = s.namesBy ds outcome := by
  have hstatus (f : File) (hf : f ∈ s.files) : (f.settledBy ds).status = outcome.status ↔
      firstOutcome? ds f.id = some outcome := by
    rw [File.status_settledBy (h.undecided f hf) (File.isDecided_status outcome)]
    constructor
    · rintro ⟨o, ho, hsame⟩
      rw [ho, honly o hsame]
    · exact fun ho => ⟨outcome, ho, rfl⟩
  have hfilter : s.files.filter
        ((fun f : File => decide (f.status = outcome.status)) ∘ (·.settledBy ds)) =
      s.files.filter fun f => firstOutcome? ds f.id = some outcome :=
    List.filter_congr fun f hf => decide_eq_decide.2 (hstatus f hf)
  rw [Decision.namesWith, List.filter_map, List.map_map, hfilter, namesBy]
  exact List.map_congr_left fun f _ => File.name_settledBy

theorem countP_settled (h : s.Unreported) (ds : List Delivery) :
    (s.files.map (·.settledBy ds)).countP (·.status.isDecided) = s.named ds := by
  rw [named, List.countP_map]
  refine List.countP_congr fun f hf => ?_
  simp only [Function.comp, decide_eq_true_eq]
  exact File.isDecided_settledBy ds (h.undecided f hf)

/-- **The decision is that of the first reports.** -/
theorem ofFiles_settled (h : s.Unreported) (ds : List Delivery) :
    Decision.ofFiles (s.files.map (·.settledBy ds)) = s.decisionBy ds := by
  have hinfected : Decision.namesWith .failedScan (s.files.map (·.settledBy ds)) =
      s.namesBy ds .infected :=
    namesWith_settled h ds .infected (by rintro (_ | _ | _) ho <;> first | rfl | cases ho)
  have hfailed : Decision.namesWith .failedConversion (s.files.map (·.settledBy ds)) =
      s.namesBy ds .conversionFailed :=
    namesWith_settled h ds .conversionFailed (by rintro (_ | _ | _) ho <;> first | rfl | cases ho)
  have hchanged : (!(s.namesBy ds .infected).isEmpty || !(s.namesBy ds .conversionFailed).isEmpty) =
      decide (∃ f ∈ s.files, firstOutcome? ds f.id = some .infected ∨
        firstOutcome? ds f.id = some .conversionFailed) := by
    rw [Bool.eq_iff_iff]
    simp only [Bool.or_eq_true, Bool.not_eq_true', ← Bool.not_eq_true, isEmpty_namesBy, not_not,
      decide_eq_true_eq, and_or_left, exists_or]
  rw [Decision.ofFiles, hinfected, hfailed, hchanged, countP_settled h, List.length_map, decisionBy]

end

/-! ## A list of deliveries -/

/-- What a delivery is answered, and the submission after it. -/
def deliver (s : Submission) (d : Delivery) : Except DecisionError Progress × Submission :=
  match s.recordOutcome d.fileId d.outcome d.time with
  | .ok (progress, t) => (.ok progress, t)
  | .error e => (.error e, s)

/-- A submission after deliveries. -/
def after (s : Submission) (ds : List Delivery) : Submission :=
  ds.foldl (fun s d => (s.deliver d).2) s

/-- What deliveries are answered. -/
def answers (s : Submission) : List Delivery → List (Except DecisionError Progress)
  | [] => []
  | d :: rest => (s.deliver d).1 :: (s.deliver d).2.answers rest

/-- The answer says that the decision is final. -/
def isFinal : Except DecisionError Progress → Bool
  | .ok (.finalized _ _) => true
  | _ => false

section

variable {s t : Submission} {ds : List Delivery} {d : Delivery}

theorem after_concat : s.after (ds ++ [d]) = ((s.after ds).deliver d).2 := by
  rw [after, List.foldl_append]
  rfl

theorem answers_concat : s.answers (ds ++ [d]) = s.answers ds ++ [((s.after ds).deliver d).1] := by
  induction ds generalizing s with
  | nil => rfl
  | cons e rest ih =>
    rw [List.cons_append, answers, answers, ih]
    rfl

/-- Deliveries change the files and the time of the last change, and nothing else. -/
theorem after_rest (s : Submission) (ds : List Delivery) :
    ∃ files time, s.after ds =
      { s with
        form := s.form.map fun form => { form with files := files }
        modifiedAt := time } := by
  induction ds using List.reverseRecOn with
  | nil =>
    have hsame : (s.form.map fun form => { form with files := s.files }) = s.form := by
      cases hform : s.form <;> simp [files, hform]
    refine ⟨s.files, s.modifiedAt, ?_⟩
    rw [hsame]
    rfl
  | append_singleton ds d ih =>
    obtain ⟨files, time, hafter⟩ := ih
    rw [after_concat, deliver]
    split
    · next progress t hrecorded =>
      obtain ⟨file, -, hcase⟩ := recordOutcome_eq_ok.1 hrecorded
      split at hcase
      · exact ⟨files, time, hcase.2.trans hafter⟩
      · refine ⟨File.updateFirst d.fileId (·.decide d.outcome d.time) files, d.time, ?_⟩
        rw [hcase.2, hafter, decideFile, Option.map_map]
        rfl
    · exact ⟨files, time, hafter⟩

theorem find?_settled (fileId : String) :
    (s.files.map (·.settledBy ds)).find? (·.id = fileId) =
      (s.files.find? (·.id = fileId)).map (·.settledBy ds) := by
  rw [List.find?_map]
  congr 2
  funext f
  simp only [Function.comp, File.id_settledBy]

/-- A delivery that names no attached file for the first time counts for none of them. -/
theorem first?_concat_of_idle
    (hidle : d.fileId ∈ s.files.map (·.id) → d.fileId ∈ ds.map (·.fileId)) :
    ∀ f ∈ s.files, first? (ds ++ [d]) f.id = first? ds f.id := by
  intro f hf
  by_cases hid : d.fileId = f.id
  · have hattached : f.id ∈ s.files.map (·.id) := List.mem_map_of_mem hf
    rw [← hid] at hattached ⊢
    exact first?_concat_of_mem (hidle hattached)
  · exact first?_concat_of_ne hid

theorem firstOutcome?_concat_of_idle
    (hidle : d.fileId ∈ s.files.map (·.id) → d.fileId ∈ ds.map (·.fileId)) :
    ∀ f ∈ s.files, firstOutcome? (ds ++ [d]) f.id = firstOutcome? ds f.id := by
  intro f hf
  rw [firstOutcome?, firstOutcome?, first?_concat_of_idle hidle f hf]

/-- The first report on a file settles it, and leaves all other files alone. -/
theorem updateFirst_settled (h : s.Unreported) (hd : d.fileId ∉ ds.map (·.fileId)) :
    File.updateFirst d.fileId (·.decide d.outcome d.time) (s.files.map (·.settledBy ds)) =
      s.files.map (·.settledBy (ds ++ [d])) := by
  have hids : (s.files.map (·.settledBy ds)).map (·.id) = s.files.map (·.id) := by
    rw [List.map_map]
    exact List.map_congr_left fun f _ => File.id_settledBy
  rw [File.updateFirst_eq_map (by rw [hids]; exact h.nodup), List.map_map]
  refine List.map_congr_left fun f hf => ?_
  simp only [Function.comp, File.id_settledBy]
  by_cases hid : f.id = d.fileId
  · rw [if_pos hid, File.settledBy, File.settledBy, hid, first?_concat_self hd, first?_eq_none.2 hd]
  · rw [if_neg hid, File.settledBy_congr (first?_concat_of_ne (Ne.symm hid))]

/-! ### The three answers -/

variable (hfiles : t.files = s.files.map (·.settledBy ds))

include hfiles

theorem deliver_eq (h : s.Unreported) :
    t.deliver d =
      if d.fileId ∈ s.files.map (·.id) then
        if d.fileId ∈ ds.map (·.fileId) then (.ok (.duplicate (s.named ds) s.files.length), t)
        else
          (.ok (s.decisionBy (ds ++ [d])).progress, t.decideFile d.fileId d.outcome d.time)
      else (.error (.unknownFile t.id d.fileId), t) := by
  have hform : t.form.isSome := by
    obtain ⟨f, hf⟩ := List.exists_mem_of_ne_nil s.files h.nonempty
    have hmem : f.settledBy ds ∈ t.files := by
      rw [hfiles]
      exact List.mem_map_of_mem hf
    obtain ⟨form, hform, -⟩ := form_of_mem_files hmem
    rw [hform]
    rfl
  rw [deliver, recordOutcome_eq hform, files_decideFile, hfiles, find?_settled]
  cases hfind : s.files.find? (·.id = d.fileId) with
  | none =>
    have hunknown : d.fileId ∉ s.files.map (·.id) := by
      rw [List.find?_eq_none] at hfind
      rw [List.mem_map]
      rintro ⟨f, hf, hid⟩
      exact hfind f hf (by simpa using hid)
    rw [if_neg hunknown]
    rfl
  | some f =>
    have hf := List.mem_of_find?_eq_some hfind
    have hid : f.id = d.fileId := by simpa using List.find?_some hfind
    have hknown : d.fileId ∈ s.files.map (·.id) := by
      rw [← hid]
      exact List.mem_map_of_mem hf
    have hdecided := File.isDecided_settledBy ds (h.undecided f hf)
    rw [hid] at hdecided
    rw [if_pos hknown, Option.map_some]
    dsimp only
    by_cases hnamed : d.fileId ∈ ds.map (·.fileId)
    · rw [if_pos hnamed, if_pos (hdecided.2 hnamed), List.length_map, countP_settled h]
    · rw [if_neg hnamed, if_neg (fun hc => hnamed (hdecided.1 hc)), updateFirst_settled h hnamed,
        ofFiles_settled h]

end

/-! ### All deliveries -/

namespace Unreported

variable {s : Submission} {d : Delivery}

/-- **Every file is settled by the first delivery that names it.** -/
theorem files_after (h : s.Unreported) (ds : List Delivery) :
    (s.after ds).files = s.files.map (·.settledBy ds) ∧ (s.after ds).id = s.id := by
  induction ds using List.reverseRecOn with
  | nil =>
    refine ⟨?_, rfl⟩
    exact (List.map_id' s.files).symm
  | append_singleton ds d ih =>
    obtain ⟨hfiles, hid⟩ := ih
    have hidle (hd : d.fileId ∈ s.files.map (·.id) → d.fileId ∈ ds.map (·.fileId)) :
        (s.after ds).files = s.files.map (·.settledBy (ds ++ [d])) := by
      rw [hfiles]
      exact List.map_congr_left fun f hf =>
        (File.settledBy_congr (first?_concat_of_idle hd f hf)).symm
    rw [after_concat, deliver_eq hfiles h]
    by_cases hknown : d.fileId ∈ s.files.map (·.id)
    · rw [if_pos hknown]
      by_cases hnamed : d.fileId ∈ ds.map (·.fileId)
      · rw [if_pos hnamed]
        exact ⟨hidle fun _ => hnamed, hid⟩
      · rw [if_neg hnamed, files_decideFile, hfiles, updateFirst_settled h hnamed]
        exact ⟨rfl, hid⟩
    · rw [if_neg hknown]
      exact ⟨hidle fun hd => absurd hd hknown, hid⟩

/-- What a delivery is answered after others, and what it leaves. -/
theorem deliver_after (h : s.Unreported) (ds : List Delivery) (d : Delivery) :
    (s.after ds).deliver d =
      if d.fileId ∈ s.files.map (·.id) then
        if d.fileId ∈ ds.map (·.fileId) then
          (.ok (.duplicate (s.named ds) s.files.length), s.after ds)
        else
          (.ok (s.decisionBy (ds ++ [d])).progress, s.after (ds ++ [d]))
      else (.error (.unknownFile s.id d.fileId), s.after ds) := by
  obtain ⟨hfiles, hid⟩ := h.files_after ds
  have hafter : s.after (ds ++ [d]) = ((s.after ds).deliver d).2 := after_concat
  rw [deliver_eq hfiles h, hid] at hafter ⊢
  by_cases hknown : d.fileId ∈ s.files.map (·.id)
  · rw [if_pos hknown] at hafter ⊢
    rw [if_pos hknown]
    by_cases hnamed : d.fileId ∈ ds.map (·.fileId)
    · rw [if_pos hnamed, if_pos hnamed]
    · rw [if_neg hnamed] at hafter ⊢
      rw [if_neg hnamed, hafter]
  · rw [if_neg hknown, if_neg hknown]

/-- **At most one answer is final**: the one to the delivery that names the last file. -/
theorem filter_isFinal_answers (h : s.Unreported) (ds : List Delivery) :
    (s.answers ds).filter isFinal =
      if s.AllNamed ds then [.ok (.finalized (s.decisionBy ds) (s.verdictBy ds))] else [] := by
  induction ds using List.reverseRecOn with
  | nil =>
    obtain ⟨f, hf⟩ := List.exists_mem_of_ne_nil s.files h.nonempty
    rw [if_neg fun hall => List.not_mem_nil (hall f hf)]
    rfl
  | append_singleton ds d ih =>
    have hidle (hd : d.fileId ∈ s.files.map (·.id) → d.fileId ∈ ds.map (·.fileId)) :
        (s.AllNamed (ds ++ [d]) ↔ s.AllNamed ds) ∧
          s.verdictBy (ds ++ [d]) = s.verdictBy ds ∧
          s.decisionBy (ds ++ [d]) = s.decisionBy ds := by
      have houtcome := firstOutcome?_concat_of_idle hd
      exact ⟨allNamed_congr houtcome, verdictBy_congr houtcome, decisionBy_congr houtcome⟩
    rw [answers_concat, List.filter_append, ih, h.deliver_after]
    by_cases hknown : d.fileId ∈ s.files.map (·.id)
    · rw [if_pos hknown]
      by_cases hnamed : d.fileId ∈ ds.map (·.fileId)
      · obtain ⟨hall, hverdict, hdecision⟩ := hidle fun _ => hnamed
        rw [if_pos hnamed, hverdict, hdecision, if_congr hall rfl rfl]
        exact List.append_nil _
      · -- the file that this delivery names was missing, so no answer before was final
        have hmissing : ¬s.AllNamed ds := by
          intro hall
          obtain ⟨f, hf, hid⟩ := List.mem_map.1 hknown
          exact hnamed (hid ▸ hall f hf)
        rw [if_neg hnamed, if_neg hmissing, progress_decisionBy]
        by_cases hall : s.AllNamed (ds ++ [d])
        · rw [if_pos hall, if_pos hall]
          rfl
        · rw [if_neg hall, if_neg hall]
          rfl
    · obtain ⟨hall, hverdict, hdecision⟩ := hidle fun hd => absurd hd hknown
      rw [if_neg hknown, hverdict, hdecision, if_congr hall rfl rfl]
      exact List.append_nil _

end Unreported

end Submission

/-! ## The account of a list of deliveries -/

namespace Submission

/-- What comes of a list of deliveries. -/
structure Aggregated (s : Submission) (ds : List Delivery) : Prop where
  /-- Every file is settled by the first delivery that names it. -/
  files : List.Forall₂ (File.Settled ds) s.files (s.after ds).files
  /-- Nothing else on record changes, but for the time of the last change. -/
  rest : ∃ files time, s.after ds =
    { s with form := s.form.map fun form => { form with files := files }, modifiedAt := time }
  /-- A delivery that names no attached file changes nothing. -/
  unknown : ∀ before d, before ++ [d] <+: ds → d.fileId ∉ s.files.map (·.id) →
    (s.after before).deliver d = (.error (.unknownFile s.id d.fileId), s.after before)
  /-- A repeated delivery changes nothing. -/
  repeated : ∀ before d, before ++ [d] <+: ds → d.fileId ∈ s.files.map (·.id) →
    d.fileId ∈ before.map (·.fileId) →
      (s.after before).deliver d =
        (.ok (.duplicate (s.named before) s.files.length), s.after before)
  /-- The first delivery on a file makes the decision final when no other file is missing. -/
  first : ∀ before d, before ++ [d] <+: ds → d.fileId ∈ s.files.map (·.id) →
    d.fileId ∉ before.map (·.fileId) →
      ((s.after before).deliver d).1 =
        .ok (if s.AllNamed (before ++ [d]) then
          .finalized (s.decisionBy (before ++ [d])) (s.verdictBy (before ++ [d]))
        else .pending (s.named (before ++ [d])) s.files.length)
  /-- Every progress says how many attached files have been named so far. -/
  received : ∀ before d progress, before ++ [d] <+: ds →
    ((s.after before).deliver d).1 = .ok progress →
      progress.received = s.named (before ++ [d])
  /-- One answer is final if every file is named, and none otherwise. -/
  final : (s.answers ds).filter isFinal =
    if s.AllNamed ds then [.ok (.finalized (s.decisionBy ds) (s.verdictBy ds))] else []

/-- The same outcome counts for every attached file. -/
def SameOutcomes (s : Submission) (ds ds' : List Delivery) : Prop :=
  ∀ f ∈ s.files, firstOutcome? ds' f.id = firstOutcome? ds f.id

instance (s : Submission) (ds ds' : List Delivery) : Decidable (s.SameOutcomes ds ds') :=
  inferInstanceAs (Decidable (∀ f ∈ s.files, firstOutcome? ds' f.id = firstOutcome? ds f.id))

/-- The same files on record, up to the times of their last changes, and the same final answer. -/
structure SameResult (s : Submission) (ds ds' : List Delivery) : Prop where
  files : (s.after ds').files.map File.undated = (s.after ds).files.map File.undated
  final : (s.answers ds').filter isFinal = (s.answers ds).filter isFinal

/-- The same reports in another order, when no file is named twice. -/
theorem sameOutcomes_of_perm (s : Submission) {ds ds' : List Delivery} (h : ds.Perm ds')
    (hnodup : (ds.map (·.fileId)).Nodup) : s.SameOutcomes ds ds' := by
  intro f _
  rw [firstOutcome?, firstOutcome?, first?_perm h hnodup]

namespace Unreported

variable {s : Submission}

theorem received_deliver (h : s.Unreported) (before : List Delivery) (d : Delivery)
    {progress : Progress} (hprogress : ((s.after before).deliver d).1 = .ok progress) :
    progress.received = s.named (before ++ [d]) := by
  have hidle (hd : d.fileId ∈ s.files.map (·.id) → d.fileId ∈ before.map (·.fileId)) :
      s.named (before ++ [d]) = s.named before :=
    named_congr (firstOutcome?_concat_of_idle hd)
  rw [h.deliver_after] at hprogress
  by_cases hknown : d.fileId ∈ s.files.map (·.id)
  · rw [if_pos hknown] at hprogress
    by_cases hnamed : d.fileId ∈ before.map (·.fileId)
    · rw [if_pos hnamed] at hprogress
      rw [← Except.ok.inj hprogress, hidle fun _ => hnamed]
      rfl
    · rw [if_neg hnamed, progress_decisionBy] at hprogress
      rw [← Except.ok.inj hprogress]
      split <;> rfl
  · rw [if_neg hknown] at hprogress
    cases hprogress

theorem undated_after (h : s.Unreported) {ds ds' : List Delivery} (hsame : s.SameOutcomes ds ds') :
    (s.after ds').files.map File.undated = (s.after ds).files.map File.undated := by
  rw [(h.files_after ds').1, (h.files_after ds).1, List.map_map, List.map_map]
  exact List.map_congr_left fun f hf => File.undated_settledBy_congr (hsame f hf)

theorem filter_isFinal_answers_congr (h : s.Unreported) {ds ds' : List Delivery}
    (hsame : s.SameOutcomes ds ds') :
    (s.answers ds').filter isFinal = (s.answers ds).filter isFinal := by
  rw [h.filter_isFinal_answers, h.filter_isFinal_answers, decisionBy_congr hsame,
    verdictBy_congr hsame, if_congr (allNamed_congr hsame) rfl rfl]

theorem sameResult (h : s.Unreported) {ds ds' : List Delivery} (hsame : s.SameOutcomes ds ds') :
    s.SameResult ds ds' :=
  ⟨h.undated_after hsame, h.filter_isFinal_answers_congr hsame⟩

/-- **What comes of a list of deliveries.**  Another list leads to the same result as long as the
same outcome counts for every file; so do the same reports in another order, where none is
repeated. -/
theorem aggregated (h : s.Unreported) (ds : List Delivery) :
    s.Aggregated ds ∧ (∀ ds', s.SameOutcomes ds ds' → s.SameResult ds ds') ∧
      ∀ ds', ds.Perm ds' → (ds.map (·.fileId)).Nodup → s.SameResult ds ds' := by
  refine ⟨?_, fun ds' hsame => h.sameResult hsame, fun ds' hperm hnodup =>
    h.sameResult (sameOutcomes_of_perm s hperm hnodup)⟩
  constructor
  case files =>
    rw [(h.files_after ds).1]
    exact List.forall₂_map_right_iff.2 (List.forall₂_same.2 fun f _ => f.settled_settledBy ds)
  case rest => exact s.after_rest ds
  case unknown =>
    intro before d _ hunknown
    rw [h.deliver_after, if_neg hunknown]
  case repeated =>
    intro before d _ hknown hnamed
    rw [h.deliver_after, if_pos hknown, if_pos hnamed]
  case first =>
    intro before d _ hknown hnew
    rw [h.deliver_after, if_pos hknown, if_neg hnew, progress_decisionBy]
  case received =>
    intro before d progress _ hprogress
    exact h.received_deliver before d hprogress
  case final => exact h.filter_isFinal_answers ds

end Unreported

/-- A submission with two files under way. -/
def twoFiles : Submission :=
  let form : FormDetails :=
    ⟨none, some "SH01", [.uploaded "allotment" "allotment.pdf" 9412, .uploaded "cover" "c.pdf" 1]⟩
  { opened "sub-1" "REF-1" none ⟨0, 0⟩ with status := .processing, form := some form }

/-- Reports on both files, one of them twice, and on a file that is not attached. -/
def twoFilesReported : List Delivery :=
  [⟨"cover", .infected, ⟨1, 0⟩⟩, ⟨"letter", .infected, ⟨2, 0⟩⟩,
    ⟨"cover", .conversionFailed, ⟨3, 0⟩⟩, ⟨"allotment", .converted (some "pdf-1") (some 4), ⟨4, 0⟩⟩]

theorem aggregated_twoFiles :
    twoFiles.Unreported ∧ twoFiles.Aggregated twoFilesReported ∧
      twoFiles.SameResult twoFilesReported (twoFilesReported.rotate 3) ∧
      (twoFiles.after twoFilesReported).files =
        [⟨"allotment", "allotment.pdf", 9412, .converted, some "pdf-1", some 4, some ⟨4, 0⟩⟩,
          ⟨"cover", "c.pdf", 1, .failedScan, none, none, some ⟨1, 0⟩⟩] ∧
      (twoFiles.answers twoFilesReported).filter isFinal =
        [.ok (.finalized ⟨2, 2, true, ["c.pdf"], []⟩ .rejectedByVirusScan)] := by
  have h : twoFiles.Unreported := ⟨by decide, by decide, by decide⟩
  have hsame : twoFiles.SameOutcomes twoFilesReported (twoFilesReported.rotate 3) := by
    decide
  obtain ⟨haggregated, hother, -⟩ := h.aggregated twoFilesReported
  exact ⟨h, haggregated, hother _ hsame, by decide, haggregated.final⟩

end Submission

end Filing
