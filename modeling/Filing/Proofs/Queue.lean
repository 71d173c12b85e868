import Filing.Proofs.Fee
import Filing.Proofs.Office.Batch
import Filing.Proofs.Register
import Filing.Proofs.Routing
import Mathlib.Algebra.Order.Floor.Div

/-!
# The queue

Submitted submissions are queued in batches.  A batch takes those that rank before the others:
filings of same-day forms first, then those that were submitted earlier, then those that were opened
earlier.  It takes as many of them as it may, all of them are queued, and so a few batches are
enough for any number of submissions.

* `Submission.Trimmed` — why it does not matter that the batch goes by a list of form types where
  everybody else looks up the form, with `Office.hasType_sameDayTypes`;
* `Submission.RanksBefore` — the order, with `Store.not_ranksBefore` for what the store makes of it;
* `Office.QueuedUp` — what is true while a batch is under way;
* `Office.Batch` and `Office.Up.batch` — **what one batch does**;
* `Office.Batches` and `Office.Batches.length_idsAt` — **how many are left after so many of them**;
* `Office.Reachable.worksOff` — **the result**.
-/

set_option autoImplicit false

namespace Filing

open Act

/-! ## Same-day forms -/

open Submission in
/-- A move leaves the form type as it is, or it is a new one, without white space around it. -/
theorem Move.typed?_eq {o : Office} {s t : Submission} (h : Move o s t) :
    t.typed? = s.typed? ∨ ∃ formType, t.typed? = some (Text.trim formType) := by
  have hlater {status : Status} (hstatus : s.status = status) (hne : status ≠ .opened) :
      t.typed? = s.typed? :=
    h.change.typed?_eq (hstatus ▸ hne)
  cases h with
  | company company h =>
    obtain ⟨-, rfl⟩ := editCompany_eq_ok.1 h
    exact .inl rfl
  | form formType h =>
    obtain ⟨-, fee, -, rfl⟩ := editForm_eq_ok.1 h
    exact .inr ⟨formType, rfl⟩
  | files files h =>
    obtain ⟨-, rfl⟩ := editFiles_eq_ok.1 h
    exact .inl (s.typed?_updateForm fun _ => rfl)
  | sessions sessions h =>
    obtain ⟨-, rfl⟩ := editSessions_eq_ok.1 h
    exact .inl rfl
  | authorised authorised h =>
    obtain ⟨-, rfl⟩ := editAuthorised_eq_ok.1 h
    exact .inl rfl
  | complete h =>
    obtain ⟨-, form, fee, -, -, -, rfl⟩ := complete_eq_ok.1 h
    exact .inl (by rw [typed?, form_priced, typed?])
  | payment report h =>
    obtain ⟨-, sessions, -, rfl⟩ := recordPayment_eq_ok.1 h
    exact .inl (by rw [typed?, form_settled, typed?])
  | queue h => exact .inl (hlater (queue_eq_ok.1 h).1 (by decide))
  | report fileId outcome progress h => exact .inl (hlater (report_eq_ok.1 h).1 (by decide))
  | barcode barcode hready => exact .inl (hlater hready (by decide))
  | sent hready => exact .inl (hlater hready (by decide))
  | adjudicate outcome h => exact .inl (hlater (adjudicate_eq_ok.1 h).1 (by decide))

namespace Submission

variable {s t : Submission} {catalog : Catalog}

/-- The form type is stored without white space around it. -/
def Trimmed (s : Submission) : Prop :=
  ∀ formType, s.typed? = some formType → Text.trim formType = formType

theorem kept_trimmed : Kept Trimmed where
  opened _ _ _ _ _ h := nomatch h
  moved {_ s t} hs h formType ht := by
    obtain heq | ⟨given, hgiven⟩ := h.typed?_eq
    · exact hs formType (heq ▸ ht)
    · rw [hgiven] at ht
      obtain rfl := Option.some.inj ht
      exact Text.trim_trim given
  stored _ h := h

/-- The form of the submission is registered as one that is taken up before others. -/
def isSameDay (catalog : Catalog) (s : Submission) : Bool :=
  (s.formIn? catalog).any (·.sameDay)

end Submission

/-- **The list of form types agrees with the forms that are looked up.** -/
theorem Office.hasType_sameDayTypes {c : Catalog} (hc : c.Keyed) {s : Submission}
    (hs : s.Trimmed) : hasType (sameDayTypes c.allForms) s = s.isSameDay c := by
  rw [hasType, Submission.isSameDay, Submission.formIn?]
  cases htype : s.formType? with
  | none => rfl
  | some formType =>
    rw [Submission.formType?, Text.nonBlank, Option.filter_eq_some_iff] at htype
    have htrim : Text.trim formType = formType := hs formType htype.1
    rw [Option.any_some, Option.bind_some, Catalog.form?, htrim]
    refine Bool.eq_iff_iff.2 ?_
    rw [decide_eq_true_iff, sameDayTypes, List.mem_map, Option.any_eq_true]
    simp only [List.mem_filter, hc.mem_allForms]
    constructor
    · rintro ⟨f, ⟨hf, hsameDay⟩, rfl⟩
      exact ⟨f, hf, hsameDay⟩
    · rintro ⟨f, hf, hsameDay⟩
      have hkey : formType = f.formType := hc _ (Index.find?_eq_some_iff.1 hf)
      exact ⟨f, ⟨hkey ▸ hf, hsameDay⟩, hkey.symm⟩

/-! ## The order of work -/

namespace Submission

/-- One submission is to be taken up before another one: its form is a same-day form and the other
one's is not, or, if they are alike in that, it was submitted earlier, or, if in that as well, it
was opened earlier. -/
inductive RanksBefore (catalog : Catalog) (s t : Submission) : Prop
  | sameDay (hs : s.isSameDay catalog = true) (ht : t.isSameDay catalog = false)
  | submitted (hsameDay : s.isSameDay catalog = t.isSameDay catalog)
      (hle : Instant.optionalLe s.submittedAt t.submittedAt) (hne : s.submittedAt ≠ t.submittedAt)
  | opened (hsameDay : s.isSameDay catalog = t.isSameDay catalog)
      (hsubmitted : s.submittedAt = t.submittedAt) (hlt : s.createdAt < t.createdAt)

end Submission

namespace Store

variable {preferred : Submission → Bool} {a b c : Submission}

theorem workOrder_iff : workOrder preferred a b ↔
    (preferred a = true ∧ preferred b = false) ∨
      preferred a = preferred b ∧
        (a.submittedAt ≠ b.submittedAt ∧ Instant.optionalLe a.submittedAt b.submittedAt ∨
          a.submittedAt = b.submittedAt ∧ a.createdAt ≤ b.createdAt) := by
  rw [workOrder]
  split
  · next hne =>
    have hflip : preferred a = true → preferred b = false := fun ha =>
      Bool.eq_false_iff.2 fun hb => hne (ha.trans hb.symm)
    exact ⟨fun ha => .inl ⟨ha, hflip ha⟩, fun h => h.elim (·.1) fun h => absurd h.1 hne⟩
  · next heq =>
    have hsame : preferred a = preferred b := not_not.1 heq
    have hnot : ¬(preferred a = true ∧ preferred b = false) := by
      rintro ⟨ha, hb⟩
      rw [hsame, hb] at ha
      cases ha
    split
    · next hne => simp [hsame, hne]
    · next heq => simp [hsame, not_not.1 heq]

theorem workOrder_trans (h : workOrder preferred a b) (h' : workOrder preferred b c) :
    workOrder preferred a c := by
  rw [workOrder_iff] at *
  obtain ⟨ha, hb⟩ | ⟨hab, h⟩ := h
  · obtain ⟨hb', -⟩ | ⟨hbc, -⟩ := h'
    · rw [hb] at hb'
      cases hb'
    · exact .inl ⟨ha, hbc ▸ hb⟩
  · obtain ⟨hb, hc⟩ | ⟨hbc, h'⟩ := h'
    · exact .inl ⟨hab.trans hb, hc⟩
    · refine .inr ⟨hab.trans hbc, ?_⟩
      obtain ⟨hne, hle⟩ | ⟨heq, hle⟩ := h
      · obtain ⟨-, hle'⟩ | ⟨heq', -⟩ := h'
        · refine .inl ⟨fun heq => hne ?_, Instant.optionalLe_trans hle hle'⟩
          exact Instant.optionalLe_antisymm hle (heq ▸ hle')
        · exact .inl (heq' ▸ ⟨hne, hle⟩)
      · obtain ⟨hne', hle'⟩ | ⟨heq', hle'⟩ := h'
        · exact .inl (heq ▸ ⟨hne', hle'⟩)
        · exact .inr ⟨heq.trans heq', Instant.le_trans hle hle'⟩

theorem workOrder_total (preferred : Submission → Bool) (a b : Submission) :
    workOrder preferred a b || workOrder preferred b a := by
  rw [Bool.or_eq_true, workOrder_iff, workOrder_iff]
  by_cases hsame : preferred a = preferred b
  · by_cases hsubmitted : a.submittedAt = b.submittedAt
    · obtain hle | hle := Instant.le_total a.createdAt b.createdAt
      · exact .inl (.inr ⟨hsame, .inr ⟨hsubmitted, hle⟩⟩)
      · exact .inr (.inr ⟨hsame.symm, .inr ⟨hsubmitted.symm, hle⟩⟩)
    · have htotal := Instant.optionalLe_total a.submittedAt b.submittedAt
      rw [Bool.or_eq_true] at htotal
      obtain hle | hle := htotal
      · exact .inl (.inr ⟨hsame, .inl ⟨hsubmitted, hle⟩⟩)
      · exact .inr (.inr ⟨hsame.symm, .inl ⟨Ne.symm hsubmitted, hle⟩⟩)
  · cases ha : preferred a with
    | true => exact .inl (.inl ⟨rfl, Bool.eq_false_iff.2 fun hb => hsame (ha.trans hb.symm)⟩)
    | false =>
      refine .inr (.inl ⟨?_, rfl⟩)
      exact Bool.eq_true_of_not_eq_false fun hb => hsame (ha.trans hb.symm)

/-- What the store lists earlier does not rank behind. -/
theorem not_ranksBefore {catalog : Catalog} (h : workOrder preferred a b)
    (ha : preferred a = a.isSameDay catalog) (hb : preferred b = b.isSameDay catalog) :
    ¬b.RanksBefore catalog a := by
  rw [workOrder_iff, ha, hb] at h
  intro hbefore
  cases hbefore with
  | sameDay hb' ha' => simp [ha', hb'] at h
  | submitted hsameDay hle hne =>
    obtain ⟨ha', hb'⟩ | ⟨-, h⟩ := h
    · simp [ha', hb'] at hsameDay
    · obtain ⟨-, hle'⟩ | ⟨heq, -⟩ := h
      · exact hne (Instant.optionalLe_antisymm hle hle')
      · exact hne heq.symm
  | opened hsameDay hsubmitted hlt =>
    obtain ⟨ha', hb'⟩ | ⟨-, h⟩ := h
    · simp [ha', hb'] at hsameDay
    · obtain ⟨hne, -⟩ | ⟨-, hle⟩ := h
      · exact hne hsubmitted.symm
      · exact Instant.not_le.2 hlt hle

end Store

namespace Office

variable {o o₁ o' : Office} {id : String} {s t : Submission} {done ids : List String}

/-- The one submission is to be taken up before the other one. -/
def RanksBefore (o : Office) (id id' : String) : Prop :=
  ∃ s s', o.store.find? id = some s ∧ o.store.find? id' = some s' ∧
    s.RanksBefore o.desk.catalog s'

/-- The submitted submissions, as a batch finds them. -/
def inQueue (o : Office) : List String :=
  (o.store.byStatus .submitted (hasType (sameDayTypes o.desk.catalog.allForms))).map (·.id)

theorem Reordered.inQueue_perm (h : o.Reordered o₁) :
    o₁.inQueue.Perm (o.store.idsAt .submitted) :=
  h.perm_byStatus .submitted _

theorem nodup_inQueue (o : Office) : o.inQueue.Nodup :=
  (Reordered.refl o).inQueue_perm.nodup_iff.2 (o.store.nodup_idsAt _)

/-- Nothing stands in the queue behind what it ranks before. -/
theorem inQueue_pairwise (hcatalog : o.desk.catalog.Keyed)
    (htrimmed : ∀ s ∈ o.store.records, s.Trimmed) (h : o.Reordered o₁) :
    o₁.inQueue.Pairwise fun id id' => ¬o.RanksBefore id' id := by
  have hdesk : o₁.desk = o.desk := h.sameAround.desk
  let preferred := hasType (sameDayTypes o.desk.catalog.allForms)
  have htrans (a b c : Submission) (h : Store.workOrder preferred a b)
      (h' : Store.workOrder preferred b c) : Store.workOrder preferred a c :=
    Store.workOrder_trans h h'
  have hsorted : (o₁.store.byStatus .submitted preferred).Pairwise
      fun a b => Store.workOrder preferred a b :=
    List.pairwise_mergeSort htrans (Store.workOrder_total preferred) _
  have hrecords : ∀ s ∈ o₁.store.byStatus .submitted preferred, s ∈ o.store.records :=
    fun s hs => h.records.mem_iff.1
      (List.mem_of_mem_filter ((List.mergeSort_perm _ _).mem_iff.1 hs))
  have hpreferred : ∀ s ∈ o.store.records, preferred s = s.isSameDay o.desk.catalog :=
    fun s hs => hasType_sameDayTypes hcatalog (htrimmed s hs)
  rw [inQueue, hdesk, List.pairwise_map]
  refine hsorted.imp_of_mem fun {a b} ha hb horder => ?_
  have ha := hrecords a ha
  have hb := hrecords b hb
  rintro ⟨s, s', hs, hs', hbefore⟩
  rw [Store.find?_of_mem hb] at hs
  rw [Store.find?_of_mem ha] at hs'
  obtain rfl := Option.some.inj hs
  obtain rfl := Option.some.inj hs'
  exact Store.not_ranksBefore horder (hpreferred a ha) (hpreferred b hb) hbefore

/-! ## One turn -/

/-- While the catalog answers, a submitted submission can be queued. -/
theorem exists_queue (hdesk : o.desk.down = []) (hs : s.status = .submitted) :
    ∃ t, s.queue o.desk o.clock = .ok t := by
  have hform : ∃ form, s.registeredForm o.desk = .ok form := by
    rw [Submission.registeredForm]
    split
    · rw [CatalogDesk.form?, CatalogDesk.ask, hdesk, if_neg List.not_mem_nil]
      exact ⟨_, rfl⟩
    · exact ⟨_, rfl⟩
  obtain ⟨form, hform⟩ := hform
  simp only [Submission.queue_eq_ok, hs, true_and]
  by_cases hempty : s.files.isEmpty = true
  · simp only [if_pos hempty]
    exact ⟨_, form, hform, rfl⟩
  · simp only [if_neg hempty]
    exact ⟨_, rfl⟩

/-- A submission that is queued is no longer submitted. -/
theorem status_of_queue {desk : CatalogDesk} {now : Instant} (h : s.queue desk now = .ok t) :
    s.status = .submitted ∧ t.status ≠ .submitted := by
  obtain ⟨hs, h⟩ := Submission.queue_eq_ok.1 h
  refine ⟨hs, ?_⟩
  split at h
  · obtain ⟨form, -, rfl⟩ := h
    intro hdestination
    have hmay := Submission.mayBecome_destination .accepted form
    rw [show Verdict.accepted.destination form = .submitted from hdestination] at hmay
    cases hmay
  · rw [h]
    rintro ⟨⟩

theorem queue_apply (ho : o.Up) (hs : o.store.find? s.id = some s)
    (ht : s.queue o.desk o.clock = .ok t) :
    queue s.id o = (.ok (t.stored s.version), o.carriedOut .queue (t.stored s.version)) := by
  have hrevise := revise_apply .queue (fun o => Submission.queue o.desk o.clock) ho
    (fun _ _ h => h) s.id
  rw [hs] at hrevise
  dsimp only at hrevise
  rw [ht] at hrevise
  rw [queue, bind_of_ok hrevise]
  exact tell_queue ht s.version _

/-- What the office makes of a submission that is queued. -/
def Queues (o : Office) (s t : Submission) : Prop :=
  ∃ u, s.queue o.desk o.clock = .ok u ∧ t = u.stored s.version

theorem Queues.status (h : o.Queues s t) : s.status = .submitted ∧ t.status ≠ .submitted := by
  obtain ⟨u, hu, rfl⟩ := h
  have hstatus := status_of_queue hu
  exact hstatus

/-- A turn of a batch. -/
theorem turn_queue (ho : o.Up) (hdesk : o.desk.down = []) (hid : id ∈ o.store.idsAt .submitted) :
    (∃ t, (queue id o).1 = .ok t) ∧ o.Turn o.Queues id (queue id o).2 := by
  obtain ⟨s, hs, hsubmitted⟩ := Store.mem_idsAt.1 hid
  obtain rfl := Store.id_of_find? hs
  obtain ⟨t, ht⟩ := exists_queue hdesk hsubmitted
  rw [queue_apply ho hs ht]
  refine ⟨⟨_, rfl⟩, ?_⟩
  have hmakes : Task.queue.Makes o s t := ht
  have htid : (t.stored s.version).id = s.id := hmakes.move.sameOrigin.id
  obtain ⟨sent, refused, heq⟩ := o.carriedOut_eq .queue (t.stored s.version)
  refine ⟨?_, ⟨s, _, hs, ⟨t, ht, rfl⟩, find?_carriedOut hs hmakes⟩, fun id hid => ?_⟩
  · rw [heq]
    exact ⟨rfl, rfl, rfl, rfl⟩
  · rw [heq]
    dsimp only
    rw [Store.find?_put, if_neg (htid ▸ hid)]

/-- While a batch is under way, those that had their turn are queued, and everything else is as it
was. -/
abbrev QueuedUp (o : Office) : List String → Office → Prop :=
  o.MidBatch o.Queues

theorem QueuedUp.mem_idsAt (h : o.QueuedUp done o') :
    id ∈ o'.store.idsAt .submitted ↔ id ∈ o.store.idsAt .submitted ∧ id ∉ done :=
  MidBatch.mem_idsAt h fun _ _ h => h.status.2

theorem QueuedUp.submitted (h : o.QueuedUp done o') (hid : id ∈ done) :
    id ∈ o.store.idsAt .submitted := by
  obtain ⟨s, t, hs, ht, -⟩ := h.made id hid
  exact Store.mem_idsAt.2 ⟨s, hs, ht.status.1⟩

/-- Every submitted submission has had its turn or is still submitted. -/
theorem QueuedUp.perm (h : o.QueuedUp done o') (hnodup : done.Nodup) :
    (done ++ o'.store.idsAt .submitted).Perm (o.store.idsAt .submitted) := by
  have hdisjoint : done.Disjoint (o'.store.idsAt .submitted) :=
    fun id hdone hid => (h.mem_idsAt.1 hid).2 hdone
  refine (List.perm_ext_iff_of_nodup (hnodup.append (o'.store.nodup_idsAt _) hdisjoint)
    (o.store.nodup_idsAt _)).2 fun id => ?_
  rw [List.mem_append, h.mem_idsAt]
  by_cases hid : id ∈ done
  · simp [hid, h.submitted hid]
  · simp [hid]

/-! ## One batch -/

/-- How many submissions are queued at a time. -/
def batchLimit (o : Office) (limit : Option Nat) : Nat :=
  limit.getD o.settings.batchSize

theorem queueBatch_apply (ho : o.Up) (hdesk : o.desk.down = []) (limit : Option Nat) :
    queueBatch limit o = each queue (o.inQueue.take (o.batchLimit limit)) o := by
  have hforms : o.desk.allForms = .ok o.desk.catalog.allForms := by
    rw [CatalogDesk.allForms, CatalogDesk.ask, hdesk, if_neg List.not_mem_nil]
  rw [queueBatch, get_bind_apply, get_bind_apply, bind_apply, adapt_apply, ofExcept_apply, hforms]
  dsimp only [Except.mapError]
  rw [bind_apply, adapt_apply, findByStatus, onStore_up ho, asks]
  dsimp only [Except.mapError]
  rw [List.map_take]
  rfl

/-- **All that a batch takes is queued**, and nothing else. -/
theorem queuedUp_each (ho : o.Up) (hdesk : o.desk.down = []) (h : o.Reordered o₁)
    (hids : ids.Nodup) (hsubmitted : ∀ id ∈ ids, id ∈ o.store.idsAt .submitted) :
    ∃ o', each queue ids o₁ = (.ok ⟨ids, []⟩, o') ∧ o.QueuedUp ids o' := by
  have hturn (done : List String) (id : String) (o₁ : Office) (h : o.QueuedUp done o₁)
      (_ : True) (_ : id ∉ done) (hid : id ∈ o₁.store.idsAt .submitted) :
      (∀ report, BatchReport.record id (queue id o₁).1 report = noteProcessed id report) ∧
        o₁.Turn o.Queues id (queue id o₁).2 ∧ True := by
    have hsame : o₁.Queues = o.Queues := by
      unfold Queues
      rw [h.around.desk, h.around.clock]
    have hdown : o₁.desk.down = [] := by rw [h.around.desk, hdesk]
    obtain ⟨⟨t, hok⟩, hturn⟩ := turn_queue (ho.of_drill_eq h.around.drill) hdown hid
    exact ⟨fun report => by rw [hok]; rfl, hsame ▸ hturn, trivial⟩
  obtain ⟨o', heach, hqueued, -⟩ :=
    each_midBatch hturn hids hsubmitted h trivial
  rw [foldr_noteProcessed] at heach
  exact ⟨o', heach, hqueued⟩

/-- What a batch has done. -/
structure Batch (o : Office) (limit : Nat) (processed : List String) (o' : Office) : Prop
    extends QueuedUp o processed o' where
  nodup : processed.Nodup
  length : processed.length = min limit (o.store.idsAt .submitted).length
  wasSubmitted : ∀ id ∈ processed, id ∈ o.store.idsAt .submitted
  stillSubmitted : ∀ id, id ∈ o'.store.idsAt .submitted ↔
    id ∈ o.store.idsAt .submitted ∧ id ∉ processed
  /-- It has not taken up anything before what ranks before it. -/
  inOrder : processed.Pairwise fun id id' => ¬o.RanksBefore id' id
  /-- It has not left anything behind that ranks before what it has taken up. -/
  first : ∀ id ∈ processed, ∀ id' ∈ o'.store.idsAt .submitted, ¬o.RanksBefore id' id

/-- A batch takes as many as it may from the front of the queue. -/
theorem Up.perform_queueBatch (ho : o.Up) (hdesk : o.desk.down = []) (h : o.Reordered o₁)
    (limit : Option Nat) :
    ∃ o', (Operation.queueBatch limit).perform o₁ =
        (.ok (.batch ⟨o₁.inQueue.take (o.batchLimit limit), []⟩), o') ∧
      o.QueuedUp (o₁.inQueue.take (o.batchLimit limit)) o' := by
  have hlimit : o₁.batchLimit limit = o.batchLimit limit := by
    rw [batchLimit, h.sameAround.settings, batchLimit]
  have ho₁ : o₁.Up := ho.of_drill_eq h.sameAround.drill
  have hdesk₁ : o₁.desk.down = [] := by rw [h.sameAround.desk, hdesk]
  have htaken := List.take_sublist (o.batchLimit limit) o₁.inQueue
  obtain ⟨o', heach, hqueued⟩ := queuedUp_each ho hdesk h (o₁.nodup_inQueue.sublist htaken)
    fun id hid => (h.inQueue_perm).mem_iff.1 (htaken.subset hid)
  refine ⟨o', ?_, hqueued⟩
  rw [Operation.perform, map_apply, queueBatch_apply ho₁ hdesk₁, hlimit, heach]
  rfl

/-- **What one batch does**, in whatever order the store lists its submissions. -/
theorem Up.batch (ho : o.Up) (hdesk : o.desk.down = []) (hcatalog : o.desk.catalog.Keyed)
    (htrimmed : ∀ s ∈ o.store.records, s.Trimmed) (h : o.Reordered o₁) (limit : Option Nat) :
    ∃ processed o', (Operation.queueBatch limit).perform o₁ = (.ok (.batch ⟨processed, []⟩), o') ∧
      o.Batch (o.batchLimit limit) processed o' := by
  obtain ⟨o', hperform, hqueued⟩ := ho.perform_queueBatch hdesk h limit
  have htaken := List.take_sublist (o.batchLimit limit) o₁.inQueue
  have horder := inQueue_pairwise hcatalog htrimmed h
  refine ⟨_, o', hperform, hqueued, o₁.nodup_inQueue.sublist htaken, ?_, fun _ => hqueued.submitted,
    fun _ => hqueued.mem_idsAt, horder.sublist htaken, ?_⟩
  · rw [List.length_take, h.inQueue_perm.length_eq]
  · intro id hid id' hid'
    obtain ⟨hsubmitted, hnot⟩ := hqueued.mem_idsAt.1 hid'
    -- whoever is left stands further behind in the queue
    have hsplit := List.take_append_drop (o.batchLimit limit) o₁.inQueue
    have hleft : id' ∈ o₁.inQueue.drop (o.batchLimit limit) := by
      have hin : id' ∈ o₁.inQueue := h.inQueue_perm.mem_iff.2 hsubmitted
      rw [← hsplit] at hin
      exact (List.mem_append.1 hin).resolve_left hnot
    rw [← hsplit] at horder
    exact (List.pairwise_append.1 horder).2.2 id hid id' hleft

/-! ## Successive batches -/

/-- So many batches one after another, each at its own time.  From one to the next the store may
come to list its submissions in another order. -/
inductive Batches (limit : Option Nat) (o : Office) : Nat → Office → Prop
  | none : Batches limit o 0 o
  | more {n o₁ o₂} (h : Batches limit o n o₁) (hreordered : o₁.Reordered o₂) (now : Instant) :
      Batches limit o (n + 1) (o₂.step now (.queueBatch limit)).2

/-- **Every batch shortens the queue by its limit**, until nothing is left. -/
theorem Batches.length_idsAt {limit : Option Nat} {n : Nat} (h : o.Batches limit n o') (ho : o.Up)
    (hdesk : o.desk.down = []) :
    (o'.Up ∧ o'.desk = o.desk ∧ o'.settings = o.settings) ∧
      (o'.store.idsAt .submitted).length =
        (o.store.idsAt .submitted).length - n * o.batchLimit limit := by
  induction h with
  | none => exact ⟨⟨ho, rfl, rfl⟩, by rw [Nat.zero_mul, Nat.sub_zero]⟩
  | @more n o₁ o₂ _ hreordered now ih =>
    obtain ⟨⟨ho₁, hdesk₁, hsettings₁⟩, hlength⟩ := ih
    have hup : Up { o₁ with clock := now } := ho₁.of_drill_eq rfl
    have hdown : o₁.desk.down = [] := by rw [hdesk₁, hdesk]
    have hlimit : o₁.batchLimit limit = o.batchLimit limit := by
      rw [batchLimit, hsettings₁, batchLimit]
    obtain ⟨o', hperform, hqueued⟩ :=
      hup.perform_queueBatch hdown (hreordered.withClock now) limit
    have hstep : (o₂.step now (.queueBatch limit)).2 = o' := congrArg Prod.snd hperform
    have hnodup := (nodup_inQueue { o₂ with clock := now }).sublist
      (List.take_sublist (o₁.batchLimit limit) _)
    have hperm := (hqueued.perm hnodup).length_eq
    have hqueue := (hreordered.withClock now).inQueue_perm.length_eq
    rw [hstep]
    refine ⟨⟨hup.of_drill_eq hqueued.around.drill, hqueued.around.desk.trans hdesk₁,
      hqueued.around.settings.trans hsettings₁⟩, ?_⟩
    rw [List.length_append, List.length_take, hqueue] at hperm
    dsimp only [batchLimit] at hperm hlimit hlength ⊢
    rw [Nat.succ_mul]
    omega

/-- **The queue is worked off in its order.**  Take an office that operations lead to, whose store
and catalog answer.  In whatever order its store lists the submissions, and whenever a batch is
queued, the batch takes up as many submitted submissions as it may, and as there are; it takes up
none of them before one that ranks before it, nor does it leave one behind that does; all of them
are queued, and nothing else changes.  So enough batches leave no submission behind. -/
theorem Reachable.worksOff (h : o.Reachable) (ho : o.Up) (hdesk : o.desk.down = [])
    (hcatalog : o.desk.catalog.Keyed) (limit : Option Nat) :
    (∀ o₁, o.Reordered o₁ → ∀ now, ∃ processed o',
        o₁.step now (.queueBatch limit) = (.ok (.batch ⟨processed, []⟩), o') ∧
          Batch { o with clock := now } (o.batchLimit limit) processed o') ∧
      (0 < o.batchLimit limit → ∀ o',
        o.Batches limit ((o.store.idsAt .submitted).length ⌈/⌉ o.batchLimit limit) o' →
          o'.store.idsAt .submitted = []) := by
  constructor
  · intro o₁ hreordered now
    have hup : Up { o with clock := now } := ho.of_drill_eq rfl
    exact hup.batch hdesk hcatalog (h.kept Submission.kept_trimmed) (hreordered.withClock now) limit
  · intro hpos o' hbatches
    have hlength := (hbatches.length_idsAt ho hdesk).2
    have henough : (o.store.idsAt .submitted).length ≤ o.batchLimit limit *
        ((o.store.idsAt .submitted).length ⌈/⌉ o.batchLimit limit) :=
      le_smul_ceilDiv hpos
    rw [Nat.mul_comm] at henough
    rw [Nat.sub_eq_zero_of_le henough] at hlength
    exact List.length_eq_zero_iff.1 hlength

/-- An office with three filings that are submitted, the last of them on a same-day form. -/
def withThreeSubmitted : Office :=
  let correction : FormTemplate := (.electronic "SH20" "Correction of capital" none)
  let first : Instant := ⟨1719828000, 0⟩
  let second : Instant := ⟨1719828060, 0⟩
  let third : Instant := ⟨1719828120, 0⟩
  (Office.opened (Catalog.standard.insertForm correction.withSameDay)
      OfficeConfig.default.settings .fresh first).run
    [(first, .create (some ⟨"filings@acme.example"⟩)),
      (first, .editCompany "sub-1" ⟨"01234567", "Acme Widgets Ltd"⟩),
      (first, .editForm "sub-1" "SH19"),
      (first, .complete "sub-1"),
      (second, .create (some ⟨"filings@bolt.example"⟩)),
      (second, .editCompany "sub-2" ⟨"07654321", "Bolt and Sons"⟩),
      (second, .editForm "sub-2" "SH19"),
      (second, .complete "sub-2"),
      (third, .create (some ⟨"filings@acme.example"⟩)),
      (third, .editCompany "sub-3" ⟨"01234567", "Acme Widgets Ltd"⟩),
      (third, .editForm "sub-3" " SH20 "),
      (third, .complete "sub-3")]

/-- The first of two batches begins with the last filing. -/
theorem worksOff_withThreeSubmitted :
    let now : Instant := ⟨1719828180, 0⟩
    withThreeSubmitted.store.idsAt .submitted = ["sub-1", "sub-2", "sub-3"] ∧
      (∃ id o', withThreeSubmitted.step now (.queueBatch (some 2)) =
          (.ok (.batch ⟨["sub-3", id], []⟩), o') ∧
        Batch { withThreeSubmitted with clock := now } 2 ["sub-3", id] o') ∧
      ∀ o', withThreeSubmitted.Batches (some 2) 2 o' → o'.store.idsAt .submitted = [] := by
  intro now
  have hreach : withThreeSubmitted.Reachable := (Reachable.opened _ _ _ _).run _
  have hup : withThreeSubmitted.Up := ⟨hreach.undisturbed, by decide +kernel, by decide +kernel⟩
  obtain ⟨hbatch, hdrained⟩ :=
    hreach.worksOff hup (by decide +kernel) (by decide +kernel) (some 2)
  have hids : withThreeSubmitted.store.idsAt .submitted = ["sub-1", "sub-2", "sub-3"] := by
    decide +kernel
  rw [hids] at hdrained
  have hsameDay (id : String) (sameDay : Bool)
      (h : (withThreeSubmitted.store.find? id).map
        (·.isSameDay withThreeSubmitted.desk.catalog) = some sameDay) :
      ∃ s, withThreeSubmitted.store.find? id = some s ∧
        s.isSameDay withThreeSubmitted.desk.catalog = sameDay :=
    Option.map_eq_some_iff.1 h
  obtain ⟨last, hlast, hpreferred⟩ := hsameDay "sub-3" true (by decide +kernel)
  have hother (id : String) (h : id = "sub-1" ∨ id = "sub-2") :
      ∃ s, withThreeSubmitted.store.find? id = some s ∧
        s.isSameDay withThreeSubmitted.desk.catalog = false := by
    obtain rfl | rfl := h
    · exact hsameDay "sub-1" false (by decide +kernel)
    · exact hsameDay "sub-2" false (by decide +kernel)
  refine ⟨hids, ?_, hdrained (by decide)⟩
  obtain ⟨processed, o', hstep, hdone⟩ := hbatch _ (.refl _) now
  have hsize : Office.batchLimit withThreeSubmitted (some 2) = 2 := rfl
  rw [hsize] at hdone
  generalize withThreeSubmitted = o at *
  obtain ⟨id, id', rfl⟩ := List.length_eq_two.1 (hdone.length.trans (by rw [hids]; rfl))
  -- the last filing ranks before the others, so it can neither stand behind one of them nor be left
  have hbefore (id : String) (h : id ∈ o.store.idsAt .submitted) (hne : id ≠ "sub-3") :
      RanksBefore { o with clock := now } "sub-3" id := by
    rw [hids] at h
    obtain ⟨s, hs, hnot⟩ := hother id (by simpa [hne] using h)
    exact ⟨last, s, hlast, hs, .sameDay hpreferred hnot⟩
  have hid : id = "sub-3" := by
    by_contra hne
    have hrank := hbefore id (hdone.wasSubmitted id List.mem_cons_self) hne
    by_cases hid' : id' = "sub-3"
    · exact List.rel_of_pairwise_cons hdone.inOrder (List.mem_singleton_self _) (hid' ▸ hrank)
    · have hleft : "sub-3" ∈ o'.store.idsAt .submitted := by
        refine (hdone.stillSubmitted _).2 ⟨?_, by simp [Ne.symm hne, Ne.symm hid']⟩
        rw [hids]
        decide
      exact hdone.first id List.mem_cons_self "sub-3" hleft hrank
  subst hid
  exact ⟨id', o', hstep, hdone⟩

end Office

end Filing
