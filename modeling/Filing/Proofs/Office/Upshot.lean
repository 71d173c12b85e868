import Filing.Proofs.Mail
import Filing.Proofs.Office.HandOver

/-!
# What an operation on one submission comes to

An operation on one submission reads the record of that submission and what stands around the
office: the catalog, the clock, the settings, what is out of order.  It looks at no other record, at
no mail that was sent and at no record that was loaded.  So what it comes to can be told before it
is known what else the office holds, but for the barcode that a hand-over may draw.

* `Upshot` — an answer, and what is written for it; `Office.after`, the office with that written;
* `Upshot.relabelled` — the same with other barcodes;
* `Office.SameFor` — two offices that look alike to whoever works on one submission;
* `Act.Local` — **work that has the same upshot in all offices that look alike**, with
  `Operation.local_perform` for every operation on one submission.
-/

set_option autoImplicit false

namespace Filing

open Act

/-! ## Barcodes in exchange -/

/-- Which submissions are to carry which barcodes in place of their own. -/
abbrev Labels := String → Option String

namespace Labels

/-- Every barcode stays. -/
def none : Labels := fun _ => Option.none

/-- One barcode for every submission. -/
def all (barcode : String) : Labels := fun _ => some barcode

/-- A barcode for each of two submissions. -/
def pair (id barcode id' barcode' : String) : Labels :=
  fun x => if x = id then some barcode else if x = id' then some barcode' else Option.none

end Labels

namespace Submission

/-- The submission with another barcode on its form. -/
def withBarcode (s : Submission) (barcode : String) : Submission :=
  { s with form := s.form.map ({ · with barcode := some barcode }) }

/-- The submission with the barcode that it is to carry. -/
def relabelled (labels : Labels) (s : Submission) : Submission :=
  match labels s.id with
  | some barcode => s.withBarcode barcode
  | none => s

variable {labels : Labels} {s : Submission}

theorem id_relabelled (labels : Labels) (s : Submission) : (s.relabelled labels).id = s.id := by
  rw [relabelled]
  split <;> rfl

theorem relabelled_of_none (h : labels s.id = none) : s.relabelled labels = s := by
  rw [relabelled, h]

theorem relabelled_of_some {barcode : String} (h : labels s.id = some barcode) :
    s.relabelled labels = s.withBarcode barcode := by
  rw [relabelled, h]

theorem withBarcode_withBarcode (s : Submission) (barcode barcode' : String) :
    (s.withBarcode barcode).withBarcode barcode' = s.withBarcode barcode' := by
  obtain ⟨id, reference, createdAt, submittedAt, modifiedAt, company, presenter, status, form⟩ := s
  cases form <;> rfl

end Submission

/-- The record with the barcode that its submission is to carry. -/
def BatchRecord.relabelled (labels : Labels) (r : BatchRecord) : BatchRecord :=
  { r with barcode := (labels r.submissionId).getD r.barcode }

/-- The answer, the submission in it with the barcode that it is to carry. -/
def Answer.relabelled (labels : Labels) : Answer → Answer
  | .submission s => .submission (s.relabelled labels)
  | .progress p s => .progress p (s.relabelled labels)
  | answer => answer

/-! ## Upshots -/

/-- What an operation on one submission comes to. -/
structure Upshot where
  answer : Except Refusal Answer
  /-- The record of the submission in the end, if one is written. -/
  record : Option Submission
  mail : Option Notification
  loaded : Option BatchRecord
  /-- A barcode is drawn. -/
  draws : Bool

namespace Upshot

/-- An answer for which nothing is written. -/
def unwritten (answer : Except Refusal Answer) : Upshot := ⟨answer, none, none, none, false⟩

/-- The upshot with other barcodes. -/
def relabelled (labels : Labels) (x : Upshot) : Upshot where
  answer := x.answer.map (·.relabelled labels)
  record := x.record.map (·.relabelled labels)
  mail := x.mail
  loaded := x.loaded.map (·.relabelled labels)
  draws := x.draws

/-- The upshot when the given barcode is the next one. -/
def drawing (barcode : String) (x : Upshot) : Upshot :=
  if x.draws then x.relabelled (.all barcode) else x

/-- Everything in an upshot is about one submission, which is written when it gets its barcode. -/
structure IsAbout (x : Upshot) (id : String) : Prop where
  answer : ∀ a, x.answer = .ok a → ∀ s, a.submission? = some s → s.id = id
  record : ∀ s, x.record = some s → s.id = id
  loaded : ∀ r, x.loaded = some r → r.submissionId = id
  written : x.draws = true → x.record.isSome

variable {x : Upshot} {id : String}

theorem IsAbout.unwritten {answer : Except Refusal Answer}
    (h : ∀ a, answer = .ok a → ∀ s, a.submission? = some s → s.id = id) :
    (Upshot.unwritten answer).IsAbout id :=
  ⟨h, by rintro s ⟨⟩, by rintro r ⟨⟩, by rintro ⟨⟩⟩

theorem IsAbout.of_error (e : Refusal) (id : String) : (Upshot.unwritten (.error e)).IsAbout id :=
  .unwritten (by rintro a ⟨⟩)

end Upshot

namespace Store

/-- The store with a record written, if there is one. -/
def puts (store : Store) (record : Option Submission) : Store :=
  record.elim store store.put

/-- Of two records under one identifier the second one counts. -/
theorem put_put (store : Store) (r r' : Submission) (h : r'.id = r.id) :
    (store.put r).put r' = store.put r' := by
  obtain ⟨records, hnodup⟩ := store
  simp only [put, mk.injEq, List.map_map]
  refine List.map_congr_left fun x _ => ?_
  simp only [Function.comp, h]
  by_cases hx : x.id = r.id
  · rw [if_pos hx, if_pos rfl, if_pos hx]
  · rw [if_neg hx, if_neg hx]

/-- A record that other submissions have is none of those that are written. -/
theorem find?_puts {store : Store} {record : Option Submission} {id : String}
    (h : ∀ s, record = some s → s.id ≠ id) : (store.puts record).find? id = store.find? id := by
  cases record with
  | none => rfl
  | some s => exact (find?_put store s id).trans (if_neg (h s rfl).symm)

end Store

namespace Office

/-- The mail for a letter about a submission, if there is one to send. -/
def mailFor (o : Office) (s : Submission) (letter? : Option Letter) : Option Notification :=
  letter?.bind fun letter =>
    (o.settings.mail.forSubmission letter.1 s (.ofList letter.2)).toOption

/-- The office with everything written that an operation comes to. -/
def after (o : Office) (x : Upshot) : Office :=
  let o' : Office := { o with
    store := o.store.puts x.record
    loaded := o.loaded ++ x.loaded.toList
    barcodes := if x.draws then (o.barcodes.next o.clock).2 else o.barcodes }
  x.mail.elim o' o'.posted

/-- Two offices that look alike to whoever works on one submission. -/
structure SameFor (id : String) (o o' : Office) : Prop where
  record : o'.store.find? id = o.store.find? id
  desk : o'.desk = o.desk
  clock : o'.clock = o.clock
  settings : o'.settings = o.settings
  reasons : o'.reasons = o.reasons
  drill : o'.drill = o.drill

variable {o o' : Office} {id : String} {x : Upshot}

theorem SameFor.refl (id : String) (o : Office) : SameFor id o o := ⟨rfl, rfl, rfl, rfl, rfl, rfl⟩

theorem SameFor.steady (h : SameFor id o o') (ho : o.Steady) : o'.Steady :=
  ho.of_drill_eq h.drill

theorem SameFor.mailFor_eq (h : SameFor id o o') (s : Submission) (letter? : Option Letter) :
    o'.mailFor s letter? = o.mailFor s letter? := by
  rw [mailFor, mailFor, h.settings]

/-! ## The office afterwards -/

theorem after_eq (o : Office) (x : Upshot) :
    ∃ sent refused, o.after x = { o with
      store := o.store.puts x.record
      loaded := o.loaded ++ x.loaded.toList
      barcodes := if x.draws then (o.barcodes.next o.clock).2 else o.barcodes
      sent := sent
      refused := refused } := by
  rw [after]
  cases x.mail with
  | none => exact ⟨_, _, rfl⟩
  | some n =>
    obtain ⟨sent, refused, hposted⟩ := posted_eq
      { o with
        store := o.store.puts x.record
        loaded := o.loaded ++ x.loaded.toList
        barcodes := if x.draws then (o.barcodes.next o.clock).2 else o.barcodes } n
    exact ⟨sent, refused, hposted⟩

theorem after_unwritten (o : Office) (answer : Except Refusal Answer) :
    o.after (.unwritten answer) = o := by
  have hloaded : o.loaded ++ [] = o.loaded := List.append_nil _
  rw [after, Upshot.unwritten]
  dsimp only [Option.elim, Option.toList, Store.puts]
  rw [hloaded]
  rfl

theorem notified_eq_elim (o : Office) (s : Submission) (letter? : Option Letter) :
    o.notified s letter? = (o.mailFor s letter?).elim o o.posted := by
  cases letter? with
  | none => rfl
  | some letter =>
    obtain ⟨kind, details⟩ := letter
    rw [notified, mailFor, Option.bind_some]
    cases o.settings.mail.forSubmission kind s (.ofList details) <;> rfl

/-- **To whoever works on another submission, the office looks as before.** -/
theorem sameFor_after (hx : x.IsAbout id) {other : String} (hother : other ≠ id) (o : Office) :
    SameFor other o (o.after x) := by
  obtain ⟨sent, refused, hafter⟩ := o.after_eq x
  rw [hafter]
  have hrecord : (o.store.puts x.record).find? other = o.store.find? other :=
    Store.find?_puts fun s hs => (hx.record s hs).trans_ne hother.symm
  exact ⟨hrecord, rfl, rfl, rfl, rfl, rfl⟩

end Office

/-! ## Work on one submission -/

/-- Work on one submission has the same upshot in all offices that look alike, up to the barcode
that is the next one there. -/
def Act.Local (id : String) (draws : Office → Prop) (w : Act Refusal Answer) : Prop :=
  ∀ o : Office, o.Steady → ∃ x : Upshot, x.IsAbout id ∧ (x.draws = true ↔ draws o) ∧
    ∀ o', o.SameFor id o' →
      let y := x.drawing (o'.barcodes.next o'.clock).1
      w o' = (y.answer, o'.after y)

namespace Act.Local

variable {o : Office} {id : String}

/-- Where no barcode is drawn, there is none to go by. -/
theorem undrawn {w : Act Refusal Answer} {draws : Prop} (hdraws : ¬draws)
    (h : ∃ x : Upshot, x.IsAbout id ∧ x.draws = false ∧
      ∀ o', o.SameFor id o' → w o' = (x.answer, o'.after x)) :
    ∃ x : Upshot, x.IsAbout id ∧ (x.draws = true ↔ draws) ∧ ∀ o', o.SameFor id o' →
      let y := x.drawing (o'.barcodes.next o'.clock).1
      w o' = (y.answer, o'.after y) := by
  obtain ⟨x, habout, hnone, hx⟩ := h
  refine ⟨x, habout, ?_, fun o' hsame => ?_⟩
  · rw [hnone]
    exact ⟨by rintro ⟨⟩, fun h => absurd h hdraws⟩
  · rw [Upshot.drawing, hnone, if_neg Bool.false_ne_true]
    exact hx o' hsame

/-- Work that never draws a barcode. -/
theorem of_forall {w : Act Refusal Answer}
    (h : ∀ o : Office, o.Steady → ∃ x : Upshot, x.IsAbout id ∧ x.draws = false ∧
      ∀ o', o.SameFor id o' → w o' = (x.answer, o'.after x)) : Local id (fun _ => False) w :=
  fun o ho => undrawn not_false (h o ho)

/-- A refusal, whatever else the office holds. -/
theorem refused {w : Act Refusal Answer} (e : Refusal)
    (h : ∀ o', o.SameFor id o' → w o' = (.error e, o')) :
    ∃ x : Upshot, x.IsAbout id ∧ x.draws = false ∧
      ∀ o', o.SameFor id o' → w o' = (x.answer, o'.after x) := by
  refine ⟨.unwritten (.error e), .of_error e id, rfl, fun o' hsame => ?_⟩
  rw [h o' hsame, Office.after_unwritten]
  rfl

/-- A task that is done, with its mail. -/
theorem done (task : Task) {w : Act Refusal Answer} (answer : Answer) {t : Submission}
    (hanswer : answer.submission? = some t) (hid : t.id = id)
    (h : ∀ o', o.SameFor id o' → w o' = (.ok answer, o'.carriedOut task t)) :
    ∃ x : Upshot, x.IsAbout id ∧ x.draws = false ∧
      ∀ o', o.SameFor id o' → w o' = (x.answer, o'.after x) := by
  let x : Upshot := ⟨.ok answer, some t, o.mailFor t (task.letter? t), none, false⟩
  have habout : x.IsAbout id := by
    refine ⟨?_, ?_, by rintro r ⟨⟩, by rintro ⟨⟩⟩
    · rintro a ⟨⟩ s hs
      rw [hanswer] at hs
      rw [← Option.some.inj hs]
      exact hid
    · rintro s ⟨⟩
      exact hid
  refine ⟨x, habout, rfl, fun o' hsame => ?_⟩
  have hloaded : o'.loaded ++ [] = o'.loaded := List.append_nil _
  rw [h o' hsame, Office.carriedOut, Office.notified_eq_elim, Office.after]
  dsimp only [x, Option.toList, Store.puts, Option.elim]
  rw [hloaded, ← hsame.mailFor_eq t (task.letter? t)]
  rfl

/-- A revision that is a task, with the mail that goes with it, if what it makes of a record is the
same in all offices that look alike. -/
theorem revise (task : Task) {revision : Office → Submission → Except Refusal Submission}
    {f : Submission → Act Refusal Submission}
    (h : ∀ ⦃o s t⦄, revision o s = .ok t → task.Makes o s t)
    (hf : ∀ ⦃o s t⦄ version, task.Makes o s t → ∀ o₁,
      f (t.stored version) o₁ =
        (.ok (t.stored version), o₁.notified (t.stored version) (task.letter? (t.stored version))))
    (hlocal : ∀ ⦃o o'⦄, Office.SameFor id o o' → revision o' = revision o) :
    Local id (fun _ => False) (Answer.submission <$> (Office.revise id revision >>= f)) := by
  refine of_forall fun o ho => ?_
  have hrevise (o' : Office) (hsame : o.SameFor id o') :=
    Office.revise_apply task revision (hsame.steady ho).toUp (fun _ _ h' => h h') id
  cases hs : o.store.find? id with
  | none =>
    refine refused (.notFound id) fun o' hsame => ?_
    have hrevise := hrevise o' hsame
    rw [hsame.record, hs] at hrevise
    rw [map_apply, bind_of_error hrevise]
    rfl
  | some s =>
    cases hrevision : revision o s with
    | error e =>
      refine refused e fun o' hsame => ?_
      have hrevise := hrevise o' hsame
      rw [hsame.record, hs] at hrevise
      dsimp only at hrevise
      rw [hlocal hsame, hrevision] at hrevise
      rw [map_apply, bind_of_error hrevise]
      rfl
    | ok t =>
      have hid := Store.id_of_find? hs
      have hmade := (h hrevision).move.sameOrigin
      refine done task (.submission (t.stored s.version)) rfl (hmade.id.trans hid)
        fun o' hsame => ?_
      have hfound : o'.store.find? s.id = some s := by rw [hid, hsame.record, hs]
      have hrevision' : revision o' s = .ok t := by rw [hlocal hsame, hrevision]
      rw [← hid]
      exact Office.done_revise task revision (hsame.steady ho).toUp (fun _ _ h' => h h')
        (fun _ _ version h' => hf version h') hfound hrevision'

/-- An edit tells nobody. -/
theorem edit (task : Task) {revision : Office → Submission → Except Refusal Submission}
    (h : ∀ ⦃o s t⦄, revision o s = .ok t → task.Makes o s t)
    (hnone : ∀ s, task.letter? s = none)
    (hlocal : ∀ ⦃o o'⦄, Office.SameFor id o o' → revision o' = revision o) :
    Local id (fun _ => False) (Answer.submission <$> Office.revise id revision) := by
  have hpure : Office.revise id revision = Office.revise id revision >>= pure :=
    (bind_pure _).symm
  rw [hpure]
  refine revise task h (fun _ _ _ _ _ o₁ => ?_) hlocal
  rw [hnone]
  rfl

/-- A report on a file. -/
theorem report (id fileId : String) (outcome : FileOutcome) :
    Local id (fun _ => False) (Operation.report id fileId outcome).perform := by
  refine of_forall fun o ho => ?_
  have hperform (o' : Office) : (Operation.report id fileId outcome).perform o' =
      (Office.reportWithin id fileId outcome o'.settings.retries >>=
        fun r => pure (.progress r.1 r.2)) o' := rfl
  cases hs : o.store.find? id with
  | none =>
    refine refused (.notFound id) fun o' hsame => ?_
    have hnone : o'.store.find? id = none := by rw [hsame.record, hs]
    rw [hperform, Office.reportWithin_eq]
    exact bind_of_error
      (Office.reportOnce_of_none fileId outcome (hsame.steady ho).toUp hnone)
  | some s =>
    have hfound (o' : Office) (hsame : o.SameFor id o') : o'.store.find? id = some s := by
      rw [hsame.record, hs]
    have honce (o' : Office) (hsame : o.SameFor id o')
        (again : Act Refusal (Progress × Submission)) :
        Office.reportOnce id fileId outcome again o' = _ :=
      Office.reportOnce_apply fileId outcome (hsame.steady ho).toUp (hfound o' hsame)
    cases hreport : s.report o.desk fileId outcome o.clock with
    | error e =>
      refine refused e fun o' hsame => ?_
      have honce := honce o' hsame
      rw [hsame.desk, hsame.clock, hreport] at honce
      rw [hperform, Office.reportWithin_eq]
      exact bind_of_error (honce _)
    | ok r =>
      obtain ⟨progress, t⟩ := r
      by_cases hdup : progress.isDuplicate = true
      · refine ⟨.unwritten (.ok (.progress progress t)), .unwritten ?_, rfl, fun o' hsame => ?_⟩
        · rintro _ ⟨⟩ _ ⟨⟩
          rw [Office.eq_of_isDuplicate hreport hdup]
          exact Store.id_of_find? hs
        · have honce := honce o' hsame
          rw [hsame.desk, hsame.clock, hreport] at honce
          rw [hperform, Office.reportWithin_eq, Office.after_unwritten]
          exact bind_of_ok ((honce _).trans (Office.keepReport_of_duplicate hdup))
      · have hnew : progress.isDuplicate = false := by simpa using hdup
        have hmade : (Task.report fileId outcome).Makes o s t := ⟨progress, hreport, hnew⟩
        have hid := hmade.move.sameOrigin.id.trans (Store.id_of_find? hs)
        refine done (.report fileId outcome) (.progress progress (t.stored s.version)) rfl hid
          fun o' hsame => ?_
        have hreport' : s.report o'.desk fileId outcome o'.clock = .ok (progress, t) := by
          rw [hsame.desk, hsame.clock, hreport]
        have hletter := Office.letter?_of_report hreport
        have hstored : progress.verdict?.bind (t.stored s.version).letterOn =
            (t.stored s.version).letter? := hletter
        have hnew := Office.reportWithin_of_new fileId outcome (hsame.steady ho).toUp
          (hfound o' hsame) hreport' hnew o'.settings.retries
        rw [hstored] at hnew
        rw [hperform]
        exact bind_of_ok hnew

/-- A look-up. -/
theorem read (id : String) : Local id (fun _ => False) (Operation.read id).perform := by
  refine of_forall fun o ho => ?_
  have hread (o' : Office) (hsame : o.SameFor id o') :=
    Office.read_apply (hsame.steady ho).toUp id
  cases hs : o.store.find? id with
  | none =>
    refine refused (.notFound id) fun o' hsame => ?_
    have hread := hread o' hsame
    rw [hsame.record, hs] at hread
    rw [Operation.perform, map_apply, hread]
    rfl
  | some s =>
    refine ⟨.unwritten (.ok (.submission s)), .unwritten ?_, rfl, fun o' hsame => ?_⟩
    · rintro _ ⟨⟩ _ ⟨⟩
      exact Store.id_of_find? hs
    · have hread := hread o' hsame
      rw [hsame.record, hs] at hread
      rw [Operation.perform, map_apply, hread, Office.after_unwritten]
      rfl

end Act.Local

/-! ## Hand-overs -/

namespace Office

open Submission

/-- A hand-over draws a barcode for a submission that stands ready and has none. -/
def drawsFor (o : Office) (id : String) : Prop :=
  o.drill.barcodesDown = false ∧
    ∃ s, o.store.find? id = some s ∧ s.status = .readyToSubmit ∧ s.barcode? = none

variable {o : Office} {id : String} {s : Submission}

theorem not_drawsFor_of_none (hs : o.store.find? id = none) : ¬o.drawsFor id := by
  rintro ⟨-, s, h, -⟩
  rw [hs] at h
  cases h

/-- What comes of a hand-over that draws a barcode. -/
def labelUpshot (o : Office) (s : Submission) (barcode : String) : Upshot :=
  let t := s.labelled barcode o.clock
  if o.drill.loaderDown then
    ⟨.error (.fes (.loader "FES loader offline")), some t, none, none, true⟩
  else
    ⟨.ok (.submission (t.dispatched o.clock)), some (t.dispatched o.clock), none,
      some (.withBarcode t barcode), true⟩

/-- The barcode is all that shows which one it was. -/
theorem labelUpshot_drawing (o : Office) (s : Submission) (barcode barcode' : String) :
    (o.labelUpshot s barcode).drawing barcode' = o.labelUpshot s barcode' := by
  rw [labelUpshot, labelUpshot]
  split <;> rfl

theorem isAbout_labelUpshot (o : Office) (s : Submission) (barcode : String) :
    (o.labelUpshot s barcode).IsAbout s.id := by
  rw [labelUpshot]
  split
  · exact ⟨by rintro a ⟨⟩, by rintro t ⟨⟩; rfl, by rintro r ⟨⟩, fun _ => rfl⟩
  · exact ⟨by rintro a ⟨⟩ t ⟨⟩; rfl, by rintro t ⟨⟩; rfl, by rintro r ⟨⟩; rfl, fun _ => rfl⟩

theorem draws_labelUpshot (o : Office) (s : Submission) (barcode : String) :
    (o.labelUpshot s barcode).draws = true := by
  rw [labelUpshot]
  split <;> rfl

/-- A hand-over of a submission without a barcode. -/
theorem handOver_labelUpshot (ho : o.Steady) (hs : o.store.find? s.id = some s)
    (hready : s.status = .readyToSubmit) (hnone : s.barcode? = none)
    (hup : o.drill.barcodesDown = false) :
    let x := o.labelUpshot s (o.barcodes.next o.clock).1
    (Operation.handOver s.id).perform o = (x.answer, o.after x) := by
  have hloaded : o.loaded ++ [] = o.loaded := List.append_nil _
  have hhandOver := handOver_of_none ho hs hready hnone hup
  dsimp only at hhandOver
  dsimp only
  rw [Operation.perform, map_apply, hhandOver, labelUpshot, after]
  by_cases hdown : o.drill.loaderDown = true
  · rw [if_pos hdown, if_pos hdown]
    dsimp only [Option.toList, Option.elim, Store.puts]
    rw [hloaded]
    rfl
  · have hput := o.store.put_put (s.labelled (o.barcodes.next o.clock).1 o.clock)
      ((s.labelled (o.barcodes.next o.clock).1 o.clock).dispatched o.clock) rfl
    rw [if_neg hdown, if_neg hdown]
    dsimp only [Option.toList, Option.elim, Store.puts]
    rw [dispatch, label]
    dsimp only
    rw [hput]
    rfl

/-- A hand-over of a submission that has its barcode. -/
theorem handOver_dispatched (ho : o.Steady) {record : BatchRecord}
    (hs : o.store.find? s.id = some s) (hready : s.status = .readyToSubmit)
    (hrecord : BatchRecord.ofSubmission s = .ok record) :
    ∃ x : Upshot, x.IsAbout s.id ∧ x.draws = false ∧ ∀ o', o.SameFor s.id o' →
      (Operation.handOver s.id).perform o' = (x.answer, o'.after x) := by
  have hhandOver (o' : Office) (hsame : o.SameFor s.id o') :=
    handOver_of_labelled (hsame.steady ho) (hsame.record.trans hs) hready hrecord
  by_cases hdown : o.drill.loaderDown = true
  · refine Local.refused (.fes (.loader "FES loader offline")) fun o' hsame => ?_
    rw [Operation.perform, map_apply, hhandOver o' hsame, hsame.drill, if_pos hdown]
    rfl
  · let x : Upshot :=
      ⟨.ok (.submission (s.dispatched o.clock)), some (s.dispatched o.clock), none, some record,
        false⟩
    obtain ⟨barcode, -, hwith⟩ := BatchRecord.ofSubmission_eq_ok.1 hrecord
    refine ⟨x, ⟨?_, ?_, ?_, by rintro ⟨⟩⟩, rfl, fun o' hsame => ?_⟩
    · rintro a ⟨⟩ t ⟨⟩
      rfl
    · rintro t ⟨⟩
      rfl
    · rintro r ⟨⟩
      rw [hwith]
      rfl
    · rw [Operation.perform, map_apply, hhandOver o' hsame, hsame.drill, if_neg hdown]
      dsimp only [x]
      rw [← hsame.clock]
      rfl

/-- **A hand-over has the same upshot in all offices that look alike.** -/
theorem local_handOver (id : String) :
    Local id (fun o => o.drawsFor id) (Operation.handOver id).perform := by
  intro o ho
  cases hs : o.store.find? id with
  | none =>
    refine Local.undrawn (not_drawsFor_of_none hs)
      (Local.refused (.notFound id) fun o' hsame => ?_)
    have hread := read_apply (hsame.steady ho).toUp id
    rw [hsame.record, hs] at hread
    have hnone : readReady id o' = (.error (.notFound id), o') := bind_of_error hread
    rw [Operation.perform, map_apply, handOver_eq, bind_of_error hnone]
    rfl
  | some s =>
    obtain rfl := Store.id_of_find? hs
    cases hdemand : s.demand [.readyToSubmit] with
    | error e =>
      have hready : s.status ≠ .readyToSubmit := by
        intro hready
        rw [demand_eq_ok (u := ()).2 (by simp [hready])] at hdemand
        cases hdemand
      refine Local.undrawn ?_ (Local.refused e fun o' hsame => ?_)
      · rintro ⟨-, t, ht, htready, -⟩
        rw [hs] at ht
        exact hready (Option.some.inj ht ▸ htready)
      · have hread := readReady_apply (hsame.steady ho).toUp (hsame.record.trans hs)
        rw [hdemand] at hread
        rw [Operation.perform, map_apply, handOver_eq, bind_of_error hread]
        rfl
    | ok u =>
      have hready : s.status = .readyToSubmit := List.mem_singleton.1 (demand_eq_ok.1 hdemand)
      have hdraws' (h : o.drawsFor s.id) : s.barcode? = none := by
        obtain ⟨-, t, ht, -, hnone⟩ := h
        rw [hs] at ht
        exact Option.some.inj ht ▸ hnone
      cases hbarcode : s.barcode? with
      | some barcode =>
        have hrecord := BatchRecord.ofSubmission_eq_ok.2 ⟨barcode, hbarcode, rfl⟩
        refine Local.undrawn (fun h => ?_) (handOver_dispatched ho hs hready hrecord)
        rw [hdraws' h] at hbarcode
        cases hbarcode
      | none =>
        cases hdown : o.drill.barcodesDown with
        | true =>
          refine Local.undrawn (fun h => ?_)
            (Local.refused (.fes (.barcodeUnavailable "sequence exhausted")) fun o' hsame => ?_)
          · rw [h.1] at hdown
            cases hdown
          · have hdown' : o'.drill.barcodesDown = true := by rw [hsame.drill, hdown]
            rw [Operation.perform, map_apply,
              handOver_of_ready (hsame.steady ho) (hsame.record.trans hs) hready,
              bind_of_error (withBarcode_of_down hbarcode hdown')]
            rfl
        | false =>
          refine ⟨o.labelUpshot s "", o.isAbout_labelUpshot s _, ?_, fun o' hsame => ?_⟩
          · rw [draws_labelUpshot]
            exact ⟨fun _ => ⟨hdown, s, hs, hready, hbarcode⟩, fun _ => rfl⟩
          · have hlabel : o'.labelUpshot s = o.labelUpshot s := by
              funext barcode
              rw [labelUpshot, labelUpshot, hsame.clock, hsame.drill]
            have hhandOver := handOver_labelUpshot (hsame.steady ho) (hsame.record.trans hs) hready
              hbarcode (by rw [hsame.drill, hdown])
            rw [hlabel] at hhandOver
            rw [labelUpshot_drawing]
            exact hhandOver

end Office

/-! ## Operations -/

namespace Operation

/-- The submission that an operation is about, if it is about a single one and takes nothing from
the supply of identifiers. -/
def about? : Operation → Option String
  | read id | editCompany id _ | editForm id _ | editFiles id _ | editSessions id _
  | editAuthorised id _ | complete id | recordPayment id _ | queue id | report id _ _
  | handOver id | adjudicate id _ => some id
  | create _ | upload _ _ | queueBatch _ | handOverAll | findFee _ _ | findForm _ | listDelayed _
  | reportDelayed _ | listPaid _ _ | newFileId => none

/-- The operation draws a barcode. -/
def draws (o : Office) : Operation → Prop
  | handOver id => o.drawsFor id
  | _ => False

open Act.Local in
/-- **Every operation on one submission has the same upshot in all offices that look alike.** -/
theorem local_perform {operation : Operation} {id : String} (h : operation.about? = some id) :
    Local id (fun o => operation.draws o) operation.perform := by
  cases operation with
  | read id' =>
    obtain rfl := Option.some.inj h
    exact Local.read id'
  | editCompany id' company =>
    obtain rfl := Option.some.inj h
    refine edit (.company company) (fun _ _ _ h => h) (fun _ => rfl) fun o o' hsame => ?_
    rw [hsame.clock]
  | editForm id' formType =>
    obtain rfl := Option.some.inj h
    refine edit (.form formType) (fun _ _ _ h => h) (fun _ => rfl) fun o o' hsame => ?_
    rw [hsame.desk, hsame.clock]
  | editFiles id' files =>
    obtain rfl := Option.some.inj h
    refine edit (.files files) (fun _ _ _ h => h) (fun _ => rfl) fun o o' hsame => ?_
    rw [hsame.clock]
  | editSessions id' sessions =>
    obtain rfl := Option.some.inj h
    refine edit (.sessions sessions) (fun _ _ _ h => h) (fun _ => rfl)
      fun o o' hsame => ?_
    rw [hsame.clock]
  | editAuthorised id' authorised =>
    obtain rfl := Option.some.inj h
    refine edit (.authorised authorised) (fun _ _ _ h => h) (fun _ => rfl)
      fun o o' hsame => ?_
    rw [hsame.clock]
  | complete id' =>
    obtain rfl := Option.some.inj h
    refine revise .complete (fun _ _ _ h => h)
      (fun _ _ _ _ _ o₁ => bind_of_ok (Office.notify_apply _ _ _ o₁)) fun o o' hsame => ?_
    rw [hsame.desk, hsame.clock]
  | recordPayment id' report =>
    obtain rfl := Option.some.inj h
    refine revise (.payment report) (fun _ _ _ h => h)
      (fun _ _ _ _ _ o₁ => Office.tell_payment report _ o₁) fun o o' hsame => ?_
    rw [hsame.clock]
  | queue id' =>
    obtain rfl := Option.some.inj h
    refine revise .queue (fun _ _ _ h => h)
      (fun _ _ _ version h o₁ => Office.tell_queue h version o₁) fun o o' hsame => ?_
    rw [hsame.desk, hsame.clock]
  | report id' fileId outcome =>
    obtain rfl := Option.some.inj h
    exact Local.report id' fileId outcome
  | handOver id' =>
    obtain rfl := Option.some.inj h
    exact Office.local_handOver id'
  | adjudicate id' outcome =>
    obtain rfl := Option.some.inj h
    refine revise (.adjudicate outcome) (fun _ _ _ h => h)
      (fun _ _ _ _ _ o₁ => bind_of_ok (Office.notify_apply _ _ _ o₁)) fun o o' hsame => ?_
    have hreasons : o'.reasonsFor = o.reasonsFor := by
      funext barcode
      rw [Office.reasonsFor, Office.reasonsFor, hsame.drill, hsame.reasons]
    rw [hreasons, hsame.clock]
  | create => cases h
  | upload => cases h
  | queueBatch => cases h
  | handOverAll => cases h
  | findFee => cases h
  | findForm => cases h
  | listDelayed => cases h
  | reportDelayed => cases h
  | listPaid => cases h
  | newFileId => cases h

end Operation

end Filing
