import Filing.Proofs.Completeness
import Filing.Proofs.Lifecycle
import Filing.Proofs.Office.Log

/-!
# The fee that is quoted, stored and charged

The fee of a filing is looked up three times: by whoever asks for it, when the form type is chosen, and
when the filing is completed.  Prices change, and the form type is stored without the white space that
it was typed with.  Still all of them speak of the same fee: what is stored is what the catalog quotes
for the text that was typed, at the time of the last look-up, and it decides whether there is something
to pay.

* `Task.prices` — the tasks that have the fee looked up; `chosenForms`, `pricedAt` — the form types that
  were chosen, and when the fee was looked up;
* `Submission.Priced` — the fee on record is that of the last look-up;
* `Submission.Charged` — a completed submission waits for its payment exactly if there is one to make;
* `Office.Logs.charged` — **the fee that is quoted is the fee that is stored and charged**.
-/

set_option autoImplicit false

namespace Filing

/-! ## Tasks and prices -/

namespace Task

variable {o : Office} {s t : Submission} {task : Task}

/-- The form type that is chosen with a task, as it was typed. -/
def chosen? : Task → Option String
  | form formType => some formType
  | company _ | files _ | sessions _ | authorised _ | complete | payment _ | queue | report _ _
  | adjudicate _ => none

/-- The fee is looked up for a task. -/
def prices : Task → Bool
  | form _ | complete => true
  | company _ | files _ | sessions _ | authorised _ | payment _ | queue | report _ _
  | adjudicate _ => false

theorem chosen?_of_not_prices (h : task.prices = false) : task.chosen? = none := by
  cases task <;> first | rfl | cases h

/-- The fee is looked up for open submissions only. -/
theorem Makes.opened (h : task.Makes o s t) (hprices : task.prices = true) :
    s.status = .opened := by
  have hmem := h.status_mem
  cases task with
  | form formType => exact List.mem_singleton.1 hmem
  | complete => exact List.mem_singleton.1 hmem
  | _ => cases hprices

open Submission in
/-- Where no fee is looked up, the form type and the fee stay as they are. -/
theorem Makes.unpriced (h : task.Makes o s t) (hprices : task.prices = false) :
    t.formType? = s.formType? ∧ t.fee = s.fee := by
  have hpast (hs : Status.opened ∉ task.statuses) : t.formType? = s.formType? ∧ t.fee = s.fee := by
    have hsame := h.move.change.sameFiling (h.status_ne hs)
    exact ⟨hsame.formType, hsame.fee⟩
  cases task with
  | company new =>
    obtain ⟨-, rfl⟩ := editCompany_eq_ok.1 h
    exact ⟨rfl, rfl⟩
  | form => cases hprices
  | files new =>
    obtain ⟨-, rfl⟩ := editFiles_eq_ok.1 h
    exact ⟨s.formType?_updateForm fun _ => rfl, rfl⟩
  | sessions new =>
    obtain ⟨-, rfl⟩ := editSessions_eq_ok.1 h
    exact ⟨rfl, rfl⟩
  | authorised answer =>
    obtain ⟨-, rfl⟩ := editAuthorised_eq_ok.1 h
    exact ⟨rfl, rfl⟩
  | complete => cases hprices
  | payment outcome => exact hpast (by simp [statuses])
  | queue => exact hpast (by simp [statuses])
  | report fileId outcome => exact hpast (by simp [statuses])
  | adjudicate outcome => exact hpast (by simp [statuses])

end Task

/-! ## What was chosen, and when it was priced -/

/-- The form types that were chosen, as they were typed. -/
def chosenForms (deeds : List Done) : List String :=
  deeds.filterMap (·.task.chosen?)

/-- The times at which the fee was looked up. -/
def pricedAt (deeds : List Done) : List Instant :=
  (deeds.filter (·.task.prices)).map (·.time)

section

variable (deeds more : List Done)

theorem chosenForms_append :
    chosenForms (deeds ++ more) = chosenForms deeds ++ chosenForms more :=
  List.filterMap_append

theorem pricedAt_append : pricedAt (deeds ++ more) = pricedAt deeds ++ pricedAt more := by
  rw [pricedAt, List.filter_append, List.map_append, pricedAt, pricedAt]

variable {deeds more}

theorem chosenForms_eq_nil (h : ∀ d ∈ more, d.task.prices = false) : chosenForms more = [] :=
  List.filterMap_eq_nil_iff.2 fun d hd => Task.chosen?_of_not_prices (h d hd)

theorem pricedAt_eq_nil (h : ∀ d ∈ more, d.task.prices = false) : pricedAt more = [] := by
  have hnone : more.filter (·.task.prices) = [] :=
    List.filter_eq_nil_iff.2 fun d hd => by rw [h d hd]; exact Bool.false_ne_true
  rw [pricedAt, hnone, List.map_nil]

end

namespace Submission

variable {catalog : Catalog} {o : Office} {s t : Submission} {deeds : List Done}

/-- The fee on record is the one of the last look-up, for the form type that was chosen last. -/
structure Priced (catalog : Catalog) (deeds : List Done) (s : Submission) : Prop where
  formType : s.formType? = Text.nonBlank ((chosenForms deeds).getLast?.map Text.trim)
  fee : ∀ now, (pricedAt deeds).getLast? = some now →
    ∃ raw, (chosenForms deeds).getLast? = some raw ∧
      s.fee = (catalog.resolveFee raw now).storedAmount
  /-- After the completion no fee is looked up any more. -/
  closed : deeds.Pairwise fun d d' => d.task = .complete → d'.task.prices = false
  completed : ∀ d ∈ deeds, d.task = .complete → s.status ≠ .opened

/-- A submission that has just been completed waits for its payment exactly if there is something to
pay, and is submitted otherwise. -/
structure Charged (s : Submission) (fee : FeeResolution) (now : Instant) : Prop where
  stored : s.fee = fee.storedAmount
  required : s.status = .paymentRequired ↔ fee.payable.isSome
  submitted : fee.payable = none → s.status = .submitted ∧ s.submittedAt = some now

theorem charged_priced (s : Submission) (fee : FeeResolution) (now : Instant) :
    (s.priced fee now).Charged fee now := by
  rw [priced]
  split
  · next hpayable =>
    refine ⟨rfl, iff_of_true rfl hpayable, fun hnone => ?_⟩
    rw [hnone] at hpayable
    cases hpayable
  · next hfree =>
    refine ⟨rfl, iff_of_false ?_ hfree, fun _ => ⟨rfl, rfl⟩⟩
    rintro ⟨⟩

/-- The fee of the completion is that of the text that was typed, although what is looked up is the
trimmed one. -/
theorem Priced.charged_of_makes (hs : s.Priced catalog deeds) (hcatalog : o.desk.catalog = catalog)
    (h : Task.complete.Makes o s t) :
    ∃ raw, (chosenForms deeds).getLast? = some raw ∧
      t.Charged (catalog.resolveFee raw o.clock) o.clock := by
  obtain ⟨-, form, fee, -, hfee, hvalid, rfl⟩ := complete_eq_ok.1 h
  have hpresent := formTypePresent_eq_none.1 (rule_of_validate hvalid (by simp [rules]))
  obtain ⟨formType, htype⟩ := Option.isSome_iff_exists.1 hpresent
  have hchosen := (Text.nonBlank_eq_some.1 (hs.formType.symm.trans htype)).1
  obtain ⟨raw, hraw, rfl⟩ := Option.map_eq_some_iff.1 hchosen
  rw [currentFee, htype] at hfee
  have hresolved := CatalogDesk.eq_resolveFee (refuse_eq_ok.1 hfee)
  rw [Catalog.resolveFee_trim, hcatalog] at hresolved
  refine ⟨raw, hraw, ?_⟩
  rw [← hresolved]
  exact s.charged_priced fee o.clock

/-- A task that looks up no fee leaves what is said about it. -/
theorem Priced.unpriced {task : Task} {now : Instant} {id : String} (hs : s.Priced catalog deeds)
    (h : task.Makes o s t) (hprices : task.prices = false) :
    t.Priced catalog (deeds ++ [⟨now, id, task⟩]) := by
  have hall : ∀ d ∈ [(⟨now, id, task⟩ : Done)], d.task.prices = false := by
    intro d hd
    rw [List.mem_singleton.1 hd]
    exact hprices
  obtain ⟨htype, hfee⟩ := h.unpriced hprices
  refine ⟨?_, ?_, ?_, ?_⟩
  · rw [htype, hs.formType, chosenForms_append, chosenForms_eq_nil hall, List.append_nil]
  · rw [hfee, chosenForms_append, chosenForms_eq_nil hall, pricedAt_append, pricedAt_eq_nil hall,
      List.append_nil, List.append_nil]
    exact hs.fee
  · exact List.pairwise_append.2 ⟨hs.closed, List.pairwise_singleton _ _,
      fun _ _ d hd _ => hall d hd⟩
  · intro d hd hcomplete
    obtain hd | hd := List.mem_append.1 hd
    · exact h.move.change.ne_opened (hs.completed d hd hcomplete)
    · rw [List.mem_singleton.1 hd] at hcomplete
      have hprices : task.prices = false := hprices
      rw [show task = .complete from hcomplete] at hprices
      cases hprices

/-- After a look-up the fee on record is the one that was found. -/
theorem Priced.of_lookUp {task : Task} {raw : String} {now : Instant} {id : String}
    (hs : s.Priced catalog deeds) (hprices : task.prices = true) (hopened : s.status = .opened)
    (hraw : (chosenForms (deeds ++ [⟨now, id, task⟩])).getLast? = some raw)
    (htype : t.formType? = Text.nonBlank (some (Text.trim raw)))
    (hfee : t.fee = (catalog.resolveFee raw now).storedAmount)
    (hcompleted : task = .complete → t.status ≠ .opened) :
    t.Priced catalog (deeds ++ [⟨now, id, task⟩]) := by
  have hpriced : pricedAt (deeds ++ [⟨now, id, task⟩]) = pricedAt deeds ++ [now] := by
    rw [pricedAt_append]
    simp [pricedAt, hprices]
  refine ⟨?_, fun time htime => ?_, ?_, ?_⟩
  · rw [htype, hraw]
    rfl
  · rw [hpriced, List.getLast?_concat] at htime
    obtain rfl := Option.some.inj htime
    exact ⟨raw, hraw, hfee⟩
  · refine List.pairwise_append.2 ⟨hs.closed, List.pairwise_singleton _ _, ?_⟩
    exact fun d hd _ _ hcomplete => absurd hopened (hs.completed d hd hcomplete)
  · intro d hd hcomplete
    obtain hd | hd := List.mem_append.1 hd
    · exact absurd hopened (hs.completed d hd hcomplete)
    · rw [List.mem_singleton.1 hd] at hcomplete
      exact hcompleted hcomplete

/-- **Every task keeps the fee on record right.** -/
theorem Priced.done {task : Task} {id : String} (hs : s.Priced catalog deeds)
    (hcatalog : o.desk.catalog = catalog) (h : task.Makes o s t) :
    t.Priced catalog (deeds ++ [⟨o.clock, id, task⟩]) := by
  cases hprices : task.prices with
  | false => exact hs.unpriced h hprices
  | true =>
    have hopened := h.opened hprices
    cases task with
    | form raw =>
      obtain ⟨-, fee, hfee, rfl⟩ := editForm_eq_ok.1 h
      have hlast : (chosenForms (deeds ++ [⟨o.clock, id, .form raw⟩])).getLast? = some raw := by
        rw [chosenForms_append]
        exact List.getLast?_concat
      refine hs.of_lookUp hprices hopened hlast rfl ?_ (by rintro ⟨⟩)
      rw [CatalogDesk.eq_resolveFee hfee, hcatalog]
    | complete =>
      obtain ⟨raw, hraw, hcharged⟩ := hs.charged_of_makes hcatalog h
      have hlast : (chosenForms (deeds ++ [⟨o.clock, id, .complete⟩])).getLast? = some raw := by
        rw [chosenForms_append]
        exact (congrArg _ (List.append_nil _)).trans hraw
      obtain ⟨-, form, fee, -, -, -, rfl⟩ := complete_eq_ok.1 h
      refine hs.of_lookUp hprices hopened hlast ?_ hcharged.stored fun _ => ?_
      · have htype := hs.formType
        rw [hraw] at htype
        rw [formType?, form_priced]
        exact htype
      · exact s.priced_ne_opened o.clock fee
    | _ => cases hprices

end Submission

/-! ## In every log -/

namespace Office

/-- Everything but the store and the catalog may have changed, as long as the office stays steady. -/
structure SamePrices (o o' : Office) : Prop extends SameCatalog o o' where
  steady : o'.Steady

theorem tracks_priced (catalog : Catalog) :
    Tracks SamePrices (·.catalog = catalog) (fun _ _ => ()) ()
      fun deeds s _ => s.Priced catalog deeds where
  around hcatalog h := ⟨h.steady, h.store, h.catalog.trans hcatalog, fun _ => rfl⟩
  mails _ _ _ := rfl
  apart _ _ _ _ := rfl
  opened _ _ _ _ := ⟨rfl, by rintro _ ⟨⟩, .nil, List.forall_mem_nil _⟩
  done hcatalog _ hs h := by
    obtain ⟨htype, hfee, hclosed, hcompleted⟩ := hs.done hcatalog h
    exact ⟨htype, hfee, hclosed, hcompleted⟩
  ready {o s t deeds seen} hready hs h := by
    have hpast : s.status ≠ .opened := by
      rw [hready]
      decide
    have hsame := h.change.sameFiling hpast
    refine ⟨?_, ?_, hs.closed, fun d hd hcomplete => h.change.ne_opened hpast⟩
    · exact hsame.formType.trans hs.formType
    · intro now hnow
      obtain ⟨raw, hraw, hfee⟩ := hs.fee now hnow
      exact ⟨raw, hraw, hsame.fee.trans hfee⟩

/-- Whoever asks for a fee is told what the catalog says. -/
theorem step_findFee {o : Office} (h : o.desk.down = []) (now asOf : Instant) (formType : String) :
    (o.step now (.findFee formType asOf)).1 = .ok (.fee (o.desk.catalog.resolveFee formType asOf)) := by
  rw [step, Operation.perform, Act.get_bind_apply, Act.map_apply, Act.adapt_apply,
    Act.ofExcept_apply, CatalogDesk.resolveFee_eq h]
  rfl

variable {o o' : Office} {log : List Event}

namespace Logs

/-- The fee that is on record for a submission, after what was done to it. -/
theorem priced (h : Logs SamePrices o log o') (ho : o.Steady) (hstore : o.store = .empty)
    {id : String} (hdone : doneTo id (journal log) ≠ []) :
    ∃ s, o'.store.find? id = some s ∧ s.Priced o.desk.catalog (doneTo id (journal log)) := by
  obtain ⟨-, -, hall⟩ := h.track (tracks_priced o.desk.catalog) ho hstore rfl fun _ => rfl
  have hid := hall id
  cases hs : o'.store.find? id with
  | none => exact absurd ((Tracks.holds_of_none hs).1 hid).1 hdone
  | some s => exact ⟨s, rfl, (Tracks.holds_of_find? hs).1 hid⟩

/-- A completion in a log: how the submission was charged that is shown in the answer. -/
theorem charged_of_complete (h : Logs SamePrices o log o') (ho : o.Steady)
    (hstore : o.store = .empty) {now : Instant} {id : String} {answer : Answer}
    (hanswer : (o'.step now (.complete id)).1 = .ok answer) :
    ∃ raw s, (chosenForms (doneTo id (journal log))).getLast? = some raw ∧
      answer = .submission s ∧ s.id = id ∧
        s.Charged (o.desk.catalog.resolveFee raw now) now := by
  obtain ⟨hsteady, hcatalog, hall⟩ :=
    h.track (tracks_priced o.desk.catalog) ho hstore rfl fun _ => rfl
  have hsteady' : Steady { o' with clock := now } := hsteady.of_drill_eq rfl
  obtain ⟨shown, rfl⟩ := eq_submission_of_map (complete id) { o' with clock := now } hanswer
  have htask : (Operation.complete id).task? = some (id, .complete) := rfl
  have hhandled := handled_perform hsteady'.toUp htask
  rw [Office.step] at hanswer
  rw [hanswer] at hhandled
  generalize ((Operation.complete id).perform { o' with clock := now }).2 = o₂ at hhandled
  cases hhandled with
  | @done _ s t hid hs hmakes hshown hnew =>
    obtain rfl := Option.some.inj hshown
    have hpriced := (Tracks.holds_of_find? (hid ▸ hs)).1 (hall id)
    have hcatalog' : ({ o' with clock := now } : Office).desk.catalog = o.desk.catalog := hcatalog
    obtain ⟨raw, hraw, hcharged⟩ := hpriced.charged_of_makes hcatalog' hmakes
    obtain ⟨hstored, hrequired, hsubmitted⟩ := hcharged
    have hid' : (t.stored s.version).id = id := hmakes.move.sameOrigin.id.trans hid
    exact ⟨raw, _, hraw, rfl, hid', hstored, hrequired, hsubmitted⟩
  | repeated hs hshown hrepeated => cases hrepeated

/-- **The fee that is quoted is the fee that is stored and charged.**  Take the log of any operations
over a catalog that stays the same, from an empty store on, and the form type that was chosen last for
a submission, as it was typed.  The fee on record is what the catalog quotes for it, at the time at
which the form type was chosen or the submission was completed last; and a completion has moved the
submission to its payment exactly if that is a fee to pay. -/
theorem charged (h : Logs SamePrices o log o') (ho : o.Steady) (hstore : o.store = .empty)
    (id : String) :
    (∀ time, (pricedAt (doneTo id (journal log))).getLast? = some time →
      ∃ raw s, (chosenForms (doneTo id (journal log))).getLast? = some raw ∧
        o'.store.find? id = some s ∧
        s.fee = (o.desk.catalog.resolveFee raw time).storedAmount ∧
        (o'.desk.down = [] → ∀ now, (o'.step now (.findFee raw time)).1 =
          .ok (.fee (o.desk.catalog.resolveFee raw time)))) ∧
    ∀ e ∈ log, ∀ answer, e.operation = .complete id → e.result = .ok answer →
      ∃ raw s, (chosenForms (doneTo id (journal log))).getLast? = some raw ∧
        (pricedAt (doneTo id (journal log))).getLast? = some e.time ∧
        answer = .submission s ∧ s.id = id ∧
          s.Charged (o.desk.catalog.resolveFee raw e.time) e.time := by
  obtain ⟨-, hcatalog, -⟩ := h.track (tracks_priced o.desk.catalog) ho hstore rfl fun _ => rfl
  refine ⟨fun time htime => ?_, ?_⟩
  · have hdone : doneTo id (journal log) ≠ [] := by
      rintro hnil
      rw [hnil] at htime
      cases htime
    obtain ⟨s, hs, hpriced⟩ := h.priced ho hstore hdone
    obtain ⟨raw, hraw, hfee⟩ := hpriced.fee time htime
    refine ⟨raw, s, hraw, hs, hfee, fun hdown now => ?_⟩
    rw [step_findFee hdown, hcatalog]
  · rintro ⟨time, operation, result⟩ he answer rfl rfl
    obtain ⟨before, after, o₁, hlog, hbefore, hresult, -⟩ := h.exists_step he
    obtain ⟨raw, s, hraw, rfl, hid, hcharged⟩ :=
      hbefore.charged_of_complete ho hstore hresult.symm
    -- nothing is looked up after the completion
    let d : Done := ⟨time, id, .complete⟩
    have hevent : doneAt time ((Operation.complete id).tasks (.ok (.submission s))) = [d] := rfl
    have hsplit : doneTo id (journal log) =
        doneTo id (journal before) ++ (d :: doneTo id (journal after)) := by
      rw [hlog, journal_append, doneTo_append]
      refine congrArg _ ?_
      rw [journal, List.flatMap_cons, hevent, doneTo_append, doneTo_single d]
      rfl
    have hdone : doneTo id (journal log) ≠ [] := by
      rw [hsplit]
      exact List.append_ne_nil_of_right_ne_nil _ (List.cons_ne_nil _ _)
    obtain ⟨_, _, hpriced⟩ := h.priced ho hstore hdone
    have hclosed := hpriced.closed
    rw [hsplit, List.pairwise_append, List.pairwise_cons] at hclosed
    have hrest : ∀ d' ∈ doneTo id (journal after), d'.task.prices = false :=
      fun d' hd' => hclosed.2.1.1 d' hd' rfl
    have hskipped : chosenForms (d :: doneTo id (journal after)) =
        chosenForms (doneTo id (journal after)) := rfl
    have hforms := hskipped.trans (chosenForms_eq_nil hrest)
    have htimes : pricedAt (d :: doneTo id (journal after)) = [time] :=
      congrArg (time :: ·) (pricedAt_eq_nil hrest)
    refine ⟨raw, s, ?_, ?_, rfl, hid, hcharged⟩
    · rw [hsplit, chosenForms_append, hforms, List.append_nil]
      exact hraw
    · rw [hsplit, pricedAt_append, htimes]
      exact List.getLast?_concat

end Logs

/-- A filing whose price goes up between the choice of its form and its completion. -/
def strikeOff : List (Instant × Operation) :=
  let april : Instant := ⟨1714435200, 0⟩
  let may : Instant := ⟨1714608000, 0⟩
  [(april, .create (some ⟨"filings@acme.example"⟩)),
    (april, .editCompany "sub-1" ⟨"01234567", "Acme Widgets Ltd"⟩),
    (april, .editForm "sub-1" " DS01 "),
    (april, .editFiles "sub-1" [.uploaded "application" "application.pdf" 48213]),
    (april, .editSessions "sub-1" [⟨"session", .pending, none⟩]),
    (may, .complete "sub-1"),
    (may, .recordPayment "sub-1" ⟨"session", .paid, some "PAY-1"⟩)]

theorem charged_strikeOff :
    let start := Office.opened .standard OfficeConfig.default.settings .fresh ⟨1714435200, 0⟩
    let deeds := doneTo "sub-1" (journal (start.events strikeOff))
    (pricedAt deeds).getLast? = some ⟨1714608000, 0⟩ ∧
      ∃ raw s, (chosenForms deeds).getLast? = some raw ∧ raw = " DS01 " ∧
        (start.run strikeOff).store.find? "sub-1" = some s ∧ s.fee = some "33" ∧
        s.fee = (Catalog.standard.resolveFee raw ⟨1714608000, 0⟩).storedAmount := by
  intro start deeds
  have hlog : Logs SamePrices start (start.events strikeOff) (start.run strikeOff) :=
    Logs.refl.run strikeOff
  have htime : (pricedAt deeds).getLast? = some ⟨1714608000, 0⟩ := by
    decide +kernel
  have hform : (chosenForms deeds).getLast? = some " DS01 " := by
    decide +kernel
  have hstored : ((start.run strikeOff).store.find? "sub-1").bind (·.fee) = some "33" := by
    decide +kernel
  obtain ⟨raw, s, hraw, hs, hfee, -⟩ :=
    (hlog.charged ⟨⟨rfl, rfl, rfl⟩, rfl⟩ rfl "sub-1").1 _ htime
  rw [hs] at hstored
  exact ⟨htime, raw, s, hraw, Option.some.inj (hraw.symm.trans hform), hs, hstored, hfee⟩

end Office

end Filing
