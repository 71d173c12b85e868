import Filing.Proofs.Office.Regular

/-!
# The log of an office

What was asked of an office, when, and what it answered.  The answers tell which tasks were done, so a
law can speak of what was done to a submission so far: of the last form type that was chosen for it,
or of how often its payment has failed.

* `Event`, `Done` — one operation with its answer, and one task that was done;
* `journal` — the tasks of a log, `doneTo` those for one submission;
* `Office.Logs` — the offices that operations lead to, with their log; `Office.events`, `Logs.run`;
  `Office.StaysSteady` is a change that may come between them;
* `Logs.exists_step` — an event of a log is a step that was taken;
* `Office.Tracks`, `Logs.track` — **what nothing breaks that is done to a submission holds of its
  record and of everything that was done to it**.
-/

set_option autoImplicit false

namespace Filing

/-! ## Events -/

/-- An operation, and what an office answered. -/
structure Event where
  time : Instant
  operation : Operation
  result : Except Refusal Answer

/-- A task that was done. -/
structure Done where
  time : Instant
  id : String
  task : Task

/-- Tasks that were done at an instant. -/
def doneAt (now : Instant) (tasks : List (String × Task)) : List Done :=
  tasks.map fun t => ⟨now, t.1, t.2⟩

/-- The tasks of a log. -/
def journal (log : List Event) : List Done :=
  log.flatMap fun e => doneAt e.time (e.operation.tasks e.result)

/-- What was done to a submission. -/
def doneTo (id : String) (deeds : List Done) : List Done :=
  deeds.filter (·.id = id)

theorem journal_append (log more : List Event) :
    journal (log ++ more) = journal log ++ journal more :=
  List.flatMap_append

theorem doneTo_append (id : String) (deeds more : List Done) :
    doneTo id (deeds ++ more) = doneTo id deeds ++ doneTo id more :=
  List.filter_append deeds more

theorem doneTo_single (d : Done) : doneTo d.id [d] = [d] := by
  rw [doneTo, List.filter_cons, if_pos (decide_eq_true rfl), List.filter_nil]

theorem doneTo_single_of_ne {id : String} {d : Done} (h : d.id ≠ id) : doneTo id [d] = [] := by
  rw [doneTo, List.filter_cons, if_neg (by simpa using h), List.filter_nil]

namespace Office

/-! ## Logs -/

/-- Everything but the store may have changed, as long as the office stays steady. -/
structure StaysSteady (o o' : Office) : Prop extends SameStore o o' where
  steady : o'.Steady

/-- The offices that operations lead to from an office, with changes of some kind between them and with
the log of the operations. -/
inductive Logs (between : Office → Office → Prop) (o : Office) : List Event → Office → Prop
  | refl : Logs between o [] o
  | between {log o₁ o₂} (h : Logs between o log o₁) (ho : between o₁ o₂) : Logs between o log o₂
  | step {log o₁} (h : Logs between o log o₁) (now : Instant) (operation : Operation) :
      Logs between o (log ++ [⟨now, operation, (o₁.step now operation).1⟩])
        (o₁.step now operation).2

/-- The log of operations, each at its own time. -/
def events (o : Office) : List (Instant × Operation) → List Event
  | [] => []
  | (now, operation) :: rest =>
    ⟨now, operation, (o.step now operation).1⟩ :: events (o.step now operation).2 rest

namespace Logs

variable {between : Office → Office → Prop} {o o₁ o₂ o' : Office} {log more : List Event}

theorem run (h : Logs between o log o₁) (operations : List (Instant × Operation)) :
    Logs between o (log ++ o₁.events operations) (o₁.run operations) := by
  induction operations generalizing o₁ log with
  | nil =>
    rw [events, List.append_nil]
    exact h
  | cons operation rest ih =>
    have hrest := ih (.step h operation.1 operation.2)
    rw [List.append_assoc] at hrest
    exact hrest

theorem leads (h : Logs between o log o') : Leads between o o' := by
  induction h with
  | refl => exact .refl
  | between _ ho ih => exact .between ih ho
  | step _ now operation ih => exact .step ih now operation

/-- An event of a log is a step that was taken, and the rest of the log goes on from there. -/
theorem exists_step (h : Logs between o log o') {e : Event} (he : e ∈ log) :
    ∃ before after o₁, log = before ++ e :: after ∧ Logs between o before o₁ ∧
      e.result = (o₁.step e.time e.operation).1 ∧
        Logs between (o₁.step e.time e.operation).2 after o' := by
  induction h with
  | refl => cases he
  | between _ ho ih =>
    obtain ⟨before, after, o₁, hlog, hbefore, hresult, hafter⟩ := ih he
    exact ⟨before, after, o₁, hlog, hbefore, hresult, .between hafter ho⟩
  | @step log o₂ h now operation ih =>
    obtain he | he := List.mem_append.1 he
    · obtain ⟨before, after, o₁, rfl, hbefore, hresult, hafter⟩ := ih he
      refine ⟨before, _, o₁, List.append_assoc _ _ _, hbefore, hresult, ?_⟩
      exact .step hafter now operation
    · obtain rfl := List.mem_singleton.1 he
      exact ⟨log, [], o₂, rfl, h, rfl, .refl⟩

end Logs

/-! ## Invariants of logs -/

variable {between : Office → Office → Prop} {o o' : Office} {log : List Event}

/-- What every deed keeps holds after a chain of them. -/
theorem Deeds.induct {P : List Done → Office → Prop} {tasks : List (String × Task)}
    {deeds : List Done}
    (hdeed : ∀ deeds o task? o', P deeds o → Deed o task? o' →
      P (deeds ++ doneAt o.clock task?.toList) o')
    (h : Deeds o tasks o') (ho : P deeds o) : P (deeds ++ doneAt o.clock tasks) o' := by
  suffices hall : o'.clock = o.clock ∧ P (deeds ++ doneAt o.clock tasks) o' from hall.2
  induction h with
  | refl =>
    refine ⟨rfl, ?_⟩
    rw [doneAt, List.map_nil, List.append_nil]
    exact ho
  | @tail tasks o₁ task? o₂ h hd ih =>
    obtain ⟨hclock, ih⟩ := ih
    refine ⟨hd.entries.sameAround.clock.trans hclock, ?_⟩
    have hnext := hdeed _ _ _ _ ih hd
    rw [hclock, List.append_assoc] at hnext
    rw [doneAt, List.map_append]
    exact hnext

/-- **What every deed keeps holds of every log**, as long as the office stays steady. -/
theorem Logs.invariant {P : List Done → Office → Prop}
    (hsteady : ∀ deeds o, P deeds o → o.Steady)
    (hbetween : ∀ deeds o o', P deeds o → between o o' → P deeds o')
    (hclock : ∀ deeds o now, P deeds o → P deeds { o with clock := now })
    (hdeed : ∀ deeds o task? o', P deeds o → Deed o task? o' →
      P (deeds ++ doneAt o.clock task?.toList) o')
    (h : Logs between o log o') (ho : P [] o) : P (journal log) o' := by
  induction h with
  | refl => exact ho
  | between _ h ih => exact hbetween _ _ _ ih h
  | @step log o₁ _ now operation ih =>
    have hdeeds := step_deeds (hsteady _ o₁ ih) now operation
    have hstep := hdeeds.induct hdeed (hclock _ o₁ now ih)
    rw [journal_append, journal, journal, List.flatMap_singleton]
    exact hstep

/-! ## Submissions and what was done to them -/

/-- A law about what was done to a submission, its record, and what the mails of the office show of
it.  It holds of a fresh submission, and nothing that is done breaks it. -/
structure Tracks {β : Type} (between : Office → Office → Prop) (R : CatalogDesk → Prop)
    (view : Office → String → β) (nothing : β) (Q : List Done → Submission → β → Prop) : Prop where
  around : ∀ {o o'}, R o.desk → between o o' → o'.Steady ∧ o'.store = o.store ∧ R o'.desk ∧
    ∀ id, view o' id = view o id
  /-- The view goes by the mails. -/
  mails : ∀ {o o'} id, o'.sent = o.sent → o'.refused = o.refused → view o' id = view o id
  /-- Mails about others do not matter. -/
  apart : ∀ o n id, n.submissionId ≠ some id → view (o.posted n) id = view o id
  opened : ∀ id reference presenter now, Q [] (.opened id reference presenter now) nothing
  done : ∀ {o s t task deeds}, R o.desk → o.store.find? s.id = some s → Q deeds s (view o s.id) →
    task.Makes o s t →
      Q (deeds ++ [⟨o.clock, s.id, task⟩]) (t.stored s.version)
        (view (o.carriedOut task (t.stored s.version)) s.id)
  /-- The steps of a hand-over. -/
  ready : ∀ {o s t deeds seen}, s.status = .readyToSubmit → Q deeds s seen → Move o s t →
    Q deeds (t.stored s.version) seen

namespace Tracks

variable {β : Type} {R : CatalogDesk → Prop} {view : Office → String → β} {nothing : β}
  {Q : List Done → Submission → β → Prop}

/-- The law holds of the submission under an identifier, and nothing was done where there is none. -/
def Holds (view : Office → String → β) (nothing : β) (Q : List Done → Submission → β → Prop)
    (deeds : List Done) (o : Office) (id : String) : Prop :=
  match o.store.find? id with
  | some s => Q (doneTo id deeds) s (view o id)
  | none => doneTo id deeds = [] ∧ view o id = nothing

theorem holds_of_find? {deeds : List Done} {id : String} {s : Submission}
    (h : o.store.find? id = some s) :
    Holds view nothing Q deeds o id ↔ Q (doneTo id deeds) s (view o id) := by
  rw [Holds, h]

theorem holds_of_none {deeds : List Done} {id : String} (h : o.store.find? id = none) :
    Holds view nothing Q deeds o id ↔ doneTo id deeds = [] ∧ view o id = nothing := by
  rw [Holds, h]

/-- What is not looked at may change. -/
theorem Holds.congr {deeds deeds' : List Done} {id : String}
    (h : Holds view nothing Q deeds o id) (hdeeds : doneTo id deeds' = doneTo id deeds)
    (hstore : o'.store.find? id = o.store.find? id) (hview : view o' id = view o id) :
    Holds view nothing Q deeds' o' id := by
  rw [Holds, hstore, hdeeds, hview]
  exact h

/-- One record is written, and nothing has changed about the other ones. -/
theorem holds_put {deeds deeds' : List Done} {s r : Submission}
    (h : ∀ id, Holds view nothing Q deeds o id) (hstore : o'.store = o.store.put r)
    (hs : o.store.find? r.id = some s)
    (hothers : ∀ id, id ≠ r.id → doneTo id deeds' = doneTo id deeds ∧ view o' id = view o id)
    (hr : Q (doneTo r.id deeds') r (view o' r.id)) (id : String) :
    Holds view nothing Q deeds' o' id := by
  by_cases hid : id = r.id
  · have hfound : o'.store.find? r.id = some r := by
      rw [hstore, Store.find?_put, if_pos rfl, hs]
      rfl
    rw [hid, holds_of_find? hfound]
    exact hr
  · obtain ⟨hdeeds, hview⟩ := hothers id hid
    refine (h id).congr hdeeds ?_ hview
    rw [hstore, Store.find?_put, if_neg hid]

/-- A mail about one submission is none about another one. -/
theorem view_notified (hQ : Tracks between R view nothing Q) (o : Office) (t : Submission)
    (letter? : Option Letter) {id : String} (hid : id ≠ t.id) :
    view (o.notified t letter?) id = view o id := by
  cases letter? with
  | none => rfl
  | some letter =>
    rw [notified]
    split
    · next n hn =>
      refine hQ.apart o n id ?_
      rw [(MailSettings.eq_of_forSubmission hn).2.1]
      exact fun h => hid (Option.some.inj h).symm
    · rfl

/-- **A deed keeps the law.** -/
theorem deed (hQ : Tracks between R view nothing Q) {deeds : List Done}
    {task? : Option (String × Task)} (hR : R o.desk) (h : ∀ id, Holds view nothing Q deeds o id)
    (hd : Deed o task? o') (id : String) :
    Holds view nothing Q (deeds ++ doneAt o.clock task?.toList) o' id := by
  have hnone (id : String) :
      doneTo id (deeds ++ doneAt o.clock (none : Option (String × Task)).toList) =
        doneTo id deeds := by
    rw [doneAt, Option.toList_none, List.map_nil, List.append_nil]
  cases hd with
  | aside ids => exact (h id).congr (hnone id) rfl (hQ.mails id rfl rfl)
  | told n hn =>
    obtain ⟨sent, refused, heq⟩ := o.posted_eq n
    refine (h id).congr (hnone id) ?_ (hQ.apart o n id ?_)
    · rw [heq]
    · rw [hn]
      exact (Option.some_ne_none id).symm
  | @created r reference presenter hr hfree =>
    have hview : view { o with store := o.store.append r hfree } id = view o id :=
      hQ.mails id rfl rfl
    by_cases hid : id = r.id
    · have hfound : (o.store.append r hfree).find? id = some r := by
        rw [Store.find?_append, if_pos hid]
      obtain ⟨hdeeds, hnothing⟩ := (holds_of_none (hid ▸ hfree)).1 (h id)
      rw [holds_of_find? hfound, hnone, hview, hdeeds, hnothing, hr]
      exact hQ.opened _ _ _ _
    · have hsame : (o.store.append r hfree).find? id = o.store.find? id := by
        rw [Store.find?_append, if_neg hid]
      exact (h id).congr (hnone id) hsame hview
  | @done s t task hs hmakes =>
    let d : Done := ⟨o.clock, s.id, task⟩
    have horigin : (t.stored s.version).id = s.id := hmakes.move.sameOrigin.id
    have hdone : doneAt o.clock (some (s.id, task)).toList = [d] := rfl
    rw [hdone]
    refine holds_put h ?_ (horigin ▸ hs) (fun id hid => ⟨?_, ?_⟩) ?_ id
    · obtain ⟨sent, refused, heq⟩ := o.carriedOut_eq task (t.stored s.version)
      rw [heq]
    · have hother : d.id ≠ id := fun heq => hid (heq.symm.trans horigin.symm)
      rw [doneTo_append, doneTo_single_of_ne hother, List.append_nil]
    · rw [carriedOut, hQ.view_notified _ _ _ hid]
      exact hQ.mails id rfl rfl
    · rw [horigin, doneTo_append, doneTo_single d]
      exact hQ.done hR hs ((holds_of_find? hs).1 (h s.id)) hmakes
  | @labelled s hs hready hunlabelled =>
    have hstore : (o.label s).store =
        o.store.put (s.labelled (o.barcodes.next o.clock).1 o.clock) := rfl
    have hview (id : String) : view (o.label s) id = view o id := hQ.mails id rfl rfl
    refine holds_put h hstore hs (fun id _ => ⟨hnone id, hview id⟩) ?_ id
    rw [hnone, hview]
    exact hQ.ready hready ((holds_of_find? hs).1 (h s.id)) (.barcode _ hready hunlabelled)
  | @dispatched s record hs hready hrecord =>
    have hview (id : String) : view (o.dispatch s record) id = view o id := hQ.mails id rfl rfl
    obtain ⟨barcode, hbarcode, -⟩ := BatchRecord.ofSubmission_eq_ok.1 hrecord
    have hsome : s.barcode?.isSome := by
      rw [hbarcode]
      rfl
    have hstore : (o.dispatch s record).store = o.store.put (s.dispatched o.clock) := rfl
    refine holds_put h hstore hs (fun id _ => ⟨hnone id, hview id⟩) ?_ id
    rw [hnone, hview]
    exact hQ.ready hready ((holds_of_find? hs).1 (h s.id)) (.sent hready hsome)

end Tracks

variable {β : Type} {R : CatalogDesk → Prop} {view : Office → String → β} {nothing : β}
  {Q : List Done → Submission → β → Prop}

/-- **A law that nothing breaks holds of every submission and of everything that was done to it.**
About an identifier that no submission has there is nothing to say. -/
theorem Logs.track (hQ : Tracks between R view nothing Q) (h : Logs between o log o')
    (ho : o.Steady) (hstore : o.store = .empty) (hR : R o.desk)
    (hview : ∀ id, view o id = nothing) :
    o'.Steady ∧ R o'.desk ∧ ∀ id, Tracks.Holds view nothing Q (journal log) o' id := by
  let P (deeds : List Done) (o : Office) : Prop :=
    o.Steady ∧ R o.desk ∧ ∀ id, Tracks.Holds view nothing Q deeds o id
  refine h.invariant (P := P) (fun _ _ h => h.1) ?_ ?_ ?_ ⟨ho, hR, fun id => ?_⟩
  · rintro deeds o₁ o₂ ⟨-, hR, hall⟩ hbetween
    obtain ⟨hsteady, hstore, hR', hview⟩ := hQ.around hR hbetween
    exact ⟨hsteady, hR', fun id => (hall id).congr rfl (by rw [hstore]) (hview id)⟩
  · rintro deeds o₁ now ⟨hsteady, hR, hall⟩
    exact ⟨hsteady.of_drill_eq rfl, hR, fun id => (hall id).congr rfl rfl (hQ.mails id rfl rfl)⟩
  · rintro deeds o₁ task? o₂ ⟨hsteady, hR, hall⟩ hd
    refine ⟨hd.entries.steady hsteady, ?_, hQ.deed hR hall hd⟩
    rw [hd.entries.sameAround.desk]
    exact hR
  · have hfree : o.store.find? id = none := by
      rw [hstore]
      rfl
    exact (Tracks.holds_of_none hfree).2 ⟨rfl, hview id⟩

end Office

end Filing
