import Filing.Office.Operation
import Filing.Proofs.Revision
import Mathlib.Logic.Relation

/-!
# What work leaves behind

All work of an office, whether it succeeds or is refused, comes down to a few kinds of change to the
store.  Everything that is proved about the life of a submission rests on this list, and not on how
the operations go about it.

* `Move` — what one write may make of one stored submission;
* `Office.Effect` — one change: a new submission, a moved one, or something beside the store;
* `Office.Works` — a chain of changes that writes under certain identifiers only, with
  `Office.Works.find?_eq` for all others;
* `Act.Does` — work whose changes are such a chain, and what holds once it has succeeded, with one
  rule for each way to put work together and one for each call of the office.

It is assumed throughout that nobody else writes into the store: `Office.Undisturbed`.
-/

set_option autoImplicit false

namespace Filing

/-! ## Running work

Work is a function of the office; these equations run it. -/

namespace Act

variable {ε ε' α β : Type}

theorem bind_apply (w : Act ε α) (f : α → Act ε β) (o : Office) :
    (w >>= f) o = match w o with
      | (.ok a, o') => f a o'
      | (.error e, o') => (.error e, o') := by
  show (ExceptT.bindCont f (w o).1) (w o).2 = _
  obtain ⟨_ | a, o'⟩ := w o <;> rfl

section

variable {w : Act ε α} {f : α → Act ε β} {o o' : Office} {a : α} {e : ε}

theorem bind_of_ok (h : w o = (.ok a, o')) : (w >>= f) o = f a o' := by
  rw [bind_apply, h]

theorem bind_of_error (h : w o = (.error e, o')) : (w >>= f) o = (.error e, o') := by
  rw [bind_apply, h]

end

theorem map_apply (f : α → β) (w : Act ε α) (o : Office) :
    (f <$> w) o = ((w o).1.map f, (w o).2) := by
  show ((w >>= fun a => pure (f a)) : Act ε β) o = _
  rw [bind_apply]
  obtain ⟨_ | a, o'⟩ := w o <;> rfl

theorem get_apply (o : Office) : (get : Act ε Office) o = (.ok o, o) := rfl

theorem get_bind_apply (f : Office → Act ε α) (o : Office) : (get >>= f) o = f o o := rfl

theorem pure_apply (a : α) (o : Office) : (pure a : Act ε α) o = (.ok a, o) := rfl

theorem throw_apply (e : ε) (o : Office) : (throw e : Act ε α) o = (.error e, o) := rfl

theorem modify_apply (f : Office → Office) (o : Office) :
    (modify f : Act ε Unit) o = (.ok (), f o) := rfl

theorem adapt_apply (f : ε → ε') (w : Act ε α) (o : Office) :
    (w.adapt f) o = ((w o).1.mapError f, (w o).2) := rfl

section

variable {w : Act ε α} {f : ε → ε'} {o o' : Office} {a : α} {e : ε}

theorem adapt_of_ok (h : w o = (.ok a, o')) : (w.adapt f) o = (.ok a, o') := by
  rw [adapt_apply, h]
  rfl

theorem adapt_of_error (h : w o = (.error e, o')) : (w.adapt f) o = (.error (f e), o') := by
  rw [adapt_apply, h]
  rfl

end

theorem outcome_apply (w : Act ε α) (o : Office) :
    (w.outcome : Act ε' (Except ε α)) o = (.ok (w o).1, (w o).2) := rfl

theorem always_apply (f : Office → α × Office) (o : Office) :
    (always f : Act ε α) o = (.ok (f o).1, (f o).2) := rfl

theorem ofExcept_apply (x : Except ε α) (o : Office) : ofExcept x o = (x, o) := by
  cases x <;> rfl

end Act

/-! ## Changes -/

/-- What one write may make of a stored submission: it is revised, it gets its barcode, or it has
been handed over. -/
inductive Move (o : Office) (s : Submission) : Submission → Prop
  | company {t} (company : Company) (h : s.editCompany company o.clock = .ok t) : Move o s t
  | form {t} (formType : String) (h : s.editForm o.desk formType o.clock = .ok t) : Move o s t
  | files {t} (files : List File) (h : s.editFiles files o.clock = .ok t) : Move o s t
  | sessions {t} (sessions : List PaymentSession)
      (h : s.editSessions sessions o.clock = .ok t) : Move o s t
  | authorised {t} (authorised : Bool) (h : s.editAuthorised authorised o.clock = .ok t) :
      Move o s t
  | complete {t} (h : s.complete o.desk o.clock = .ok t) : Move o s t
  | payment {t} (report : Submission.PaymentReport)
      (h : s.recordPayment report o.clock = .ok t) : Move o s t
  | queue {t} (h : s.queue o.desk o.clock = .ok t) : Move o s t
  | report {t} (fileId : String) (outcome : FileOutcome) (progress : Progress)
      (h : s.report o.desk fileId outcome o.clock = .ok (progress, t))
      (hnew : progress.isDuplicate = false) : Move o s t
  | barcode (barcode : String) (h : s.status = .readyToSubmit) (hnone : s.barcode? = none) :
      Move o s ((s.updateForm ({ · with barcode := some barcode })).touch o.clock)
  | sent (h : s.status = .readyToSubmit) (hsome : s.barcode?.isSome) :
      Move o s ({ s with status := .sentToFes }.touch o.clock)
  | adjudicate {t} (outcome : FesOutcome)
      (h : s.adjudicate outcome o.reasonsFor o.clock = .ok t) : Move o s t

/-- What a submission is known by from its opening on. -/
structure Submission.SameOrigin (s t : Submission) : Prop where
  id : t.id = s.id
  version : t.version = s.version
  reference : t.confirmationReference = s.confirmationReference
  createdAt : t.createdAt = s.createdAt
  presenter : t.presenter = s.presenter

theorem Submission.sameOrigin_priced (s : Submission) (fee : FeeResolution) (now : Instant) :
    s.SameOrigin (s.priced fee now) := by
  rw [priced]
  split <;> exact ⟨rfl, rfl, rfl, rfl, rfl⟩

theorem Submission.sameOrigin_settled (s : Submission) (state : PaymentState) (now : Instant) :
    s.SameOrigin (s.settled state now) := by
  cases state <;> exact ⟨rfl, rfl, rfl, rfl, rfl⟩

open Submission in
/-- No move changes what a submission is known by. -/
theorem Move.sameOrigin {o : Office} {s t : Submission} (h : Move o s t) : s.SameOrigin t := by
  cases h with
  | company company h =>
    obtain ⟨-, rfl⟩ := editCompany_eq_ok.1 h
    exact ⟨rfl, rfl, rfl, rfl, rfl⟩
  | form formType h =>
    obtain ⟨-, fee, -, rfl⟩ := editForm_eq_ok.1 h
    exact ⟨rfl, rfl, rfl, rfl, rfl⟩
  | files files h =>
    obtain ⟨-, rfl⟩ := editFiles_eq_ok.1 h
    exact ⟨rfl, rfl, rfl, rfl, rfl⟩
  | sessions sessions h =>
    obtain ⟨-, rfl⟩ := editSessions_eq_ok.1 h
    exact ⟨rfl, rfl, rfl, rfl, rfl⟩
  | authorised authorised h =>
    obtain ⟨-, rfl⟩ := editAuthorised_eq_ok.1 h
    exact ⟨rfl, rfl, rfl, rfl, rfl⟩
  | complete h =>
    obtain ⟨-, form, fee, -, -, -, rfl⟩ := complete_eq_ok.1 h
    exact sameOrigin_priced s fee o.clock
  | payment report h =>
    obtain ⟨-, sessions, -, rfl⟩ := recordPayment_eq_ok.1 h
    have hs := sameOrigin_settled { s with sessions := sessions } report.state o.clock
    exact ⟨hs.id, hs.version, hs.reference, hs.createdAt, hs.presenter⟩
  | queue h =>
    obtain ⟨-, h⟩ := queue_eq_ok.1 h
    split at h
    · obtain ⟨form, -, rfl⟩ := h
      exact ⟨rfl, rfl, rfl, rfl, rfl⟩
    · rw [h]
      exact ⟨rfl, rfl, rfl, rfl, rfl⟩
  | report fileId outcome progress h hnew =>
    obtain ⟨-, u, hu, h⟩ := report_eq_ok.1 h
    obtain ⟨file, -, -, -, rfl⟩ := recordOutcome_not_duplicate hu hnew
    split at h
    · rw [h]
      exact ⟨rfl, rfl, rfl, rfl, rfl⟩
    · obtain ⟨form, -, rfl⟩ := h
      exact ⟨rfl, rfl, rfl, rfl, rfl⟩
  | barcode barcode h hnone => exact ⟨rfl, rfl, rfl, rfl, rfl⟩
  | sent h hsome => exact ⟨rfl, rfl, rfl, rfl, rfl⟩
  | adjudicate outcome h =>
    obtain ⟨-, rfl⟩ := adjudicate_eq_ok.1 h
    cases outcome <;> exact ⟨rfl, rfl, rfl, rfl, rfl⟩

/-- The presenter keeps the address that the submission was opened with. -/
theorem Submission.presenterEmail?_of_move {o : Office} {s t : Submission} (h : Move o s t) :
    t.presenterEmail? = s.presenterEmail? := by
  rw [presenterEmail?, presenterEmail?, h.sameOrigin.presenter]

/-- The submission that a store keeps after a write: the version goes up by one. -/
def Submission.stored (t : Submission) (version : UInt64) : Submission :=
  { t with version := version + 1 }

namespace Office

/-- Nobody else writes into the store. -/
def Undisturbed (o : Office) : Prop := o.drill.slips = []

/-- Nothing that a later write depends on has changed. -/
structure Beside (o o' : Office) : Prop where
  store : o'.store = o.store
  desk : o'.desk = o.desk
  clock : o'.clock = o.clock
  settings : o'.settings = o.settings
  reasons : o'.reasons = o.reasons
  slips : o'.drill.slips = o.drill.slips

theorem Beside.refl (o : Office) : Beside o o := ⟨rfl, rfl, rfl, rfl, rfl, rfl⟩

theorem Beside.trans {o o₁ o₂ : Office} (h : Beside o o₁) (h' : Beside o₁ o₂) : Beside o o₂ where
  store := h'.store.trans h.store
  desk := h'.desk.trans h.desk
  clock := h'.clock.trans h.clock
  settings := h'.settings.trans h.settings
  reasons := h'.reasons.trans h.reasons
  slips := h'.slips.trans h.slips

/-- One change to an office.  A write is under an identifier that may be written. -/
inductive Effect (may : String → Prop) (o : Office) : Office → Prop
  | beside {o'} (h : Beside o o') : Effect may o o'
  | created {r} (reference : String) (presenter : Option Presenter)
      (hr : r = .opened r.id reference presenter o.clock) (hid : may r.id)
      (h : o.store.find? r.id = none) : Effect may o { o with store := o.store.append r h }
  | moved {s t} (hid : may s.id) (hs : o.store.find? s.id = some s) (h : Move o s t) :
      Effect may o { o with store := o.store.put (t.stored s.version) }

/-- A chain of changes. -/
def Works (may : String → Prop) : Office → Office → Prop :=
  Relation.ReflTransGen (Effect may)

namespace Effect

variable {may : String → Prop} {o o' : Office}

theorem mono {may' : String → Prop} (hm : ∀ id, may id → may' id) (h : Effect may o o') :
    Effect may' o o' := by
  cases h with
  | beside h => exact .beside h
  | created reference presenter hr hid h => exact .created reference presenter hr (hm _ hid) h
  | moved hid hs h => exact .moved (hm _ hid) hs h

/-- The catalog, the clock and the settings stay as they are. -/
theorem desk_eq (h : Effect may o o') : o'.desk = o.desk := by
  cases h with
  | beside h => exact h.desk
  | created => rfl
  | moved => rfl

theorem clock_eq (h : Effect may o o') : o'.clock = o.clock := by
  cases h with
  | beside h => exact h.clock
  | created => rfl
  | moved => rfl

theorem undisturbed (h : Effect may o o') (ho : o.Undisturbed) : o'.Undisturbed := by
  cases h with
  | beside h => exact h.slips.trans ho
  | created => exact ho
  | moved => exact ho

/-- A record under an identifier that may not be written is left alone. -/
theorem find?_eq (h : Effect may o o') {id : String} (hid : ¬may id) :
    o'.store.find? id = o.store.find? id := by
  cases h with
  | beside h => rw [h.store]
  | created reference presenter hr hid' h =>
    rw [Store.find?_append, if_neg]
    rintro rfl
    exact hid hid'
  | @moved s t hid' hs h =>
    rw [Store.find?_put, if_neg]
    rintro rfl
    rw [show (t.stored s.version).id = t.id from rfl, h.sameOrigin.id] at hid
    exact hid hid'

end Effect

namespace Works

variable {may : String → Prop} {o o' : Office}

theorem mono {may' : String → Prop} (hm : ∀ id, may id → may' id) (h : Works may o o') :
    Works may' o o' :=
  Relation.ReflTransGen.mono (fun _ _ => Effect.mono hm) _ _ h

theorem clock_eq (h : Works may o o') : o'.clock = o.clock := by
  induction h with
  | refl => rfl
  | tail _ he ih => exact he.clock_eq.trans ih

theorem undisturbed (h : Works may o o') (ho : o.Undisturbed) : o'.Undisturbed := by
  induction h with
  | refl => exact ho
  | tail _ he ih => exact he.undisturbed ih

/-- **What may not be written is left alone.** -/
theorem find?_eq (h : Works may o o') {id : String} (hid : ¬may id) :
    o'.store.find? id = o.store.find? id := by
  induction h with
  | refl => rfl
  | tail _ he ih => exact (he.find?_eq hid).trans ih

end Works

end Office

/-! ## Work -/

/-- Work at an office leads to a chain of changes, and if it succeeds, something holds of its result
and of the office after it. -/
structure Act.Does {ε α : Type} (may : String → Prop) (o : Office) (w : Act ε α)
    (post : α → Office → Prop) : Prop where
  works : Office.Works may o (w o).2
  ok : ∀ a, (w o).1 = .ok a → post a (w o).2

namespace Act.Does

variable {ε ε' α β : Type} {may : String → Prop} {o : Office}

theorem of_eq {w : Act ε α} {r : Except ε α} {o' : Office} {post : α → Office → Prop}
    (h : w o = (r, o')) (hw : Office.Works may o o') (hr : ∀ a, r = .ok a → post a o') :
    Does may o w post := by
  refine ⟨?_, ?_⟩
  · rw [h]
    exact hw
  · rw [h]
    exact hr

/-- What work does is settled by what it does at this office. -/
theorem congr_apply {w w' : Act ε α} {post : α → Office → Prop} (h : w o = w' o)
    (hw : Does may o w' post) : Does may o w post :=
  of_eq (h.trans rfl) hw.works hw.ok

/-- The rule for a chain of work: the rest is looked at where the first part has succeeded. -/
theorem bind {w : Act ε α} {f : α → Act ε β} {mid : α → Office → Prop}
    {post : β → Office → Prop} (hw : Does may o w mid)
    (hf : ∀ a o', Office.Works may o o' → mid a o' → Does may o' (f a) post) :
    Does may o (w >>= f) post := by
  obtain ⟨hworks, hok⟩ := hw
  cases h : w o with
  | mk r o' =>
    rw [h] at hworks hok
    cases r with
    | error e =>
      have heq : (w >>= f) o = (.error e, o') := by rw [bind_apply, h]
      exact of_eq heq hworks (by rintro b ⟨⟩)
    | ok a =>
      obtain ⟨hworks', hok'⟩ := hf a o' hworks (hok a rfl)
      have heq : (w >>= f) o = f a o' := by rw [bind_apply, h]
      refine ⟨?_, ?_⟩
      · rw [heq]
        exact hworks.trans hworks'
      · rw [heq]
        exact hok'

theorem mono {w : Act ε α} {post post' : α → Office → Prop} (hw : Does may o w post)
    (h : ∀ a o', post a o' → post' a o') : Does may o w post' :=
  ⟨hw.works, fun a ha => h a _ (hw.ok a ha)⟩

theorem done {w : Act ε α} {post : α → Office → Prop} (hw : Does may o w post) :
    Does may o w fun _ _ => True :=
  hw.mono fun _ _ _ => trivial

/-- What may not be written is found as before, also after work that has succeeded. -/
theorem framed {w : Act ε α} {post : α → Office → Prop} (hw : Does may o w post) {id : String}
    (hid : ¬may id) : Does may o w fun _ o' => o'.store.find? id = o.store.find? id :=
  ⟨hw.works, fun _ _ => hw.works.find?_eq hid⟩

theorem widen {may' : String → Prop} {w : Act ε α} {post : α → Office → Prop}
    (hw : Does may o w post) (h : ∀ id, may id → may' id) : Does may' o w post :=
  ⟨hw.works.mono h, hw.ok⟩

/-! ### Work that changes nothing -/

theorem pure {a : α} {post : α → Office → Prop} (h : post a o) :
    Does may o (Pure.pure a : Act ε α) post :=
  of_eq (pure_apply a o) .refl (by rintro _ ⟨⟩; exact h)

theorem throw {e : ε} {post : α → Office → Prop} :
    Does may o (MonadExcept.throw e : Act ε α) post :=
  of_eq (throw_apply e o) .refl (by rintro _ ⟨⟩)

theorem throw_bind {e : ε} {f : α → Act ε β} {post : β → Office → Prop} :
    Does may o ((MonadExcept.throw e : Act ε α) >>= f) post :=
  of_eq (by rw [bind_apply, throw_apply]) .refl (by rintro _ ⟨⟩)

theorem ofExcept (x : Except ε α) : Does may o (Act.ofExcept x) fun _ _ => True :=
  of_eq (ofExcept_apply x o) .refl fun _ _ => trivial

theorem get_bind {f : Office → Act ε α} {post : α → Office → Prop} (h : Does may o (f o) post) :
    Does may o (MonadState.get >>= f) post := by
  have heq : (MonadState.get >>= f) o = f o o := rfl
  exact congr_apply heq h

theorem ofExcept_bind {x : Except ε α} {f : α → Act ε β} {post : β → Office → Prop}
    (h : ∀ a, x = .ok a → Does may o (f a) post) : Does may o (Act.ofExcept x >>= f) post := by
  cases x with
  | error e => exact of_eq (by rw [bind_apply, ofExcept_apply]) .refl (by rintro _ ⟨⟩)
  | ok a =>
    have heq : (Act.ofExcept (.ok a) >>= f) o = f a o := rfl
    exact congr_apply heq (h a rfl)

theorem adapt_ofExcept_bind {x : Except ε α} {e : ε → ε'} {f : α → Act ε' β}
    {post : β → Office → Prop} (h : ∀ a, x = .ok a → Does may o (f a) post) :
    Does may o ((Act.ofExcept x).adapt e >>= f) post := by
  cases x with
  | error e' =>
    have heq : ((Act.ofExcept (.error e')).adapt e >>= f) o = (.error (e e'), o) := rfl
    exact of_eq heq .refl (by rintro _ ⟨⟩)
  | ok a =>
    have heq : ((Act.ofExcept (.ok a)).adapt e >>= f) o = f a o := rfl
    exact congr_apply heq (h a rfl)

/-! ### Work beside the store -/

theorem always {f : Office → α × Office} (h : Office.Beside o (f o).2) :
    Does may o (Act.always f : Act ε α) fun _ o' => Office.Beside o o' :=
  of_eq (always_apply f o) (.single (.beside h)) fun _ _ => h

theorem modify {f : Office → Office} (h : Office.Beside o (f o)) :
    Does may o (modify f : Act ε Unit) fun _ o' => Office.Beside o o' :=
  of_eq (modify_apply f o) (.single (.beside h)) fun _ _ => h

/-! ### Work with another outcome -/

theorem adapt {w : Act ε α} {f : ε → ε'} {post : α → Office → Prop} (h : Does may o w post) :
    Does may o (w.adapt f) post := by
  refine of_eq (adapt_apply f w o) h.works fun a ha => h.ok a ?_
  cases hr : (w o).1 with
  | error e => rw [hr] at ha; cases ha
  | ok b => rw [hr] at ha; exact congrArg _ (Except.ok.inj ha)

theorem map {w : Act ε α} {f : α → β} {post : α → Office → Prop} (h : Does may o w post) :
    Does may o (f <$> w) fun b o' => ∃ a, b = f a ∧ post a o' := by
  refine of_eq (map_apply f w o) h.works fun b hb => ?_
  cases hr : (w o).1 with
  | error e => rw [hr] at hb; cases hb
  | ok a => rw [hr] at hb; exact ⟨a, (Except.ok.inj hb).symm, h.ok a hr⟩

/-- The outcome of work is no failure, whatever it is. -/
theorem outcome {w : Act ε α} {post : α → Office → Prop} (h : Does may o w post) :
    Does may o (w.outcome : Act ε' (Except ε α)) fun r o' => ∀ a, r = .ok a → post a o' :=
  of_eq (outcome_apply w o) h.works fun r hr a ha => h.ok a (by rw [← ha]; exact Except.ok.inj hr)

end Act.Does

end Filing
