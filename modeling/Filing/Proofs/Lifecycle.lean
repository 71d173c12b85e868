import Filing.Config.Basic
import Filing.Proofs.Change
import Filing.Proofs.Office.Leads
import Mathlib.Data.List.Chain
import Mathlib.Data.List.Induction

/-!
# The course of a submission

A submission moves through its lifecycle in one direction.  What is said about it along the way may
change until it comes to its end, but it is never taken back: the record stays, and with it what it
was known by from the start and the barcode once it has one.

* `Status.rank` — every move of the lifecycle leads further up;
* `Submission.Follows` — one stored version and the next one, with `Move.follows`;
* `Submission.History` — all versions from one to a later one, with `History.pairwise_later` and
  `History.eq_of_isTerminal`;
* `Office.Leads.history` — a stored submission and what is stored of it later on;
* `Office.Reachable.lifecycle` — **the course of a submission in every run**.
-/

set_option autoImplicit false

namespace Filing

/-! ## The order of the statuses -/

/-- How far along a status is. -/
def Status.rank : Status → Nat
  | opened => 0
  | paymentRequired => 1
  | paymentFailed => 2
  | submitted => 3
  | processing => 4
  | processedByEmail | readyToSubmit | rejectedByVirusScan | rejectedByDocumentConverter => 5
  | sentToFes => 6
  | accepted | rejected => 7

theorem Status.rank_lt_of_mayBecome {s t : Status} (h : s.mayBecome t = true) :
    s.rank < t.rank := by
  cases s <;> cases t <;> first | exact absurd h (by decide) | decide

theorem Status.not_mayBecome_opened (status : Status) : status.mayBecome .opened = false := by
  cases status <;> rfl

namespace Submission

/-! ## From one version to the next -/

/-- Where one write may take a status: nowhere, along one edge of the lifecycle, or, for a submitted
submission without files, along two of them. -/
def Onward (s : Submission) (status : Status) : Prop :=
  status = s.status ∨ s.status.mayBecome status = true ∨
    (s.status = .submitted ∧ s.files = [] ∧ Status.processing.mayBecome status = true)

/-- One stored version of a submission and the next one. -/
structure Follows (s t : Submission) : Prop where
  version : t.version = s.version + 1
  id : t.id = s.id
  reference : t.confirmationReference = s.confirmationReference
  createdAt : t.createdAt = s.createdAt
  presenter : t.presenter = s.presenter
  status : s.Onward t.status
  barcode : ∀ b, s.barcode? = some b → t.barcode? = some b
  /-- Nothing follows the end. -/
  alive : s.status.isTerminal = false

variable {s t u : Submission}

theorem Change.onward {o : Office} (h : s.Change o t) : s.Onward t.status := by
  cases h with
  | edited h => exact .inl (h.status.trans h.opened.symm)
  | completed form fee hopened hform hfee hvalid =>
    rw [priced]
    split
    · exact .inr (.inl (by rw [hopened]; rfl))
    · exact .inr (.inl (by rw [hopened]; rfl))
  | paid report sessions hwaiting happly =>
    -- a payment that has failed before may fail again
    cases hstate : report.state with
    | paid => obtain h | h := hwaiting <;> exact .inr (.inl (by rw [h]; rfl))
    | failed =>
      obtain h | h := hwaiting
      · exact .inr (.inl (by rw [h]; rfl))
      · exact .inl h.symm
    | cancelled =>
      obtain h | h := hwaiting
      · exact .inr (.inl (by rw [h]; rfl))
      · exact .inl h.symm
    | pending => exact .inl rfl
  | passed form hsubmitted hfiles hform =>
    exact .inr (.inr ⟨hsubmitted, hfiles, mayBecome_destination .accepted form⟩)
  | started hsubmitted hfiles => exact .inr (.inl (by rw [hsubmitted]; rfl))
  | reported => exact .inl rfl
  | decided fileId outcome verdict form hprocessing =>
    refine .inr (.inl ?_)
    rw [hprocessing]
    exact mayBecome_destination verdict form
  | labelled => exact .inl rfl
  | sent hready => exact .inr (.inl (by rw [hready]; rfl))
  | accepted hsent => exact .inr (.inl (by rw [hsent]; rfl))
  | rejected reasons hsent => exact .inr (.inl (by rw [hsent]; rfl))

/-- A submission that was completed is never edited again. -/
theorem Change.ne_opened {o : Office} (h : s.Change o t) (hs : s.status ≠ .opened) :
    t.status ≠ .opened := by
  intro ht
  obtain heq | hedge | ⟨-, -, hedge⟩ := h.onward
  · exact hs (heq.symm.trans ht)
  · rw [ht, Status.not_mayBecome_opened] at hedge
    cases hedge
  · rw [ht] at hedge
    cases hedge

end Submission

/-- **What a move leaves is the next version.** -/
theorem Move.follows {o : Office} {s t : Submission} (h : Move o s t) :
    s.Follows (t.stored s.version) := by
  have horigin := h.sameOrigin
  refine ⟨rfl, horigin.id, horigin.reference, horigin.createdAt, horigin.presenter,
    h.change.onward, fun b hb => ?_, h.change.alive⟩
  obtain heq | ⟨-, hnone⟩ := h.change.barcode?_eq
  · exact heq.trans hb
  · rw [hnone] at hb
    cases hb

namespace Submission

variable {s t u : Submission}

/-! ## From one version to a later one -/

/-- A stored version of a submission and a later one, or the same one again. -/
structure Later (s t : Submission) : Prop where
  id : t.id = s.id
  reference : t.confirmationReference = s.confirmationReference
  createdAt : t.createdAt = s.createdAt
  presenter : t.presenter = s.presenter
  status : t.status = s.status ∨ s.status.rank < t.status.rank
  barcode : ∀ b, s.barcode? = some b → t.barcode? = some b

theorem Later.refl (s : Submission) : s.Later s :=
  ⟨rfl, rfl, rfl, rfl, .inl rfl, fun _ h => h⟩

theorem Later.trans (h : s.Later t) (h' : t.Later u) : s.Later u := by
  refine ⟨h'.id.trans h.id, h'.reference.trans h.reference, h'.createdAt.trans h.createdAt,
    h'.presenter.trans h.presenter, ?_, fun b hb => h'.barcode b (h.barcode b hb)⟩
  obtain heq | hlt := h.status
  · rw [← heq]
    exact h'.status
  · obtain heq | hlt' := h'.status
    · rw [heq]
      exact .inr hlt
    · exact .inr (Nat.lt_trans hlt hlt')

instance : Trans Later Later Later := ⟨Later.trans⟩

theorem Follows.later (h : s.Follows t) : s.Later t := by
  refine ⟨h.id, h.reference, h.createdAt, h.presenter, ?_, h.barcode⟩
  obtain heq | hedge | ⟨hsubmitted, -, hedge⟩ := h.status
  · exact .inl heq
  · exact .inr (Status.rank_lt_of_mayBecome hedge)
  · have hlt := Status.rank_lt_of_mayBecome hedge
    rw [hsubmitted]
    exact .inr (Nat.lt_trans (by decide) hlt)

/-- The stored versions of a submission, from one to a later one. -/
structure History (s t : Submission) (versions : List Submission) : Prop where
  first : versions.head? = some s
  last : versions.getLast? = some t
  next : versions.IsChain Follows

namespace History

variable {versions more : List Submission}

theorem refl (s : Submission) : s.History s [s] :=
  ⟨rfl, rfl, List.isChain_singleton s⟩

theorem concat (h : s.History t versions) (hu : t.Follows u) : s.History u (versions ++ [u]) := by
  refine ⟨?_, List.getLast?_concat, h.next.append (List.isChain_singleton u) ?_⟩
  · rw [List.head?_append, h.first]
    rfl
  · rintro x hx y hy
    rw [h.last, Option.mem_some_iff] at hx
    obtain rfl := hx
    obtain rfl := Option.some.inj hy
    exact hu

/-- One history after the other, which meet at a version. -/
theorem append (h : s.History t versions) (h' : t.History u (t :: more)) :
    s.History u (versions ++ more) := by
  induction more using List.reverseRecOn generalizing u with
  | nil =>
    obtain rfl := Option.some.inj h'.last
    rw [List.append_nil]
    exact h
  | append_singleton more v ih =>
    obtain ⟨-, hlast, hnext⟩ := h'
    have hlast : (t :: more ++ [v]).getLast? = some u := hlast
    rw [List.getLast?_concat] at hlast
    obtain rfl := Option.some.inj hlast
    have hnext : (t :: more ++ [v]).IsChain Follows := hnext
    obtain ⟨hbefore, -, hlink⟩ := List.isChain_append.1 hnext
    obtain ⟨w, hw⟩ := Option.isSome_iff_exists.1
      (List.getLast?_isSome.2 (List.cons_ne_nil t more))
    rw [← List.append_assoc]
    exact (ih ⟨rfl, hw, hbefore⟩).concat (hlink w hw v rfl)

/-- Of any two versions of a history, the second one is the later one. -/
theorem pairwise_later (h : s.History t versions) : versions.Pairwise Later :=
  (h.next.imp fun _ _ => Follows.later).pairwise

theorem later (h : s.History t versions) : s.Later t := by
  have hfirst := h.first
  have hlast := h.last
  have hpairwise := h.pairwise_later
  cases versions with
  | nil => cases hfirst
  | cons v rest =>
    obtain rfl := Option.some.inj hfirst
    obtain rfl | ht := List.mem_cons.1 (List.mem_of_getLast? hlast)
    · exact Later.refl t
    · exact (List.pairwise_cons.1 hpairwise).1 t ht

/-- **No status is taken on again after it was left.** -/
theorem status_eq_of_between (h : s.History t versions) {i j k : Nat} (hij : i ≤ j) (hjk : j ≤ k)
    (hk : k < versions.length) (heq : versions[k].status = versions[i].status) :
    versions[j].status = versions[i].status := by
  have hlater {a b : Nat} (hab : a ≤ b) (hb : b < versions.length) :
      versions[a].Later versions[b] := by
    obtain rfl | hab := Nat.eq_or_lt_of_le hab
    · exact Later.refl _
    · exact List.pairwise_iff_getElem.1 h.pairwise_later a b _ hb hab
  obtain hsame | hup := (hlater hij (by omega)).status
  · exact hsame
  · -- having gone up, the status cannot have come back down
    obtain hsame' | hup' := (hlater hjk hk).status
    · rw [← hsame', heq]
    · rw [heq] at hup'
      omega

/-- Nothing follows a version at the end of the lifecycle. -/
theorem eq_of_isTerminal (h : s.History t versions) (hend : s.status.isTerminal = true) :
    versions = [s] := by
  obtain ⟨hfirst, -, hnext⟩ := h
  match versions with
  | [] => cases hfirst
  | [v] => rw [Option.some.inj hfirst]
  | v :: w :: rest =>
    obtain rfl := Option.some.inj hfirst
    have halive := (List.isChain_cons_cons.1 hnext).1.alive
    rw [hend] at halive
    cases halive

end History

end Submission

/-! ## In every run -/

namespace Office

variable {o o' : Office} {s : Submission} {id : String}

/-- **A stored submission stays stored, and what is stored of it later follows from it.** -/
theorem Leads.history (h : Leads SameStore o o') (ho : o.Undisturbed)
    (hs : o.store.find? id = some s) :
    ∃ t versions, o'.store.find? id = some t ∧ s.History t versions := by
  obtain ⟨t, ht, versions, hhistory⟩ :=
    h.find?_kept (P := fun t => ∃ versions, s.History t versions)
      (fun ⟨versions, hhistory⟩ hmove => ⟨_, hhistory.concat hmove.follows⟩) ho hs
      ⟨[s], .refl s⟩
  exact ⟨t, versions, ht, hhistory⟩

end Office

namespace Submission

/-- A submission as it is stored at three times, and all that was stored of it in between. -/
structure Course (s u t : Submission) (versions : List Submission) : Prop where
  /-- Every version follows the one before. -/
  history : s.History t versions
  through : u ∈ versions
  /-- A status that was left is not taken on again. -/
  neverBack : ∀ (i j k : Nat) (_ : i ≤ j) (_ : j ≤ k) (_ : k < versions.length),
    versions[k].status = versions[i].status → versions[j].status = versions[i].status
  /-- At its end the record does not change any more. -/
  settled : s.status.isTerminal = true → t = s
  id : t.id = s.id
  reference : t.confirmationReference = s.confirmationReference
  createdAt : t.createdAt = s.createdAt
  presenter : t.presenter = s.presenter
  barcode : ∀ b, s.barcode? = some b → t.barcode? = some b

theorem History.course {s t u : Submission} {versions more : List Submission}
    (h : s.History u versions) (h' : u.History t more) : ∃ all, s.Course u t all := by
  obtain ⟨v, more, rfl⟩ : ∃ v rest, more = v :: rest := by
    cases more with
    | nil => cases h'.first
    | cons v rest => exact ⟨v, rest, rfl⟩
  obtain rfl := Option.some.inj h'.first
  have hall := h.append h'
  refine ⟨versions ++ more, hall, List.mem_append_left _ (List.mem_of_getLast? h.last),
    fun i j k hij hjk hk => hall.status_eq_of_between hij hjk hk, fun hend => ?_, hall.later.id,
    hall.later.reference, hall.later.createdAt, hall.later.presenter, hall.later.barcode⟩
  have hlast := hall.last
  rw [hall.eq_of_isTerminal hend] at hlast
  exact (Option.some.inj hlast).symm

end Submission

/-- **The course of a submission.**  Take a submission that is stored in an office that operations
lead to, and look it up twice later on, however the catalog, the clock and everything else around the
store has changed in the meantime. -/
theorem Office.Reachable.lifecycle {o o₁ o₂ : Office} (h : o.Reachable)
    (h₁ : Leads SameStore o o₁) (h₂ : Leads SameStore o₁ o₂) {s : Submission}
    (hs : s ∈ o.store.records) :
    ∃ u t versions, o₁.store.find? s.id = some u ∧ o₂.store.find? s.id = some t ∧
      s.Course u t versions := by
  have ho₁ := h₁.undisturbed h.undisturbed
  obtain ⟨u, before, hu, hbefore⟩ := h₁.history h.undisturbed (Store.find?_of_mem hs)
  obtain ⟨t, after, ht, hafter⟩ := h₂.history ho₁ hu
  obtain ⟨versions, hcourse⟩ := hbefore.course hafter
  exact ⟨u, t, versions, hu, ht, hcourse⟩

namespace Office

/-- The office with the loader of the registration system out of order, or working again. -/
def withLoaderDown (o : Office) (down : Bool) : Office :=
  { o with drill := { o.drill with loaderDown := down } }

/-- An office with one completed filing, which has no files. -/
def withStatement : Office :=
  let now : Instant := ⟨1719828000, 0⟩
  (Office.opened .standard OfficeConfig.default.settings .fresh now).run
    [(now, .create (some ⟨"filings@acme.example"⟩)),
      (now, .editCompany "sub-1" ⟨"01234567", "Acme Widgets Ltd"⟩),
      (now, .editForm "sub-1" "SH19"),
      (now, .complete "sub-1")]

/-- The filing is queued, and cannot be handed over. -/
def withStatementHeld : Office :=
  (withStatement.withLoaderDown true).run
    [(⟨1719828060, 0⟩, .queue "sub-1"), (⟨1719828120, 0⟩, .handOver "sub-1")]

/-- The filing is handed over in the end, and rejected. -/
def withStatementRejected : Office :=
  (withStatementHeld.withLoaderDown false).run
    [(⟨1719828180, 0⟩, .handOver "sub-1"), (⟨1719828240, 0⟩, .adjudicate "sub-1" .rejected)]

/-- A filing that is handed over at the second attempt. -/
theorem lifecycle_withStatement :
    ∃ s ∈ withStatement.store.records, s.status = .submitted ∧
      ∃ u t versions, withStatementHeld.store.find? s.id = some u ∧
        withStatementRejected.store.find? s.id = some t ∧ s.Course u t versions ∧
        u.status = .readyToSubmit ∧ u.barcode? = some "X2418300001" ∧ t.status = .rejected := by
  have hreach : withStatement.Reachable := (Reachable.opened _ _ _ _).run _
  have hheld : Leads SameStore withStatement withStatementHeld :=
    (Leads.between .refl ⟨rfl, hreach.undisturbed⟩).run _
  have hrejected : Leads SameStore withStatementHeld withStatementRejected :=
    (Leads.between .refl ⟨rfl, hheld.undisturbed hreach.undisturbed⟩).run _
  have hfound : ∃ s ∈ withStatement.store.records, s.status = .submitted ∧
      (withStatementHeld.store.find? s.id).map (fun u => (u.status, u.barcode?)) =
        some (.readyToSubmit, some "X2418300001") ∧
      (withStatementRejected.store.find? s.id).map (·.status) = some .rejected := by
    decide +kernel
  obtain ⟨s, hs, hstatus, hatHeld, hatRejected⟩ := hfound
  obtain ⟨u, t, versions, hu, ht, hcourse⟩ := hreach.lifecycle hheld hrejected hs
  rw [hu] at hatHeld
  rw [ht] at hatRejected
  obtain ⟨hready, hbarcode⟩ := Prod.mk.inj (Option.some.inj hatHeld)
  exact ⟨s, hs, hstatus, u, t, versions, hu, ht, hcourse, hready, hbarcode,
    Option.some.inj hatRejected⟩

end Office

end Filing
