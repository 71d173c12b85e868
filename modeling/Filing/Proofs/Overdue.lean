import Filing.Proofs.Configuration
import Filing.Proofs.Office.Regular

/-!
# The report about delayed submissions

The report looks for submissions that were last changed before some instant, which lies a span of
time back.  Each of its rows says for how long the submission has not moved, and that is found by
another subtraction.  Outside leap seconds the two agree to the nanosecond.

* `Office.listDelayed_eq`, `Office.reportDelayed_eq` — the report and its mail, in one equation
  each;
* `DelayedRow.Describes`, `Overdue` — what a row and the report hold, with
  `Store.overdue_delayed`;
* `Office.Up.overdue` — **the report is exact, and the support mailbox is told of it once, if it is
  not empty**.
-/

set_option autoImplicit false

namespace Filing

open Act
open Instant (minutes)

/-- A row says of a submission what is on record; what is absent is the empty text. -/
structure DelayedRow.Describes (row : DelayedRow) (s : Submission) : Prop where
  submissionId : row.submissionId = s.id
  confirmationReference : row.confirmationReference = s.confirmationReference
  status : row.status = s.status
  formType : row.formType = s.formType?.getD ""
  companyNumber : row.companyNumber = s.companyNumber?.getD ""
  presenterEmail : row.presenterEmail = s.presenterEmail?.getD ""
  modifiedAt : row.modifiedAt = s.modifiedAt

theorem DelayedRow.describes_ofSubmission (s : Submission) (now : Instant) :
    (ofSubmission s now).Describes s :=
  ⟨rfl, rfl, rfl, rfl, rfl, rfl, rfl⟩

/-- The report about the submissions at a status that were last changed before an instant, `delay`
minutes ago. -/
structure Overdue (records : List Submission) (status : Status) (now : Instant) (delay : Int)
    (before : Instant) (rows : List DelayedRow) : Prop where
  /-- There is one row for each of them, and no other. -/
  each : ∃ found, found.Perm (records.filter fun s => s.status = status ∧ s.modifiedAt < before) ∧
    List.Forall₂ DelayedRow.Describes rows found
  oldestFirst : rows.Pairwise fun a b => a.modifiedAt ≤ b.modifiedAt
  /-- The minutes of a row are the whole ones since the last change. -/
  whole : ∀ row ∈ rows, minutes row.minutesDelayed ≤ now.count - row.modifiedAt.count ∧
    now.count - row.modifiedAt.count < minutes (row.minutesDelayed + 1)
  delayed : ∀ row ∈ rows, 0 ≤ row.minutesDelayed ∧ delay ≤ row.minutesDelayed
  longestFirst : rows.Pairwise fun a b => b.minutesDelayed ≤ a.minutesDelayed
  /-- No row is about a span that is too long for a span. -/
  fits : now.isKept = true → ∀ row ∈ rows, row.modifiedAt.isKept = true →
    |now.since row.modifiedAt| ≤ Instant.longestSpan

namespace Store

variable {store : Store} {status : Status} {before now : Instant} {delay : Int}

theorem delayed_perm (store : Store) (status : Status) (before : Instant) :
    (store.delayed status before).Perm
      (store.records.filter fun s => s.status = status ∧ s.modifiedAt < before) :=
  List.mergeSort_perm _ _

theorem delayed_sorted (store : Store) (status : Status) (before : Instant) :
    (store.delayed status before).Pairwise fun a b => a.modifiedAt ≤ b.modifiedAt := by
  let earlier (a b : Submission) : Bool := a.modifiedAt ≤ b.modifiedAt
  have htrans (a b c : Submission) (hab : earlier a b = true) (hbc : earlier b c = true) :
      earlier a c = true :=
    decide_eq_true (Instant.le_trans (of_decide_eq_true hab) (of_decide_eq_true hbc))
  have htotal (a b : Submission) : (earlier a b || earlier b a) = true := by
    simpa [earlier] using Instant.le_total a.modifiedAt b.modifiedAt
  exact (List.pairwise_mergeSort htrans htotal _).imp of_decide_eq_true

theorem mem_delayed {s : Submission} :
    s ∈ store.delayed status before ↔
      s ∈ store.records ∧ s.status = status ∧ s.modifiedAt < before := by
  rw [(delayed_perm store status before).mem_iff, List.mem_filter, decide_eq_true_iff]

/-- **The submissions that are found make the report.** -/
theorem overdue_delayed (hdelay : 0 ≤ delay) (hnow : now.Plain) (hbefore : before.Plain)
    (hcount : before.count = now.count - minutes delay)
    (hplain : ∀ s ∈ store.records, s.modifiedAt.Plain) :
    Overdue store.records status now delay before
      ((store.delayed status before).map (DelayedRow.ofSubmission · now)) := by
  have hstored {s : Submission} (hs : s ∈ store.delayed status before) : s.modifiedAt.Plain :=
    hplain s (mem_delayed.1 hs).1
  have hpositive : 0 ≤ minutes delay := by
    rw [Instant.minutes_eq]
    exact Int.mul_nonneg hdelay (by decide)
  -- whatever is found has not moved for longer than the delay
  have hlong {s : Submission} (hs : s ∈ store.delayed status before) :
      minutes delay < now.count - s.modifiedAt.count := by
    have hlt := (Instant.lt_iff_count (hstored hs) hbefore).1 (mem_delayed.1 hs).2.2
    omega
  have hwhole {s : Submission} (hs : s ∈ store.delayed status before) :=
    Instant.minutesSince_spec hnow (hstored hs) (by have := hlong hs; omega)
  have hatLeast {s : Submission} (hs : s ∈ store.delayed status before) :
      delay ≤ now.minutesSince s.modifiedAt :=
    Int.le_of_lt_add_one (Instant.lt_of_minutes_lt ((hlong hs).trans (hwhole hs).2))
  refine
    { each := ⟨_, delayed_perm store status before, List.forall₂_map_left_iff.2 <|
        List.forall₂_same.2 fun s _ => DelayedRow.describes_ofSubmission s now⟩
      oldestFirst := List.pairwise_map.2 (delayed_sorted store status before)
      whole := ?_
      delayed := ?_
      longestFirst := List.pairwise_map.2 ?_
      fits := ?_ }
  · exact List.forall_mem_map.2 fun s hs => hwhole hs
  · exact List.forall_mem_map.2 fun s hs => ⟨hdelay.trans (hatLeast hs), hatLeast hs⟩
  · refine (delayed_sorted store status before).imp_of_mem fun {s t} hs ht hle => ?_
    have hcounts := (Instant.le_iff_count (hstored hs) (hstored ht)).1 hle
    refine Int.le_of_lt_add_one (Instant.lt_of_minutes_lt ?_)
    exact lt_of_le_of_lt ((hwhole ht).1.trans (by omega)) (hwhole hs).2
  · exact fun hkept => List.forall_mem_map.2 fun s hs hskept =>
      Instant.abs_since_le hnow (hstored hs) hkept hskept

end Store

namespace Office

variable {o : Office} {status : Status} {now : Instant} {delay : Int}

/-- **The report about delayed submissions**, in one equation. -/
theorem listDelayed_eq (ho : o.Up) (status : Status) :
    listDelayed status o = match o.clock.minus? o.settings.delayedAfter with
      | none => (.error (.delayOutOfRange (o.settings.delayedAfter.tdiv (minutes 1))), o)
      | some before =>
        (.ok ((o.store.delayed status before).map (DelayedRow.ofSubmission · o.clock)), o) := by
  rw [listDelayed, get_bind_apply]
  cases o.clock.minus? o.settings.delayedAfter with
  | none => rfl
  | some before =>
    dsimp only
    rw [bind_apply, adapt_apply, findDelayed, onStore_up ho, asks]
    rfl

/-- A mail to the support mailbox about so many delayed submissions. -/
structure TellsOfDelay (m : MailSettings) (count : Nat) (mail : Notification) : Prop where
  kind : mail.kind = .delayedSubmissions
  recipient : mail.recipient = m.supportMailbox
  count : mail.details.find? "count" = some (toString count)

theorem exists_delayedMail (m : MailSettings) (status : Status) (rows : List DelayedRow) :
    ∃ mail, delayedMail m status rows = .ok mail ∧ TellsOfDelay m rows.length mail := by
  refine ⟨_, rfl, rfl, rfl, ?_⟩
  simp [Index.ofList, Index.find?_insert]

/-- The support mailbox is told of the rows, unless there are none. -/
theorem reportDelayed_eq {rows : List DelayedRow} (h : listDelayed status o = (.ok rows, o)) :
    (rows = [] → reportDelayed status o = (.ok rows, o)) ∧
      (rows ≠ [] → ∃ mail, reportDelayed status o = (.ok rows, o.posted mail) ∧
        TellsOfDelay o.settings.mail rows.length mail) := by
  obtain ⟨mail, hmail, htells⟩ := exists_delayedMail o.settings.mail status rows
  have hpost : (post (.ok mail) : Act Refusal Unit) o = (.ok (), o.posted mail) := rfl
  constructor
  · rintro rfl
    rw [reportDelayed, bind_of_ok h]
    rfl
  · intro hne
    refine ⟨mail, ?_, htells⟩
    rw [reportDelayed, bind_of_ok h, if_pos (by simpa using hne), get_bind_apply, hmail,
      bind_of_ok hpost]
    rfl

theorem step_listDelayed (status : Status) (now : Instant) :
    o.step now (.listDelayed status) =
      ((listDelayed status { o with clock := now }).1.map .delayed,
        (listDelayed status { o with clock := now }).2) :=
  map_apply _ _ _

theorem step_reportDelayed (status : Status) (now : Instant) :
    o.step now (.reportDelayed status) =
      ((reportDelayed status { o with clock := now }).1.map .delayed,
        (reportDelayed status { o with clock := now }).2) :=
  map_apply _ _ _

/-- **The report about delayed submissions is exact.**  While the store works, and with no leap
second about:

* if the instant `delay` minutes ago can be kept, the report holds the submissions at the status
  that were last changed before it, `Overdue`; asked to tell of it, the office answers the same rows
  and hands in one mail to the support mailbox, with their number, or none if there are no rows;
* if it cannot be kept, both are refused for the delay, and nothing happens. -/
theorem Up.overdue (ho : o.Up) (hdelay : 0 ≤ delay)
    (hsetting : o.settings.delayedAfter = minutes delay) (hnow : now.Plain)
    (hplain : ∀ s ∈ o.store.records, s.modifiedAt.Plain) (status : Status) :
    (∀ before : Instant, before.isKept = true → before.Plain →
      before.count = now.count - minutes delay →
      ∃ rows, Overdue o.store.records status now delay before rows ∧
        o.step now (.listDelayed status) = (.ok (.delayed rows), { o with clock := now }) ∧
        (rows = [] →
          o.step now (.reportDelayed status) = (.ok (.delayed rows), { o with clock := now })) ∧
        (rows ≠ [] → ∃ mail,
          o.step now (.reportDelayed status) =
            (.ok (.delayed rows), ({ o with clock := now } : Office).posted mail) ∧
          TellsOfDelay o.settings.mail rows.length mail)) ∧
    ((¬∃ before : Instant, before.isKept = true ∧ before.Plain ∧
        before.count = now.count - minutes delay) →
      o.step now (.listDelayed status) =
        (.error (.delayOutOfRange delay), { o with clock := now }) ∧
      o.step now (.reportDelayed status) =
        (.error (.delayOutOfRange delay), { o with clock := now })) := by
  let o₁ : Office := { o with clock := now }
  have hlist := listDelayed_eq (o := o₁) (ho.of_drill_eq rfl) status
  have hsetting₁ : o₁.settings.delayedAfter = minutes delay := hsetting
  rw [hsetting₁] at hlist
  rw [step_listDelayed, step_reportDelayed]
  constructor
  · intro before hkept hbefore hcount
    have hminus : o₁.clock.minus? (minutes delay) = some before :=
      (Instant.minus?_eq_some_iff hnow).2 ⟨hkept, hbefore, hcount⟩
    rw [hminus] at hlist
    dsimp only at hlist
    obtain ⟨hnone, hsome⟩ := reportDelayed_eq hlist
    refine ⟨_, Store.overdue_delayed hdelay hnow hbefore hcount hplain, ?_, fun h => ?_,
      fun h => ?_⟩
    · rw [hlist]
      rfl
    · rw [hnone h]
      rfl
    · obtain ⟨mail, hreport, htells⟩ := hsome h
      rw [hreport]
      exact ⟨mail, rfl, htells⟩
  · intro hnever
    have hminus : o₁.clock.minus? (minutes delay) = none := by
      refine Option.eq_none_iff_forall_ne_some.2 fun before h => hnever ⟨before, ?_⟩
      exact (Instant.minus?_eq_some_iff hnow).1 h
    have hminutes : (minutes delay).tdiv (minutes 1) = delay := by
      rw [Instant.minutes_eq]
      exact Int.mul_tdiv_cancel delay (by decide)
    rw [hminus] at hlist
    dsimp only at hlist
    rw [hminutes] at hlist
    rw [hlist, reportDelayed, bind_of_error hlist]
    exact ⟨rfl, rfl⟩

/-- Three submissions, the second opened a nanosecond before the third.  The second one has its
presenter, its company and its form. -/
def threeDrafts : Office :=
  let settings := OfficeConfig.default.settings
  let last : Instant := ⟨1719829799, 999999999⟩
  (Office.opened .standard settings .fresh ⟨1719828000, 0⟩).run
    [(⟨1719828000, 0⟩, .create none), (last, .create (some ⟨"filings@acme.example"⟩)),
      (last, .editCompany "sub-2" ⟨"01234567", "Acme Widgets Ltd"⟩),
      (last, .editForm "sub-2" "DS01"), (⟨1719829800, 0⟩, .create none)]

theorem overdue_threeDrafts :
    let now : Instant := ⟨1719833400, 0⟩
    let dawn := Instant.startOfDay ⟨Instant.firstYear, 1, 1⟩
    let shown : List DelayedRow :=
      [⟨"sub-1", "REF-0001", .opened, "", "", "", ⟨1719828000, 0⟩, 90⟩,
        ⟨"sub-2", "REF-0002", .opened, "DS01", "01234567", "filings@acme.example",
          ⟨1719829799, 999999999⟩, 60⟩]
    (∃ mail, Overdue threeDrafts.store.records .opened now 60 ⟨1719829800, 0⟩ shown ∧
      threeDrafts.step now (.reportDelayed .opened) =
        (.ok (.delayed shown), ({ threeDrafts with clock := now } : Office).posted mail) ∧
      TellsOfDelay threeDrafts.settings.mail 2 mail) ∧
    threeDrafts.step dawn (.listDelayed .opened) =
      (.error (.delayOutOfRange 60), { threeDrafts with clock := dawn }) := by
  intro now dawn shown
  have hup : threeDrafts.Up := ⟨rfl, rfl, rfl⟩
  have hsetting : threeDrafts.settings.delayedAfter = minutes 60 :=
    OfficeConfig.settings_delayedAfter (by decide) (by decide)
  have hplain : ∀ s ∈ threeDrafts.store.records, s.modifiedAt.Plain := by decide +kernel
  constructor
  · have hreport := hup.overdue (by decide) hsetting (by decide : now.Plain) hplain .opened
    obtain ⟨rows, hrows, hlist, -, hmail⟩ :=
      hreport.1 ⟨1719829800, 0⟩ (by decide +kernel) (by decide) (by decide)
    have hup' : ({ threeDrafts with clock := now } : Office).Up := hup.of_drill_eq rfl
    have hminus : now.minus? threeDrafts.settings.delayedAfter = some ⟨1719829800, 0⟩ := by
      decide +kernel
    -- the store lists them in this order already
    have hsorted : threeDrafts.store.delayed .opened ⟨1719829800, 0⟩ =
        threeDrafts.store.records.filter fun s =>
          s.status = .opened ∧ s.modifiedAt < ⟨1719829800, 0⟩ :=
      List.mergeSort_of_pairwise (by decide +kernel)
    rw [step_listDelayed, listDelayed_eq hup', hminus] at hlist
    dsimp only at hlist
    rw [hsorted] at hlist
    have hshown : rows = shown := by
      rw [← Answer.delayed.inj (Except.ok.inj (Prod.mk.inj hlist).1)]
      decide +kernel
    subst hshown
    obtain ⟨mail, hreport, htells⟩ := hmail (List.cons_ne_nil _ _)
    exact ⟨mail, hrows, hreport, htells⟩
  · have hdawn : dawn.Plain := by decide
    have hnone : dawn.minus? (minutes 60) = none := by decide +kernel
    have hreport := hup.overdue (by decide) hsetting hdawn hplain .opened
    refine (hreport.2 ?_).1
    rintro ⟨before, hbefore⟩
    cases hnone.symm.trans ((Instant.minus?_eq_some_iff hdawn).2 hbefore)

end Office

end Filing
