import Filing.Proofs.Barcode
import Filing.Proofs.Office.Upshot

/-!
# Submissions do not get in each other's way

Two operations on two submissions may be done in either order.  Each of them writes one record and
reads one, so neither sees what the other has done; what they share are the books that they add to,
and the sequence of barcodes.  Only two hand-overs that both draw a barcode can tell who came first,
and then by nothing but which of the two barcodes each of them got.

* `Office.inTurn` — two operations, one after the other;
* `Office.SameOutcome` — two outcomes that are the same, up to which submission carries which
  barcode;
* `Office.Interchange` — what it means that two operations do not get in each other's way;
* `Office.Steady.interchange` — **operations on two submissions never do.**
-/

set_option autoImplicit false

namespace Filing

/-! ## Records, mails and barcodes of two upshots -/

namespace Store

variable (store : Store) {s t : Submission} {labels : Labels}

/-- Records of different submissions are written in any order. -/
theorem put_comm (h : s.id ≠ t.id) : (store.put s).put t = (store.put t).put s := by
  obtain ⟨records, hnodup⟩ := store
  simp only [put, mk.injEq, List.map_map]
  refine List.map_congr_left fun x _ => ?_
  simp only [Function.comp]
  by_cases hs : x.id = s.id
  · have ht : x.id ≠ t.id := hs ▸ h
    simp only [if_pos hs, if_neg ht, if_neg h]
  · by_cases ht : x.id = t.id
    · simp only [if_neg hs, if_pos ht, if_neg h.symm]
    · simp only [if_neg hs, if_neg ht]

theorem puts_comm {record record' : Option Submission}
    (h : ∀ s t, record = some s → record' = some t → s.id ≠ t.id) :
    (store.puts record).puts record' = (store.puts record').puts record := by
  cases record with
  | none => rfl
  | some s =>
    cases record' with
    | none => rfl
    | some t => exact store.put_comm (h s t rfl rfl)

/-- Two records that carry other barcodes than before, in a store in which no other record does. -/
theorem put_put_relabelled (h : s.id ≠ t.id)
    (hothers : ∀ id, id ≠ s.id → id ≠ t.id → labels id = none) :
    ((store.put (t.relabelled labels)).put (s.relabelled labels)).records =
      ((store.put s).put t).records.map (·.relabelled labels) := by
  obtain ⟨records, hnodup⟩ := store
  simp only [put, List.map_map]
  refine List.map_congr_left fun x _ => ?_
  simp only [Function.comp, Submission.id_relabelled]
  by_cases hs : x.id = s.id
  · have ht : x.id ≠ t.id := hs ▸ h
    simp only [if_neg ht, if_pos hs, if_neg h]
  · by_cases ht : x.id = t.id
    · simp only [if_neg hs, if_pos ht, Submission.id_relabelled, if_neg h.symm]
    · simp only [if_neg hs, if_neg ht, Submission.relabelled_of_none (hothers x.id hs ht)]

end Store

/-! Where every barcode stays, nothing changes. -/

theorem Submission.relabelled_none (s : Submission) : s.relabelled .none = s := rfl

theorem Answer.relabelled_none (a : Answer) : a.relabelled .none = a := by
  cases a <;> rfl

theorem Upshot.relabelled_none (x : Upshot) : x.relabelled .none = x := by
  obtain ⟨answer, record, mail, loaded, draws⟩ := x
  have hanswer : answer.map (·.relabelled .none) = answer := by
    cases answer with
    | error e => rfl
    | ok a => exact congrArg Except.ok a.relabelled_none
  simp only [relabelled, hanswer, Submission.relabelled_none, mk.injEq, true_and, and_true]
  exact ⟨Option.map_id', Option.map_id'⟩

/-! Two submissions with a barcode each. -/

namespace Labels

variable {id id' : String}

theorem pair_self (id barcode id' barcode' : String) :
    pair id barcode id' barcode' id = some barcode :=
  if_pos rfl

theorem pair_comm (h : id ≠ id') (barcode barcode' : String) :
    pair id barcode id' barcode' = pair id' barcode' id barcode := by
  funext other
  simp only [pair]
  by_cases hid : other = id
  · rw [if_pos hid, if_neg (hid ▸ h), if_pos hid]
  · rw [if_neg hid, if_neg hid]

theorem pair_of_ne {other : String} (h : other ≠ id) (h' : other ≠ id')
    (barcode barcode' : String) : pair id barcode id' barcode' other = Option.none := by
  rw [pair, if_neg h, if_neg h']

end Labels

/-! A barcode that was drawn makes way for the one that is to be carried. -/

section

variable {labels : Labels} {id barcode' : String}

theorem Submission.relabelled_of_all {s : Submission} (hs : labels s.id = some barcode')
    (barcode : String) :
    (s.relabelled (.all barcode)).relabelled labels = s.relabelled (.all barcode') := by
  have hid : labels (s.relabelled (.all barcode)).id = some barcode' := by
    rw [id_relabelled, hs]
  rw [relabelled_of_some hid]
  exact s.withBarcode_withBarcode barcode barcode'

theorem BatchRecord.relabelled_of_all {r : BatchRecord} (hr : labels r.submissionId = some barcode')
    (barcode : String) :
    (r.relabelled (.all barcode)).relabelled labels = r.relabelled (.all barcode') := by
  simp [BatchRecord.relabelled, Labels.all, hr]

theorem Answer.submission?_relabelled (labels : Labels) (a : Answer) :
    (a.relabelled labels).submission? = a.submission?.map (·.relabelled labels) := by
  cases a <;> rfl

theorem Answer.relabelled_of_all {a : Answer}
    (ha : ∀ s, a.submission? = some s → labels s.id = some barcode') (barcode : String) :
    (a.relabelled (.all barcode)).relabelled labels = a.relabelled (.all barcode') := by
  cases a with
  | submission s => exact congrArg Answer.submission (s.relabelled_of_all (ha s rfl) barcode)
  | progress p s => exact congrArg (Answer.progress p) (s.relabelled_of_all (ha s rfl) barcode)
  | batch => rfl
  | fee => rfl
  | form => rfl
  | delayed => rfl
  | paid => rfl
  | fileId => rfl

end

namespace Upshot

variable {x : Upshot} {id barcode' : String} {labels : Labels}

theorem draws_drawing (barcode : String) (x : Upshot) : (x.drawing barcode).draws = x.draws := by
  rw [drawing]
  split <;> rfl

theorem drawing_of_not (h : ¬x.draws = true) (barcode : String) : x.drawing barcode = x := by
  rw [drawing, if_neg h]

theorem IsAbout.relabelled (hx : x.IsAbout id) (labels : Labels) :
    (x.relabelled labels).IsAbout id := by
  refine ⟨fun a ha s hs => ?_, fun s hs => ?_, fun r hr => ?_, fun hdraws => ?_⟩
  · cases hanswer : x.answer with
    | error e =>
      rw [Upshot.relabelled, hanswer] at ha
      cases ha
    | ok a' =>
      rw [Upshot.relabelled, hanswer] at ha
      obtain rfl := Except.ok.inj ha
      rw [Answer.submission?_relabelled] at hs
      obtain ⟨s', hs', rfl⟩ := Option.map_eq_some_iff.1 hs
      rw [Submission.id_relabelled]
      exact hx.answer a' hanswer s' hs'
  · obtain ⟨t, ht, rfl⟩ := Option.map_eq_some_iff.1 hs
    rw [Submission.id_relabelled]
    exact hx.record t ht
  · obtain ⟨r', hr', rfl⟩ := Option.map_eq_some_iff.1 hr
    exact hx.loaded r' hr'
  · rw [Upshot.relabelled, Option.isSome_map]
    exact hx.written hdraws

theorem IsAbout.drawing (hx : x.IsAbout id) (barcode : String) :
    (x.drawing barcode).IsAbout id := by
  rw [Upshot.drawing]
  split
  · exact hx.relabelled _
  · exact hx

theorem relabelled_drawing (hx : x.IsAbout id) (hdraws : x.draws = true)
    (hlabels : labels id = some barcode') (barcode : String) :
    (x.drawing barcode).relabelled labels = x.drawing barcode' := by
  obtain ⟨answer, record, mail, loaded, draws⟩ := x
  obtain rfl : draws = true := hdraws
  obtain ⟨hanswer, hrecord, hloaded, -⟩ := hx
  simp only [drawing, if_true, relabelled, mk.injEq, true_and, and_true]
  refine ⟨?_, ?_, ?_⟩
  · cases answer with
    | error e => rfl
    | ok a =>
      refine congrArg Except.ok (a.relabelled_of_all (fun s hs => ?_) barcode)
      rw [hanswer a rfl s hs, hlabels]
  · cases record with
    | none => rfl
    | some s =>
      refine congrArg some (s.relabelled_of_all ?_ barcode)
      rw [hrecord s rfl, hlabels]
  · cases loaded with
    | none => rfl
    | some r =>
      refine congrArg some (r.relabelled_of_all ?_ barcode)
      rw [hloaded r rfl, hlabels]

end Upshot

namespace Office

/-! ## Two operations, one after the other -/

/-- The answers to two operations, and the office after both. -/
structure InTurn where
  first : Except Refusal Answer
  second : Except Refusal Answer
  office : Office

/-- Two operations at an instant, one after the other. -/
def inTurn (o : Office) (now : Instant) (a b : Operation) : InTurn :=
  let (first, o₁) := o.step now a
  let (second, o₂) := o₁.step now b
  ⟨first, second, o₂⟩

/-- Two operations come to the same in one order and in the other, once the submissions carry the
barcodes that they are to carry.  Mails and loaded records are entered in the order of the
operations. -/
structure SameOutcome (labels : Labels) (o : Office) (x y : InTurn) : Prop where
  first : y.second = x.first.map (·.relabelled labels)
  second : y.first = x.second.map (·.relabelled labels)
  store : y.office.store.records = x.office.store.records.map (·.relabelled labels)
  mails : y.office.mails.Perm x.office.mails
  sent : (∀ n, o.drill.refuses n = false) → y.office.sent.Perm x.office.sent
  loaded : ∃ new new', x.office.loaded = o.loaded ++ new ∧ y.office.loaded = o.loaded ++ new' ∧
    new'.Perm (new.map (·.relabelled labels))
  /-- Everything else is the same, the barcodes that are still to be drawn among it. -/
  rest : y.office = { x.office with
    store := y.office.store
    loaded := y.office.loaded
    sent := y.office.sent
    refused := y.office.refused }

/-- Two operations on two submissions do not get in each other's way. -/
structure Interchange (o : Office) (now : Instant) (a b : Operation) (id id' : String) : Prop where
  alone : ∀ other, other ≠ id → (o.step now a).2.store.find? other = o.store.find? other
  alone' : ∀ other, other ≠ id' → (o.step now b).2.store.find? other = o.store.find? other
  same : ¬(a.draws o ∧ b.draws o) →
    SameOutcome .none o (o.inTurn now a b) (o.inTurn now b a)
  /-- Whoever comes first gets the first barcode. -/
  exchanged : a.draws o ∧ b.draws o →
    let barcode := (o.barcodes.next now).1
    let barcode' := ((o.barcodes.next now).2.next now).1
    barcode ≠ barcode' ∧
      SameOutcome (.pair id barcode' id' barcode) o (o.inTurn now a b) (o.inTurn now b a) ∧
      SameOutcome (.pair id barcode id' barcode') o (o.inTurn now b a) (o.inTurn now a b)

/-- What the clock showed before does not matter. -/
theorem SameOutcome.of_clock {labels : Labels} {o : Office} {now : Instant} {x y : InTurn}
    (h : SameOutcome labels { o with clock := now } x y) : SameOutcome labels o x y :=
  ⟨h.first, h.second, h.store, h.mails, h.sent, h.loaded, h.rest⟩

variable {o : Office} {now : Instant} {x y : Upshot} {labels : Labels}

/-! ## The office after two upshots -/

theorem mails_after (o : Office) (x : Upshot) :
    (o.after x).mails.Perm (x.mail.toList ++ o.mails) := by
  rw [after]
  cases x.mail with
  | none => exact .refl _
  | some n => exact mails_posted _ n

theorem sent_after (h : ∀ n, o.drill.refuses n = false) (x : Upshot) :
    (o.after x).sent = o.sent ++ x.mail.toList := by
  rw [after]
  cases x.mail with
  | none => exact (List.append_nil _).symm
  | some n =>
    dsimp only [Option.elim]
    rw [posted, h, if_neg Bool.false_ne_true]
    rfl

theorem drill_after (o : Office) (x : Upshot) : (o.after x).drill = o.drill := by
  obtain ⟨sent, refused, hafter⟩ := o.after_eq x
  rw [hafter]

theorem mails_after_after (o : Office) (x y : Upshot) :
    ((o.after x).after y).mails.Perm (y.mail.toList ++ (x.mail.toList ++ o.mails)) :=
  (mails_after _ y).trans ((mails_after o x).append_left _)

/-- **Two upshots come to the same in either order**, if they leave the same records behind. -/
theorem sameOutcome (labels : Labels)
    (hstore : ((o.store.puts (y.record.map (·.relabelled labels))).puts
        (x.record.map (·.relabelled labels))).records =
      ((o.store.puts x.record).puts y.record).records.map (·.relabelled labels)) :
    let x' := x.relabelled labels
    let y' := y.relabelled labels
    SameOutcome labels o ⟨x.answer, y.answer, (o.after x).after y⟩
      ⟨y'.answer, x'.answer, (o.after y').after x'⟩ := by
  intro x' y'
  have hmails : ((o.after y').after x').mails.Perm ((o.after x).after y).mails := by
    have hswap : (x.mail.toList ++ (y.mail.toList ++ o.mails)).Perm
        (y.mail.toList ++ (x.mail.toList ++ o.mails)) := by
      rw [← List.append_assoc, ← List.append_assoc]
      exact List.perm_append_comm.append_right _
    exact ((mails_after_after o y' x').trans hswap).trans (mails_after_after o x y).symm
  have hsent (h : ∀ n, o.drill.refuses n = false) :
      ((o.after y').after x').sent.Perm ((o.after x).after y).sent := by
    have hfirst (z : Upshot) : ∀ n, (o.after z).drill.refuses n = false := by
      rw [drill_after]
      exact h
    rw [sent_after (hfirst y'), sent_after h, sent_after (hfirst x), sent_after h,
      List.append_assoc, List.append_assoc]
    exact List.perm_append_comm.append_left _
  obtain ⟨sent₁, refused₁, hx⟩ := o.after_eq x
  obtain ⟨sent₂, refused₂, hy⟩ := (o.after x).after_eq y
  obtain ⟨sent₃, refused₃, hy'⟩ := o.after_eq y'
  obtain ⟨sent₄, refused₄, hx'⟩ := (o.after y').after_eq x'
  refine ⟨rfl, rfl, ?_, hmails, hsent, ?_, ?_⟩
  · rw [hx', hy', hy, hx]
    exact hstore
  · refine ⟨x.loaded.toList ++ y.loaded.toList, y'.loaded.toList ++ x'.loaded.toList, ?_, ?_, ?_⟩
    · rw [hy, hx, List.append_assoc]
    · rw [hx', hy', List.append_assoc]
    · rw [List.map_append, ← Option.toList_map, ← Option.toList_map]
      exact List.perm_append_comm
  · have hdraws : x'.draws = x.draws := rfl
    have hdraws' : y'.draws = y.draws := rfl
    rw [hx', hy', hy, hx, hdraws, hdraws']
    dsimp only
    cases x.draws <;> cases y.draws <;> rfl

/-! ## The interchange -/

/-- An operation and its upshot in the offices that look alike. -/
def Comes (o : Office) (id : String) (a : Operation) (x : Upshot) : Prop :=
  x.IsAbout id ∧ ∀ o', o.SameFor id o' →
    let y := x.drawing (o'.barcodes.next o'.clock).1
    a.perform o' = (y.answer, o'.after y)

variable {a b : Operation} {id id' : String}

theorem withClock_eq (h : o.clock = now) : { o with clock := now } = o := by
  subst h
  rfl

/-- **The second operation sees nothing of the first one** but which barcode is the next. -/
theorem inTurn_eq (hnow : o.clock = now) (hx : o.Comes id a x) (hy : o.Comes id' b y)
    (hid : id ≠ id') :
    let x₁ := x.drawing (o.barcodes.next now).1
    let y₂ := y.drawing (((o.after x₁).barcodes.next now).1)
    o.inTurn now a b = ⟨x₁.answer, y₂.answer, (o.after x₁).after y₂⟩ := by
  intro x₁ y₂
  obtain ⟨hxabout, hx⟩ := hx
  obtain ⟨-, hy⟩ := hy
  have hsame : o.SameFor id' (o.after x₁) := sameFor_after (hxabout.drawing _) hid.symm o
  have hclock : (o.after x₁).clock = now := hsame.clock.trans hnow
  have hfirst : o.step now a = (x₁.answer, o.after x₁) := by
    rw [step, withClock_eq hnow, hx o (.refl id o), hnow]
  have hsecond : (o.after x₁).step now b = (y₂.answer, (o.after x₁).after y₂) := by
    rw [step, withClock_eq hclock, hy _ hsame, hclock]
  rw [inTurn, hfirst]
  dsimp only
  rw [hsecond]

theorem barcodes_after (hnow : o.clock = now) (x : Upshot) :
    (o.after x).barcodes = if x.draws then (o.barcodes.next now).2 else o.barcodes := by
  obtain ⟨sent, refused, hafter⟩ := o.after_eq x
  rw [hafter, hnow]

/-- Unless both draw a barcode, nobody can tell who came first. -/
theorem sameOutcome_of_not (hnow : o.clock = now) (hx : o.Comes id a x) (hy : o.Comes id' b y)
    (hid : id ≠ id') (hdraws : ¬(x.draws = true ∧ y.draws = true)) :
    SameOutcome .none o (o.inTurn now a b) (o.inTurn now b a) := by
  let barcode := (o.barcodes.next now).1
  let x₁ := x.drawing barcode
  let y₁ := y.drawing barcode
  -- the one that comes second gets the first barcode, if it draws one
  have hfirst {x y : Upshot} (hdraws : ¬(x.draws = true ∧ y.draws = true)) :
      y.drawing (((o.after (x.drawing barcode)).barcodes.next now).1) = y.drawing barcode := by
    by_cases hdraw : y.draws = true
    · have hnone : ¬x.draws = true := fun h => hdraws ⟨h, hdraw⟩
      rw [barcodes_after hnow, Upshot.draws_drawing, if_neg hnone]
    · rw [Upshot.drawing_of_not hdraw, Upshot.drawing_of_not hdraw]
  have hab : o.inTurn now a b = ⟨x₁.answer, y₁.answer, (o.after x₁).after y₁⟩ := by
    rw [inTurn_eq hnow hx hy hid, hfirst hdraws]
  have hba : o.inTurn now b a = ⟨y₁.answer, x₁.answer, (o.after y₁).after x₁⟩ := by
    rw [inTurn_eq hnow hy hx hid.symm, hfirst fun h => hdraws h.symm]
  have hcomm :
      (o.store.puts y₁.record).puts x₁.record = (o.store.puts x₁.record).puts y₁.record := by
    refine (o.store.puts_comm fun s t hs ht => ?_).symm
    rw [(hx.1.drawing barcode).record s hs, (hy.1.drawing barcode).record t ht]
    exact hid
  have hsame := sameOutcome (o := o) (x := x₁) (y := y₁) .none (by
    simp only [Submission.relabelled_none, Option.map_id', List.map_id', hcomm])
  rw [Upshot.relabelled_none, Upshot.relabelled_none] at hsame
  rw [hab, hba]
  exact hsame

/-- If both draw a barcode, the first one gets the first. -/
theorem sameOutcome_of_draws (hnow : o.clock = now) (hx : o.Comes id a x) (hy : o.Comes id' b y)
    (hid : id ≠ id') (hdraws : x.draws = true) (hdraws' : y.draws = true) :
    let barcode := (o.barcodes.next now).1
    let barcode' := ((o.barcodes.next now).2.next now).1
    SameOutcome (.pair id barcode' id' barcode) o (o.inTurn now a b) (o.inTurn now b a) := by
  intro barcode barcode'
  let labels : Labels := .pair id barcode' id' barcode
  let x₁ := x.drawing barcode
  let y₂ := y.drawing barcode'
  have hsecond {x : Upshot} (hdraws : x.draws = true) :
      ((o.after (x.drawing barcode)).barcodes.next now).1 = barcode' := by
    rw [barcodes_after hnow, Upshot.draws_drawing, if_pos hdraws]
  have hab : o.inTurn now a b = ⟨x₁.answer, y₂.answer, (o.after x₁).after y₂⟩ := by
    rw [inTurn_eq hnow hx hy hid, hsecond hdraws]
  have hba : o.inTurn now b a =
      ⟨(y.drawing barcode).answer, (x.drawing barcode').answer,
        (o.after (y.drawing barcode)).after (x.drawing barcode')⟩ := by
    rw [inTurn_eq hnow hy hx hid.symm, hsecond hdraws']
  have hlabels : labels id = some barcode' := Labels.pair_self id barcode' id' barcode
  have hlabels' : labels id' = some barcode := by
    rw [show labels = .pair id' barcode id barcode' from Labels.pair_comm hid barcode' barcode]
    exact Labels.pair_self id' barcode id barcode'
  have hx₁ := hx.1.drawing barcode
  have hy₂ := hy.1.drawing barcode'
  obtain ⟨s, hs⟩ := Option.isSome_iff_exists.1
    (hx₁.written ((Upshot.draws_drawing barcode x).trans hdraws))
  obtain ⟨t, ht⟩ := Option.isSome_iff_exists.1
    (hy₂.written ((Upshot.draws_drawing barcode' y).trans hdraws'))
  have hsame := sameOutcome (o := o) (x := x₁) (y := y₂) labels (by
    rw [hs, ht]
    refine o.store.put_put_relabelled ?_ fun other hother hother' => ?_
    · rw [hx₁.record s hs, hy₂.record t ht]
      exact hid
    · rw [hx₁.record s hs] at hother
      rw [hy₂.record t ht] at hother'
      exact Labels.pair_of_ne hother hother' barcode' barcode)
  rw [Upshot.relabelled_drawing hx.1 hdraws hlabels,
    Upshot.relabelled_drawing hy.1 hdraws' hlabels'] at hsame
  rw [hab, hba]
  exact hsame

/-- Two barcodes drawn in a row differ. -/
theorem next_ne_next (b : BarcodeSequence) (now : Instant) :
    (b.next now).1 ≠ ((b.next now).2.next now).1 := by
  intro h
  have hnumber : b.number = b.number + 1 := BarcodeSequence.number_eq_of_barcode_eq h
  have htoNat := congrArg UInt64.toNat hnumber
  rw [UInt64.toNat_add] at htoNat
  have hone : (1 : UInt64).toNat = 1 := rfl
  have hlt := b.number.toNat_lt
  omega

/-- **Operations on two submissions do not get in each other's way**, whatever is stored and
whatever is out of order around the office: neither touches any record but its own, and in either
order both get the same answers and leave the same store, the same mails and the same loaded
records.  Two hand-overs that both draw a barcode get the next two in the order in which they come,
and nothing else tells the two orders apart. -/
theorem Steady.interchange (ho : o.Steady) (now : Instant) (ha : a.about? = some id)
    (hb : b.about? = some id') (hid : id ≠ id') : Interchange o now a b id id' := by
  let o₀ : Office := { o with clock := now }
  have ho₀ : o₀.Steady := ho.of_drill_eq rfl
  obtain ⟨x, hxabout, hxdraws, hx⟩ := Operation.local_perform ha o₀ ho₀
  obtain ⟨y, hyabout, hydraws, hy⟩ := Operation.local_perform hb o₀ ho₀
  have hcomes : o₀.Comes id a x := ⟨hxabout, hx⟩
  have hcomes' : o₀.Comes id' b y := ⟨hyabout, hy⟩
  have hdraws : a.draws o ∧ b.draws o ↔ x.draws = true ∧ y.draws = true :=
    and_congr hxdraws.symm hydraws.symm
  have halone {a : Operation} {id : String} {x : Upshot} (h : o₀.Comes id a x) (other : String)
      (hother : other ≠ id) : (o.step now a).2.store.find? other = o.store.find? other := by
    have hstep : o.step now a = _ := h.2 o₀ (.refl id o₀)
    rw [hstep]
    exact (sameFor_after (h.1.drawing _) hother o₀).record
  refine ⟨halone hcomes, halone hcomes', fun h => ?_, fun h => ?_⟩
  · exact (sameOutcome_of_not (o := o₀) rfl hcomes hcomes' hid (mt hdraws.2 h)).of_clock
  · obtain ⟨hdraw, hdraw'⟩ := hdraws.1 h
    have hsame := sameOutcome_of_draws (o := o₀) rfl hcomes hcomes' hid hdraw hdraw'
    have hother := sameOutcome_of_draws (o := o₀) rfl hcomes' hcomes hid.symm hdraw' hdraw
    dsimp only at hsame hother
    rw [Labels.pair_comm hid.symm] at hother
    exact ⟨next_ne_next o.barcodes now, hsame.of_clock, hother.of_clock⟩

/-- An office with two filings that stand ready to be handed over. -/
def withTwoStatements : Office :=
  let now : Instant := ⟨1719828000, 0⟩
  (Office.opened .standard OfficeConfig.default.settings .fresh now).run
    [(now, .create (some ⟨"filings@acme.example"⟩)),
      (now, .editCompany "sub-1" ⟨"01234567", "Acme Widgets Ltd"⟩),
      (now, .editForm "sub-1" "SH19"),
      (now, .complete "sub-1"),
      (now, .queue "sub-1"),
      (now, .create (some ⟨"filings@bolt.example"⟩)),
      (now, .editCompany "sub-2" ⟨"07654321", "Bolt and Sons"⟩),
      (now, .editForm "sub-2" "SH19"),
      (now, .complete "sub-2"),
      (now, .queue "sub-2")]

/-- Both of them are handed over, and each gets the barcode of its turn. -/
theorem interchange_withTwoStatements :
    let now : Instant := ⟨1719828060, 0⟩
    let first : Operation := .handOver "sub-1"
    let second : Operation := .handOver "sub-2"
    Interchange withTwoStatements now first second "sub-1" "sub-2" ∧
      first.draws withTwoStatements ∧ second.draws withTwoStatements ∧
      ((withTwoStatements.inTurn now first second).office.loaded.map fun r =>
          (r.submissionId, r.barcode)) =
        [("sub-1", "X2418300001"), ("sub-2", "X2418300002")] ∧
      ((withTwoStatements.inTurn now second first).office.loaded.map fun r =>
          (r.submissionId, r.barcode)) =
        [("sub-2", "X2418300001"), ("sub-1", "X2418300002")] := by
  intro now first second
  have hsteady : withTwoStatements.Steady :=
    Steady.run (o := .opened _ _ _ _) ⟨⟨rfl, rfl, rfl⟩, rfl⟩ _
  have hup : withTwoStatements.drill.barcodesDown = false := by decide +kernel
  have hready (id : String) (h : ((withTwoStatements.store.find? id).map fun s =>
      (s.status, s.barcode?)) = some (.readyToSubmit, none)) : withTwoStatements.drawsFor id := by
    obtain ⟨s, hs, hshown⟩ := Option.map_eq_some_iff.1 h
    obtain ⟨hstatus, hnone⟩ := Prod.mk.inj hshown
    exact ⟨hup, s, hs, hstatus, hnone⟩
  refine ⟨hsteady.interchange now rfl rfl (by decide), hready _ ?_, hready _ ?_, ?_, ?_⟩
  · decide +kernel
  · decide +kernel
  · decide +kernel
  · decide +kernel

end Office

end Filing
