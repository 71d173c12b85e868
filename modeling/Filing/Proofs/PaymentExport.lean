import Filing.Fee
import Filing.Catalog.Import
import Filing.Proofs.Parts
import Mathlib.Algebra.Ring.Nat
import Mathlib.Data.List.Forall2
import Mathlib.Data.List.Induction
import Mathlib.Data.List.Nodup
import Mathlib.Data.List.Perm.Basic

/-!
# Payment templates out of an export

An export has a line for each item of a price, in any order.  The templates are collected in one
pass: a line joins the template with its fee code and its start, or makes a new one.

* `PaymentTemplate.Lists` — the payment methods that a field lists;
* `PaymentTemplate.Line.OfRow` — a line holds what a record says, field by field;
  `lineOf_eq_ok_iff` — a record is read as that line;
* `PaymentTemplate.Groups` — the templates are the lines sorted by fee code and start, with no line
  lost; `Groups.addLine` is one step of the pass, `groups_ofLines` all of it;
* `PaymentTemplate.InForce` — what it is to be in force, without a pass over the templates:
  `selectActive_eq_some_iff`.  Templates in another order are not told apart by it
  (`selectActive_congr`), where no two of them start together;
* `PaymentTemplate.SameGroups` — two lists of lines that differ in how the lines of different
  templates are shuffled into each other;
* `PaymentTemplate.imported` — **an export is read into the groups of its records; records of
  different groups may be exchanged without any fee changing; and the first record without a start
  is named**.
-/

set_option autoImplicit false

namespace Filing

namespace PaymentTemplate

/-! ## Lines and what they belong to -/

/-- What a line belongs to: its fee code and its start. -/
def Line.key (l : Line) : String × Instant := (l.feeCode, l.activeFrom)

/-- What a template is made for: a fee code and a start. -/
def key (t : PaymentTemplate) : String × Instant := (t.feeCode, t.activeFrom)

/-- The lines of a fee code and a start, in their order. -/
def group (lines : List Line) (k : String × Instant) : List Line :=
  lines.filter (·.key = k)

theorem group_concat (lines : List Line) (l : Line) (k : String × Instant) :
    group (lines ++ [l]) k = group lines k ++ if l.key = k then [l] else [] := by
  by_cases h : l.key = k <;> simp [group, h]

theorem group_eq_nil {lines : List Line} {k : String × Instant} (h : k ∉ lines.map Line.key) :
    group lines k = [] :=
  List.filter_eq_nil_iff.2 fun l hl hk =>
    h (List.mem_map.2 ⟨l, hl, of_decide_eq_true hk⟩)

theorem takes_iff {t : PaymentTemplate} {l : Line} : t.takes l = true ↔ t.key = l.key := by
  simp [takes, key, Line.key]

/-- The template that a line makes where there is none for it. -/
def ofLine (l : Line) : PaymentTemplate :=
  ⟨l.feeCode, l.activeFrom, [l.item], l.status, selfLink l.feeCode l.activeFrom⟩

/-- The template with one more item. -/
def withItem (t : PaymentTemplate) (i : PaymentItem) : PaymentTemplate :=
  { t with items := t.items ++ [i] }

@[simp] theorem key_ofLine (l : Line) : (ofLine l).key = l.key := rfl

@[simp] theorem key_withItem (t : PaymentTemplate) (i : PaymentItem) :
    (t.withItem i).key = t.key := rfl

theorem addLine_of_notMem {l : Line} {ts : List PaymentTemplate} (h : l.key ∉ ts.map key) :
    addLine l ts = ts ++ [ofLine l] := by
  induction ts with
  | nil => rfl
  | cons t rest ih =>
    obtain ⟨hne, hrest⟩ := List.ne_and_not_mem_of_not_mem_cons h
    rw [addLine, if_neg fun ht => hne (takes_iff.1 ht).symm, ih hrest, List.cons_append]

theorem addLine_append {l : Line} {before after : List PaymentTemplate} {t : PaymentTemplate}
    (hbefore : l.key ∉ before.map key) (ht : t.key = l.key) :
    addLine l (before ++ t :: after) = before ++ t.withItem l.item :: after := by
  induction before with
  | nil => exact if_pos (takes_iff.2 ht)
  | cons u rest ih =>
    obtain ⟨hne, hrest⟩ := List.ne_and_not_mem_of_not_mem_cons hbefore
    rw [List.cons_append, addLine, if_neg fun hu => hne (takes_iff.1 hu).symm, ih hrest,
      List.cons_append]

/-! ## Groups -/

/-- The template holds what a group of lines says: all their items in order, and the status of the
first line. -/
structure OfGroup (lines : List Line) (t : PaymentTemplate) : Prop where
  items : t.items = lines.map (·.item)
  status : lines.head?.map (·.status) = some t.status
  links : t.links.entries =
    [("self", s!"/payment-templates/{t.feeCode}/{t.activeFrom.date.toText}")]

theorem OfGroup.ofLine (l : Line) : OfGroup [l] (ofLine l) := ⟨rfl, rfl, rfl⟩

/-- A line at the end adds its item; the status stays that of the first line. -/
theorem OfGroup.withItem {lines : List Line} {t : PaymentTemplate} (h : OfGroup lines t)
    (l : Line) : OfGroup (lines ++ [l]) (t.withItem l.item) where
  items := by simp [PaymentTemplate.withItem, h.items]
  status := by
    have hstatus := h.status
    cases lines with
    | nil => cases hstatus
    | cons first rest => exact hstatus
  links := h.links

theorem OfGroup.unique {lines : List Line} {t u : PaymentTemplate} (hkey : t.key = u.key)
    (ht : OfGroup lines t) (hu : OfGroup lines u) : t = u := by
  obtain ⟨hcode, hstart⟩ := Prod.mk.inj hkey
  have hstatus : t.status = u.status := Option.some.inj (ht.status.symm.trans hu.status)
  have hitems : t.items = u.items := ht.items.trans hu.items.symm
  have hlinks : t.links = u.links := by
    refine Index.ext ?_
    rw [ht.links, hu.links, hcode, hstart]
  cases t
  cases u
  simp_all

/-- The templates are the groups of the lines: one for each fee code and start, in the order in
which these first appear. -/
structure Groups (lines : List Line) (ts : List PaymentTemplate) : Prop where
  /-- `eraseDups` keeps the first of equal members. -/
  keys : ts.map key = (lines.map Line.key).eraseDups
  nodup : (ts.map key).Nodup
  each : ∀ t ∈ ts, OfGroup (group lines t.key) t
  count : (ts.map fun t => t.items.length).sum = lines.length

theorem Groups.nil : Groups [] [] where
  keys := rfl
  nodup := List.nodup_nil
  each := fun _ h => nomatch h
  count := rfl

section
variable {lines : List Line} {ts : List PaymentTemplate}

theorem Groups.mem_keys (h : Groups lines ts) {k : String × Instant} :
    k ∈ ts.map key ↔ k ∈ lines.map Line.key := by
  rw [h.keys, List.mem_eraseDups]

theorem eraseDups_concat (keys : List (String × Instant)) (k : String × Instant) :
    (keys ++ [k]).eraseDups = if k ∈ keys then keys.eraseDups else keys.eraseDups ++ [k] := by
  rw [List.eraseDups_append, List.removeAll]
  by_cases h : k ∈ keys <;> simp [h, List.eraseDups_cons]

/-- What a template of another group holds is not touched by a line. -/
theorem Groups.other (h : Groups lines ts) {l : Line} {t : PaymentTemplate} (ht : t ∈ ts)
    (hne : l.key ≠ t.key) : OfGroup (group (lines ++ [l]) t.key) t := by
  rw [group_concat, if_neg hne, List.append_nil]
  exact h.each t ht

/-- A line of a new group. -/
theorem Groups.open (h : Groups lines ts) {l : Line} (hnew : l.key ∉ ts.map key) :
    Groups (lines ++ [l]) (ts ++ [ofLine l]) where
  keys := by
    rw [List.map_append, List.map_append, h.keys, List.map_singleton, List.map_singleton,
      eraseDups_concat, if_neg (h.mem_keys.not.1 hnew), key_ofLine]
  nodup := by
    rw [List.map_append, List.map_singleton, key_ofLine, ← List.concat_eq_append]
    exact h.nodup.concat hnew
  each := by
    intro t ht
    rcases List.mem_append.1 ht with ht | ht
    · exact h.other ht fun heq => hnew (heq ▸ List.mem_map_of_mem ht)
    · obtain rfl := List.mem_singleton.1 ht
      rw [group_concat, key_ofLine, if_pos rfl, group_eq_nil (h.mem_keys.not.1 hnew)]
      exact .ofLine l
  count := by simp [h.count, ofLine]

/-- A line of a group that has a template. -/
theorem Groups.join {before after : List PaymentTemplate} {t : PaymentTemplate}
    (h : Groups lines (before ++ t :: after)) {l : Line} (ht : t.key = l.key) :
    Groups (lines ++ [l]) (before ++ t.withItem l.item :: after) := by
  have hmem : t ∈ before ++ t :: after := List.mem_append_cons_self
  have hsame : (before ++ t.withItem l.item :: after).map key = (before ++ t :: after).map key := by
    simp
  have hapart : ∀ u ∈ before ++ after, l.key ≠ u.key := by
    have hnodup := h.nodup
    rw [List.map_append, List.map_cons, List.nodup_middle, List.nodup_cons, ← List.map_append,
      ht] at hnodup
    exact fun u hu heq => hnodup.1 (heq ▸ List.mem_map_of_mem hu)
  exact {
    keys := by
      have hold : l.key ∈ lines.map Line.key :=
        h.mem_keys.1 (ht ▸ List.mem_map_of_mem hmem)
      rw [hsame, h.keys, List.map_append, List.map_singleton, eraseDups_concat, if_pos hold]
    nodup := hsame ▸ h.nodup
    each := by
      intro u hu
      rcases List.mem_append.1 hu with hu | hu
      · exact h.other (List.mem_append_left _ hu) (hapart u (List.mem_append_left _ hu))
      rcases List.mem_cons.1 hu with rfl | hu
      · rw [key_withItem, group_concat, if_pos ht.symm]
        exact (h.each t hmem).withItem l
      · exact h.other (List.mem_append_right _ (List.mem_cons_of_mem _ hu))
          (hapart u (List.mem_append_right _ hu))
    count := by
      have hcount := h.count
      simp only [List.map_append, List.map_cons, List.sum_append, List.sum_cons,
        List.length_append, List.length_singleton, withItem] at hcount ⊢
      omega }

/-- One step of the pass. -/
theorem Groups.addLine (h : Groups lines ts) (l : Line) :
    Groups (lines ++ [l]) (addLine l ts) := by
  by_cases hmem : l.key ∈ ts.map key
  · obtain ⟨t, ht, hkey⟩ := List.mem_map.1 hmem
    obtain ⟨before, after, rfl⟩ := List.append_of_mem ht
    have hbefore : l.key ∉ before.map key := by
      have hnodup := h.nodup
      rw [List.map_append, List.map_cons, List.nodup_middle, List.nodup_cons, hkey] at hnodup
      exact fun hb => hnodup.1 (List.mem_append_left _ hb)
    rw [addLine_append hbefore hkey]
    exact h.join hkey
  · rw [addLine_of_notMem hmem]
    exact h.open hmem

/-- The pass over all lines sorts them into their groups. -/
theorem groups_ofLines (lines : List Line) : Groups lines (ofLines lines) := by
  induction lines using List.reverseRecOn with
  | nil => exact .nil
  | append_singleton lines l ih =>
    rw [ofLines, List.foldl_append]
    exact ih.addLine l

/-- A template is among the groups exactly if it holds what the lines of its fee code and start
say. -/
theorem Groups.mem_iff (h : Groups lines ts) {t : PaymentTemplate} :
    t ∈ ts ↔ OfGroup (group lines t.key) t := by
  refine ⟨h.each t, fun ht => ?_⟩
  have hkey : t.key ∈ ts.map key := by
    refine h.mem_keys.2 (by_contra fun hmem => ?_)
    have hstatus := ht.status
    rw [group_eq_nil hmem] at hstatus
    cases hstatus
  obtain ⟨u, hu, heq⟩ := List.mem_map.1 hkey
  have hgroup := h.each u hu
  rw [heq] at hgroup
  exact ht.unique heq.symm hgroup ▸ hu

end

/-! ## The template in force -/

/-- The template is the last to have started for its fee code. -/
structure InForce (ts : List PaymentTemplate) (feeCode : String) (asOf : Instant)
    (t : PaymentTemplate) : Prop where
  mem : t ∈ ts
  feeCode_eq : t.feeCode = feeCode
  started : t.activeFrom ≤ asOf
  last : ∀ u ∈ ts, u.feeCode = feeCode → u.activeFrom ≤ asOf → u.activeFrom ≤ t.activeFrom

/-- Of templates without two that start together for one fee code, one at most is in force. -/
theorem InForce.unique {ts : List PaymentTemplate} {feeCode : String} {asOf : Instant}
    {t u : PaymentTemplate} (hnodup : (ts.map key).Nodup) (ht : InForce ts feeCode asOf t)
    (hu : InForce ts feeCode asOf u) : t = u := by
  have hstart : t.activeFrom = u.activeFrom :=
    Instant.le_antisymm (hu.last t ht.mem ht.feeCode_eq ht.started)
      (ht.last u hu.mem hu.feeCode_eq hu.started)
  have hcode : t.feeCode = u.feeCode := ht.feeCode_eq.trans hu.feeCode_eq.symm
  exact List.inj_on_of_nodup_map hnodup ht.mem hu.mem (Prod.ext hcode hstart)

/-- The pass over templates keeps one that starts no earlier than any that it has seen. -/
theorem foldl_laterTemplate (ts : List PaymentTemplate) (b : PaymentTemplate) :
    ∃ t ∈ b :: ts, ts.foldl laterTemplate (some b) = some t ∧
      ∀ u ∈ b :: ts, u.activeFrom ≤ t.activeFrom := by
  induction ts generalizing b with
  | nil =>
    exact ⟨b, List.mem_singleton_self b, rfl, fun u hu =>
      List.mem_singleton.1 hu ▸ Instant.le_refl _⟩
  | cons c rest ih =>
    rw [List.foldl_cons, laterTemplate]
    by_cases hle : b.activeFrom ≤ c.activeFrom
    · obtain ⟨t, ht, hfold, hlast⟩ := ih c
      refine ⟨t, List.mem_cons_of_mem _ ht, by rw [if_pos hle, hfold], fun u hu => ?_⟩
      rcases List.mem_cons.1 hu with rfl | hu
      · exact Instant.le_trans hle (hlast c List.mem_cons_self)
      · exact hlast u hu
    · obtain ⟨t, ht, hfold, hlast⟩ := ih b
      refine ⟨t, ?_, by rw [if_neg hle, hfold], fun u hu => ?_⟩
      · rcases List.mem_cons.1 ht with rfl | ht
        · exact List.mem_cons_self
        · exact List.mem_cons_of_mem _ (List.mem_cons_of_mem _ ht)
      · rcases List.mem_cons.1 hu with rfl | hu
        · exact hlast u List.mem_cons_self
        rcases List.mem_cons.1 hu with rfl | hu
        · exact Instant.le_trans (Instant.le_of_lt (Instant.not_le.1 hle))
            (hlast b List.mem_cons_self)
        · exact hlast u (List.mem_cons_of_mem _ hu)

theorem selectActive_eq_some_iff {ts : List PaymentTemplate} (hnodup : (ts.map key).Nodup)
    {feeCode : String} {asOf : Instant} {t : PaymentTemplate} :
    selectActive ts feeCode asOf = some t ↔ InForce ts feeCode asOf t := by
  let started := ts.filter fun t => t.feeCode == feeCode && decide (t.activeFrom ≤ asOf)
  have hstarted {u : PaymentTemplate} :
      u ∈ started ↔ u ∈ ts ∧ u.feeCode = feeCode ∧ u.activeFrom ≤ asOf := by
    simp [started]
  -- of templates that have started, one is chosen, and it is in force
  have hchosen (hsome : started ≠ []) :
      ∃ u, selectActive ts feeCode asOf = some u ∧ InForce ts feeCode asOf u := by
    obtain ⟨first, rest, hcons⟩ := List.exists_cons_of_ne_nil hsome
    obtain ⟨u, hu, hfold, hlast⟩ := foldl_laterTemplate rest first
    rw [← hcons] at hu hlast
    obtain ⟨hmem, hcode, hle⟩ := hstarted.1 hu
    refine ⟨u, ?_, hmem, hcode, hle, fun v hv hvcode hvle =>
      hlast v (hstarted.2 ⟨hv, hvcode, hvle⟩)⟩
    show started.foldl laterTemplate none = some u
    rw [hcons]
    exact hfold
  constructor
  · intro h
    obtain ⟨u, hu, hforce⟩ := hchosen fun hnil => by
      have hnone : selectActive ts feeCode asOf = [].foldl laterTemplate none :=
        congrArg (List.foldl laterTemplate none) hnil
      cases hnone.symm.trans h
    cases hu.symm.trans h
    exact hforce
  · intro h
    obtain ⟨u, hu, hforce⟩ :=
      hchosen (List.ne_nil_of_mem (hstarted.2 ⟨h.mem, h.feeCode_eq, h.started⟩))
    rw [hu, hforce.unique hnodup h]

/-- The same templates in another order are in force at the same instants. -/
theorem selectActive_congr {ts ts' : List PaymentTemplate} (hnodup : (ts.map key).Nodup)
    (hnodup' : (ts'.map key).Nodup) (hmem : ∀ t, t ∈ ts ↔ t ∈ ts') (feeCode : String)
    (asOf : Instant) : selectActive ts feeCode asOf = selectActive ts' feeCode asOf := by
  refine Option.ext fun t => ?_
  rw [selectActive_eq_some_iff hnodup, selectActive_eq_some_iff hnodup']
  constructor
  · exact fun h => ⟨(hmem t).1 h.mem, h.feeCode_eq, h.started,
      fun u hu => h.last u ((hmem u).2 hu)⟩
  · exact fun h => ⟨(hmem t).2 h.mem, h.feeCode_eq, h.started,
      fun u hu => h.last u ((hmem u).1 hu)⟩

/-! ## Lines in another order -/

/-- The lines of each fee code and start are the same, in the same order. -/
def SameGroups (lines lines' : List Line) : Prop :=
  ∀ k, group lines k = group lines' k

/-- Lines with the same groups are the same lines in another order. -/
theorem SameGroups.perm {lines lines' : List Line} (h : SameGroups lines lines') :
    lines.Perm lines' := by
  have hcount (lines : List Line) (l : Line) : lines.count l = (group lines l.key).count l := by
    rw [group, List.count_filter]
    exact decide_eq_true rfl
  exact List.perm_iff_count.2 fun l => by rw [hcount, hcount lines', h l.key]

theorem SameGroups.selectActive_eq {lines lines' : List Line} (h : SameGroups lines lines')
    (feeCode : String) (asOf : Instant) :
    selectActive (ofLines lines) feeCode asOf = selectActive (ofLines lines') feeCode asOf := by
  have hgroups := groups_ofLines lines
  have hgroups' := groups_ofLines lines'
  exact selectActive_congr hgroups.nodup hgroups'.nodup
    (fun t => by rw [hgroups.mem_iff, hgroups'.mem_iff, h t.key]) feeCode asOf

/-! ## Records -/

/-- The methods are those that a field lists: what stands between its semicolons, without the white
space around it, where there is anything. -/
def Lists (field : String) (methods : List String) : Prop :=
  ∃ parts, Text.IsParts ';' field parts ∧ methods = (parts.map Text.trim).filter (· ≠ "")

theorem lists_iff {field : String} {methods : List String} :
    Lists field methods ↔ methods = methodsOf field := by
  constructor
  · rintro ⟨parts, hparts, rfl⟩
    have hsplit : field.splitOn ";" = parts := Text.splitOn_eq_iff.2 hparts
    rw [methodsOf, hsplit]
  · intro h
    exact ⟨field.splitOn ";", Text.splitOn_eq_iff.1 rfl, h⟩

/-- The line holds what a record says.  A price is active where the record says nothing else. -/
structure Line.OfRow (row : List (String × String)) (l : Line) : Prop where
  feeCode : l.feeCode = Csv.field row "fee_code"
  activeFrom : start? (Csv.field row "active_from") = some l.activeFrom
  status : l.status = (Csv.field? row "status").getD "active"
  amount : l.item.amount = Csv.field row "amount"
  description : l.item.description = Csv.field row "description"
  methods : Lists (Csv.field row "payment_methods") l.item.methods

/-- What is wrong with a record without a start. -/
def startFault (number : Nat) (row : List (String × String)) : CatalogError :=
  let field := Csv.field row "active_from"
  .invalidRow number s!"active_from '{field}' is not a date or timestamp"

section
variable {number : Nat} {row : List (String × String)}

theorem lineOf_eq_ok_iff {l : Line} : lineOf number row = .ok l ↔ l.OfRow row := by
  constructor
  · intro h
    rw [lineOf] at h
    cases hstart : start? (Csv.field row "active_from") with
    | none => simp [hstart] at h
    | some t =>
      rw [hstart] at h
      obtain rfl := Except.ok.inj h
      exact ⟨rfl, hstart, rfl, rfl, rfl, lists_iff.2 rfl⟩
  · intro h
    have hmethods := lists_iff.1 h.methods
    rw [lineOf, h.activeFrom, ← h.feeCode, ← h.status, itemOf, ← h.amount, ← h.description,
      ← hmethods]

theorem lineOf_eq_error (h : start? (Csv.field row "active_from") = none) :
    lineOf number row = .error (startFault number row) := by
  rw [lineOf, h]
  rfl

/-- A record with a start says a line. -/
theorem exists_ofRow (h : (start? (Csv.field row "active_from")).isSome) :
    ∃ l : Line, l.OfRow row := by
  obtain ⟨t, hstart⟩ := Option.isSome_iff_exists.1 h
  let field := Csv.field row
  exact ⟨⟨field "fee_code", t, (Csv.field? row "status").getD "active", itemOf row⟩, rfl, hstart,
    rfl, rfl, rfl, lists_iff.2 rfl⟩

end

/-- A record that says a line puts it in front of those that follow. -/
theorem linesFrom_cons {number : Nat} {row : List (String × String)} {l : Line}
    (h : l.OfRow row) (rest : List (Except Csv.Error (List (String × String)))) :
    linesFrom number (.ok row :: rest) = (linesFrom (number + 1) rest).map (l :: ·) := by
  have hline : lineOf number row = .ok l := lineOf_eq_ok_iff.2 h
  simp only [linesFrom, Except.mapError, Except.bind, hline, bind, pure, Except.pure]
  cases linesFrom (number + 1) rest <;> rfl

theorem linesFrom_ok {rows : List (List (String × String))} {lines : List Line}
    (h : List.Forall₂ Line.OfRow rows lines) (number : Nat) :
    linesFrom number (rows.map .ok) = .ok lines := by
  induction h generalizing number with
  | nil => rfl
  | cons hrow _ ih =>
    rw [List.map_cons, linesFrom_cons hrow, ih]
    rfl

/-- Whatever follows the first record without a start is not looked at. -/
theorem linesFrom_error {before : List (List (String × String))} {row : List (String × String)}
    (hbefore : ∀ r ∈ before, (start? (Csv.field r "active_from")).isSome)
    (hrow : start? (Csv.field row "active_from") = none) (number : Nat)
    (after : List (Except Csv.Error (List (String × String)))) :
    linesFrom number (before.map .ok ++ .ok row :: after) =
      .error (startFault (number + before.length) row) := by
  induction before generalizing number with
  | nil =>
    simp only [List.map_nil, List.nil_append, linesFrom, Except.mapError, Except.bind,
      lineOf_eq_error hrow, bind, List.length_nil, Nat.add_zero]
  | cons r rest ih =>
    obtain ⟨l, hl⟩ := exists_ofRow (hbefore r List.mem_cons_self)
    have hnumber : number + 1 + rest.length = number + (r :: rest).length := by
      rw [List.length_cons]
      omega
    rw [List.map_cons, List.cons_append, linesFrom_cons hl,
      ih fun r hr => hbefore r (List.mem_cons_of_mem _ hr), hnumber]
    rfl

/-- The export holds the lines: every record of it can be read, and says one of them. -/
def Holds (input : List UInt8) (lines : List Line) : Prop :=
  ∃ rows : List (List (String × String)),
    Csv.table columns input = rows.map .ok ∧ List.Forall₂ Line.OfRow rows lines

theorem Holds.ofCsv_eq {input : List UInt8} {lines : List Line} (h : Holds input lines) :
    ofCsv input = .ok (ofLines lines) := by
  obtain ⟨rows, htable, hrows⟩ := h
  rw [ofCsv, htable, linesFrom_ok hrows]
  rfl

/-- Records that all have a start say lines. -/
theorem exists_lines {rows : List (List (String × String))}
    (h : ∀ r ∈ rows, (start? (Csv.field r "active_from")).isSome) :
    ∃ lines, List.Forall₂ Line.OfRow rows lines := by
  induction rows with
  | nil => exact ⟨[], .nil⟩
  | cons r rest ih =>
    obtain ⟨l, hl⟩ := exists_ofRow (h r List.mem_cons_self)
    obtain ⟨lines, hlines⟩ := ih fun r hr => h r (List.mem_cons_of_mem _ hr)
    exact ⟨l :: lines, .cons hl hlines⟩

end PaymentTemplate

open PaymentTemplate in
/-- Fees are the same under templates among which the same ones are in force. -/
theorem CatalogDesk.resolveFee_congr {forms : Index FormTemplate}
    {ts ts' : List PaymentTemplate}
    (h : ∀ feeCode asOf, selectActive ts feeCode asOf = selectActive ts' feeCode asOf)
    (down : List CatalogLookup) (formType : String) (asOf : Instant) :
    (CatalogDesk.mk ⟨forms, ts⟩ down).resolveFee formType asOf =
      (CatalogDesk.mk ⟨forms, ts'⟩ down).resolveFee formType asOf := by
  simp only [resolveFee, form?, ask, Catalog.form?, Catalog.activeAsOf, h]

namespace PaymentTemplate

/-- What becomes of an export of payment templates.

* An export whose records can all be read, and all have a start, holds a line for each of them.
* Such an export is read into the groups of its lines.
* Another export whose records say the same lines, shuffled but for the order inside each group,
  leads to the same fees: with any forms, for every form type, at every instant, and whichever
  look-ups are out of order.
* A record without a start is answered with its number, if all records before it can be read. -/
theorem imported (input : List UInt8) :
    (∀ rows : List (List (String × String)), Csv.table columns input = rows.map .ok →
      (∀ r ∈ rows, (start? (Csv.field r "active_from")).isSome) → ∃ lines, Holds input lines) ∧
    (∀ lines, Holds input lines → ∃ ts, ofCsv input = .ok ts ∧ Groups lines ts) ∧
    (∀ lines input' lines', Holds input lines → Holds input' lines' → SameGroups lines lines' →
      ∃ ts ts', ofCsv input = .ok ts ∧ ofCsv input' = .ok ts' ∧
        ∀ (forms : Index FormTemplate) (down : List CatalogLookup) (formType : String)
          (asOf : Instant),
          (CatalogDesk.mk ⟨forms, ts⟩ down).resolveFee formType asOf =
            (CatalogDesk.mk ⟨forms, ts'⟩ down).resolveFee formType asOf) ∧
    (∀ (before : List (List (String × String))) row after,
      Csv.table columns input = before.map .ok ++ .ok row :: after →
      (∀ r ∈ before, (start? (Csv.field r "active_from")).isSome) →
      start? (Csv.field row "active_from") = none →
      ofCsv input = .error (startFault (before.length + 1) row)) := by
  refine ⟨?_, fun lines h => ⟨_, h.ofCsv_eq, groups_ofLines lines⟩, ?_, ?_⟩
  · intro rows htable hstarts
    obtain ⟨lines, hlines⟩ := exists_lines hstarts
    exact ⟨lines, rows, htable, hlines⟩
  · intro lines input' lines' h h' hsame
    exact ⟨_, _, h.ofCsv_eq, h'.ofCsv_eq, fun forms =>
      CatalogDesk.resolveFee_congr hsame.selectActive_eq⟩
  · intro before row after htable hbefore hrow
    rw [ofCsv, htable, linesFrom_error hbefore hrow, Nat.add_comm]
    rfl

/-- An export of a price of two items, whose starts are written in two ways, with another price
between them. -/
def twoPrices : List UInt8 :=
  Text.encode <|
    "fee_code,active_from,amount,description,payment_methods\n" ++
      "DS01,2024-05-01,33,Application,credit-card; account;\n" ++
      "CC01,2020-01-01,10,Notice,\n" ++
      "DS01,2024-05-01T01:00:00+01:00,9,Same day,account\n"

/-- The same export, sorted by fee code. -/
def twoPricesSorted : List UInt8 :=
  Text.encode <|
    "fee_code,active_from,amount,description,payment_methods\n" ++
      "CC01,2020-01-01,10,Notice,\n" ++
      "DS01,2024-05-01,33,Application,credit-card; account;\n" ++
      "DS01,2024-05-01T01:00:00+01:00,9,Same day,account\n"

/-- The same export, but for the second start. -/
def twoPricesUndated : List UInt8 :=
  Text.encode <|
    "fee_code,active_from,amount,description,payment_methods\n" ++
      "DS01,2024-05-01,33,Application,credit-card; account;\n" ++
      "CC01,soon,10,Notice,\n" ++
      "DS01,2024-05-01T01:00:00+01:00,9,Same day,account\n"

/-- The row of a record, the last column first. -/
def rowOf (feeCode start amount description methods : String) : List (String × String) :=
  [("payment_methods", methods), ("description", description), ("amount", amount),
    ("active_from", start), ("fee_code", feeCode)]

/-- The line of a record that starts with a day. -/
def lineOn (feeCode : String) (start : Date) (item : PaymentItem) : Line :=
  ⟨feeCode, .startOfDay start, "active", item⟩

theorem ofRow_rowOf {field listed : String} {start : Date} {methods : List String}
    (hstart : start? field = some (.startOfDay start)) (hmethods : Lists listed methods)
    (feeCode amount description : String) :
    (lineOn feeCode start ⟨amount, description, methods⟩).OfRow
      (rowOf feeCode field amount description listed) :=
  ⟨rfl, hstart, rfl, rfl, rfl, hmethods⟩

theorem imported_twoPrices :
    (∃ ts, ofCsv twoPrices = .ok ts ∧
      Groups [lineOn "DS01" ⟨2024, 5, 1⟩ ⟨"33", "Application", ["credit-card", "account"]⟩,
        lineOn "CC01" ⟨2020, 1, 1⟩ ⟨"10", "Notice", []⟩,
        lineOn "DS01" ⟨2024, 5, 1⟩ ⟨"9", "Same day", ["account"]⟩] ts ∧
      ts.map (·.items) =
        [[⟨"33", "Application", ["credit-card", "account"]⟩, ⟨"9", "Same day", ["account"]⟩],
          [⟨"10", "Notice", []⟩]]) ∧
    (∃ ts ts', ofCsv twoPrices = .ok ts ∧ ofCsv twoPricesSorted = .ok ts' ∧
      ∀ (forms : Index FormTemplate) (down : List CatalogLookup) (formType : String)
        (asOf : Instant),
        (CatalogDesk.mk ⟨forms, ts⟩ down).resolveFee formType asOf =
          (CatalogDesk.mk ⟨forms, ts'⟩ down).resolveFee formType asOf) ∧
    ofCsv twoPricesUndated =
      .error (.invalidRow 2 "active_from 'soon' is not a date or timestamp") := by
  have hmay : start? "2024-05-01" = some (.startOfDay ⟨2024, 5, 1⟩) := by decide +kernel
  have hoffset : start? "2024-05-01T01:00:00+01:00" = some (.startOfDay ⟨2024, 5, 1⟩) := by
    decide +kernel
  have hjanuary : start? "2020-01-01" = some (.startOfDay ⟨2020, 1, 1⟩) := by decide +kernel
  have hboth : Lists "credit-card; account;" ["credit-card", "account"] :=
    ⟨["credit-card", " account", ""], ⟨by decide, by decide, by decide⟩, by decide⟩
  have haccount : Lists "account" ["account"] :=
    ⟨["account"], ⟨by decide, by decide, by decide⟩, by decide⟩
  have hnone : Lists "" [] := ⟨[""], ⟨by decide, by decide, by decide⟩, by decide⟩
  let application := lineOn "DS01" ⟨2024, 5, 1⟩ ⟨"33", "Application", ["credit-card", "account"]⟩
  let notice := lineOn "CC01" ⟨2020, 1, 1⟩ ⟨"10", "Notice", []⟩
  let sameDay := lineOn "DS01" ⟨2024, 5, 1⟩ ⟨"9", "Same day", ["account"]⟩
  have happlication : application.OfRow
      (rowOf "DS01" "2024-05-01" "33" "Application" "credit-card; account;") :=
    ofRow_rowOf hmay hboth "DS01" "33" "Application"
  have hnotice : notice.OfRow (rowOf "CC01" "2020-01-01" "10" "Notice" "") :=
    ofRow_rowOf hjanuary hnone "CC01" "10" "Notice"
  have hsameDay : sameDay.OfRow
      (rowOf "DS01" "2024-05-01T01:00:00+01:00" "9" "Same day" "account") :=
    ofRow_rowOf hoffset haccount "DS01" "9" "Same day"
  have hholds : Holds twoPrices [application, notice, sameDay] :=
    ⟨_, by decide +kernel, .cons happlication (.cons hnotice (.cons hsameDay .nil))⟩
  have hsorted : Holds twoPricesSorted [notice, application, sameDay] :=
    ⟨_, by decide +kernel, .cons hnotice (.cons happlication (.cons hsameDay .nil))⟩
  have hsame : SameGroups [application, notice, sameDay] [notice, application, sameDay] := by
    intro k
    by_cases hk : notice.key = k
    · -- the other two are not of this group
      have hother : application.key ≠ k ∧ sameDay.key ≠ k := by
        subst hk
        decide
      simp [group, hk, hother]
    · simp [group, hk, List.filter_cons]
  obtain ⟨ts, hts, hgroups⟩ := (imported twoPrices).2.1 _ hholds
  obtain rfl := Except.ok.inj (hts.symm.trans hholds.ofCsv_eq)
  refine ⟨⟨_, hts, hgroups, by decide⟩, (imported twoPrices).2.2.1 _ _ _ hholds hsorted hsame, ?_⟩
  exact (imported twoPricesUndated).2.2.2
    [rowOf "DS01" "2024-05-01" "33" "Application" "credit-card; account;"]
    (rowOf "CC01" "soon" "10" "Notice" "")
    [.ok (rowOf "DS01" "2024-05-01T01:00:00+01:00" "9" "Same day" "account")]
    (by decide +kernel) (by decide +kernel) (by decide +kernel)

end PaymentTemplate

end Filing
