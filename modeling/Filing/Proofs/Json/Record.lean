import Filing.Json.Schema
import Mathlib.Data.List.Nodup

/-!
# Records are read back

A decoder recovers a value if it reads what is written for the value as the value itself.  Decoders
are built from one another as the writers are, and recover values part by part.

* `Reading.Recovers` — the property, with one lemma for each way to build a decoder;
* `Schema.Shows` — a schema together with what stands in a text for each of its fields, if anything
  does: `Shows.map`, `Shows.seq` follow the way in which a schema is put together;
* `Schema.Shows.read` — **a record whose fields have different names is recovered from its
  members**.
-/

set_option autoImplicit false

namespace Filing

variable {α β : Type}

/-! ## Entries -/

namespace Index

variable {es : List (String × α)} {key : String} {a : α}

/-- A key after all others is put at the end. -/
theorem place_last (h : ∀ e ∈ es, e.1 < key) : place key a es = es ++ [(key, a)] := by
  induction es with
  | nil => rfl
  | cons e rest ih =>
    have hlt : e.1 < key := h e List.mem_cons_self
    have hne : key ≠ e.1 := fun heq => String.lt_irrefl _ (heq ▸ hlt)
    rw [place, if_neg (String.lt_asymm hlt), if_neg hne,
      ih fun d hd => h d (List.mem_cons_of_mem _ hd), List.cons_append]

/-- Entries in their order make the index that lists them. -/
theorem ofList_entries (a : Index α) : ofList a.entries = a := by
  -- an index that lists what stands before some entries, extended by these
  have hfold (before : Index α) (es : List (String × α))
      (hsorted : (before.entries ++ es).Pairwise (fun a b => a.1 < b.1)) :
      (es.foldl (fun (a : Index α) (e : String × α) => a.insert e.1 e.2) before).entries =
        before.entries ++ es := by
    induction es generalizing before with
    | nil => exact (List.append_nil _).symm
    | cons e rest ih =>
      have hlast : ∀ d ∈ before.entries, d.1 < e.1 := fun d hd =>
        (List.pairwise_append.1 hsorted).2.2 d hd e List.mem_cons_self
      have hentries : (before.insert e.1 e.2).entries = before.entries ++ [e] := place_last hlast
      rw [List.foldl_cons, ih (before.insert e.1 e.2) (by rw [hentries]; simpa using hsorted),
        hentries, List.append_assoc, List.singleton_append]
  exact ext (hfold empty a.entries a.sorted)

end Index

/-! ## Decoders -/

namespace Reading

open Json

/-- The decoder reads what is written for the value as the value. -/
def Recovers (read : Reading → Except Fault α) (write : α → Json) (a : α) : Prop :=
  read (ofJson (write a)) = .ok a

theorem recovers_text (s : String) : Recovers text .str s := rfl

theorem recovers_boolean (b : Bool) : Recovers boolean .bool b := rfl

theorem recovers_natural {bound n : Nat} (h : n ≤ bound) : Recovers (natural bound) .nat n := by
  have hbounds : (0 : Int) ≤ n ∧ (n : Int) ≤ bound := by omega
  exact (if_pos hbounds).trans rfl

theorem recovers_parsed {f : String → Option α} {write : α → String} {a : α}
    (h : f (write a) = some a) : Recovers (parsed f) (fun a => .str (write a)) a := by
  simp only [Recovers, ofJson, parsed, h]

theorem recovers_choice {named : String → Option α} {label : α → String} {a : α}
    (h : named (label a) = some a) : Recovers (choice named) (fun a => .str (label a)) a := by
  simp only [Recovers, ofJson, choice, h]

section
variable {read : Reading → Except Fault α} {write : α → Json}

/-- A value that is written is no `null`, as the decoder does not take `null` for a value. -/
theorem recovers_some {e : Fault} (hnull : read .null = .error e) {a : α}
    (h : Recovers read write a) : optional read (ofJson (write a)) = .ok (some a) := by
  have hne : ofJson (write a) = .null → False := fun hr => by
    rw [Recovers, hr, hnull] at h
    cases h
  rw [optional.eq_2 read _ hne, h]
  rfl

theorem recovers_optional {e : Fault} (hnull : read .null = .error e) {o : Option α}
    (h : ∀ a ∈ o, Recovers read write a) : Recovers (optional read) (option write) o := by
  cases o with
  | none => rfl
  | some a => exact recovers_some hnull (h a rfl)

theorem recovers_many {as : List α} (h : ∀ a ∈ as, Recovers read write a) :
    Recovers (many read) (list write) as := by
  have hitems : (ofItems (as.map write)).mapM read = .ok as := by
    induction as with
    | nil => rfl
    | cons a rest ih =>
      have hfirst : read (ofJson (write a)) = .ok a := h a List.mem_cons_self
      rw [List.map_cons, ofItems, List.mapM_cons, hfirst,
        ih fun b hb => h b (List.mem_cons_of_mem _ hb)]
      rfl
  rw [Recovers, list, ofJson, many, hitems]
  rfl

end

theorem recovers_textIndex (a : Index String) :
    Recovers textIndex (fun a => .obj (a.entries.map fun e => (e.1, .str e.2))) a := by
  have hmembers (es : List (String × String)) :
      textMembers (ofMembers (es.map fun e => (e.1, .str e.2))) = .ok es := by
    induction es with
    | nil => rfl
    | cons e rest ih =>
      rw [List.map_cons, ofMembers, ofJson, textMembers, ih]
      rfl
  rw [Recovers, ofJson, textIndex, hmembers]
  exact congrArg Except.ok (Index.ofList_entries a)

end Reading

/-! ## Records -/

namespace Schema

open Json
open Reading (ofJson ofMembers Recovers)

/-- A field, and what stands for it in a text. -/
abbrev Slot := Field × Option Reading

/-- What stands in a text, by the names of the fields. -/
def shown (slots : List Slot) : List (String × Reading) :=
  slots.filterMap fun p => p.2.map fun r => (p.1.name, r)

/-- The slots are those of the schema's fields, and a record is built from them. -/
structure Shows (s : Schema α) (slots : List Slot) (a : α) : Prop where
  fields : slots.map (·.1) = s.fields
  faultless : ∀ p ∈ slots, ∀ r ∈ p.2, p.1.fault? r = none
  build : ∀ get : String → Option Reading, (∀ p ∈ slots, get p.1.name = p.2) → s.build get = .ok a

/-! ### Schemas put together -/

section
variable {slots slots' : List Slot}

theorem Shows.map {s : Schema α} {a : α} (h : Shows s slots a) (f : α → β) :
    Shows (f <$> s) slots (f a) where
  fields := h.fields
  faultless := h.faultless
  build get hget := congrArg (Except.map f) (h.build get hget)

theorem Shows.seq {s : Schema (α → β)} {t : Schema α} {f : α → β} {a : α} (hs : Shows s slots f)
    (ht : Shows t slots' a) : Shows (s <*> t) (slots ++ slots') (f a) where
  fields := by
    rw [List.map_append, hs.fields, ht.fields]
    rfl
  faultless p hp := (List.mem_append.1 hp).elim (hs.faultless p) (ht.faultless p)
  build get hget := by
    have hfirst := hs.build get fun p hp => hget p (List.mem_append_left _ hp)
    have hsecond := ht.build get fun p hp => hget p (List.mem_append_right _ hp)
    show (s.build get).bind (fun f => (t.build get).map f) = .ok (f a)
    rw [hfirst, hsecond]
    rfl

end

/-! ### Single fields -/

section
variable {read : Reading → Except Fault α} {r : Reading} {a : α} (name : String)

theorem Shows.single {s : Schema α} {field : Field} {o : Option Reading}
    (hfields : s.fields = [field]) (hfault : ∀ r ∈ o, field.fault? r = none)
    (hbuild : ∀ get : String → Option Reading, get field.name = o → s.build get = .ok a) :
    Shows s [(field, o)] a where
  fields := hfields.symm
  faultless _ hp := List.mem_singleton.1 hp ▸ hfault
  build get hget := hbuild get (hget _ List.mem_cons_self)

theorem faultOf_eq_none (h : read r = .ok a) : faultOf read r = none := by
  rw [faultOf, h]

theorem Shows.required (h : read r = .ok a) :
    Shows (required name read) [(⟨name, faultOf read, false, false⟩, some r)] a := by
  refine .single rfl (fun s hs => ?_) fun get hget => ?_
  · exact Option.some.inj hs ▸ faultOf_eq_none h
  · simp only [Schema.required, hget, h]

theorem Shows.possible {o : Option α} (h : Reading.optional read r = .ok o) :
    Shows (possible name read)
      [(⟨name, faultOf (Reading.optional read), true, false⟩, some r)] o := by
  refine .single rfl (fun s hs => ?_) fun get hget => ?_
  · exact Option.some.inj hs ▸ faultOf_eq_none h
  · simp only [Schema.possible, hget, h]

/-- A field with a value to fall back on: the value is only used where nothing stands. -/
theorem Shows.defaulted (b : α) {o : Option Reading} (h : ∀ r ∈ o, read r = .ok a)
    (hnone : o = none → a = b) :
    Shows (defaulted name b read) [(⟨name, faultOf read, true, true⟩, o)] a := by
  refine .single rfl (fun s hs => faultOf_eq_none (h s hs)) fun get hget => ?_
  cases o with
  | none => simp only [Schema.defaulted, hget, hnone rfl]
  | some r => simp only [Schema.defaulted, hget, h r rfl]

theorem Shows.given (b : α) (h : read r = .ok a) :
    Shows (Schema.defaulted name b read) [(⟨name, faultOf read, true, true⟩, some r)] a :=
  .defaulted name b (fun _ hs => Option.some.inj hs ▸ h) nofun

/-- A field that is left out where its value is absent. -/
theorem Shows.spared {write : α → Json} {e : Fault} (hnull : read .null = .error e) {o : Option α}
    (h : ∀ a ∈ o, Recovers read write a) :
    Shows (Schema.defaulted name none (Reading.optional read))
      [(⟨name, faultOf (Reading.optional read), true, true⟩,
        o.map fun a => ofJson (write a))] o := by
  refine .defaulted name none (fun r hr => ?_) fun hnone => Option.map_eq_none_iff.1 hnone
  obtain ⟨a, rfl, rfl⟩ := Option.map_eq_some_iff.1 hr
  exact Reading.recovers_some hnull (h a rfl)

end

/-! ### Reading a record -/

theorem find?_name {fields : List Field} (hnodup : (fields.map (·.name)).Nodup) {f : Field}
    (hf : f ∈ fields) : fields.find? (·.name == f.name) = some f := by
  induction fields with
  | nil => cases hf
  | cons g rest ih =>
    rw [List.map_cons, List.nodup_cons] at hnodup
    rcases List.mem_cons.1 hf with rfl | hf
    · exact List.find?_cons_of_pos (beq_self_eq_true _)
    · have hne : g.name ≠ f.name := fun heq => hnodup.1 (heq ▸ List.mem_map_of_mem hf)
      rw [List.find?_cons_of_neg (by simpa using hne), ih hnodup.2 hf]

theorem mem_shown {slots : List Slot} {m : String × Reading} :
    m ∈ shown slots ↔ ∃ p ∈ slots, p.1.name = m.1 ∧ p.2 = some m.2 := by
  simp [shown, Option.map_eq_some_iff, Prod.ext_iff, and_comm]

theorem shown_names_sublist (slots : List Slot) :
    ((shown slots).map (·.1)).Sublist (slots.map (·.1.name)) := by
  induction slots with
  | nil => exact List.Sublist.slnil
  | cons p rest ih =>
    cases hp : p.2 with
    | none =>
      rw [shown, List.filterMap_cons_none (by rw [hp]; rfl)]
      exact ih.cons _
    | some r =>
      rw [shown, List.filterMap_cons_some (by rw [hp]; rfl)]
      exact ih.cons_cons _

/-- Members that a record has, with nothing wrong and each of them once, are picked as they are. -/
theorem pick_ok {fields : List Field} {ms seen : List (String × Reading)}
    (hfields : ∀ m ∈ ms, ∃ f, fields.find? (·.name == m.1) = some f ∧ f.fault? m.2 = none)
    (hnodup : ((ms.reverse ++ seen).map (·.1)).Nodup) :
    pick fields seen (ms.map fun m => (some m.1, m.2)) = .ok (ms.reverse ++ seen) := by
  induction ms generalizing seen with
  | nil => rfl
  | cons m rest ih =>
    obtain ⟨f, hf, hfault⟩ := hfields m List.mem_cons_self
    rw [List.reverse_cons, List.append_assoc, List.singleton_append] at hnodup ⊢
    have hseen : seen.any (·.1 == m.1) = false := by
      rw [List.map_append, List.map_cons, List.nodup_middle, List.nodup_cons] at hnodup
      rw [List.any_eq_false]
      intro e he heq
      exact hnodup.1 (List.mem_append_right _ (eq_of_beq heq ▸ List.mem_map_of_mem he))
    rw [List.map_cons, pick, hf]
    simp only [hseen, Bool.false_eq_true, if_false, hfault]
    exact ih (fun n hn => hfields n (List.mem_cons_of_mem _ hn)) hnodup

theorem ofMembers_eq_map (ms : List (String × Json)) :
    ofMembers ms = ms.map fun m => (some m.1, ofJson m.2) := by
  induction ms with
  | nil => rfl
  | cons m rest ih => rw [ofMembers, ih, List.map_cons]

/-- **A record whose fields have different names is recovered from its members.** -/
theorem Shows.read {s : Schema α} {slots : List Slot} {a : α} (h : Shows s slots a)
    (hnodup : (s.fields.map (·.name)).Nodup) {ms : List (String × Json)}
    (hms : ms.map (fun m => (m.1, ofJson m.2)) = shown slots) :
    s.read (ofJson (.obj ms)) = .ok a := by
  have hslots : (slots.map (·.1.name)).Nodup := by
    rw [← h.fields, List.map_map] at hnodup
    exact hnodup
  have hshown : ((shown slots).reverse.map (·.1)).Nodup := by
    rw [List.map_reverse, List.nodup_reverse]
    exact hslots.sublist (shown_names_sublist slots)
  have hpick : pick s.fields [] ((shown slots).map fun m => (some m.1, m.2)) =
      .ok (shown slots).reverse := by
    rw [← List.append_nil (shown slots).reverse] at hshown ⊢
    refine pick_ok (fun m hm => ?_) hshown
    obtain ⟨p, hp, hname, hr⟩ := mem_shown.1 hm
    have hfield : p.1 ∈ s.fields := h.fields ▸ List.mem_map_of_mem hp
    exact ⟨p.1, hname ▸ find?_name hnodup hfield, h.faultless p hp m.2 hr⟩
  have hmembers : ofMembers ms = (shown slots).map fun m => (some m.1, m.2) := by
    rw [ofMembers_eq_map, ← hms, List.map_map]
    rfl
  rw [ofJson, hmembers, Schema.read, hpick]
  -- what was picked is found under the names of the fields, and nothing under any other
  refine h.build _ fun p hp => ?_
  cases hr : p.2 with
  | some r =>
    have hmem : (p.1.name, r) ∈ shown slots := mem_shown.2 ⟨p, hp, rfl, hr⟩
    exact Index.seek_eq_some hshown (List.mem_reverse.2 hmem)
  | none =>
    refine Index.seek_eq_none fun hmem => ?_
    obtain ⟨m, hm, hname⟩ := List.mem_map.1 hmem
    obtain ⟨q, hq, hqname, hqr⟩ := mem_shown.1 (List.mem_reverse.1 hm)
    obtain rfl := List.inj_on_of_nodup_map hslots hq hp (hqname.trans hname)
    rw [hr] at hqr
    cases hqr

end Schema

end Filing
