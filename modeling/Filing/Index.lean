/-!
# Values under texts

An `Index` keeps one value under each of its keys, which are texts, and lists them in the order of
the keys.  Texts are ordered character by character, by code point.

* `Index.find?`, `Index.insert`, `Index.ofList` — a later value replaces an earlier one;
* `Index.find?_insert`, `Index.find?_ofList` — what `insert` and `ofList` do to every look-up;
* `Index.find?_eq_some_iff` — what is found is what is listed;
* `Index.ext` — an index is determined by what it lists.
-/

set_option autoImplicit false

namespace Filing

/-- Values under texts, listed by increasing text. -/
structure Index (α : Type) where
  entries : List (String × α)
  sorted : entries.Pairwise (fun a b => a.1 < b.1)

namespace Index

variable {α : Type}

/-- No values. -/
def empty : Index α := ⟨[], List.Pairwise.nil⟩

instance : Inhabited (Index α) := ⟨empty⟩

theorem ext {a b : Index α} (h : a.entries = b.entries) : a = b := by
  cases a
  cases b
  cases h
  rfl

instance [DecidableEq α] : DecidableEq (Index α) := fun a b =>
  decidable_of_iff (a.entries = b.entries) ⟨ext, fun h => h ▸ rfl⟩

/-- The first value that a list of entries has under a key. -/
def seek (key : String) : List (String × α) → Option α
  | [] => none
  | e :: rest => if key = e.1 then some e.2 else seek key rest

/-- The value under a key. -/
def find? (a : Index α) (key : String) : Option α :=
  seek key a.entries

/-- The values, by increasing key. -/
def values (a : Index α) : List α :=
  a.entries.map (·.2)

/-- A value put into its place among entries with increasing keys. -/
def place (key : String) (value : α) : List (String × α) → List (String × α)
  | [] => [(key, value)]
  | e :: rest =>
    if key < e.1 then (key, value) :: e :: rest
    else if key = e.1 then (key, value) :: rest
    else e :: place key value rest

theorem mem_place {key : String} {value : α} {es : List (String × α)} {e : String × α}
    (h : e ∈ place key value es) : e = (key, value) ∨ e ∈ es := by
  induction es with
  | nil => simpa [place] using h
  | cons e' rest ih =>
    rw [place] at h
    split at h
    · simpa using h
    split at h
    · rcases List.mem_cons.1 h with h | h
      · exact Or.inl h
      · exact Or.inr (List.mem_cons_of_mem _ h)
    · rcases List.mem_cons.1 h with h | h
      · exact Or.inr (h ▸ List.mem_cons_self)
      · exact (ih h).imp_right (List.mem_cons_of_mem _)

theorem sorted_place {key : String} {value : α} {es : List (String × α)}
    (h : es.Pairwise (fun a b => a.1 < b.1)) :
    (place key value es).Pairwise (fun a b => a.1 < b.1) := by
  induction es with
  | nil => simp [place]
  | cons e rest ih =>
    have hrest := List.pairwise_cons.1 h
    rw [place]
    split
    · next hlt =>
      refine List.pairwise_cons.2 ⟨fun x hx => ?_, h⟩
      rcases List.mem_cons.1 hx with rfl | hx
      · exact hlt
      · exact String.lt_trans hlt (hrest.1 x hx)
    split
    · next heq => exact List.pairwise_cons.2 ⟨fun x hx => heq ▸ hrest.1 x hx, hrest.2⟩
    · next hlt hne =>
      refine List.pairwise_cons.2 ⟨fun x hx => ?_, ih hrest.2⟩
      rcases mem_place hx with rfl | hx
      · exact Std.lt_of_le_of_ne hlt (Ne.symm hne)
      · exact hrest.1 x hx

/-- The index with a value put under a key, in place of the one that is there. -/
def insert (a : Index α) (key : String) (value : α) : Index α :=
  ⟨place key value a.entries, sorted_place a.sorted⟩

/-- The index of a list of values with their keys; a later value replaces an earlier one. -/
def ofList (es : List (String × α)) : Index α :=
  es.foldl (fun (a : Index α) (e : String × α) => a.insert e.1 e.2) empty

theorem seek_place {key key' : String} {value : α} {es : List (String × α)} :
    seek key' (place key value es) = if key' = key then some value else seek key' es := by
  induction es with
  | nil => rfl
  | cons e rest ih =>
    rw [place]
    split
    · rfl
    split
    · next heq =>
      subst heq
      simp only [seek]
      split <;> rfl
    · next hne =>
      simp only [seek, ih]
      by_cases hk : key' = e.1
      · simp [hk, Ne.symm hne]
      · simp [hk]

/-- After `insert`, the key holds the new value and every other key what it held before. -/
theorem find?_insert (a : Index α) (key key' : String) (value : α) :
    (a.insert key value).find? key' = if key' = key then some value else a.find? key' :=
  seek_place

@[simp] theorem find?_empty (key : String) : (empty : Index α).find? key = none := rfl

/-! ## What an index lists -/

section
variable {es : List (String × α)} {key : String} {value : α}

theorem seek_eq_some (hnodup : (es.map (·.1)).Nodup) (h : (key, value) ∈ es) :
    seek key es = some value := by
  induction es with
  | nil => cases h
  | cons e rest ih =>
    rw [List.map_cons, List.nodup_cons] at hnodup
    rcases List.mem_cons.1 h with rfl | h
    · exact if_pos rfl
    · have hne : key ≠ e.1 := fun heq => hnodup.1 (heq ▸ List.mem_map_of_mem h)
      rw [seek, if_neg hne, ih hnodup.2 h]

theorem seek_eq_none (h : key ∉ es.map (·.1)) : seek key es = none := by
  induction es with
  | nil => rfl
  | cons e rest ih =>
    obtain ⟨hne, hrest⟩ := List.ne_and_not_mem_of_not_mem_cons h
    rw [seek, if_neg hne, ih hrest]

theorem mem_of_seek (h : seek key es = some value) : (key, value) ∈ es := by
  induction es with
  | nil => cases h
  | cons e rest ih =>
    rw [seek] at h
    split at h
    · next heq =>
      obtain rfl := Option.some.inj h
      rw [heq]
      exact List.mem_cons_self
    · exact List.mem_cons_of_mem _ (ih h)

/-- What is found under a key is what is listed with it. -/
theorem find?_eq_some_iff {a : Index α} : a.find? key = some value ↔ (key, value) ∈ a.entries := by
  refine ⟨mem_of_seek, seek_eq_some ?_⟩
  refine List.pairwise_map.2 (a.sorted.imp fun hlt heq => ?_)
  exact String.lt_irrefl _ (heq ▸ hlt)

theorem seek_append (key : String) (es es' : List (String × α)) :
    seek key (es ++ es') = (seek key es).or (seek key es') := by
  induction es with
  | nil => rfl
  | cons e rest ih =>
    rw [List.cons_append, seek, seek]
    split
    · rfl
    · exact ih

/-- Under each key the last value is found that the index was made of. -/
theorem find?_ofList (es : List (String × α)) (key : String) :
    (ofList es).find? key = seek key es.reverse := by
  have hfold (a : Index α) :
      (es.foldl (fun (a : Index α) (e : String × α) => a.insert e.1 e.2) a).find? key =
        (seek key es.reverse).or (a.find? key) := by
    induction es generalizing a with
    | nil => rfl
    | cons e rest ih =>
      rw [List.foldl_cons, ih, find?_insert, List.reverse_cons, seek_append, Option.or_assoc]
      congr 1
      rw [seek]
      split <;> rfl
  rw [ofList, hfold, find?_empty, Option.or_none]

/-- An index lists nothing but what it was made of. -/
theorem mem_of_mem_ofList {e : String × α} (h : e ∈ (ofList es).entries) : e ∈ es := by
  have hfound : (ofList es).find? e.1 = some e.2 := find?_eq_some_iff.2 h
  rw [find?_ofList] at hfound
  exact List.mem_reverse.1 (mem_of_seek hfound)

end

end Index

end Filing
