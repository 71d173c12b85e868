import Filing.Json.Reading
import Filing.Proofs.Numeral
import Mathlib.Tactic.IntervalCases

/-!
# JSON texts are read back

The text of a value is read as that value, whatever stands after it.

* `Reading.units?_escaped`, `Reading.textOf_units` — texts, with whatever characters they hold;
* `Numeral.ofChars?_intChars`, `Numeral.whole?_ofInt` — whole numbers;
* `Json.Fits` — every number in a value can be kept in sixty-four binary digits;
* `Reading.value_toChars` — by induction over the value, with the text after it free;
* `Reading.ofText?_toText` — **a text that was written for a value is read as that value**.
-/

set_option autoImplicit false

namespace Filing

/-! ## Texts -/

namespace Reading

open Json Text

/-- One more unit in front of those that have been read. -/
def pushUnit (u : Nat) (read : Option (List Nat × List Char)) : Option (List Nat × List Char) :=
  read.map fun p => (u :: p.1, p.2)

theorem units?_letter {l e : Char} (hl : l ≠ 'u') (he : escaped? l = some e) (cs : List Char) :
    units? ('\\' :: l :: cs) = pushUnit e.toNat (units? cs) := by
  rw [units?.eq_4 l cs fun _ _ _ _ _ h _ => hl h]
  simp only [he, pushUnit, bind, Option.bind_some, pure, Option.map_eq_bind]
  rfl

theorem hexDigit?_hexDigit : ∀ n < 16, hexDigit? (hexDigit n) = some n := by decide

theorem units?_hex {a b : Nat} (ha : a < 16) (hb : b < 16) (cs : List Char) :
    units? ('\\' :: 'u' :: '0' :: '0' :: hexDigit a :: hexDigit b :: cs) =
      pushUnit (16 * a + b) (units? cs) := by
  have hzero : hexDigit? '0' = some 0 := rfl
  have hunit : ((16 * 0 + 0) * 16 + a) * 16 + b = 16 * a + b := by omega
  rw [units?]
  simp only [hzero, hexDigit?_hexDigit a ha, hexDigit?_hexDigit b hb, pushUnit, bind,
    Option.bind_some, pure, hunit]
  exact (Option.map_eq_bind ..).symm

theorem units?_plain {c : Char} (hcontrol : ¬c.toNat < 32) (hquote : c ≠ '"') (hslash : c ≠ '\\')
    (cs : List Char) : units? (c :: cs) = pushUnit c.toNat (units? cs) := by
  have hguard : (decide (32 ≤ c.toNat) && c != '\\') = true := by
    rw [Bool.and_eq_true, decide_eq_true_eq, bne_iff_ne]
    exact ⟨Nat.le_of_not_lt hcontrol, hslash⟩
  rw [units?.eq_5 c cs hquote (fun _ _ _ _ _ h _ => hslash h) (fun _ _ h _ => hslash h), guard,
    if_pos hguard]
  exact (Option.map_eq_bind ..).symm

/-- A character is read back from its escape, if it has one. -/
theorem units?_escape (c : Char) (cs : List Char) :
    units? (escape c ++ cs) = pushUnit c.toNat (units? cs) := by
  rw [escape]
  split
  · subst c
    exact units?_letter (by decide) rfl cs
  split
  · subst c
    exact units?_letter (by decide) rfl cs
  split
  · subst c
    exact units?_letter (by decide) rfl cs
  split
  · subst c
    exact units?_letter (by decide) rfl cs
  split
  · subst c
    exact units?_letter (by decide) rfl cs
  split
  · next hb => exact hb ▸ units?_letter (e := '\x08') (by decide) rfl cs
  split
  · next hf => exact hf ▸ units?_letter (e := '\x0c') (by decide) rfl cs
  split
  · have hhex := units?_hex (a := c.toNat / 16) (b := c.toNat % 16) (by omega) (by omega) cs
    rwa [Nat.div_add_mod] at hhex
  · exact units?_plain ‹_› ‹_› ‹_› cs

theorem units?_escaped (cs rest : List Char) :
    units? (cs.flatMap escape ++ '"' :: rest) = some (cs.map Char.toNat, rest) := by
  induction cs with
  | nil => rfl
  | cons c cs ih =>
    rw [List.flatMap_cons, List.append_assoc, units?_escape, ih]
    rfl

/-- No character is half of a surrogate pair. -/
theorem not_isLow_toNat (c : Char) : isLow c.toNat = false ∧ isHigh c.toNat = false := by
  have hvalid : c.toNat < 0xD800 ∨ 0xDFFF < c.toNat ∧ c.toNat < 0x110000 := c.valid
  simp only [isLow, isHigh, Bool.and_eq_false_iff, decide_eq_false_iff_not]
  omega

theorem pairUp_map_toNat (cs : List Char) : pairUp (cs.map Char.toNat) = some cs := by
  induction cs with
  | nil => rfl
  | cons c cs ih =>
    obtain ⟨hlow, hhigh⟩ := not_isLow_toNat c
    rw [List.map_cons, pairUp.eq_def]
    simp only [hlow, hhigh, ih, Option.map_some, Char.ofNat_toNat, Bool.false_eq_true, if_false]

theorem textOf_units (s : String) : textOf (s.toList.map Char.toNat) = some s := by
  rw [textOf, pairUp_map_toNat, Option.map_some, String.ofList_toList]

end Reading

/-! ## Numbers -/

/-- Only nought is written with a nought in front. -/
theorem Text.head?_toDigits {n : Nat} (h : n ≠ 0) : (Nat.toDigits 10 n).head? ≠ some '0' := by
  induction n using Nat.strong_induction_on with
  | _ n ih =>
    rcases Nat.lt_or_ge n 10 with hlt | hge
    · interval_cases n <;> first | exact absurd rfl h | decide
    · obtain ⟨c, cs, hcons⟩ :=
        List.exists_cons_of_ne_nil (Nat.toDigits_ne_nil (b := 10) (n := n / 10))
      have hfirst := ih (n / 10) (by omega) (by omega)
      rw [hcons] at hfirst
      rwa [Nat.toDigits_of_base_le (by decide) hge, hcons]

namespace Numeral

open Json Text

/-- The text does not carry on a number that stands in front of it. -/
structure Ends (rest : List Char) : Prop where
  noDigit : NoDigitFirst rest
  noPoint : rest.head? ≠ some '.'
  noExponent : ∀ c ∈ rest.head?, c ≠ 'e' ∧ c ≠ 'E'

variable {rest : List Char}

theorem digits_toDigits (n : Nat) (h : Ends rest) :
    digits (Nat.toDigits 10 n ++ rest) = (Nat.toDigits 10 n, rest) := by
  have hdigits : ∀ c ∈ Nat.toDigits 10 n, c.isDigit = true :=
    fun _ => Nat.isDigit_of_mem_toDigits (by decide) (by decide)
  rw [digits, takeWhile_isDigit hdigits h.noDigit, dropWhile_isDigit hdigits h.noDigit]

theorem fractionPart?_of_ends (h : Ends rest) : fractionPart? rest = some ([], rest) := by
  cases rest with
  | nil => rfl
  | cons c rest => exact fractionPart?.eq_2 _ fun cs hc => h.noPoint (hc ▸ rfl)

theorem exponentPart?_of_ends (h : Ends rest) :
    exponentPart? rest = some ((false, []), rest) := by
  cases rest with
  | nil => rfl
  | cons c rest =>
    obtain ⟨hlower, hupper⟩ := h.noExponent c rfl
    rw [exponentPart?, if_neg (not_or.2 ⟨hlower, hupper⟩)]

/-- A whole number as it is written. -/
def ofInt (n : Int) : Numeral := ⟨n < 0, Nat.toDigits 10 n.natAbs, [], false, []⟩

theorem ofChars?_intChars (n : Int) (h : Ends rest) :
    ofChars? (intChars n ++ rest) = some (ofInt n, rest) := by
  obtain ⟨c, cs, hcons⟩ :=
    List.exists_cons_of_ne_nil (Nat.toDigits_ne_nil (b := 10) (n := n.natAbs))
  have hdigit : c.isDigit = true :=
    Nat.isDigit_of_mem_toDigits (by decide) (by decide) (hcons ▸ List.mem_cons_self)
  have hsign : ((intChars n ++ rest).head? = some '-') = (n < 0) := by
    have hc : c ≠ '-' := fun heq => by
      rw [heq] at hdigit
      cases hdigit
    rw [intChars, hcons]
    split <;> simp_all
  have htail : (if n < 0 then (intChars n ++ rest).tail else intChars n ++ rest) =
      Nat.toDigits 10 n.natAbs ++ rest := by
    rw [intChars]
    split <;> rfl
  have hguard : (!(Nat.toDigits 10 n.natAbs).isEmpty && ((Nat.toDigits 10 n.natAbs).length == 1 ||
      (Nat.toDigits 10 n.natAbs).head? != some '0')) = true := by
    by_cases hzero : n.natAbs = 0
    · rw [hzero]
      rfl
    · simp [Text.head?_toDigits hzero, Nat.toDigits_ne_nil]
  simp only [ofChars?, hsign, htail, digits_toDigits n.natAbs h, hguard, guard,
    fractionPart?_of_ends h, exponentPart?_of_ends h, bind, Option.bind_some, pure, if_true]
  rfl

theorem whole?_ofInt {n : Int} (hlow : minSigned ≤ n) (hhigh : n ≤ maxLong) :
    (ofInt n).whole? = some n := by
  simp only [whole?, ofInt, digits?_toDigits, Option.getD_some, List.isEmpty_nil, Bool.not_true,
    Bool.or_false, Bool.false_eq_true, if_false, decide_eq_true_eq]
  split
  · next hnegative =>
    have hvalue : -(n.natAbs : Int) = n := by omega
    rw [hvalue]
    exact Option.filter_some_pos (by simp [hnegative, hlow])
  · next hnegative =>
    have hvalue : (n.natAbs : Int) = n := by omega
    rw [hvalue]
    exact Option.filter_some_pos (by simp [hhigh])

end Numeral

/-! ## Values -/

/-- Every number in the value can be kept in sixty-four binary digits. -/
inductive Json.Fits : Json → Prop
  | null : Fits .null
  | bool (b : Bool) : Fits (.bool b)
  | int {n : Int} (hlow : Text.minSigned ≤ n) (hhigh : n ≤ Text.maxLong) : Fits (.int n)
  | str (s : String) : Fits (.str s)
  | arr {items : List Json} (h : ∀ v ∈ items, v.Fits) : Fits (.arr items)
  | obj {members : List (String × Json)} (h : ∀ m ∈ members, m.2.Fits) : Fits (.obj members)

namespace Json

@[simp] theorem fits_str (s : String) : (Json.str s).Fits := .str s

@[simp] theorem fits_bool (b : Bool) : (Json.bool b).Fits := .bool b

theorem fits_nat {n : Nat} (h : n ≤ Text.maxLong) : (nat n).Fits := by
  have hlow : Text.minSigned ≤ 0 := by decide
  exact .int (by omega) (by omega)

/-- Every number in the members can be kept in sixty-four binary digits. -/
def MembersFit (members : List (String × Json)) : Prop := ∀ m ∈ members, m.2.Fits

@[simp] theorem fits_obj {members : List (String × Json)} :
    (Json.obj members).Fits ↔ MembersFit members :=
  ⟨fun | .obj h => h, .obj⟩

@[simp] theorem membersFit_nil : MembersFit [] := nofun

@[simp] theorem membersFit_cons {m : String × Json} {members : List (String × Json)} :
    MembersFit (m :: members) ↔ m.2.Fits ∧ MembersFit members :=
  List.forall_mem_cons

@[simp] theorem membersFit_append {before after : List (String × Json)} :
    MembersFit (before ++ after) ↔ MembersFit before ∧ MembersFit after :=
  List.forall_mem_append

theorem membersFit_texts (es : List (String × String)) :
    MembersFit (es.map fun e => (e.1, .str e.2)) := by
  intro m hm
  obtain ⟨e, -, rfl⟩ := List.mem_map.1 hm
  exact fits_str e.2

variable {α : Type} {f : α → Json}

theorem membersFit_memberIf (h : ∀ a, (f a).Fits) (name : String) (o : Option α) :
    MembersFit (memberIf name f o) := by
  cases o with
  | none => exact membersFit_nil
  | some a => exact membersFit_cons.2 ⟨h a, membersFit_nil⟩

theorem fits_option (h : ∀ a, (f a).Fits) (o : Option α) : (option f o).Fits := by
  cases o with
  | none => exact .null
  | some a => exact h a

theorem fits_list (h : ∀ a, (f a).Fits) (as : List α) : (list f as).Fits := by
  refine .arr fun v hv => ?_
  obtain ⟨a, -, rfl⟩ := List.mem_map.1 hv
  exact h a

end Json

namespace Reading

open Json Text
open Numeral (Ends ofInt ofChars?_intChars whole?_ofInt)

variable {fuel : Nat} {rest : List Char}

theorem ends_nil : Ends [] := ⟨.nil, by simp, by simp⟩
theorem ends_comma : Ends (',' :: rest) := ⟨.cons rfl, by simp, by simp⟩
theorem ends_bracket : Ends (']' :: rest) := ⟨.cons rfl, by simp, by simp⟩
theorem ends_brace : Ends ('}' :: rest) := ⟨.cons rfl, by simp, by simp⟩

theorem skipSpace_cons {c : Char} (h : isSpace c = false) : skipSpace (c :: rest) = c :: rest := by
  rw [skipSpace, List.dropWhile_cons, h]
  rfl

/-- The text of a whole number starts with a digit or with its sign. -/
theorem exists_intChars (n : Int) :
    ∃ c cs, intChars n = c :: cs ∧ (c.isDigit = true ∨ c = '-') := by
  rw [intChars]
  split
  · exact ⟨'-', _, rfl, .inr rfl⟩
  · obtain ⟨c, cs, hcons⟩ :=
      List.exists_cons_of_ne_nil (Nat.toDigits_ne_nil (b := 10) (n := n.natAbs))
    exact ⟨c, cs, hcons, .inl <|
      Nat.isDigit_of_mem_toDigits (by decide) (by decide) (hcons ▸ List.mem_cons_self)⟩

section
variable {c : Char} (h : c.isDigit = true ∨ c = '-')
include h

theorem first_ne {d : Char} (hd : d.isDigit = false) (hminus : d ≠ '-') : c ≠ d := by
  rintro rfl
  rcases h with h | h
  · rw [hd] at h
    cases h
  · exact hminus h

theorem not_isSpace : isSpace c = false := by
  have hne {d : Char} (hd : d.isDigit = false) (hminus : d ≠ '-') : (c == d) = false :=
    beq_false_of_ne (first_ne h hd hminus)
  rw [isSpace, hne rfl (by decide), hne rfl (by decide), hne rfl (by decide), hne rfl (by decide)]
  rfl

end

theorem value_int {n : Int} (hlow : minSigned ≤ n) (hhigh : n ≤ maxLong) (h : Ends rest) :
    value (fuel + 1) (intChars n ++ rest) = (.int n, some rest) := by
  obtain ⟨c, cs, hcons, hfirst⟩ := exists_intChars n
  have hread := ofChars?_intChars n h
  have hnumeral : ofNumeral (ofInt n) = .int n := by
    rw [ofNumeral, whole?_ofInt hlow hhigh]
  rw [hcons, List.cons_append] at hread ⊢
  rw [value, skipSpace_cons (not_isSpace hfirst)]
  split
  case h_7 => simp only [hread, hnumeral]
  -- the other values start with a mark or a letter
  all_goals next heq => exact absurd (List.cons.inj heq).1 (first_ne hfirst rfl (by decide))

theorem value_str (s : String) :
    value (fuel + 1) (quote s ++ rest) = (.str s, some rest) := by
  have hunits := units?_escaped s.toList rest
  simp only [quote, List.cons_append, List.append_assoc, List.nil_append]
  rw [value, skipSpace_cons rfl]
  simp only [hunits, textOf_units, Option.map_some, Option.getD_some]

/-- The text of a value starts with what is no white space and closes no array. -/
theorem exists_toChars (j : Json) : ∃ c cs, j.toChars = c :: cs ∧ isSpace c = false ∧ c ≠ ']' := by
  cases j with
  | null => exact ⟨'n', _, rfl, rfl, by decide⟩
  | bool b => cases b <;> exact ⟨_, _, rfl, rfl, by decide⟩
  | int n =>
    obtain ⟨c, cs, hcons, hfirst⟩ := exists_intChars n
    exact ⟨c, cs, hcons, not_isSpace hfirst, first_ne hfirst rfl (by decide)⟩
  | str s => exact ⟨'"', _, rfl, rfl, by decide⟩
  | arr items => exact ⟨'[', _, rfl, rfl, by decide⟩
  | obj members => exact ⟨'{', _, rfl, rfl, by decide⟩

theorem value_arr {items : List Json} {vs : List Reading} (hne : items ≠ [])
    (h : itemList fuel (itemChars items ++ rest) = (vs, some rest)) :
    value (fuel + 1) (toChars (.arr items) ++ rest) = (.arr vs true, some rest) := by
  obtain ⟨v, more, rfl⟩ := List.exists_cons_of_ne_nil hne
  obtain ⟨c, cs, hcons, hspace, hclose⟩ := exists_toChars v
  rw [itemChars, hcons, List.cons_append, List.cons_append, List.cons_append] at h
  rw [toChars, List.cons_append, value, skipSpace_cons rfl, itemChars, hcons, List.cons_append,
    List.cons_append, List.cons_append]
  simp only [skipSpace_cons hspace]
  split
  · next heq => exact absurd (List.cons.inj heq).1 hclose
  · rw [h]
    rfl

theorem value_obj {members : List (String × Json)} {ms : List (Option String × Reading)}
    (hne : members ≠ [])
    (h : memberList fuel (memberChars members ++ rest) = (ms, some rest)) :
    value (fuel + 1) (toChars (.obj members) ++ rest) = (.obj ms true, some rest) := by
  obtain ⟨⟨name, v⟩, more, rfl⟩ := List.exists_cons_of_ne_nil hne
  rw [memberChars, quote] at h
  simp only [List.cons_append] at h
  rw [toChars, List.cons_append, value, skipSpace_cons rfl, memberChars, quote]
  simp only [List.cons_append, skipSpace_cons (c := '"') rfl]
  split
  · next heq => exact absurd (List.cons.inj heq).1 (by decide)
  · rw [h]
    rfl

section
variable {v : Json} {r : Reading}

theorem itemList_last (h : value fuel (v.toChars ++ ']' :: rest) = (r, some (']' :: rest))) :
    itemList (fuel + 1) (itemChars [v] ++ rest) = ([r], some rest) := by
  have hchars : itemChars [v] ++ rest = v.toChars ++ ']' :: rest := by simp [itemChars]
  rw [hchars, itemList, h]
  simp only [skipSpace_cons (c := ']') rfl]

theorem itemList_more {items : List Json} {rs : List Reading} (hne : items ≠ [])
    (h : value fuel (v.toChars ++ ',' :: (itemChars items ++ rest)) =
      (r, some (',' :: (itemChars items ++ rest))))
    (hitems : itemList fuel (itemChars items ++ rest) = (rs, some rest)) :
    itemList (fuel + 1) (itemChars (v :: items) ++ rest) = (r :: rs, some rest) := by
  have hchars : itemChars (v :: items) ++ rest = v.toChars ++ ',' :: (itemChars items ++ rest) := by
    simp [itemChars, hne]
  rw [hchars, itemList, h]
  simp only [skipSpace_cons (c := ',') rfl, hitems]

theorem memberList_last (name : String)
    (h : value fuel (v.toChars ++ '}' :: rest) = (r, some ('}' :: rest))) :
    memberList (fuel + 1) (memberChars [(name, v)] ++ rest) = ([(some name, r)], some rest) := by
  have hchars : memberChars [(name, v)] ++ rest =
      '"' :: (name.toList.flatMap escape ++ '"' :: ':' :: (v.toChars ++ '}' :: rest)) := by
    simp [memberChars, quote]
  rw [hchars, memberList, skipSpace_cons rfl]
  simp only [units?_escaped, skipSpace_cons (c := ':') rfl, h, skipSpace_cons (c := '}') rfl,
    textOf_units]

theorem memberList_more (name : String) {members : List (String × Json)}
    {ms : List (Option String × Reading)} (hne : members ≠ [])
    (h : value fuel (v.toChars ++ ',' :: (memberChars members ++ rest)) =
      (r, some (',' :: (memberChars members ++ rest))))
    (hmembers : memberList fuel (memberChars members ++ rest) = (ms, some rest)) :
    memberList (fuel + 1) (memberChars ((name, v) :: members) ++ rest) =
      ((some name, r) :: ms, some rest) := by
  have hchars : memberChars ((name, v) :: members) ++ rest =
      '"' :: (name.toList.flatMap escape ++
        '"' :: ':' :: (v.toChars ++ ',' :: (memberChars members ++ rest))) := by
    simp [memberChars, quote, hne]
  rw [hchars, memberList, skipSpace_cons rfl]
  simp only [units?_escaped, skipSpace_cons (c := ':') rfl, h, skipSpace_cons (c := ',') rfl,
    textOf_units, hmembers]

end

/-! ## Whole values -/

section
variable (v w : Json) (items : List Json) (name : String) (n : String × Json)
  (members : List (String × Json))

theorem length_itemChars_last : (itemChars [v]).length = v.toChars.length + 1 := by
  simp [itemChars]

theorem length_itemChars_more :
    (itemChars (v :: w :: items)).length =
      v.toChars.length + 1 + (itemChars (w :: items)).length := by
  rw [itemChars, List.length_append, List.length_append]
  rfl

theorem length_memberChars_last :
    (memberChars [(name, v)]).length = (quote name).length + 1 + v.toChars.length + 1 := by
  simp only [memberChars, List.length_append, List.length_cons, List.isEmpty_nil, if_true,
    List.length_nil]
  omega

theorem length_memberChars_more :
    (memberChars ((name, v) :: n :: members)).length =
      (quote name).length + 1 + v.toChars.length + 1 + (memberChars (n :: members)).length := by
  rw [memberChars, List.length_append, List.length_append, List.length_append, List.length_cons]
  simp only [List.isEmpty_cons, Bool.false_eq_true, if_false, List.length_singleton]
  omega

end

mutual

/-- A text is read in fewer steps than twice its length: a value takes one step more than its parts,
whose text is shorter by a bracket; and a part takes one step more than its value and than the parts
after it, whose texts are shorter by a mark. -/
theorem value_toChars : ∀ (j : Json) {fuel : Nat} {rest : List Char}, j.Fits →
    2 * j.toChars.length ≤ fuel → Ends rest → value fuel (j.toChars ++ rest) = (ofJson j, some rest)
  | .null, fuel + 1, _, _, _, _ => rfl
  | .bool b, fuel + 1, _, _, _, _ => by cases b <;> rfl
  | .int n, fuel + 1, _, .int hlow hhigh, _, hrest => value_int hlow hhigh hrest
  | .str s, fuel + 1, _, _, _, _ => value_str s
  | .arr [], fuel + 1, _, _, _, _ => rfl
  | .arr (v :: items), fuel + 1, _, .arr h, hfuel, _ => by
    rw [toChars, List.length_cons] at hfuel
    have hne : v :: items ≠ [] := List.cons_ne_nil v items
    exact value_arr hne (itemList_itemChars (v :: items) hne h (by omega))
  | .obj [], fuel + 1, _, _, _, _ => rfl
  | .obj (m :: members), fuel + 1, _, .obj h, hfuel, _ => by
    rw [toChars, List.length_cons] at hfuel
    have hne : m :: members ≠ [] := List.cons_ne_nil m members
    exact value_obj hne (memberList_memberChars (m :: members) hne h (by omega))
  | j, 0, _, _, hfuel, _ => by
    obtain ⟨c, cs, hcons, -⟩ := exists_toChars j
    rw [hcons] at hfuel
    cases hfuel
termination_by structural j => j

theorem itemList_itemChars : ∀ (items : List Json) {fuel : Nat} {rest : List Char}, items ≠ [] →
    (∀ v ∈ items, v.Fits) → 2 * (itemChars items).length ≤ fuel + 1 →
    itemList fuel (itemChars items ++ rest) = (ofItems items, some rest)
  | [], _, _, hne, _, _ => absurd rfl hne
  | [v], fuel, rest, _, h, hfuel => by
    rw [length_itemChars_last] at hfuel
    obtain ⟨fuel, rfl⟩ := Nat.exists_eq_add_of_le' (by omega : 1 ≤ fuel)
    exact itemList_last (value_toChars v (h v List.mem_cons_self) (by omega) ends_bracket)
  | v :: w :: items, fuel, rest, _, h, hfuel => by
    rw [length_itemChars_more] at hfuel
    obtain ⟨fuel, rfl⟩ := Nat.exists_eq_add_of_le' (by omega : 1 ≤ fuel)
    have hne : w :: items ≠ [] := List.cons_ne_nil w items
    have hrest : ∀ u ∈ w :: items, u.Fits := fun u hu => h u (List.mem_cons_of_mem _ hu)
    exact itemList_more hne (value_toChars v (h v List.mem_cons_self) (by omega) ends_comma)
      (itemList_itemChars (w :: items) hne hrest (by omega))
termination_by structural items => items

theorem memberList_memberChars : ∀ (members : List (String × Json)) {fuel : Nat}
    {rest : List Char}, members ≠ [] → (∀ m ∈ members, m.2.Fits) →
    2 * (memberChars members).length ≤ fuel + 1 →
    memberList fuel (memberChars members ++ rest) = (ofMembers members, some rest)
  | [], _, _, hne, _, _ => absurd rfl hne
  | [(name, v)], fuel, rest, _, h, hfuel => by
    rw [length_memberChars_last] at hfuel
    obtain ⟨fuel, rfl⟩ := Nat.exists_eq_add_of_le' (by omega : 1 ≤ fuel)
    exact memberList_last name
      (value_toChars v (h (name, v) List.mem_cons_self) (by omega) ends_brace)
  | (name, v) :: m :: members, fuel, rest, _, h, hfuel => by
    rw [length_memberChars_more] at hfuel
    obtain ⟨fuel, rfl⟩ := Nat.exists_eq_add_of_le' (by omega : 1 ≤ fuel)
    have hne : m :: members ≠ [] := List.cons_ne_nil m members
    have hrest : ∀ o ∈ m :: members, o.2.Fits := fun o ho => h o (List.mem_cons_of_mem _ ho)
    exact memberList_more name hne
      (value_toChars v (h (name, v) List.mem_cons_self) (by omega) ends_comma)
      (memberList_memberChars (m :: members) hne hrest (by omega))
termination_by structural members => members

end

/-- **A text that was written for a value is read as that value.** -/
theorem ofText?_toText {j : Json} (h : j.Fits) : ofText? j.toText = some (ofJson j) := by
  have hlength : j.toText.length = j.toChars.length := by rw [toText, String.length_ofList]
  have hread : value (2 * j.toText.length + 2) (j.toChars ++ []) = (ofJson j, some []) :=
    value_toChars j h (by omega) ends_nil
  rw [List.append_nil] at hread
  rw [ofText?, toText, String.toList_ofList, ← toText, hread]
  rfl

end Reading

end Filing
