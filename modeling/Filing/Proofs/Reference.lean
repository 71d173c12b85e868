import Filing.Reference
import Mathlib.Data.List.GetD

/-!
# The references of a template

A template leaves exactly those references that it accepts.  No other one can be drawn, and none of
them is out of reach: whatever symbol is wanted, some word draws it at the first attempt.

* `Reference.wordOf`, `Reference.isAccepted_wordOf`, `Reference.symbolOf_wordOf` — a word for the
  symbol at a place;
* `Reference.Draws` — which words a reference takes, placeholder by placeholder: any number that are
  passed over, and one that draws;
* `Reference.generateChars?_eq_some_iff` — **the generator does just that**, and leaves the other
  words alone;
* `Reference.Draws.acceptsChars`, `Reference.exists_draws` — what can be drawn is what is accepted;
* `Reference.Draws.symbolAt`, `Reference.Draws.length_eq` — which words it takes, and how many;
* `Reference.drawable` — the three together.
-/

set_option autoImplicit false

namespace Filing.Reference

variable {word : UInt64} {words used rest : List UInt64} {template cs : List Char} {c : Char}

/-! ## One symbol -/

theorem product_div_lt (word : UInt64) : product word / UInt64.size < symbols.length := by
  have hword : word.toNat < UInt64.size := word.toNat_lt_size
  have hlength : symbols.length = 29 := by decide
  rw [hlength, product, Nat.div_lt_iff_lt_mul (by decide)]
  omega

theorem symbolOf_mem (word : UInt64) : symbolOf word ∈ symbols := by
  rw [symbolOf, List.getD_eq_getElem _ _ (product_div_lt word)]
  exact List.getElem_mem _

/-- The least word whose product has the given high half. -/
def wordOf (place : Nat) : UInt64 :=
  UInt64.ofNat ((place * UInt64.size + 28) / 29)

variable {place : Nat}

theorem toNat_wordOf (h : place < 29) :
    (wordOf place).toNat = (place * UInt64.size + 28) / 29 := by
  refine UInt64.toNat_ofNat_of_lt' ?_
  rw [UInt64.size]
  omega

/-- The low half of the product is less than the number of symbols, so it is never passed over. -/
theorem product_wordOf (h : place < 29) :
    product (wordOf place) / UInt64.size = place ∧ product (wordOf place) % UInt64.size < 29 := by
  have hsize : UInt64.size = 18446744073709551616 := rfl
  obtain ⟨low, hlow, hsum⟩ : ∃ low, low < 29 ∧
      (place * UInt64.size + 28) / 29 * 29 = place * UInt64.size + low := by
    rw [hsize]
    exact ⟨(place * 18446744073709551616 + 28) / 29 * 29 - place * 18446744073709551616,
      by omega, by omega⟩
  rw [product, toNat_wordOf h, hsum, hsize]
  omega

theorem isAccepted_wordOf (h : place < 29) : isAccepted (wordOf place) = true := by
  have hzone : 29 ≤ zone := by decide
  exact decide_eq_true (Nat.le_trans (Nat.le_of_lt (product_wordOf h).2) hzone)

theorem symbolOf_wordOf (h : place < symbols.length) :
    symbolOf (wordOf place) = symbols[place] := by
  rw [symbolOf, (product_wordOf h).1, List.getD_eq_getElem _ _ h]

/-- Every symbol can be drawn. -/
theorem exists_word (h : c ∈ symbols) : ∃ word, isAccepted word = true ∧ symbolOf word = c := by
  obtain ⟨place, hplace, rfl⟩ := List.getElem_of_mem h
  exact ⟨wordOf place, isAccepted_wordOf hplace, symbolOf_wordOf hplace⟩

/-- A symbol is drawn by the first word that is not passed over. -/
theorem draw?_append {passed : List UInt64} (hpassed : ∀ w ∈ passed, isAccepted w = false)
    (hword : isAccepted word = true) (rest : List UInt64) :
    draw? (passed ++ word :: rest) = some (symbolOf word, rest) := by
  induction passed with
  | nil => simp [draw?, hword]
  | cons w passed ih =>
    obtain ⟨hw, hpassed⟩ := List.forall_mem_cons.1 hpassed
    simp [draw?, hw, ih hpassed]

theorem exists_of_draw? (h : draw? words = some (c, rest)) :
    ∃ passed word, words = passed ++ word :: rest ∧ (∀ w ∈ passed, isAccepted w = false) ∧
      isAccepted word = true ∧ symbolOf word = c := by
  induction words with
  | nil => simp [draw?] at h
  | cons w words ih =>
    rw [draw?] at h
    split at h
    · next hw =>
      obtain ⟨rfl, rfl⟩ := Prod.mk.inj (Option.some.inj h)
      exact ⟨[], w, rfl, List.forall_mem_nil _, hw, rfl⟩
    · next hw =>
      obtain ⟨passed, word, rfl, hpassed, hword, hsymbol⟩ := ih h
      have hw : isAccepted w = false := by simpa using hw
      exact ⟨w :: passed, word, rfl, List.forall_mem_cons.2 ⟨hw, hpassed⟩, hword, hsymbol⟩

/-! ## Whole references -/

/-- From the template the words draw the characters, and all of the words are taken. -/
inductive Draws : List Char → List UInt64 → List Char → Prop where
  | nil : Draws [] [] []
  /-- What is no placeholder takes no word. -/
  | plain {template : List Char} {used : List UInt64} {cs : List Char} {c : Char}
    (hplain : c ≠ placeholder) (h : Draws template used cs) : Draws (c :: template) used (c :: cs)
  /-- A placeholder takes words up to the first one that draws. -/
  | symbol {template : List Char} {used : List UInt64} {cs : List Char} {passed : List UInt64}
    {word : UInt64} (hpassed : ∀ w ∈ passed, isAccepted w = false)
    (hword : isAccepted word = true) (h : Draws template used cs) :
    Draws (placeholder :: template) (passed ++ word :: used) (symbolOf word :: cs)

/-- The words that a reference takes draw it, whatever words come after them. -/
theorem Draws.generateChars?_append (h : Draws template used cs) (rest : List UInt64) :
    generateChars? template (used ++ rest) = some (cs, rest) := by
  induction h with
  | nil => rfl
  | plain hplain _ ih => simp only [generateChars?, if_neg hplain, ih, bind, Option.bind, pure]
  | @symbol template used cs passed word hpassed hword _ ih =>
    have hdraw := draw?_append hpassed hword (used ++ rest)
    rw [← List.cons_append, ← List.append_assoc] at hdraw
    simp only [generateChars?, hdraw, ih, if_true, bind, Option.bind, pure]

/-- **The generator takes words from the front, as many as the reference takes, and leaves the
others alone.** -/
theorem generateChars?_eq_some_iff :
    generateChars? template words = some (cs, rest) ↔
      ∃ used, words = used ++ rest ∧ Draws template used cs := by
  refine ⟨fun h => ?_, fun ⟨used, hwords, h⟩ => hwords ▸ h.generateChars?_append rest⟩
  induction template generalizing words cs with
  | nil =>
    obtain ⟨rfl, rfl⟩ := Prod.mk.inj (Option.some.inj h)
    exact ⟨[], rfl, .nil⟩
  | cons c template ih =>
    rw [generateChars?] at h
    split at h
    · next hc =>
      obtain ⟨⟨symbol, words'⟩, hdraw, h⟩ := Option.bind_eq_some_iff.1 h
      obtain ⟨⟨cs', rest'⟩, hmore, h⟩ := Option.bind_eq_some_iff.1 h
      obtain ⟨rfl, rfl⟩ := Prod.mk.inj (Option.some.inj h)
      obtain ⟨passed, word, rfl, hpassed, hword, rfl⟩ := exists_of_draw? hdraw
      obtain ⟨used, rfl, hdraws⟩ := ih hmore
      exact ⟨passed ++ word :: used, by simp, hc ▸ .symbol hpassed hword hdraws⟩
    · next hc =>
      obtain ⟨⟨cs', rest'⟩, hmore, h⟩ := Option.bind_eq_some_iff.1 h
      obtain ⟨rfl, rfl⟩ := Prod.mk.inj (Option.some.inj h)
      obtain ⟨used, rfl, hdraws⟩ := ih hmore
      exact ⟨used, rfl, .plain hc hdraws⟩

/-- Nothing is drawn that the template does not accept. -/
theorem Draws.acceptsChars (h : Draws template used cs) : acceptsChars template cs = true := by
  induction h with
  | nil => rfl
  | plain hplain _ ih => simp [Reference.acceptsChars, hplain, ih]
  | @symbol _ _ _ _ word _ _ _ ih =>
    simp [Reference.acceptsChars, symbolOf_mem word, ih]

/-- In the place of a placeholder stands a symbol that one of the words draws. -/
theorem Draws.symbolAt (h : Draws template used cs) {place : Nat}
    (hplace : template[place]? = some placeholder) :
    ∃ word ∈ used, isAccepted word = true ∧ cs[place]? = some (symbolOf word) := by
  induction h generalizing place with
  | nil => simp at hplace
  | plain hplain _ ih =>
    cases place with
    | zero => exact absurd (Option.some.inj hplace) hplain
    | succ place => exact ih hplace
  | @symbol _ used _ passed word _ hword _ ih =>
    cases place with
    | zero => exact ⟨word, by simp, hword, rfl⟩
    | succ place =>
      obtain ⟨w, hw, haccepted, hsymbol⟩ := ih hplace
      exact ⟨w, by simp [hw], haccepted, hsymbol⟩

/-- It takes a word for each placeholder, and the words that are passed over. -/
theorem Draws.length_eq (h : Draws template used cs) :
    used.length = template.count placeholder + used.countP (!isAccepted ·) := by
  induction h with
  | nil => rfl
  | plain hplain _ ih => rwa [List.count_cons_of_ne hplain]
  | @symbol template used cs passed word hpassed hword _ ih =>
    have hall : passed.countP (!isAccepted ·) = passed.length :=
      List.countP_eq_length.2 fun w hw => by simp [hpassed w hw]
    rw [List.length_append, List.length_cons, List.count_cons_self, List.countP_append,
      List.countP_cons_of_neg (by simp [hword]), hall]
    omega

/-- Whatever the template accepts can be drawn without a word being passed over. -/
theorem exists_draws (h : acceptsChars template cs = true) :
    ∃ used, used.length = template.count placeholder ∧ Draws template used cs := by
  induction template generalizing cs with
  | nil =>
    cases cs with
    | nil => exact ⟨[], rfl, .nil⟩
    | cons c cs => cases h
  | cons t template ih =>
    cases cs with
    | nil => cases h
    | cons c cs =>
      obtain ⟨hc, hcs⟩ := Bool.and_eq_true_iff.1 h
      obtain ⟨used, hlength, hdraws⟩ := ih hcs
      split at hc
      · next ht =>
        subst ht
        obtain ⟨word, hword, rfl⟩ := exists_word (List.contains_iff_mem.1 hc)
        refine ⟨[] ++ word :: used, ?_, .symbol (fun _ h => absurd h List.not_mem_nil) hword hdraws⟩
        rw [List.nil_append, List.length_cons, hlength, List.count_cons_self]
      · next ht =>
        obtain rfl := beq_iff_eq.1 hc
        exact ⟨used, by rw [hlength, List.count_cons_of_ne ht], .plain ht hdraws⟩

/-! ## Texts -/

theorem generate?_eq_some_iff {template reference : String} :
    generate? template words = some (reference, rest) ↔
      ∃ used, words = used ++ rest ∧ Draws template.toList used reference.toList := by
  rw [generate?, Option.map_eq_some_iff, ← generateChars?_eq_some_iff]
  constructor
  · rintro ⟨⟨cs, rest'⟩, h, heq⟩
    obtain ⟨rfl, rfl⟩ := Prod.mk.inj heq
    rwa [String.toList_ofList]
  · exact fun h => ⟨_, h, by rw [String.ofList_toList]⟩

/-- **What can be drawn from a template is what it accepts.**

* Whatever the words, what is drawn is accepted.
* What is accepted is drawn from some words, one for each placeholder.
* Words are taken from the front: one for each placeholder, and those that are passed over.  What
  comes after them makes no difference. -/
theorem drawable (template : String) :
    (∀ words reference rest, generate? template words = some (reference, rest) →
      accepts template reference = true) ∧
    (∀ candidate, accepts template candidate = true →
      ∃ words : List UInt64, words.length = placeholders template ∧
        generate? template words = some (candidate, [])) ∧
    ∀ words reference rest, generate? template words = some (reference, rest) →
      ∃ used, words = used ++ rest ∧
        used.length = placeholders template + used.countP (!isAccepted ·) ∧
        ∀ more, generate? template (used ++ more) = some (reference, more) := by
  refine ⟨fun words reference rest h => ?_, fun candidate h => ?_,
    fun words reference rest h => ?_⟩
  · obtain ⟨used, -, hdraws⟩ := generate?_eq_some_iff.1 h
    exact hdraws.acceptsChars
  · obtain ⟨used, hlength, hdraws⟩ := exists_draws h
    exact ⟨used, hlength, generate?_eq_some_iff.2 ⟨used, (List.append_nil used).symm, hdraws⟩⟩
  · obtain ⟨used, hwords, hdraws⟩ := generate?_eq_some_iff.1 h
    exact ⟨used, hwords, hdraws.length_eq,
      fun more => generate?_eq_some_iff.2 ⟨used, rfl, hdraws⟩⟩

/-- The first of the words is passed over, the last one is left. -/
theorem drawable_passedOver :
    accepts "A#-é#" "AY-éQ" = true ∧
      (∃ words : List UInt64, words.length = 2 ∧
        generate? "A#-é#" words = some ("AY-éQ", [])) ∧
      ∃ used : List UInt64, [0xFFFFFFFFFFFFFFFF, 0, 0x8000000000000000, 7] = used ++ [7] ∧
        used.length = 2 + used.countP (!isAccepted ·) ∧
        ∀ more, generate? "A#-é#" (used ++ more) = some ("AY-éQ", more) := by
  have hgenerate : generate? "A#-é#" [0xFFFFFFFFFFFFFFFF, 0, 0x8000000000000000, 7] =
      some ("AY-éQ", [7]) := by decide +kernel
  have haccepts : accepts "A#-é#" "AY-éQ" = true := (drawable "A#-é#").1 _ _ _ hgenerate
  exact ⟨haccepts, (drawable "A#-é#").2.1 _ haccepts, (drawable "A#-é#").2.2 _ _ _ hgenerate⟩

end Filing.Reference
