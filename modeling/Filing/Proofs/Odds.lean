import Filing.Proofs.Reference
import Mathlib.Data.Nat.Choose.Basic
import Mathlib.Data.Set.Card
import Mathlib.Data.Set.Finite.List
import Mathlib.Tactic.Ring

/-!
# The odds of a reference

The words of sixty-four binary digits cannot be shared out evenly among twenty-nine symbols, so some
are passed over.  The others are shared out evenly: every symbol has the same number of words, which
follow one another without a gap.  Hence no reference of a template is likelier than another one.

* `Reference.wordsFor`, `Reference.passedOver` — the words that draw a symbol, and those that draw
  none;
* `Reference.ncard_wordsFor`, `Reference.ncard_passedOver` — **every symbol is drawn by equally many
  words**, and how many are left;
* `Reference.drawings` — the lists of words that draw a reference, with a given number of words
  passed over;
* `Reference.ncard_drawings` — **how many there are depends on the template alone**;
* `Reference.unbiased` — the two together.

Lists are counted along their first word.  It either draws the symbol that is asked for, or it is
passed over and the symbol is still asked for.  This is the recursion of `Nat.multichoose`: the
words that are passed over are handed out to the placeholders in front of which they stand.
-/

set_option autoImplicit false

namespace Filing.Reference

variable {word : UInt64} {words used : List UInt64} {template cs : List Char} {c : Char}
  {place passed : Nat}

/-! ## The words of a symbol -/

/-- The words that draw the symbol. -/
def wordsFor (c : Char) : Set UInt64 := {word | isAccepted word = true ∧ symbolOf word = c}

/-- The words that draw no symbol. -/
def passedOver : Set UInt64 := {word | isAccepted word = false}

theorem nodup_symbols : symbols.Nodup := by decide

theorem symbolOf_eq_iff (h : place < symbols.length) :
    symbolOf word = symbols[place] ↔ product word / UInt64.size = place := by
  rw [symbolOf, List.getD_eq_getElem _ _ (product_div_lt word), nodup_symbols.getElem_inj_iff]

/-- The words for a place are the ones that follow the least of them, as many as a twenty-ninth of
what draws. -/
theorem isAccepted_at_iff (h : place < 29) :
    isAccepted word = true ∧ product word / UInt64.size = place ↔
      ∃ k < 2 ^ 59, word.toNat = (wordOf place).toNat + k := by
  have hsize : UInt64.size = 18446744073709551616 := rfl
  have hzone : zone = 16717361816799281151 := by decide
  have hword : word.toNat < UInt64.size := word.toNat_lt_size
  rw [toNat_wordOf h, isAccepted, decide_eq_true_iff, product, hzone]
  rw [hsize] at hword ⊢
  constructor
  · rintro ⟨hlow, hhigh⟩
    exact ⟨word.toNat - (place * 18446744073709551616 + 28) / 29, by omega, by omega⟩
  · rintro ⟨k, hk, heq⟩
    -- the low half: what the least word leaves, and twenty-nine for each word after it
    obtain ⟨low, hlow, hsum⟩ : ∃ low, low ≤ 16717361816799281151 ∧
        word.toNat * 29 = low + place * 18446744073709551616 :=
      ⟨word.toNat * 29 - place * 18446744073709551616, by omega, by omega⟩
    have hfits : low < 18446744073709551616 := by omega
    rw [hsum, Nat.add_mul_mod_self_right, Nat.add_mul_div_right _ _ (by decide),
      Nat.mod_eq_of_lt hfits, Nat.div_eq_of_lt hfits, Nat.zero_add]
    exact ⟨hlow, rfl⟩

/-- **Every symbol is drawn by equally many words.** -/
theorem ncard_wordsFor (h : c ∈ symbols) : (wordsFor c).ncard = 2 ^ 59 := by
  obtain ⟨place, hplace, rfl⟩ := List.getElem_of_mem h
  have hlt : place < 29 := hplace
  have hmem (word : UInt64) : word ∈ wordsFor symbols[place] ↔
      ∃ k < 2 ^ 59, word.toNat = (wordOf place).toNat + k := by
    rw [← isAccepted_at_iff hlt, ← symbolOf_eq_iff hplace]
    rfl
  have hfits {k : Nat} (hk : k < 2 ^ 59) :
      (UInt64.ofNat ((wordOf place).toNat + k)).toNat = (wordOf place).toNat + k := by
    refine UInt64.toNat_ofNat_of_lt' ?_
    rw [toNat_wordOf hlt, UInt64.size]
    omega
  refine Set.ncard_eq_of_bijective (fun k _ => UInt64.ofNat ((wordOf place).toNat + k)) ?_ ?_ ?_
  · intro word hword
    obtain ⟨k, hk, heq⟩ := (hmem word).1 hword
    exact ⟨k, hk, UInt64.toNat_inj.1 ((hfits hk).trans heq.symm)⟩
  · intro k hk
    exact (hmem _).2 ⟨k, hk, hfits hk⟩
  · intro k l hk hl heq
    have hsum := congrArg UInt64.toNat heq
    rw [hfits hk, hfits hl] at hsum
    exact Nat.add_left_cancel hsum

/-! ## The words that draw no symbol -/

theorem bijective_toFin : Function.Bijective UInt64.toFin :=
  ⟨fun _ _ => UInt64.toFin_inj.1, fun k => ⟨UInt64.ofFin k, UInt64.toFin_ofFin k⟩⟩

instance finite_word : Finite UInt64 := .of_injective UInt64.toFin bijective_toFin.injective

/-- Words for several symbols are those of each of them. -/
theorem ncard_wordsForAny {cs : List Char} (hnodup : cs.Nodup) (hsymbols : cs ⊆ symbols) :
    {word | isAccepted word = true ∧ symbolOf word ∈ cs}.ncard = cs.length * 2 ^ 59 := by
  induction cs with
  | nil => simp
  | cons c cs ih =>
    obtain ⟨hc, hnodup⟩ := List.nodup_cons.1 hnodup
    obtain ⟨hsymbol, hsymbols⟩ := List.cons_subset.1 hsymbols
    have hsplit : {word | isAccepted word = true ∧ symbolOf word ∈ c :: cs} =
        wordsFor c ∪ {word | isAccepted word = true ∧ symbolOf word ∈ cs} := by
      ext word
      simp [wordsFor, and_or_left]
    have hdisjoint :
        Disjoint (wordsFor c) {word | isAccepted word = true ∧ symbolOf word ∈ cs} := by
      rw [Set.disjoint_left]
      rintro word ⟨-, rfl⟩ ⟨-, hmem⟩
      exact hc hmem
    rw [hsplit, Set.ncard_union_eq hdisjoint, ncard_wordsFor hsymbol, ih hnodup hsymbols,
      List.length_cons]
    omega

/-- Three words of thirty-two are passed over. -/
theorem ncard_passedOver : passedOver.ncard = 3 * 2 ^ 59 := by
  have hall : {word | isAccepted word = true ∧ symbolOf word ∈ symbols} = passedOverᶜ := by
    ext word
    simp [passedOver, symbolOf_mem]
  have hdrawing : passedOverᶜ.ncard = 29 * 2 ^ 59 := by
    rw [← hall, ncard_wordsForAny nodup_symbols (List.Subset.refl symbols)]
    rfl
  have hwords : Nat.card UInt64 = 2 ^ 64 := by
    rw [Nat.card_eq_of_bijective _ bijective_toFin, Nat.card_fin]
    rfl
  have hsum := Set.ncard_add_ncard_compl passedOver
  omega

/-! ## The lists of words of a reference -/

/-- The lists of words that draw the characters from the template, all of their words being taken
and so many of them passed over. -/
def drawings (template cs : List Char) (passed : Nat) : Set (List UInt64) :=
  {used | Draws template used cs ∧ used.countP (!isAccepted ·) = passed}

theorem draws_placeholder_iff :
    Draws (placeholder :: template) words (c :: cs) ↔
      ∃ passed word used, words = passed ++ word :: used ∧
        (∀ w ∈ passed, isAccepted w = false) ∧ word ∈ wordsFor c ∧ Draws template used cs := by
  constructor
  · intro h
    generalize hreference : c :: cs = reference at h
    cases h with
    | plain hplain _ => exact absurd rfl hplain
    | @symbol _ used _ passed word hpassed hword h =>
      obtain ⟨rfl, rfl⟩ := List.cons.inj hreference
      exact ⟨passed, word, used, rfl, hpassed, ⟨hword, rfl⟩, h⟩
  · rintro ⟨passed, word, used, rfl, hpassed, ⟨hword, rfl⟩, h⟩
    exact .symbol hpassed hword h

/-- The first word draws the symbol, or it is passed over. -/
theorem draws_placeholder_cons_iff :
    Draws (placeholder :: template) (word :: used) (c :: cs) ↔
      word ∈ wordsFor c ∧ Draws template used cs ∨
        word ∈ passedOver ∧ Draws (placeholder :: template) used (c :: cs) := by
  rw [draws_placeholder_iff, draws_placeholder_iff]
  constructor
  · rintro ⟨passed, w, rest, hwords, hpassed, hw, h⟩
    cases passed with
    | nil =>
      obtain ⟨rfl, rfl⟩ := List.cons.inj hwords
      exact .inl ⟨hw, h⟩
    | cons v passed =>
      obtain ⟨rfl, rfl⟩ := List.cons.inj hwords
      obtain ⟨hv, hpassed⟩ := List.forall_mem_cons.1 hpassed
      exact .inr ⟨hv, passed, w, rest, rfl, hpassed, hw, h⟩
  · rintro (⟨hword, h⟩ | ⟨hword, passed, w, rest, rfl, hpassed, hw, h⟩)
    · exact ⟨[], word, used, rfl, List.forall_mem_nil _, hword, h⟩
    · exact ⟨word :: passed, w, rest, rfl, List.forall_mem_cons.2 ⟨hword, hpassed⟩, hw, h⟩

theorem draws_nil_iff : Draws [] words cs ↔ words = [] ∧ cs = [] := by
  constructor
  · rintro ⟨⟩
    exact ⟨rfl, rfl⟩
  · rintro ⟨rfl, rfl⟩
    exact .nil

theorem draws_plain_iff (hplain : c ≠ placeholder) :
    Draws (c :: template) words (c :: cs) ↔ Draws template words cs := by
  refine ⟨fun h => ?_, .plain hplain⟩
  generalize hreference : c :: cs = reference at h
  cases h with
  | plain _ h => exact (List.cons.inj hreference).2 ▸ h
  | symbol => exact absurd rfl hplain

/-! ## Counting them -/

theorem drawings_nil_zero : drawings [] [] 0 = {[]} := by
  ext used
  simp only [drawings, Set.mem_ofPred_eq, draws_nil_iff, Set.mem_singleton_iff, and_true]
  constructor
  · exact fun h => h.1
  · rintro rfl
    exact ⟨rfl, rfl⟩

theorem drawings_nil_succ (passed : Nat) : drawings [] [] (passed + 1) = ∅ := by
  refine Set.eq_empty_of_forall_notMem ?_
  rintro used ⟨hdraws, hcount⟩
  obtain ⟨rfl, -⟩ := draws_nil_iff.1 hdraws
  exact absurd hcount (Nat.zero_ne_add_one passed)

theorem drawings_plain (hplain : c ≠ placeholder) :
    drawings (c :: template) (c :: cs) passed = drawings template cs passed := by
  simp only [drawings, draws_plain_iff hplain]

/-- The lists with the first word in one set and the rest in another. -/
theorem mem_image2_cons {α : Type} {a : α} {as : List α} {s : Set α} {t : Set (List α)} :
    a :: as ∈ Set.image2 List.cons s t ↔ a ∈ s ∧ as ∈ t := by
  simp [Set.mem_image2]

theorem ncard_image2_cons {α : Type} (s : Set α) (t : Set (List α)) :
    (Set.image2 List.cons s t).ncard = s.ncard * t.ncard := by
  have hinjective : Function.Injective fun p : α × List α => p.1 :: p.2 := by
    rintro ⟨a, as⟩ ⟨b, bs⟩ h
    obtain ⟨rfl, rfl⟩ := List.cons.inj h
    rfl
  rw [← Set.image_prod, Set.ncard_image_of_injective _ hinjective, Set.ncard_prod]

theorem nil_notMem_drawings : [] ∉ drawings (placeholder :: template) (c :: cs) passed := by
  rintro ⟨h, -⟩
  obtain ⟨passed, word, used, hwords, -⟩ := draws_placeholder_iff.1 h
  exact List.append_ne_nil_of_right_ne_nil _ (List.cons_ne_nil word used) hwords.symm

/-- A list that draws for a placeholder opens with a word for its symbol, or with one that is passed
over. -/
theorem cons_mem_drawings_iff :
    word :: used ∈ drawings (placeholder :: template) (c :: cs) passed ↔
      word ∈ wordsFor c ∧ used ∈ drawings template cs passed ∨
        word ∈ passedOver ∧ ∃ fewer, passed = fewer + 1 ∧
          used ∈ drawings (placeholder :: template) (c :: cs) fewer := by
  rw [drawings, Set.mem_ofPred_eq, draws_placeholder_cons_iff, or_and_right]
  refine or_congr ?_ ?_
  · rw [and_assoc]
    refine and_congr_right fun hword => ?_
    rw [List.countP_cons_of_neg (by simp [hword.1])]
    rfl
  · rw [and_assoc]
    refine and_congr_right fun hword => ?_
    have hpassed : isAccepted word = false := hword
    rw [List.countP_cons_of_pos (by simp [hpassed])]
    constructor
    · rintro ⟨h, rfl⟩
      exact ⟨_, rfl, h, rfl⟩
    · rintro ⟨fewer, rfl, h, rfl⟩
      exact ⟨h, rfl⟩

theorem drawings_placeholder_zero :
    drawings (placeholder :: template) (c :: cs) 0 =
      Set.image2 List.cons (wordsFor c) (drawings template cs 0) := by
  ext used
  cases used with
  | nil => simp [nil_notMem_drawings]
  | cons word used => simp [cons_mem_drawings_iff]

theorem drawings_placeholder_succ (passed : Nat) :
    drawings (placeholder :: template) (c :: cs) (passed + 1) =
      Set.image2 List.cons (wordsFor c) (drawings template cs (passed + 1)) ∪
        Set.image2 List.cons passedOver
          (drawings (placeholder :: template) (c :: cs) passed) := by
  ext used
  cases used with
  | nil => simp [nil_notMem_drawings]
  | cons word used => simp [cons_mem_drawings_iff]

theorem finite_drawings (template cs : List Char) (passed : Nat) :
    (drawings template cs passed).Finite := by
  refine (List.finite_length_eq UInt64 (template.count placeholder + passed)).subset ?_
  rintro used ⟨h, rfl⟩
  exact h.length_eq

theorem ncard_drawings_placeholder_zero :
    (drawings (placeholder :: template) (c :: cs) 0).ncard =
      (wordsFor c).ncard * (drawings template cs 0).ncard := by
  rw [drawings_placeholder_zero, ncard_image2_cons]

theorem ncard_drawings_placeholder_succ (passed : Nat) :
    (drawings (placeholder :: template) (c :: cs) (passed + 1)).ncard =
      (wordsFor c).ncard * (drawings template cs (passed + 1)).ncard +
        passedOver.ncard * (drawings (placeholder :: template) (c :: cs) passed).ncard := by
  have hdisjoint : Disjoint
      (Set.image2 List.cons (wordsFor c) (drawings template cs (passed + 1)))
      (Set.image2 List.cons passedOver
        (drawings (placeholder :: template) (c :: cs) passed)) := by
    rw [Set.disjoint_left]
    rintro _ ⟨word, ⟨hword, -⟩, used, -, rfl⟩ hpassed
    have hnot : isAccepted word = false := (mem_image2_cons.1 hpassed).1
    rw [hword] at hnot
    exact Bool.noConfusion hnot
  have hdrawn := (wordsFor c).toFinite.image2 List.cons (finite_drawings template cs (passed + 1))
  have hpassed := passedOver.toFinite.image2 List.cons
    (finite_drawings (placeholder :: template) (c :: cs) passed)
  rw [drawings_placeholder_succ, Set.ncard_union_eq hdisjoint hdrawn hpassed, ncard_image2_cons,
    ncard_image2_cons]

/-- **How many lists draw a reference depends on the template alone**, whatever the number of words
that are passed over. -/
theorem ncard_drawings (h : acceptsChars template cs = true) (passed : Nat) :
    (drawings template cs passed).ncard =
      (template.count placeholder).multichoose passed * (3 * 2 ^ 59) ^ passed *
        (2 ^ 59) ^ template.count placeholder := by
  induction template generalizing cs passed with
  | nil =>
    cases cs with
    | cons c cs => cases h
    | nil =>
      cases passed with
      | zero => simp [drawings_nil_zero]
      | succ passed => simp [drawings_nil_succ]
  | cons t template ih =>
    cases cs with
    | nil => cases h
    | cons c cs =>
      obtain ⟨hc, hcs⟩ := Bool.and_eq_true_iff.1 h
      split at hc
      · next ht =>
        subst ht
        have hword := ncard_wordsFor (List.contains_iff_mem.1 hc)
        rw [List.count_cons_self]
        -- a placeholder takes words until one draws, so there is an induction on those passed over
        induction passed with
        | zero =>
          rw [ncard_drawings_placeholder_zero, hword, ih hcs, Nat.multichoose_zero_right,
            Nat.multichoose_zero_right]
          ring
        | succ passed ihpassed =>
          rw [ncard_drawings_placeholder_succ, hword, ih hcs, ihpassed, ncard_passedOver,
            Nat.multichoose_succ_succ]
          ring
      · next ht =>
        obtain rfl := beq_iff_eq.1 hc
        rw [drawings_plain ht, ih hcs, List.count_cons_of_ne ht]

/-! ## Texts -/

/-- A list without a word that is passed over is as long as there are placeholders. -/
theorem mem_drawings_zero_iff :
    words ∈ drawings template cs 0 ↔ words.length = template.count placeholder ∧
      (∀ word ∈ words, isAccepted word = true) ∧ Draws template words cs := by
  have hcount : words.countP (!isAccepted ·) = 0 ↔ ∀ word ∈ words, isAccepted word = true := by
    simp [List.countP_eq_zero]
  rw [← hcount]
  constructor
  · rintro ⟨h, hzero⟩
    exact ⟨by rw [h.length_eq, hzero, Nat.add_zero], hzero, h⟩
  · rintro ⟨-, hzero, h⟩
    exact ⟨h, hzero⟩

theorem generate?_eq_all_iff {template reference : String} :
    generate? template words = some (reference, []) ↔
      Draws template.toList words reference.toList := by
  rw [generate?_eq_some_iff]
  constructor
  · rintro ⟨used, rfl, h⟩
    rwa [List.append_nil]
  · exact fun h => ⟨words, (List.append_nil words).symm, h⟩

/-- **References are drawn without bias.**

* Every symbol is drawn by equally many words.
* A reference of a template arises from as many lists of words, one for each placeholder and none of
  them passed over, as any other.
* That is so for the lists with any number of words passed over. -/
theorem unbiased :
    (∀ c ∈ symbols, {word | isAccepted word = true ∧ symbolOf word = c}.ncard = 2 ^ 59) ∧
    ∀ template reference, accepts template reference = true →
      {words | words.length = placeholders template ∧ (∀ word ∈ words, isAccepted word = true) ∧
        generate? template words = some (reference, [])}.ncard =
          (2 ^ 59) ^ placeholders template ∧
      ∀ passed, {words | generate? template words = some (reference, []) ∧
        words.countP (!isAccepted ·) = passed}.ncard =
          (placeholders template).multichoose passed * (3 * 2 ^ 59) ^ passed *
            (2 ^ 59) ^ placeholders template := by
  refine ⟨fun c hc => ncard_wordsFor hc, fun template reference h => ?_⟩
  have haccepts : acceptsChars template.toList reference.toList = true := h
  have hcount := ncard_drawings haccepts
  simp only [generate?_eq_all_iff]
  refine ⟨?_, hcount⟩
  have hzero : {words | words.length = placeholders template ∧
      (∀ word ∈ words, isAccepted word = true) ∧
        Draws template.toList words reference.toList} =
      drawings template.toList reference.toList 0 :=
    Set.ext fun _ => mem_drawings_zero_iff.symm
  rw [hzero, hcount, Nat.multichoose_zero_right, pow_zero, Nat.mul_one, Nat.one_mul]
  rfl

theorem unbiased_withLiterals :
    'Y' ∈ symbols ∧ {word | isAccepted word = true ∧ symbolOf word = 'Y'}.ncard = 2 ^ 59 ∧
    accepts "A#-é#" "AY-éQ" = true ∧
      {words | words.length = 2 ∧ (∀ word ∈ words, isAccepted word = true) ∧
        generate? "A#-é#" words = some ("AY-éQ", [])}.ncard = (2 ^ 59) ^ 2 ∧
      {words | generate? "A#-é#" words = some ("AY-éQ", []) ∧
        words.countP (!isAccepted ·) = 1}.ncard = 2 * (3 * 2 ^ 59) * (2 ^ 59) ^ 2 := by
  have haccepts : accepts "A#-é#" "AY-éQ" = true := by decide +kernel
  have hplaceholders : placeholders "A#-é#" = 2 := by decide +kernel
  obtain ⟨hnone, hpassed⟩ := unbiased.2 "A#-é#" "AY-éQ" haccepts
  rw [hplaceholders] at hnone
  have hone := hpassed 1
  rw [hplaceholders, Nat.multichoose_one_right, pow_one] at hone
  exact ⟨by decide, unbiased.1 'Y' (by decide), haccepts, hnone, hone⟩

end Filing.Reference
