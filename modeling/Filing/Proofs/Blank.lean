import Filing.Text.Blank
import Mathlib.Data.List.DropRight

/-!
# White space around a text

Trimming takes white space away at the two ends, and nothing else.  So white space may be put around
a text, or taken away, and the trimmed text stays the same.

* `Text.exists_eq_append_trimChars` — a text is its trimmed text with white space around it;
* `Text.trimChars_append`, `Text.trim_append` — white space around a text is trimmed away;
* `Text.trim_trim` — trimming twice is trimming once;
* `Text.trimChars_eq_self` — without white space there is nothing to trim;
* `Text.isBlankText_trim`, `Text.trim_eq_empty` — texts that are white space altogether.
-/

set_option autoImplicit false

namespace Filing.Text

variable {cs us vs : List Char}

/-! ## Runs of characters -/

theorem dropBlanks_append (hus : us.all isBlank = true) (cs : List Char) :
    dropBlanks (us ++ cs) = dropBlanks cs :=
  List.dropWhile_append_of_pos (List.all_eq_true.1 hus)

/-- A run of characters is its trimmed run with white space around it. -/
theorem exists_eq_append_trimChars (cs : List Char) :
    ∃ us vs, us.all isBlank = true ∧ vs.all isBlank = true ∧ cs = us ++ (trimChars cs ++ vs) := by
  refine ⟨cs.takeWhile isBlank, ((dropBlanks cs).reverse.takeWhile isBlank).reverse,
    List.all_takeWhile, by rw [List.all_reverse, List.all_takeWhile], ?_⟩
  rw [trimChars, dropBlanks, ← List.reverse_append, List.takeWhile_append_dropWhile,
    List.reverse_reverse, dropBlanks, List.takeWhile_append_dropWhile]

/-- White space around a run of characters is trimmed away. -/
theorem trimChars_append (hus : us.all isBlank = true) (hvs : vs.all isBlank = true)
    (cs : List Char) : trimChars (us ++ (cs ++ vs)) = trimChars cs := by
  have hback : vs.reverse.all isBlank = true := by rwa [List.all_reverse]
  rw [trimChars, dropBlanks_append hus, trimChars]
  by_cases hnil : dropBlanks cs = []
  · -- nothing but white space anywhere
    have hall : dropBlanks (cs ++ vs) = [] := by
      rw [dropBlanks_append (List.all_eq_true.2 (List.dropWhile_eq_nil_iff.1 hnil))]
      exact List.dropWhile_eq_nil_iff.2 (List.all_eq_true.1 hvs)
    rw [hall, hnil]
  · have hsplit : dropBlanks (cs ++ vs) = dropBlanks cs ++ vs := by
      rw [dropBlanks, List.dropWhile_append]
      exact if_neg fun h => hnil (List.isEmpty_iff.1 h)
    rw [hsplit, List.reverse_append, dropBlanks_append hback]

theorem trimChars_trimChars (cs : List Char) : trimChars (trimChars cs) = trimChars cs := by
  obtain ⟨us, vs, hus, hvs, hcs⟩ := exists_eq_append_trimChars cs
  rw [← trimChars_append hus hvs (trimChars cs), ← hcs]

/-- Nothing is left of white space. -/
theorem trimChars_eq_nil (h : cs.all isBlank = true) : trimChars cs = [] := by
  have hnil : dropBlanks cs = [] := List.dropWhile_eq_nil_iff.2 (List.all_eq_true.1 h)
  rw [trimChars, hnil]
  rfl

/-- A run of characters without white space stays as it is. -/
theorem trimChars_eq_self (h : ∀ c ∈ cs, isBlank c = false) : trimChars cs = cs := by
  have hopen {ds : List Char} (hds : ∀ c ∈ ds, isBlank c = false) : dropBlanks ds = ds := by
    cases ds with
    | nil => rfl
    | cons c ds => exact List.dropWhile_cons_of_neg (by simp [hds c List.mem_cons_self])
  rw [trimChars, hopen h, hopen fun c hc => h c (List.mem_reverse.1 hc), List.reverse_reverse]

theorem isBlank_of_isDigit {c : Char} (h : c.isDigit = true) : isBlank c = false := by
  have hlow : 48 ≤ c.toNat := of_decide_eq_true (Bool.and_eq_true_iff.1 h).1
  have hhigh : c.toNat ≤ 57 := of_decide_eq_true (Bool.and_eq_true_iff.1 h).2
  simp only [isBlank, Bool.or_eq_false_iff, Bool.and_eq_false_iff, decide_eq_false_iff_not,
    beq_eq_false_iff_ne]
  omega

theorem all_dropBlanks (cs : List Char) : (dropBlanks cs).all isBlank = cs.all isBlank := by
  induction cs with
  | nil => rfl
  | cons c cs ih =>
    rw [dropBlanks, List.dropWhile_cons]
    split
    · next hblank => rw [List.all_cons, hblank, Bool.true_and, ← ih, dropBlanks]
    · rfl

/-! ## Texts -/

@[simp] theorem trim_trim (s : String) : trim (trim s) = trim s := by
  rw [trim, trim, String.toList_ofList, trimChars_trimChars]

/-- White space around a text is trimmed away. -/
theorem trim_append {u v : String} (hu : isBlankText u = true) (hv : isBlankText v = true)
    (s : String) : trim (u ++ s ++ v) = trim s := by
  rw [trim, trim, String.toList_append, String.toList_append, List.append_assoc,
    trimChars_append hu hv]

/-- Trimming a text does not make it blank. -/
@[simp] theorem isBlankText_trim (s : String) : isBlankText (trim s) = isBlankText s := by
  simp only [isBlankText, trim, trimChars, String.toList_ofList, List.all_reverse, all_dropBlanks]

/-- Nothing is left of a blank text. -/
theorem trim_eq_empty {s : String} (h : isBlankText s = true) : trim s = "" := by
  rw [trim, trimChars_eq_nil h]

end Filing.Text
