import Mathlib.Data.String.Basic

/-!
# Texts in parts

A text that lists something has a mark between its parts.  Splitting it at the mark gives the parts
back, the empty ones too.

* `Text.splitOn_singleton` — a text is split as the run of its characters is;
* `Text.IsParts` — what the parts of a text are, said by putting them together again;
* `Text.splitOn_eq_iff` — **a text is split into its parts, and has no others**.
-/

set_option autoImplicit false

namespace Filing.Text

open String (ofList utf8Len)
open String.Pos (Raw)

variable {mark : Char} {l m : List Char}

/-! ## Splitting, character by character -/

/-- One step of the pass over a text.  Positions are numbers of bytes: the pass stands after the
characters `m` of a part, which began after the characters `l`. -/
theorem splitOnAux_cons (mark x : Char) (l m r : List Char) (acc : List String) :
    String.splitOnAux (ofList (l ++ m ++ x :: r)) (ofList [mark]) ⟨utf8Len l⟩
        ⟨utf8Len l + utf8Len m⟩ 0 acc =
      if x = mark then
        String.splitOnAux (ofList (l ++ m ++ x :: r)) (ofList [mark]) ⟨utf8Len (l ++ m ++ [x])⟩
          ⟨utf8Len (l ++ m ++ [x])⟩ 0 (ofList m :: acc)
      else
        String.splitOnAux (ofList (l ++ m ++ x :: r)) (ofList [mark]) ⟨utf8Len l⟩
          ⟨utf8Len l + utf8Len (m ++ [x])⟩ 0 acc := by
  have hend : ¬Raw.atEnd (ofList (l ++ m ++ x :: r)) ⟨utf8Len l + utf8Len m⟩ = true := by
    rw [← String.utf8Len_append]
    exact fun h => List.cons_ne_nil x r ((String.atEnd_of_valid (l ++ m) (x :: r)).1 h)
  have hget : Raw.get (ofList (l ++ m ++ x :: r)) ⟨utf8Len l + utf8Len m⟩ = x := by
    rw [← String.utf8Len_append]
    exact String.get_of_valid (l ++ m) (x :: r)
  have hnext : Raw.next (ofList (l ++ m ++ x :: r)) ⟨utf8Len l + utf8Len m⟩ =
      ⟨utf8Len l + utf8Len m + x.utf8Size⟩ := by
    rw [← String.utf8Len_append]
    exact String.next_of_valid (l ++ m) x r
  have hmark : Raw.get (ofList [mark]) 0 = mark := String.get_of_valid [] [mark]
  rw [String.splitOnAux, if_neg hend, hget, hmark, hnext]
  by_cases hx : x = mark
  · subst hx
    have hafter : Raw.next (ofList [x]) 0 = ⟨x.utf8Size⟩ := by
      simpa using String.next_of_valid [] x []
    have hwhole : Raw.atEnd (ofList [x]) ⟨x.utf8Size⟩ = true := by
      simpa using (String.atEnd_of_valid [x] []).2 rfl
    have hback : Raw.unoffsetBy ⟨utf8Len l + utf8Len m + x.utf8Size⟩ ⟨x.utf8Size⟩ =
        ⟨utf8Len l + utf8Len m⟩ := by
      simp [String.Pos.Raw.ext_iff]
    have hlen : utf8Len (l ++ m ++ [x]) = utf8Len l + utf8Len m + x.utf8Size := by
      simp [Nat.add_assoc]
    rw [if_pos (beq_self_eq_true x), hafter, if_pos hwhole, hback, String.extract_of_valid,
      if_pos rfl, hlen]
  · have hstay : Raw.unoffsetBy ⟨utf8Len l + utf8Len m⟩ 0 = ⟨utf8Len l + utf8Len m⟩ := by
      simp
    have hlen : utf8Len l + utf8Len (m ++ [x]) = utf8Len l + utf8Len m + x.utf8Size := by
      simp [Nat.add_assoc]
    rw [if_neg (beq_iff_eq.not.2 hx), hstay, hnext, if_neg hx, hlen]

/-- The pass collects the parts as a pass over the characters does. -/
theorem splitOnAux_eq (mark : Char) (l m r : List Char) (acc : List String) :
    String.splitOnAux (ofList (l ++ m ++ r)) (ofList [mark]) ⟨utf8Len l⟩
        ⟨utf8Len l + utf8Len m⟩ 0 acc =
      acc.reverse ++ (List.splitOnPPrepend (· == mark) r m.reverse).map ofList := by
  induction r generalizing l m acc with
  | nil =>
    have hend : Raw.atEnd (ofList (l ++ m ++ [])) ⟨utf8Len l + utf8Len m⟩ = true := by
      rw [← String.utf8Len_append]
      exact (String.atEnd_of_valid (l ++ m) []).2 rfl
    rw [String.splitOnAux, if_pos hend, String.extract_of_valid, List.reverse_cons,
      List.splitOnPPrepend_nil, List.reverse_reverse]
    rfl
  | cons x r ih =>
    rw [splitOnAux_cons, List.splitOnPPrepend_cons_eq_if]
    by_cases hx : x = mark
    · -- the part ends here, and the next one has no character yet
      have hrest := ih (l ++ m ++ [x]) [] (ofList m :: acc)
      simp only [List.append_assoc, List.append_nil, List.singleton_append,
        String.utf8Len_nil, Nat.add_zero] at hrest ⊢
      rw [if_pos hx, if_pos (beq_iff_eq.2 hx), hrest]
      simp
    · have hrest := ih l (m ++ [x]) acc
      simp only [List.append_assoc, List.singleton_append] at hrest ⊢
      rw [if_neg hx, if_neg (beq_iff_eq.not.2 hx), hrest, List.reverse_append]
      rfl

/-- A text is split as the run of its characters is. -/
theorem splitOn_singleton (mark : Char) (s : String) :
    s.splitOn (String.singleton mark) = (s.toList.splitOn mark).map ofList := by
  have h := splitOnAux_eq mark [] [] s.toList []
  rw [String.splitOn, if_neg (by simp), List.splitOn_eq_splitOnP]
  simpa using h

/-- No part has the mark in it. -/
theorem notMem_of_mem_splitOn (hm : m ∈ l.splitOn mark) : mark ∉ m := by
  induction l generalizing m with
  | nil =>
    obtain rfl := List.mem_singleton.1 (List.splitOn_nil mark ▸ hm)
    exact List.not_mem_nil
  | cons x l ih =>
    rw [List.splitOn_cons_eq_if_modifyHead] at hm
    by_cases hx : x = mark
    · rw [if_pos (beq_iff_eq.2 hx)] at hm
      rcases List.mem_cons.1 hm with rfl | hm
      · exact List.not_mem_nil
      · exact ih hm
    · -- the character goes in front of the first of the parts that follow
      obtain ⟨first, rest, hsplit⟩ := List.exists_cons_of_ne_nil (List.splitOn_ne_nil mark l)
      rw [if_neg (beq_iff_eq.not.2 hx), hsplit, List.modifyHead_cons] at hm
      rcases List.mem_cons.1 hm with rfl | hm
      · exact List.not_mem_cons_of_ne_of_not_mem (Ne.symm hx) (ih (hsplit ▸ List.mem_cons_self))
      · exact ih (hsplit ▸ List.mem_cons_of_mem _ hm)

/-! ## Parts -/

/-- The parts make up the text, with the mark between them, and none of them has the mark in it. -/
structure IsParts (mark : Char) (s : String) (parts : List String) : Prop where
  ne_nil : parts ≠ []
  notMem : ∀ part ∈ parts, mark ∉ part.toList
  joined : String.intercalate (String.singleton mark) parts = s

/-- A text is split into its parts, and has no others. -/
theorem splitOn_eq_iff {s : String} {parts : List String} :
    s.splitOn (String.singleton mark) = parts ↔ IsParts mark s parts := by
  rw [splitOn_singleton]
  constructor
  · rintro rfl
    exact {
      ne_nil := by simp
      notMem := by
        intro part hpart
        obtain ⟨run, hrun, rfl⟩ := List.mem_map.1 hpart
        rw [String.toList_ofList]
        exact notMem_of_mem_splitOn hrun
      joined := by
        rw [← String.toList_inj, String.toList_intercalate]
        simp [Function.comp_def, List.intercalate_splitOn] }
  · intro h
    have hruns : ∀ run ∈ parts.map String.toList, mark ∉ run := by
      intro run hrun
      obtain ⟨part, hpart, rfl⟩ := List.mem_map.1 hrun
      exact h.notMem part hpart
    have hsplit := List.splitOn_intercalate mark hruns (by simpa using h.ne_nil)
    rw [← h.joined, String.toList_intercalate, String.toList_singleton, hsplit]
    simp [Function.comp_def]

end Filing.Text
