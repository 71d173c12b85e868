import Filing.Csv.Writer
import Mathlib.Data.List.Basic

/-!
# Records are read as they are written

Writing is said once for symbols of any kind, as reading is, so that what is written in characters
can be read in bytes as well.

* `Csv.line` — a record as it is written, with `Csv.recordChars_eq`;
* `Csv.Marks.Distinct` — what a reader relies on, with `Csv.EndsField`: how the input goes on after
  a field;
* `Csv.fields_written`, `Csv.fields_line` — **a field, and a record, is read as it is written**;
* `Csv.map_records` — **so are the records of a table**, as long as they have several fields;
* `Csv.rows_render` — **and so is a table of texts**, its header first.
-/

set_option autoImplicit false

namespace Filing.Csv

variable {σ : Type} [DecidableEq σ]

/-! ## Writing -/

/-- The symbol has a meaning in a record. -/
def Marks.isMark (m : Marks σ) (c : σ) : Bool :=
  c = m.comma || c = m.quote || c = m.cr || c = m.lf

theorem Marks.isMark_iff {m : Marks σ} {c : σ} :
    m.isMark c = true ↔ ((c = m.comma ∨ c = m.quote) ∨ c = m.cr) ∨ c = m.lf := by
  simp only [isMark, Bool.or_eq_true, decide_eq_true_iff]

/-- A symbol inside quotes. -/
def doubled (m : Marks σ) (c : σ) : List σ :=
  if c = m.quote then [m.quote, m.quote] else [c]

/-- A field as it stands in a record. -/
def written (m : Marks σ) (f : List σ) : List σ :=
  if f.any m.isMark then m.quote :: f.flatMap (doubled m) ++ [m.quote] else f

/-- A record with its line end. -/
def line (m : Marks σ) : List (List σ) → List σ
  | [] => [m.lf]
  | [f] => written m f ++ [m.lf]
  | f :: fs => written m f ++ m.comma :: line m fs

theorem recordChars_eq (fs : List String) :
    recordChars fs = line .chars (fs.map String.toList) := by
  have hfield (cs : List Char) : fieldChars cs = written .chars cs := rfl
  fun_induction recordChars fs with
  | case1 => rfl
  | case2 f => rw [hfield]; rfl
  | case3 f fs hne ih =>
    rw [hfield, ih]
    cases fs with
    | nil => exact absurd rfl hne
    | cons g fs => rfl

/-! ## Reading -/

/-- The marks can be told apart where it matters to a reader. -/
structure Marks.Distinct (m : Marks σ) : Prop where
  quote_ne_comma : m.quote ≠ m.comma
  lf_ne_comma : m.lf ≠ m.comma
  not_endsRecord_quote : m.endsRecord m.quote = false
  not_endsRecord_comma : m.endsRecord m.comma = false

theorem distinct_chars : Marks.chars.Distinct := ⟨by decide, by decide, by decide, by decide⟩

theorem distinct_bytes : Marks.bytes.Distinct := ⟨by decide, by decide, by decide, by decide⟩

variable {m : Marks σ} {c : σ} {f rest tail : List σ} {fs : List (List σ)}
  {p : List (List σ) × List σ}

theorem Marks.not_endsRecord (h : m.isMark c = false) : m.endsRecord c = false := by
  simp only [isMark, Bool.or_eq_false_iff] at h
  simp only [endsRecord, h.2, h.1.2, Bool.or_self]

/-- A symbol that is no mark belongs to the field. -/
theorem fields_cons_of_not_isMark (h : m.isMark c = false) {mode : Mode} (hmode : mode ≠ .quoted) :
    fields m mode (c :: rest) = consField c (fields m .plain rest) := by
  have hends := Marks.not_endsRecord h
  simp only [Marks.isMark, Bool.or_eq_false_iff, decide_eq_false_iff_not] at h
  obtain ⟨⟨⟨hcomma, hquote⟩, -⟩, -⟩ := h
  rw [fields, if_neg hcomma, if_neg (by rw [hends]; decide), if_neg (fun h => hquote h.1),
    if_neg (fun h => hquote h.1)]
  exact fun h => hmode h

theorem fields_start_quote (hm : m.Distinct) :
    fields m .start (m.quote :: rest) = fields m .quoted rest := by
  rw [fields, if_neg hm.quote_ne_comma, if_neg (by rw [hm.not_endsRecord_quote]; decide),
    if_pos ⟨rfl, rfl⟩]
  exact Mode.noConfusion

theorem fields_closing_quote (hm : m.Distinct) :
    fields m .closing (m.quote :: rest) = consField m.quote (fields m .quoted rest) := by
  rw [fields, if_neg hm.quote_ne_comma, if_neg (by rw [hm.not_endsRecord_quote]; decide),
    if_neg (fun h => Mode.noConfusion h.2), if_pos ⟨rfl, rfl⟩]
  exact Mode.noConfusion

/-- The input goes on with the end of a field, and then with more fields. -/
def EndsField (m : Marks σ) (tail : List σ) (p : List (List σ) × List σ) : Prop :=
  ∀ mode, mode ≠ .quoted → fields m mode tail = newField p

theorem endsField_comma (rest : List σ) :
    EndsField m (m.comma :: rest) (fields m .start rest) := by
  intro mode hmode
  rw [fields, if_pos rfl]
  exact hmode

theorem endsField_lf (hm : m.Distinct) (rest : List σ) :
    EndsField m (m.lf :: rest) ([], rest) := by
  intro mode hmode
  have hends : m.endsRecord m.lf = true := by simp [Marks.endsRecord]
  rw [fields, if_neg hm.lf_ne_comma, if_pos hends]
  · rfl
  · exact hmode

omit [DecidableEq σ] in
/-- Symbols put in front of a new field one by one make the field. -/
theorem foldr_consField (f : List σ) (p : List (List σ) × List σ) :
    f.foldr consField (newField p) = (f :: p.1, p.2) := by
  induction f with
  | nil => rfl
  | cons c f ih =>
    rw [List.foldr_cons, ih]
    rfl

theorem fields_plain (h : EndsField m tail p) (hf : f.any m.isMark = false) {mode : Mode}
    (hmode : mode ≠ .quoted) : fields m mode (f ++ tail) = f.foldr consField (newField p) := by
  induction f generalizing mode with
  | nil => exact h mode hmode
  | cons c f ih =>
    rw [List.any_cons, Bool.or_eq_false_iff] at hf
    rw [List.cons_append, fields_cons_of_not_isMark hf.1 hmode, ih hf.2 Mode.noConfusion,
      List.foldr_cons]

theorem fields_quoted (hm : m.Distinct) (h : EndsField m tail p) (f : List σ) :
    fields m .quoted (f.flatMap (doubled m) ++ m.quote :: tail) =
      f.foldr consField (newField p) := by
  induction f with
  | nil =>
    rw [List.flatMap_nil, List.nil_append, fields, if_pos rfl]
    exact h .closing Mode.noConfusion
  | cons c f ih =>
    rw [List.flatMap_cons, List.append_assoc, List.foldr_cons, ← ih, doubled]
    by_cases hc : c = m.quote
    · rw [if_pos hc, hc, List.cons_append, fields, if_pos rfl]
      exact fields_closing_quote hm
    · rw [if_neg hc, List.singleton_append, fields, if_neg hc]

/-- **A field is read as it is written**, whatever it holds. -/
theorem fields_written (hm : m.Distinct) (h : EndsField m tail p) (f : List σ) :
    fields m .start (written m f ++ tail) = (f :: p.1, p.2) := by
  rw [← foldr_consField, written]
  split
  · rw [List.append_assoc, List.cons_append, List.singleton_append, fields_start_quote hm]
    exact fields_quoted hm h f
  · next hnone => exact fields_plain h (Bool.eq_false_iff.2 hnone) Mode.noConfusion

/-- **A record is read as it is written.** -/
theorem fields_line (hm : m.Distinct) (hfs : fs ≠ []) (rest : List σ) :
    fields m .start (line m fs ++ rest) = (fs, rest) := by
  fun_induction line m fs with
  | case1 => exact absurd rfl hfs
  | case2 f =>
    rw [List.append_assoc, List.singleton_append, fields_written hm (endsField_lf hm rest)]
  | case3 f fs hne ih =>
    have hfs' : fs ≠ [] := fun hnil => hne hnil
    rw [List.append_assoc, List.cons_append, fields_written hm (endsField_comma _), ih hfs']

/-- A record of several fields does not look like an empty line. -/
theorem exists_line_eq_cons (hm : m.Distinct) (hfs : 2 ≤ fs.length) :
    ∃ c rest, line m fs = c :: rest ∧ m.endsRecord c = false := by
  obtain _ | ⟨f, _ | ⟨g, fs⟩⟩ := fs
  · cases hfs
  · exact absurd hfs (Nat.not_succ_le_self 1)
  · rw [line, written]
    · split
      · exact ⟨_, _, rfl, hm.not_endsRecord_quote⟩
      · next hnone =>
        cases f with
        | nil => exact ⟨_, _, rfl, hm.not_endsRecord_comma⟩
        | cons c f =>
          simp only [List.any_cons, Bool.or_eq_true, not_or, Bool.not_eq_true] at hnone
          exact ⟨_, _, rfl, Marks.not_endsRecord hnone.1⟩
    · exact List.cons_ne_nil g fs

theorem records_line (hm : m.Distinct) (hfs : 2 ≤ fs.length) (rest : List σ) :
    records m (line m fs ++ rest) = (line m fs ++ rest, fs) :: records m rest := by
  obtain ⟨c, cs, hline, hc⟩ := exists_line_eq_cons hm hfs
  have hne : fs ≠ [] := List.ne_nil_of_length_pos (by omega)
  have hdrop : (line m fs ++ rest).dropWhile m.endsRecord = c :: (cs ++ rest) := by
    rw [hline, List.cons_append, List.dropWhile_cons_of_neg (by rw [hc]; decide)]
  have hfields : fields m .start (c :: (cs ++ rest)) = (fs, rest) := by
    rw [← List.cons_append, ← hline, fields_line hm hne]
  rw [records]
  split
  · next hnil =>
    rw [hdrop] at hnil
    cases hnil
  · next d ds hcons =>
    rw [hdrop] at hcons
    obtain ⟨rfl, rfl⟩ := List.cons.inj hcons
    rw [hfields]

/-- **A table is read as it is written**, as long as its records have several fields. -/
theorem map_records (hm : m.Distinct) {rows : List (List (List σ))}
    (hrows : ∀ fs ∈ rows, 2 ≤ fs.length) :
    (records m (rows.flatMap (line m))).map (·.2) = rows := by
  induction rows with
  | nil =>
    rw [List.flatMap_nil, records]
    rfl
  | cons fs rows ih =>
    rw [List.flatMap_cons, records_line hm (hrows fs List.mem_cons_self), List.map_cons,
      ih fun fs hfs => hrows fs (List.mem_cons_of_mem _ hfs)]

/-! ## Tables of texts -/

/-- The characters of a table are the lines of its records. -/
theorem toList_render {header : List String} {rows : List (List String)} (hrows : rows ≠ []) :
    (render header rows).toList =
      (header :: rows).flatMap fun fs => line .chars (fs.map String.toList) := by
  have hnonempty : ¬rows.isEmpty = true := by rwa [List.isEmpty_iff]
  rw [render, if_neg hnonempty, String.toList_ofList]
  exact List.flatMap_congr fun fs _ => recordChars_eq fs

/-- **A table of texts is read as it is rendered**, whatever the texts hold. -/
theorem rows_render {header : List String} {records : List (List String)} (hrecords : records ≠ [])
    (hseveral : ∀ fs ∈ header :: records, 2 ≤ fs.length) :
    rows (render header records) = header :: records := by
  have hlines : ∀ fs ∈ (header :: records).map (List.map String.toList), 2 ≤ fs.length := by
    intro fs hfs
    obtain ⟨texts, htexts, rfl⟩ := List.mem_map.1 hfs
    rw [List.length_map]
    exact hseveral texts htexts
  have hread := map_records distinct_chars hlines
  rw [List.flatMap_map, ← toList_render hrecords] at hread
  calc rows (render header records)
      = ((header :: records).map (List.map String.toList)).map (List.map String.ofList) := by
        rw [← hread, List.map_map]
        rfl
    _ = header :: records := by simp [Function.comp_def]

end Filing.Csv
