import Filing.Csv.Table
import Filing.Proofs.Blank
import Filing.Proofs.Csv.Record
import Filing.Proofs.Utf8
import Mathlib.Data.List.Nodup

/-!
# Tables are read as they are written

Writing the characters of a table and taking the bytes of it all comes to the same as taking the
bytes of the fields and writing these: no byte of a character is taken for a mark unless the
character is that mark.  The same goes for blanks, so a text that has none at its ends keeps all its
bytes.

* `Csv.encode_render` — the bytes of a table;
* `Csv.textOf_encode` — a text without white space at its ends is read back from its bytes;
* `Csv.row_zip` — the fields of all columns in their order, none of them at fault, make a row;
* `Csv.Fits`, `Csv.table_render` — **a table whose records fit its columns is read as it is
  written**;
* `Csv.trim_of_mem_table` — **no field of a row has white space at its ends**.
-/

set_option autoImplicit false

namespace Filing.Csv

open Text (encode encodeChars)

/-! ## Bytes of a record -/

/-- The bytes of a character are marks where the character is that mark. -/
theorem any_isMark_encodeChar (c : Char) :
    (String.utf8EncodeChar c).any Marks.bytes.isMark = Marks.chars.isMark c := by
  have hcomma : (44 : UInt8) ∈ String.utf8EncodeChar c ↔ c = ',' :=
    Text.mem_encodeChar_iff (by decide) (by decide)
  have hquote : (34 : UInt8) ∈ String.utf8EncodeChar c ↔ c = '"' :=
    Text.mem_encodeChar_iff (by decide) (by decide)
  have hcr : (13 : UInt8) ∈ String.utf8EncodeChar c ↔ c = '\r' :=
    Text.mem_encodeChar_iff (by decide) (by decide)
  have hlf : (10 : UInt8) ∈ String.utf8EncodeChar c ↔ c = '\n' :=
    Text.mem_encodeChar_iff (by decide) (by decide)
  rw [Bool.eq_iff_iff, List.any_eq_true, Marks.isMark_iff]
  constructor
  · rintro ⟨b, hb, hmark⟩
    obtain ((rfl | rfl) | rfl) | rfl := Marks.isMark_iff.1 hmark
    · exact .inl (.inl (.inl (hcomma.1 hb)))
    · exact .inl (.inl (.inr (hquote.1 hb)))
    · exact .inl (.inr (hcr.1 hb))
    · exact .inr (hlf.1 hb)
  · rintro (((h | h) | h) | h)
    · exact ⟨44, hcomma.2 h, by decide⟩
    · exact ⟨34, hquote.2 h, by decide⟩
    · exact ⟨13, hcr.2 h, by decide⟩
    · exact ⟨10, hlf.2 h, by decide⟩

theorem any_isMark_encodeChars (cs : List Char) :
    (encodeChars cs).any Marks.bytes.isMark = cs.any Marks.chars.isMark := by
  rw [encodeChars, List.any_flatMap]
  exact congrArg cs.any (funext any_isMark_encodeChar)

theorem flatMap_doubled_encodeChar (c : Char) :
    (String.utf8EncodeChar c).flatMap (doubled .bytes) = encodeChars (doubled .chars c) := by
  have hquote : (34 : UInt8) ∈ String.utf8EncodeChar c ↔ c = '"' :=
    Text.mem_encodeChar_iff (by decide) (by decide)
  by_cases hc : c = '"'
  · subst hc
    decide
  · have hsame : ∀ b ∈ String.utf8EncodeChar c, doubled Marks.bytes b = [b] := by
      intro b hb
      have hne : b ≠ 34 := fun heq => hc (hquote.1 (heq ▸ hb))
      exact if_neg hne
    have hself : doubled Marks.chars c = [c] := if_neg hc
    rw [List.flatMap_congr hsame, List.flatMap_singleton', hself, Text.encodeChars_cons,
      Text.encodeChars_nil, List.append_nil]

theorem encodeChars_written (cs : List Char) :
    encodeChars (written .chars cs) = written .bytes (encodeChars cs) := by
  have hdoubled : encodeChars (cs.flatMap (doubled .chars)) =
      (encodeChars cs).flatMap (doubled .bytes) := by
    rw [encodeChars, encodeChars, List.flatMap_assoc, List.flatMap_assoc]
    exact List.flatMap_congr fun c _ => (flatMap_doubled_encodeChar c).symm
  rw [written, written, any_isMark_encodeChars]
  split
  · rw [Text.encodeChars_append, Text.encodeChars_cons, hdoubled]
    rfl
  · rfl

theorem encodeChars_line (fs : List (List Char)) :
    encodeChars (line .chars fs) = line .bytes (fs.map encodeChars) := by
  fun_induction line Marks.chars fs with
  | case1 => decide
  | case2 f =>
    rw [Text.encodeChars_append, encodeChars_written]
    rfl
  | case3 f fs hne ih =>
    rw [Text.encodeChars_append, Text.encodeChars_cons, encodeChars_written, ih]
    cases fs with
    | nil => exact absurd rfl hne
    | cons g fs => rfl

/-- The bytes of a table are those of its records, in which the bytes of the fields are written. -/
theorem encode_render {header : List String} {rows : List (List String)} (hrows : rows ≠ []) :
    encode (render header rows) =
      (header :: rows).flatMap fun fs => line .bytes (fs.map encode) := by
  have hline (fs : List String) :
      encodeChars (line .chars (fs.map String.toList)) = line .bytes (fs.map encode) := by
    rw [encodeChars_line, List.map_map]
    exact congrArg _ (List.map_congr_left fun f _ => (Text.encode_eq f).symm)
  rw [Text.encode_eq, toList_render hrows, encodeChars, List.flatMap_assoc]
  exact List.flatMap_congr fun fs _ => hline fs

/-! ## Ends of a field -/

/-- The run neither opens nor ends with a symbol of the kind. -/
structure BareEnds {α : Type} (p : α → Bool) (l : List α) : Prop where
  first : ∀ a ∈ l.head?, p a = false
  last : ∀ a ∈ l.getLast?, p a = false

section
variable {α : Type} {p : α → Bool} {l : List α}

theorem BareEnds.of_trimmed (h : ((l.dropWhile p).reverse.dropWhile p).reverse = l) :
    BareEnds p l where
  first := by
    obtain ⟨rest, hrest⟩ : l <+: l.dropWhile p := by
      have hprefix := List.rdropWhile_prefix p (l.dropWhile p)
      rwa [List.rdropWhile, h] at hprefix
    intro a ha
    have hnot := List.head?_dropWhile_not p l
    rw [← hrest, List.head?_append, ha] at hnot
    exact hnot
  last := by
    have hself : l.rdropWhile p = l := by
      have hidem := List.rdropWhile_idempotent p (l.dropWhile p)
      rwa [List.rdropWhile, List.rdropWhile, h] at hidem
    intro a ha
    obtain ⟨hne, rfl⟩ := List.mem_getLast?_eq_getLast ha
    exact Bool.eq_false_iff.2 (List.rdropWhile_eq_self_iff.1 hself hne)

theorem BareEnds.trimmed (h : BareEnds p l) :
    ((l.dropWhile p).reverse.dropWhile p).reverse = l := by
  have hopen : l.dropWhile p = l := by
    cases l with
    | nil => rfl
    | cons a l => exact List.dropWhile_cons_of_neg (by rw [h.first a rfl]; decide)
  rw [hopen]
  exact List.rdropWhile_eq_self_iff.2 fun hne =>
    Bool.eq_false_iff.1 (h.last _ (List.getLast?_eq_some_getLast hne))

end

/-- A byte of a character that is no white space is no blank. -/
theorem isBlankByte_eq_false {c : Char} {b : UInt8} (hb : b ∈ String.utf8EncodeChar c)
    (hc : Text.isBlank c = false) : isBlankByte b = false := by
  refine Bool.eq_false_iff.2 fun hblank => Bool.eq_false_iff.1 hc ?_
  simp only [isBlankByte, Bool.or_eq_true, beq_iff_eq] at hblank
  have hascii {d : Char} (hd : String.utf8EncodeChar d = [b]) (hlt : b.toNat < 0x80)
      (hwhite : Text.isBlank d = true) : Text.isBlank c = true := by
    rwa [(Text.mem_encodeChar_iff hd hlt).1 hb]
  obtain (((rfl | rfl) | rfl) | rfl) | rfl := hblank
  · exact hascii (d := ' ') (by decide) (by decide) (by decide)
  · exact hascii (d := '\t') (by decide) (by decide) (by decide)
  · exact hascii (d := '\n') (by decide) (by decide) (by decide)
  · exact hascii (d := '\x0c') (by decide) (by decide) (by decide)
  · exact hascii (d := '\r') (by decide) (by decide) (by decide)

theorem BareEnds.encodeChars {cs : List Char} (h : BareEnds Text.isBlank cs) :
    BareEnds isBlankByte (encodeChars cs) where
  first := by
    cases cs with
    | nil => exact fun b hb => nomatch hb
    | cons c cs =>
      intro b hb
      rw [Text.encodeChars_cons, List.head?_append_of_ne_nil _ Text.encodeChar_ne_nil] at hb
      exact isBlankByte_eq_false (List.mem_of_mem_head? hb) (h.first c rfl)
  last := by
    obtain rfl | ⟨cs, c, rfl⟩ := cs.eq_nil_or_concat'
    · exact fun b hb => nomatch hb
    · intro b hb
      rw [Text.encodeChars_append, Text.encodeChars_cons, Text.encodeChars_nil, List.append_nil,
        List.getLast?_append_of_ne_nil _ Text.encodeChar_ne_nil] at hb
      exact isBlankByte_eq_false (List.mem_of_mem_getLast? hb)
        (h.last c List.getLast?_concat)

/-- A text without white space at its ends is read back from its bytes. -/
theorem textOf_encode {s : String} (h : Text.trim s = s) : textOf (encode s) = .ok s := by
  have hchars : Text.trimChars s.toList = s.toList := by
    rw [← String.toList_ofList (l := Text.trimChars s.toList)]
    exact congrArg String.toList h
  have hbytes : trimBytes (encode s) = encode s := by
    rw [Text.encode_eq]
    exact (BareEnds.of_trimmed hchars).encodeChars.trimmed
  rw [textOf, hbytes, Text.encode_eq]
  simp only [Text.decode_encodeChars, hchars, String.ofList_toList]

theorem textsOf_encode {fs : List String} (h : ∀ s ∈ fs, Text.trim s = s) (index : Nat) :
    textsOf index (fs.map encode) = .ok fs := by
  induction fs generalizing index with
  | nil => rfl
  | cons s fs ih =>
    rw [List.map_cons, textsOf, textOf_encode (h s List.mem_cons_self),
      ih fun t ht => h t (List.mem_cons_of_mem _ ht)]
    rfl

/-! ## Rows -/

section
variable {columns : List Column} {c : Column} {fs : List String}

theorem find?_name (hnodup : (columns.map (·.name)).Nodup) (hc : c ∈ columns) :
    columns.find? (·.name == c.name) = some c := by
  cases hfind : columns.find? (·.name == c.name) with
  | none => exact absurd (beq_self_eq_true c.name) (List.find?_eq_none.1 hfind c hc)
  | some d =>
    have hsome := List.find?_some hfind
    have hname : d.name = c.name := beq_iff_eq.1 hsome
    rw [List.inj_on_of_nodup_map hnodup (List.mem_of_find?_eq_some hfind) hc hname]

/-- Columns that are there once each, without a fault in their fields, are all picked. -/
theorem pick_eq {named seen : List (String × String)}
    (hnamed : ∀ p ∈ named, ∃ c, columns.find? (·.name == p.1) = some c ∧ c.fault? p.2 = none)
    (hnodup : (named.map (·.1) ++ seen.map (·.1)).Nodup) :
    pick columns seen named = .ok (named.reverse ++ seen) := by
  induction named generalizing seen with
  | nil => rfl
  | cons p named ih =>
    obtain ⟨name, field⟩ := p
    obtain ⟨c, hfind, hfine⟩ := hnamed _ List.mem_cons_self
    have hnew : ¬seen.any (·.1 == name) = true := by
      rw [List.map_cons, List.cons_append, List.nodup_cons] at hnodup
      intro hany
      obtain ⟨q, hq, heq⟩ := List.any_eq_true.1 hany
      have hkey : q.1 ∈ seen.map (·.1) := List.mem_map_of_mem hq
      rw [beq_iff_eq.1 heq] at hkey
      exact hnodup.1 (List.mem_append_right _ hkey)
    have hnodup' : (named.map (·.1) ++ ((name, field) :: seen).map (·.1)).Nodup :=
      List.nodup_middle.2 hnodup
    rw [pick, hfind]
    simp only [if_neg hnew, hfine]
    rw [ih (fun q hq => hnamed q (List.mem_cons_of_mem _ hq)) hnodup', List.reverse_cons,
      List.append_assoc, List.singleton_append]

/-- The record fits the columns: it has a trimmed field for each of them, in their order, and none
of the fields is at fault. -/
structure Fits (columns : List Column) (fs : List String) : Prop where
  length : fs.length = columns.length
  trimmed : ∀ s ∈ fs, Text.trim s = s
  faultless : ∀ p ∈ columns.zip fs, p.1.fault? p.2 = none

/-- The row of a record that fits the columns; the last column stands first. -/
def rowOf (columns : List Column) (fs : List String) : List (String × String) :=
  ((columns.map (·.name)).zip fs).reverse

theorem row_zip (hnodup : (columns.map (·.name)).Nodup) (h : Fits columns fs) :
    row columns ((columns.map (·.name)).zip fs) = .ok (rowOf columns fs) := by
  have hkeys : ((columns.map (·.name)).zip fs).map (·.1) = columns.map (·.name) :=
    List.map_fst_zip (by rw [List.length_map, h.length])
  have hpick : pick columns [] ((columns.map (·.name)).zip fs) = .ok (rowOf columns fs) := by
    rw [pick_eq, List.append_nil, rowOf]
    · intro p hp
      rw [List.zip_map_left] at hp
      obtain ⟨⟨c, field⟩, hmem, rfl⟩ := List.mem_map.1 hp
      exact ⟨c, find?_name hnodup (List.of_mem_zip hmem).1, h.faultless _ hmem⟩
    · rwa [List.map_nil, List.append_nil, hkeys]
  have hthere : ∀ c ∈ columns, (rowOf columns fs).any (·.1 == c.name) = true := by
    intro c hc
    have hname : c.name ∈ columns.map (·.name) := List.mem_map_of_mem hc
    rw [← hkeys] at hname
    obtain ⟨p, hp, heq⟩ := List.mem_map.1 hname
    exact List.any_eq_true.2 ⟨p, List.mem_reverse.2 hp, beq_iff_eq.2 heq⟩
  have hnone : columns.find? (fun c => c.needed && !(rowOf columns fs).any (·.1 == c.name)) =
      none := by
    refine List.find?_eq_none.2 fun c hc => ?_
    rw [hthere c hc, Bool.not_true, Bool.and_false]
    exact Bool.false_ne_true
  rw [row, hpick]
  simp only [bind, Except.bind, hnone]

/-! ## Tables -/

/-- A table can be written under the columns: there are several, their names differ and are
trimmed, and the names are not written with the mark in front that a reader passes over. -/
structure Tabular (columns : List Column) : Prop where
  several : 2 ≤ columns.length
  nodup : (columns.map (·.name)).Nodup
  trimmed : ∀ name ∈ columns.map (·.name), Text.trim name = name
  unmarked : (line .bytes ((columns.map (·.name)).map encode)).head? ≠ some 0xEF

theorem rowsFrom_eq (hnodup : (columns.map (·.name)).Nodup) {input : List UInt8}
    {data : List (List UInt8 × List (List UInt8))} {texts : List (List String)}
    (hdata : data.map (·.2) = texts.map (·.map encode)) (htexts : ∀ fs ∈ texts, Fits columns fs)
    (record : Nat) :
    rowsFrom columns (columns.map (·.name)) input record data =
      texts.map fun fs => .ok (rowOf columns fs) := by
  induction data generalizing texts record with
  | nil =>
    obtain rfl := List.map_eq_nil_iff.1 hdata.symm
    rfl
  | cons d data ih =>
    obtain ⟨rest, fields⟩ := d
    cases texts with
    | nil => cases hdata
    | cons fs texts =>
      obtain ⟨rfl, hrest⟩ := List.cons.inj hdata
      have hfits := htexts fs List.mem_cons_self
      have hnamed (start : Position) : namedFields (columns.map (·.name)) start (fs.map encode) =
          .ok ((columns.map (·.name)).zip fs) := by
        rw [namedFields, textsOf_encode hfits.trimmed, if_neg]
        rw [List.length_map, List.length_map, hfits.length]
        exact fun hne => hne rfl
      rw [rowsFrom, ih hrest (fun fs hfs => htexts fs (List.mem_cons_of_mem _ hfs))]
      simp only [hnamed, Except.bind, row_zip hnodup hfits, Except.mapError, List.map_cons]

theorem skipMark_of_head?_ne {input : List UInt8} (h : input.head? ≠ some 0xEF) :
    skipMark input = input := by
  refine if_neg fun heq => h ?_
  have hhead := congrArg List.head? heq
  rwa [List.head?_take, if_neg (by decide)] at hhead

theorem records_encode_render (hcolumns : Tabular columns) {rows : List (List String)}
    (hsome : rows ≠ []) (hrows : ∀ fs ∈ rows, Fits columns fs) :
    (records .bytes (encode (render (columns.map (·.name)) rows))).map (·.2) =
      (columns.map (·.name)).map encode :: rows.map (·.map encode) := by
  have hlength : ∀ fs ∈ columns.map (·.name) :: rows, fs.length = columns.length := by
    intro fs hfs
    obtain rfl | hfs := List.mem_cons.1 hfs
    · exact List.length_map _
    · exact (hrows fs hfs).length
  rw [encode_render hsome, ← List.flatMap_map (List.map encode) (line .bytes), map_records,
    List.map_cons]
  · exact distinct_bytes
  · intro l hl
    obtain ⟨fs, hfs, rfl⟩ := List.mem_map.1 hl
    rw [List.length_map, hlength fs hfs]
    exact hcolumns.several

theorem skipMark_encode_render (hcolumns : Tabular columns) {rows : List (List String)}
    (hsome : rows ≠ []) :
    skipMark (encode (render (columns.map (·.name)) rows)) =
      encode (render (columns.map (·.name)) rows) := by
  have hseveral : 2 ≤ ((columns.map (·.name)).map encode).length := by
    rw [List.length_map, List.length_map]
    exact hcolumns.several
  obtain ⟨b, rest, hline, -⟩ := exists_line_eq_cons distinct_bytes hseveral
  have hunmarked := hcolumns.unmarked
  rw [hline] at hunmarked
  refine skipMark_of_head?_ne ?_
  rwa [encode_render hsome, List.flatMap_cons, hline]

/-- **A table whose records fit its columns is read as it is written**; one without records is
written without a header, and is read all the same. -/
theorem table_render (hcolumns : Tabular columns) {rows : List (List String)}
    (hrows : ∀ fs ∈ rows, Fits columns fs) :
    table columns (encode (render (columns.map (·.name)) rows)) =
      rows.map fun fs => .ok (rowOf columns fs) := by
  by_cases hempty : rows = []
  · subst hempty
    have hnone : encode (render (columns.map (·.name)) []) = [] := Text.encode_eq ""
    rw [hnone, table, records.eq_def]
    rfl
  have hrecords := records_encode_render hcolumns hempty hrows
  have hnames : ((columns.map (·.name)).map encode).map
      (fun f => String.ofList (Text.trimChars (Text.decode f).1)) = columns.map (·.name) := by
    rw [List.map_map]
    refine (List.map_congr_left fun name hname => ?_).trans (List.map_id _)
    rw [Function.comp_apply, Text.encode_eq, Text.decode_encodeChars]
    exact hcolumns.trimmed name hname
  rw [table, skipMark_encode_render hcolumns hempty]
  split
  · next hnil =>
    rw [hnil] at hrecords
    cases hrecords
  · next start header data hcons =>
    rw [hcons] at hrecords
    obtain ⟨rfl, hdata⟩ := List.cons.inj hrecords
    rw [hnames, rowsFrom_eq hcolumns.nodup hdata hrows]

end

/-! ## Fields are trimmed -/

section
variable {columns : List Column} {header texts : List String} {field : List UInt8}
  {fields : List (List UInt8)} {s : String} {named seen picked : List (String × String)}
  {p : String × String}

theorem trim_of_textOf (h : textOf field = .ok s) : Text.trim s = s := by
  simp only [textOf] at h
  split at h
  · obtain rfl := Except.ok.inj h
    rw [Text.trim, String.toList_ofList, Text.trimChars_trimChars]
  · cases h

theorem trim_of_mem_textsOf {index : Nat} (h : textsOf index fields = .ok texts)
    (hs : s ∈ texts) : Text.trim s = s := by
  induction fields generalizing index texts with
  | nil =>
    obtain rfl := Except.ok.inj h
    exact absurd hs List.not_mem_nil
  | cons f fs ih =>
    rw [textsOf] at h
    cases htext : textOf f with
    | error i => simp [htext, Except.mapError, bind, Except.bind] at h
    | ok t =>
      cases hrest : textsOf (index + 1) fs with
      | error e => simp [htext, hrest, Except.mapError, bind, Except.bind] at h
      | ok ts =>
        simp only [htext, hrest, Except.mapError, bind, Except.bind, pure, Except.pure,
          Except.ok.injEq] at h
        subst h
        rcases List.mem_cons.1 hs with rfl | hs
        · exact trim_of_textOf htext
        · exact ih hrest hs

theorem trim_of_mem_namedFields {start : Position}
    (h : namedFields header start fields = .ok named) (hp : p ∈ named) : Text.trim p.2 = p.2 := by
  rw [namedFields] at h
  split at h
  · cases h
  split at h
  · cases h
  · next htexts =>
    obtain rfl := Except.ok.inj h
    exact trim_of_mem_textsOf htexts (List.of_mem_zip hp).2

/-- What is picked was there. -/
theorem mem_of_mem_pick (h : pick columns seen named = .ok picked) (hp : p ∈ picked) :
    p ∈ seen ∨ p ∈ named := by
  induction named generalizing seen with
  | nil =>
    obtain rfl := Except.ok.inj h
    exact .inl hp
  | cons q named ih =>
    rw [pick] at h
    split at h
    · exact (ih h).imp_right (List.mem_cons_of_mem q)
    split at h
    · cases h
    split at h
    · cases h
    · rcases ih h with hseen | hnamed
      · rcases List.mem_cons.1 hseen with rfl | hseen
        · exact .inr List.mem_cons_self
        · exact .inl hseen
      · exact .inr (List.mem_cons_of_mem _ hnamed)

theorem mem_of_mem_row (h : row columns named = .ok picked) (hp : p ∈ picked) : p ∈ named := by
  rw [row] at h
  cases hpick : pick columns [] named with
  | error reason => simp [hpick, bind, Except.bind] at h
  | ok seen =>
    simp only [hpick, bind, Except.bind] at h
    split at h
    · cases h
    · obtain rfl := Except.ok.inj h
      exact (mem_of_mem_pick hpick hp).resolve_left List.not_mem_nil

theorem trim_of_mem_rowsFrom {input : List UInt8} {record : Nat}
    {data : List (List UInt8 × List (List UInt8))}
    (h : .ok picked ∈ rowsFrom columns header input record data) (hp : p ∈ picked) :
    Text.trim p.2 = p.2 := by
  induction data generalizing record with
  | nil => exact absurd h List.not_mem_nil
  | cons d data ih =>
    rw [rowsFrom] at h
    rcases List.mem_cons.1 h with heq | h
    · cases hnamed : namedFields header (positionOf input d.1 record) d.2 with
      | error e => simp [hnamed, Except.bind] at heq
      | ok named =>
        cases hrow : row columns named with
        | error reason => simp [hnamed, hrow, Except.bind, Except.mapError] at heq
        | ok fields =>
          simp only [hnamed, hrow, Except.bind, Except.mapError, Except.ok.injEq] at heq
          subst heq
          exact trim_of_mem_namedFields hnamed (mem_of_mem_row hrow hp)
    · exact ih h

/-- **No row of a table has white space at the ends of a field.** -/
theorem trim_of_mem_table {input : List UInt8} (h : .ok picked ∈ table columns input)
    (hp : p ∈ picked) : Text.trim p.2 = p.2 := by
  rw [table] at h
  split at h
  · exact absurd h List.not_mem_nil
  · exact trim_of_mem_rowsFrom h hp

end

end Filing.Csv
