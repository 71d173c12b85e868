/-!
# Records of comma-separated values

How a run of symbols falls into records and fields.  The symbols are characters where the input is
known to be text, and bytes where it is not: the rules look at four marks only.

* `Marks`, `Marks.chars`, `Marks.bytes` — the comma, the quote and the two line ends;
* `fields` — the fields of the record that an input opens with;
* `records` — all records, each with the input that was left when the record before it ended.

A field that opens with a quote runs to the next lone quote; a doubled quote in it stands for a
quote.  Text after the closing quote belongs to the field.  A quote in any other field is text.  A
record ends at either line end, and line ends in front of a record are passed over.
-/

set_option autoImplicit false

namespace Filing.Csv

/-- The symbols that mean something. -/
structure Marks (σ : Type) where
  comma : σ
  quote : σ
  cr : σ
  lf : σ

/-- The marks among characters. -/
def Marks.chars : Marks Char := ⟨',', '"', '\r', '\n'⟩

/-- The marks among bytes. -/
def Marks.bytes : Marks UInt8 := ⟨44, 34, 13, 10⟩

/-- Where in a field the next symbol stands. -/
inductive Mode where
  | start
  | plain
  | quoted
  /-- After a quote inside quotes: it closed the field, or the next symbol doubles it. -/
  | closing
deriving DecidableEq

variable {σ : Type}

/-- A symbol put in front of the first field. -/
def consField (c : σ) (p : List (List σ) × List σ) : List (List σ) × List σ :=
  match p with
  | ([], rest) => ([[c]], rest)
  | (f :: fs, rest) => ((c :: f) :: fs, rest)

/-- An empty field put in front of the fields. -/
def newField (p : List (List σ) × List σ) : List (List σ) × List σ :=
  ([] :: p.1, p.2)

@[simp] theorem consField_snd (c : σ) (p : List (List σ) × List σ) : (consField c p).2 = p.2 := by
  obtain ⟨fs, rest⟩ := p
  cases fs <;> rfl

variable [DecidableEq σ]

/-- The symbol ends a record. -/
def Marks.endsRecord (m : Marks σ) (c : σ) : Bool :=
  c = m.cr || c = m.lf

/-- The fields of the record that the input opens with, and the input after the record. -/
def fields (m : Marks σ) : Mode → List σ → List (List σ) × List σ
  | _, [] => ([[]], [])
  | .quoted, c :: rest =>
    if c = m.quote then fields m .closing rest else consField c (fields m .quoted rest)
  | mode, c :: rest =>
    if c = m.comma then newField (fields m .start rest)
    else if m.endsRecord c then ([[]], rest)
    else if c = m.quote ∧ mode = .start then fields m .quoted rest
    else if c = m.quote ∧ mode = .closing then consField c (fields m .quoted rest)
    else consField c (fields m .plain rest)

theorem length_fields_le (m : Marks σ) (mode : Mode) (cs : List σ) :
    (fields m mode cs).2.length ≤ cs.length := by
  induction cs generalizing mode with
  | nil => cases mode <;> simp [fields]
  | cons c rest ih =>
    have step (mode : Mode) : (fields m mode rest).2.length ≤ (c :: rest).length :=
      Nat.le_succ_of_le (ih mode)
    cases mode <;> rw [fields] <;> (repeat' split) <;> simp [newField, ih, Nat.le_succ_of_le]

theorem length_fields_lt (m : Marks σ) (c : σ) (rest : List σ) :
    (fields m .start (c :: rest)).2.length < (c :: rest).length := by
  have step (mode : Mode) : (fields m mode rest).2.length < (c :: rest).length :=
    Nat.lt_succ_of_le (length_fields_le m mode rest)
  rw [fields] <;> (repeat' split) <;> simp_all [newField]

/-- The records of an input.  Each comes with the input that was left when the record before it
ended. -/
def records (m : Marks σ) (cs : List σ) : List (List σ × List (List σ)) :=
  match _h : cs.dropWhile m.endsRecord with
  | [] => []
  | c :: rest =>
    let record := fields m .start (c :: rest)
    (cs, record.1) :: records m record.2
termination_by cs.length
decreasing_by
  have h₁ := length_fields_lt m c rest
  have h₂ := (List.dropWhile_sublist (p := m.endsRecord) (l := cs)).length_le
  rw [_h] at h₂
  omega

/-- The records of a text. -/
def rows (s : String) : List (List String) :=
  (records .chars s.toList).map fun r => r.2.map String.ofList

end Filing.Csv
