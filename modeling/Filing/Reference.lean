/-!
# Confirmation references

A reference is made from a template: every placeholder becomes a symbol drawn at random, and every
other character stays as it is.  Randomness is a list of words of sixty-four binary digits.

* `Reference.symbols` — letters and digits that are not easily mistaken for each other;
* `Reference.draw?` — a symbol from the first words that do;
* `Reference.generate?` — a reference, and the words that are left, with
  `Reference.mem_of_generateChars?`, what a template leaves in it;
* `Reference.accepts` — the reference could have come from the template.

A word is multiplied by the number of symbols.  The high half of the product says which symbol it
is; the words whose low half is so great that some symbols would come up more often are passed over.
-/

set_option autoImplicit false

namespace Filing.Reference

/-- The symbols of references. -/
def symbols : List Char := "YBNDRFG8EJKMCPQXTUWSZA345H769".toList

/-- The character of a template in whose place a symbol is drawn. -/
def placeholder : Char := '#'

/-- The greatest low half of a product that draws a symbol. -/
def zone : Nat := 29 * (1 <<< 59) - 1

/-- The product of a word and the number of symbols. -/
def product (word : UInt64) : Nat := word.toNat * 29

/-- The word draws a symbol. -/
def isAccepted (word : UInt64) : Bool := product word % UInt64.size ≤ zone

/-- The symbol that a word stands for. -/
def symbolOf (word : UInt64) : Char := symbols.getD (product word / UInt64.size) 'Y'

/-- The symbol of the first word that draws one, and the words after it. -/
def draw? : List UInt64 → Option (Char × List UInt64)
  | [] => none
  | word :: rest => if isAccepted word then some (symbolOf word, rest) else draw? rest

/-- The characters of a reference from a template, and the words that are left; nothing if the words
run out. -/
def generateChars? : List Char → List UInt64 → Option (List Char × List UInt64)
  | [], words => some ([], words)
  | c :: template, words =>
    if c = placeholder then do
      let (symbol, words) ← draw? words
      let (cs, words) ← generateChars? template words
      return (symbol :: cs, words)
    else do
      let (cs, words) ← generateChars? template words
      return (c :: cs, words)

/-- What is no placeholder stays as it is. -/
theorem mem_of_generateChars? {template cs : List Char} {words rest : List UInt64}
    (h : generateChars? template words = some (cs, rest)) {c : Char} (hc : c ∈ template)
    (hplain : c ≠ placeholder) : c ∈ cs := by
  induction template generalizing words cs with
  | nil => cases hc
  | cons d template ih =>
    rw [generateChars?] at h
    split at h
    · next hd =>
      -- a symbol is drawn here, so the character comes later
      have hlater : c ∈ template :=
        (List.mem_cons.1 hc).resolve_left fun heq => hplain (heq.trans hd)
      obtain ⟨⟨symbol, words'⟩, -, h⟩ := Option.bind_eq_some_iff.1 h
      obtain ⟨⟨cs', rest'⟩, hrest, h⟩ := Option.bind_eq_some_iff.1 h
      obtain ⟨rfl, rfl⟩ := Prod.mk.inj (Option.some.inj h)
      exact List.mem_cons_of_mem _ (ih hrest hlater)
    · obtain ⟨⟨cs', rest'⟩, hrest, h⟩ := Option.bind_eq_some_iff.1 h
      obtain ⟨rfl, rfl⟩ := Prod.mk.inj (Option.some.inj h)
      rcases List.mem_cons.1 hc with rfl | hc
      · exact List.mem_cons_self
      · exact List.mem_cons_of_mem _ (ih hrest hc)

/-- A reference from a template, and the words that are left. -/
def generate? (template : String) (words : List UInt64) : Option (String × List UInt64) :=
  (generateChars? template.toList words).map fun p => (String.ofList p.1, p.2)

/-- The characters could have come from the template. -/
def acceptsChars : List Char → List Char → Bool
  | [], [] => true
  | t :: template, c :: cs =>
    (if t = placeholder then symbols.contains c else t == c) && acceptsChars template cs
  | _, _ => false

/-- The reference could have come from the template. -/
def accepts (template reference : String) : Bool :=
  acceptsChars template.toList reference.toList

/-- How many symbols a template asks for. -/
def placeholders (template : String) : Nat :=
  template.toList.count placeholder

end Filing.Reference
