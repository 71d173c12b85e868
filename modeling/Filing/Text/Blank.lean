/-!
# White space

Texts that people type arrive with white space around them, in any script.  White space here is the
Unicode property `White_Space`, which is twenty-five code points.

* `isBlank` — the property itself;
* `trim` — a text without the white space at its two ends;
* `isBlankText` — nothing but white space;
* `sameIgnoringCase` — equality that does not tell `A`–`Z` from `a`–`z`.
-/

set_option autoImplicit false

namespace Filing.Text

/-- The code points with the Unicode property `White_Space`. -/
def isBlank (c : Char) : Bool :=
  let n := c.toNat
  (0x0009 ≤ n && n ≤ 0x000D) || n == 0x0020 || n == 0x0085 || n == 0x00A0 || n == 0x1680 ||
    (0x2000 ≤ n && n ≤ 0x200A) || n == 0x2028 || n == 0x2029 || n == 0x202F || n == 0x205F ||
    n == 0x3000

/-- What is left of a run of characters without the white space that it opens with. -/
def dropBlanks (cs : List Char) : List Char :=
  cs.dropWhile isBlank

/-- A run of characters without the white space at its two ends. -/
def trimChars (cs : List Char) : List Char :=
  (dropBlanks (dropBlanks cs).reverse).reverse

/-- A text without the white space at its two ends. -/
def trim (s : String) : String :=
  String.ofList (trimChars s.toList)

/-- The text holds nothing but white space. -/
def isBlankText (s : String) : Bool :=
  s.toList.all isBlank

/-- A text, unless it holds nothing but white space. -/
def nonBlank (s : Option String) : Option String :=
  s.filter (!isBlankText ·)

/-- The text with `A`–`Z` in lower case and every other character as it is. -/
def lowerLatin (s : String) : String :=
  String.ofList (s.toList.map Char.toLower)

/-- The two texts are equal once `A`–`Z` are in lower case. -/
def sameIgnoringCase (s t : String) : Bool :=
  s.toList.map Char.toLower == t.toList.map Char.toLower

/-- Every character that is white space in ASCII is white space here. -/
theorem isBlank_of_isWhitespace {c : Char} (h : c.isWhitespace = true) : isBlank c = true := by
  simp only [Char.isWhitespace, Bool.or_eq_true, decide_eq_true_eq] at h
  rcases h with ((h | h) | h) | h <;> subst h <;> decide

end Filing.Text
