/-!
# Schemes and authorities

A target may name the service in full, as in `http://host:80/path`: a scheme, and the authority that
answers for it.  The service does not care who is named, but the name has to be well-formed.

* `Authority.afterScheme?` — what stands after the scheme of a text;
* `Authority.split?` — the authority that a text opens with, and what stands after it.

An authority is a host, which may have the name of a user in front of it and a port after it.
-/

set_option autoImplicit false

namespace Filing.Authority

/-! ## Schemes -/

/-- The character may stand in a scheme. -/
def isSchemeChar (c : Char) : Bool :=
  c.isAlphanum || c == '+' || c == '-' || c == '.'

/-- The greatest length of a scheme. -/
def maxScheme : Nat := 64

/-- Whether a text opens with a scheme and `://`. -/
def hasScheme (cs : List Char) : Bool :=
  (cs.dropWhile isSchemeChar).take 3 == "://".toList && 3 < cs.length

/-- What stands after the scheme of a text and its `://`; the whole text if it has no scheme. -/
def afterScheme? (cs : List Char) : Option (List Char) :=
  if hasScheme cs then
    if (cs.takeWhile isSchemeChar).length ≤ maxScheme then
      some ((cs.dropWhile isSchemeChar).drop 3)
    else none
  else some cs

/-! ## Authorities -/

/-- The character ends an authority. -/
def isEnd (c : Char) : Bool :=
  c == '/' || c == '?' || c == '#'

/-- The character may stand in an authority and has no meaning there. -/
def isPlain (c : Char) : Bool :=
  c.isAlphanum || c ∈ "!$&'()*+,-.;=_~".toList

/-- The greatest number of colons in an address in brackets with a port. -/
def maxColons : Nat := 8

/-- What was seen of an authority. -/
structure Seen where
  /-- The colons of the part at hand: the user, an address in brackets, or the host with its
  port. -/
  colons : Nat
  opened : Bool
  closed : Bool
  /-- An escape stands in the part at hand. -/
  escaped : Bool
  /-- The last character ended the name of a user. -/
  afterUser : Bool

/-- What was seen before the first character. -/
def Seen.nothing : Seen := ⟨0, false, false, false, false⟩

/-- What was seen after one more character. -/
def Seen.after? (s : Seen) (c : Char) : Option Seen :=
  let s := { s with afterUser := c == '@' }
  if c = ':' then
    if s.colons < maxColons then some { s with colons := s.colons + 1 } else none
  else if c = '[' then
    if s.escaped || s.opened then none else some { s with opened := true }
  else if c = ']' then
    if s.opened && !s.closed then some { s with closed := true, colons := 0, escaped := false }
    else none
  else if c = '@' then some { s with colons := 0, escaped := false }
  else if c = '%' then some { s with escaped := true }
  else if isPlain c then some s
  else none

/-- What was seen is an authority: brackets stand in pairs, a host stands after a user, its port is
alone, and nothing in it is escaped. -/
def Seen.isWhole (s : Seen) : Bool :=
  s.opened == s.closed && s.colons ≤ 1 && !s.afterUser && !s.escaped

/-- What was seen of the characters of an authority. -/
def seen? (cs : List Char) : Option Seen :=
  cs.foldlM Seen.after? .nothing

/-- The authority that a text opens with, and what stands after it.  It may be empty. -/
def split? (cs : List Char) : Option (List Char × List Char) :=
  let authority := cs.takeWhile (!isEnd ·)
  if (seen? authority).any Seen.isWhole then some (authority, cs.dropWhile (!isEnd ·)) else none

end Filing.Authority
