import Filing.Json.Basic

/-!
# Random identifiers

An identifier is drawn as twelve random bytes and written to base sixteen, in lower case.

* `Identifier.ofBytes` — the identifier of bytes;
* `Identifier.isWellFormed` — the text could be an identifier.
-/

set_option autoImplicit false

namespace Filing.Identifier

/-- The number of bytes that are drawn for an identifier. -/
def size : Nat := 12

/-- The identifier of bytes. -/
def ofBytes (bytes : List UInt8) : String :=
  String.ofList <| bytes.flatMap fun b =>
    [Json.hexDigit (b.toNat / 16), Json.hexDigit (b.toNat % 16)]

/-- The text could be an identifier. -/
def isWellFormed (s : String) : Bool :=
  s.length == 2 * size && s.toList.all fun c => c.isDigit || ('a' ≤ c && c ≤ 'f')

end Filing.Identifier
