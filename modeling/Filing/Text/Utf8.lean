/-!
# Bytes as text

Files and percent-escapes arrive as bytes.  `decode` takes the longest run of characters off the
front of a list of bytes and hands back what it could not read, so that a caller can tell text from
bytes that are no text and can say where the text stops.

* `decode`, `decode?` — as far as the bytes are text, and only if all of them are;
* `decodeLossy` — all bytes, with a character in the place of those that are no text.
-/

set_option autoImplicit false

namespace Filing.Text

/-- The bytes of a text. -/
def encode (s : String) : List UInt8 :=
  s.toUTF8.toList

/-- The character that a list of bytes opens with; a character is at most four bytes long. -/
def decodeChar? (bytes : List UInt8) : Option Char :=
  (bytes.take 4).toByteArray.utf8DecodeChar? 0

theorem pos_of_decodeChar? {bytes : List UInt8} {c : Char} (h : decodeChar? bytes = some c) :
    0 < bytes.length := by
  have hlt := ByteArray.lt_size_of_isSome_utf8DecodeChar?
    (b := (bytes.take 4).toByteArray) (i := 0) (by rw [decodeChar?] at h; simp [h])
  simp at hlt
  omega

/-- The longest run of characters that the bytes open with, and the bytes that follow it. -/
def decode (bytes : List UInt8) : List Char × List UInt8 :=
  match _h : decodeChar? bytes with
  | none => ([], bytes)
  | some c =>
    let rest := decode (bytes.drop c.utf8Size)
    (c :: rest.1, rest.2)
termination_by bytes.length
decreasing_by
  have := pos_of_decodeChar? _h
  have := c.utf8Size_pos
  simp only [List.length_drop]
  omega

theorem length_decode_le (bytes : List UInt8) : (decode bytes).2.length ≤ bytes.length := by
  fun_induction decode bytes with
  | case1 => simp
  | case2 bytes c _ rest ih =>
    simp only [List.length_drop] at ih
    exact Nat.le_trans ih (Nat.sub_le _ _)

/-- The text that the bytes spell, if they spell one. -/
def decode? (bytes : List UInt8) : Option String :=
  match decode bytes with
  | (cs, []) => some (String.ofList cs)
  | _ => none

/-! ## Bytes that are no text -/

/-- How many bytes a character takes whose first byte is given, and between which bounds its second
byte lies; nothing if no character opens with the byte. -/
def shape? (b : UInt8) : Option (Nat × UInt8 × UInt8) :=
  if 0xC2 ≤ b ∧ b ≤ 0xDF then some (2, 0x80, 0xBF)
  else if b = 0xE0 then some (3, 0xA0, 0xBF)
  else if b = 0xED then some (3, 0x80, 0x9F)
  else if 0xE1 ≤ b ∧ b ≤ 0xEF then some (3, 0x80, 0xBF)
  else if b = 0xF0 then some (4, 0x90, 0xBF)
  else if 0xF1 ≤ b ∧ b ≤ 0xF3 then some (4, 0x80, 0xBF)
  else if b = 0xF4 then some (4, 0x80, 0x8F)
  else none

/-- How many bytes, one at least, belong to the beginning of a character that is not finished. -/
def brokenLength : List UInt8 → Nat
  | [] => 1
  | b :: rest =>
    match shape? b, rest with
    | some (size, low, high), second :: rest =>
      if low ≤ second ∧ second ≤ high then
        2 + ((rest.take (size - 3)).takeWhile fun c => 0x80 ≤ c && c ≤ 0xBF).length
      else 1
    | _, _ => 1

theorem brokenLength_pos (bytes : List UInt8) : 0 < brokenLength bytes := by
  unfold brokenLength
  repeat' split
  all_goals omega

/-- The character that stands for bytes that are no text. -/
def replacement : Char := '\ufffd'

/-- The text of bytes.  Every beginning of a character that is not finished, and every byte that no
character holds, is replaced. -/
def decodeLossy (bytes : List UInt8) : List Char :=
  match _h : decode bytes with
  | (cs, []) => cs
  | (cs, b :: rest) =>
    cs ++ replacement :: decodeLossy ((b :: rest).drop (brokenLength (b :: rest)))
termination_by bytes.length
decreasing_by
  have hle : (decode bytes).2.length ≤ bytes.length := length_decode_le bytes
  have := brokenLength_pos (b :: rest)
  rw [_h] at hle
  simp only [List.length_drop, List.length_cons] at *
  omega

end Filing.Text
