import Filing.Text.Utf8
import Mathlib.Data.List.Flatten

/-!
# Text survives its bytes

The bytes of a text are those of its characters one after another, and reading them gives the
characters again.  A character of ASCII is a byte of its own, and its byte stands for nothing else,
so whoever looks for such characters may look at the bytes.

* `Text.encodeChars`, `Text.encode_eq` — the bytes of a text, character by character;
* `Text.decode_encodeChars` — **what is written is read back**;
* `Text.mem_encodeChar_iff` — **the byte of an ASCII character stands for nothing else**;
* `Text.encode_lt` — **texts in order are in order byte by byte**.
-/

set_option autoImplicit false

namespace Filing.Text

/-! ## The bytes of a text -/

theorem toList_loop (bytes : ByteArray) (i : Nat) (front : List UInt8) :
    ByteArray.toList.loop bytes i front = front.reverse ++ bytes.data.toList.drop i := by
  fun_induction ByteArray.toList.loop bytes i front with
  | case1 i front h ih =>
    have hi : i < bytes.data.toList.length := by simpa using h
    have hget : bytes.get! i = bytes.data.toList[i] := by simp [ByteArray.get!, h]
    rw [ih, List.drop_eq_getElem_cons hi, List.reverse_cons, List.append_assoc, hget,
      List.singleton_append]
  | case2 i front h =>
    have hend : bytes.data.toList.length ≤ i := by simpa using Nat.le_of_not_lt h
    rw [List.drop_eq_nil_of_le hend, List.append_nil]

theorem toList_toByteArray (bytes : List UInt8) : bytes.toByteArray.toList = bytes := by
  rw [ByteArray.toList, toList_loop, List.toList_data_toByteArray]
  rfl

theorem encodeChar_ne_nil {c : Char} : String.utf8EncodeChar c ≠ [] := by
  have hpos := c.utf8Size_pos
  rw [← String.length_utf8EncodeChar] at hpos
  exact List.ne_nil_of_length_pos hpos

/-- The bytes of a run of characters. -/
def encodeChars (cs : List Char) : List UInt8 :=
  cs.flatMap String.utf8EncodeChar

theorem encode_ofList (cs : List Char) : encode (String.ofList cs) = encodeChars cs := by
  rw [encode, String.toUTF8_eq_toByteArray, String.toByteArray_ofList, List.utf8Encode,
    toList_toByteArray, encodeChars]

theorem encode_eq (s : String) : encode s = encodeChars s.toList := by
  rw [← encode_ofList, String.ofList_toList]

@[simp] theorem encodeChars_nil : encodeChars [] = [] := rfl

theorem encodeChars_cons (c : Char) (cs : List Char) :
    encodeChars (c :: cs) = String.utf8EncodeChar c ++ encodeChars cs :=
  List.flatMap_cons

theorem encodeChars_append (cs ds : List Char) :
    encodeChars (cs ++ ds) = encodeChars cs ++ encodeChars ds :=
  List.flatMap_append

/-! ## Reading back -/

theorem decodeChar?_append (c : Char) (rest : List UInt8) :
    decodeChar? (String.utf8EncodeChar c ++ rest) = some c := by
  have hlength : (String.utf8EncodeChar c).length ≤ 4 := by
    rw [String.length_utf8EncodeChar]
    exact c.utf8Size_le_four
  rw [decodeChar?, List.take_append, List.take_of_length_le hlength, List.toByteArray_append]
  exact ByteArray.utf8DecodeChar?_utf8EncodeChar_append

theorem decode_append (c : Char) (rest : List UInt8) :
    decode (String.utf8EncodeChar c ++ rest) = (c :: (decode rest).1, (decode rest).2) := by
  have hdrop : (String.utf8EncodeChar c ++ rest).drop c.utf8Size = rest := by
    rw [← String.length_utf8EncodeChar, List.drop_left]
  rw [decode]
  split
  · next h =>
    rw [decodeChar?_append] at h
    cases h
  · next d h =>
    rw [decodeChar?_append] at h
    obtain rfl := Option.some.inj h
    rw [hdrop]

/-- **What is written is read back**, and nothing is left over. -/
theorem decode_encodeChars (cs : List Char) : decode (encodeChars cs) = (cs, []) := by
  induction cs with
  | nil =>
    rw [encodeChars_nil, decode]
    rfl
  | cons c cs ih => rw [encodeChars_cons, decode_append, ih]

theorem encodeChar_injective {c d : Char} (h : String.utf8EncodeChar c = String.utf8EncodeChar d) :
    c = d := by
  have hc := decodeChar?_append c []
  rw [h, decodeChar?_append] at hc
  exact (Option.some.inj hc).symm

/-! ## Bytes of ASCII characters -/

theorem toNat_add_le {n k : Nat} (hk : 0x80 ≤ k) (hsum : n + k < 256) :
    0x80 ≤ (UInt8.ofNat (n + k)).toNat := by
  rw [UInt8.toNat_ofNat', Nat.mod_eq_of_lt hsum]
  omega

/-- A byte of a character is all of it, or is beyond ASCII. -/
theorem eq_singleton_or_le {c : Char} {b : UInt8} (hb : b ∈ String.utf8EncodeChar c) :
    String.utf8EncodeChar c = [b] ∨ 0x80 ≤ b.toNat := by
  unfold String.utf8EncodeChar at hb ⊢
  dsimp only at hb ⊢
  split at hb
  · next hascii =>
    rw [if_pos hascii, List.mem_singleton.1 hb]
    exact .inl rfl
  · right
    split at hb
    · simp only [List.mem_cons, List.not_mem_nil, or_false] at hb
      obtain rfl | rfl := hb
      · exact toNat_add_le (by decide) (by omega)
      · exact toNat_add_le (by decide) (by omega)
    split at hb
    · simp only [List.mem_cons, List.not_mem_nil, or_false] at hb
      obtain rfl | rfl | rfl := hb
      · exact toNat_add_le (by decide) (by omega)
      · exact toNat_add_le (by decide) (by omega)
      · exact toNat_add_le (by decide) (by omega)
    · simp only [List.mem_cons, List.not_mem_nil, or_false] at hb
      obtain rfl | rfl | rfl | rfl := hb
      · exact toNat_add_le (by decide) (by omega)
      · exact toNat_add_le (by decide) (by omega)
      · exact toNat_add_le (by decide) (by omega)
      · exact toNat_add_le (by decide) (by omega)

/-- **The byte of an ASCII character stands for nothing else.** -/
theorem mem_encodeChar_iff {c d : Char} {b : UInt8} (hd : String.utf8EncodeChar d = [b])
    (hb : b.toNat < 0x80) : b ∈ String.utf8EncodeChar c ↔ c = d := by
  constructor
  · intro hmem
    obtain hc | hle := eq_singleton_or_le hmem
    · exact encodeChar_injective (hc.trans hd.symm)
    · omega
  · rintro rfl
    rw [hd]
    exact List.mem_singleton_self b

/-! ## Order -/

variable {bytes bytes' : List UInt8}

/-- Of two bytes that are in order the greater one decides, and where they are equal the bytes after
them do. -/
theorem ofNat_cons_lt_ofNat_cons {a b : Nat} (hle : a ≤ b) (hb : b < 256)
    (h : a = b → bytes < bytes') : UInt8.ofNat a :: bytes < UInt8.ofNat b :: bytes' := by
  rw [List.cons_lt_cons_iff, UInt8.lt_iff_toNat_lt,
    UInt8.toNat_ofNat_of_lt' (Nat.lt_of_le_of_lt hle hb), UInt8.toNat_ofNat_of_lt' hb]
  obtain hlt | heq := Nat.lt_or_eq_of_le hle
  · exact .inl hlt
  · exact .inr ⟨congrArg UInt8.ofNat heq, h heq⟩

/-- A byte that is less decides, whatever is after it. -/
theorem ofNat_cons_lt_ofNat_cons_of_lt {a b : Nat} (hlt : a < b) (hb : b < 256) :
    UInt8.ofNat a :: bytes < UInt8.ofNat b :: bytes' :=
  ofNat_cons_lt_ofNat_cons (Nat.le_of_lt hlt) hb fun heq => absurd heq (Nat.ne_of_lt hlt)

/-- The bytes of two characters are in the order of the characters, whatever is after them. -/
theorem encodeChar_append_lt {c d : Char} (h : c < d) (bytes bytes' : List UInt8) :
    String.utf8EncodeChar c ++ bytes < String.utf8EncodeChar d ++ bytes' := by
  have hlt : c.val.toNat < d.val.toNat := h
  have hmax : d.val.toNat < 0x110000 := by
    have hvalid := d.valid
    simp only [UInt32.isValidChar, Nat.isValidChar] at hvalid
    omega
  unfold String.utf8EncodeChar
  dsimp only
  generalize c.val.toNat = n at *
  generalize d.val.toNat = m at *
  -- the first byte tells how many there are; where it is the same, the first digits to base 64
  -- that differ decide
  split
  · split
    · exact ofNat_cons_lt_ofNat_cons_of_lt hlt (by omega)
    split
    · exact ofNat_cons_lt_ofNat_cons_of_lt (by omega) (by omega)
    split
    · exact ofNat_cons_lt_ofNat_cons_of_lt (by omega) (by omega)
    · exact ofNat_cons_lt_ofNat_cons_of_lt (by omega) (by omega)
  split
  · rw [if_neg (by omega)]
    split
    · exact ofNat_cons_lt_ofNat_cons (by omega) (by omega) fun _ =>
        ofNat_cons_lt_ofNat_cons_of_lt (by omega) (by omega)
    split
    · exact ofNat_cons_lt_ofNat_cons_of_lt (by omega) (by omega)
    · exact ofNat_cons_lt_ofNat_cons_of_lt (by omega) (by omega)
  split
  · rw [if_neg (by omega), if_neg (by omega)]
    split
    · exact ofNat_cons_lt_ofNat_cons (by omega) (by omega) fun _ =>
        ofNat_cons_lt_ofNat_cons (by omega) (by omega) fun _ =>
          ofNat_cons_lt_ofNat_cons_of_lt (by omega) (by omega)
    · exact ofNat_cons_lt_ofNat_cons_of_lt (by omega) (by omega)
  · rw [if_neg (by omega), if_neg (by omega), if_neg (by omega)]
    exact ofNat_cons_lt_ofNat_cons (by omega) (by omega) fun _ =>
      ofNat_cons_lt_ofNat_cons (by omega) (by omega) fun _ =>
        ofNat_cons_lt_ofNat_cons (by omega) (by omega) fun _ =>
          ofNat_cons_lt_ofNat_cons_of_lt (by omega) (by omega)

theorem encodeChars_lt {cs ds : List Char} (h : cs < ds) : encodeChars cs < encodeChars ds := by
  induction h with
  | @nil d ds =>
    have hsome : String.utf8EncodeChar d ≠ [] := encodeChar_ne_nil
    obtain ⟨b, bytes, hbytes⟩ := List.exists_cons_of_ne_nil hsome
    rw [encodeChars_nil, encodeChars_cons, hbytes]
    exact List.nil_lt_cons b _
  | cons _ ih =>
    rw [encodeChars_cons, encodeChars_cons]
    exact List.append_left_lt ih
  | rel hlt =>
    rw [encodeChars_cons, encodeChars_cons]
    exact encodeChar_append_lt hlt _ _

/-- **Texts in the order of their characters are in the order of their bytes.** -/
theorem encode_lt {s t : String} (h : s < t) : encode s < encode t := by
  rw [encode_eq, encode_eq]
  exact encodeChars_lt h

end Filing.Text
