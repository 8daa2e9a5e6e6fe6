import NunchukSdk.Foundation.ModifiedUtf8

/-!
# UTF-16 Text in Two Byte Encodings

Text is a list of Unicode scalar values. UTF-16 writes the ones below `0x10000` as one unit and
the others, the **supplementary** ones, as a pair of surrogates. Modified UTF-8 encodes these units
one by one, UTF-8 the scalar values themselves.

## Main results

- `encodeUnit_eq_utf8`: on a character that is neither zero nor supplementary both agree
- `length_utf8_lt`: on any other one modified UTF-8 is longer
- `modifiedUtf8_eq_utf8_iff`: the two encodings of a text agree exactly when it has none of those
-/

namespace NunchukSdk.Foundation.Utf16

/-! ## Encodings of text -/

/-- The UTF-16 units of one scalar value. -/
def units (c : Char) : List UInt16 :=
  if c.toNat < 0x10000 then [UInt16.ofNat c.toNat]
  else
    [UInt16.ofNat (0xD800 + (c.toNat - 0x10000) / 1024),
      UInt16.ofNat (0xDC00 + (c.toNat - 0x10000) % 1024)]

/-- The UTF-16 units of a text. -/
def encode (text : List Char) : List UInt16 := text.flatMap units

/-- The UTF-8 bytes of a text. -/
def utf8 (text : List Char) : List UInt8 := text.flatMap String.utf8EncodeChar

@[simp] theorem encode_cons (c : Char) (text : List Char) :
    encode (c :: text) = units c ++ encode text := rfl

@[simp] theorem utf8_cons (c : Char) (text : List Char) :
    utf8 (c :: text) = String.utf8EncodeChar c ++ utf8 text := rfl

/-- A character that is neither U+0000 nor supplementary. -/
def Plain (c : Char) : Prop := c.toNat ≠ 0 ∧ c.toNat < 0x10000

instance (c : Char) : Decidable (Plain c) := inferInstanceAs (Decidable (_ ∧ _))

/-! ## One character -/

/-- The modified UTF-8 of a text is that of its characters. -/
theorem modifiedUtf8_encode (text : List Char) :
    ModifiedUtf8.encode (encode text) = text.flatMap fun c => ModifiedUtf8.encode (units c) := by
  unfold ModifiedUtf8.encode encode
  exact List.flatMap_assoc

theorem toNat_lt (c : Char) : c.toNat < 0x110000 := by
  have hvalid : c.toNat < 0xD800 ∨ 0xDFFF < c.toNat ∧ c.toNat < 0x110000 := c.valid
  omega

theorem toNat_unit {c : Char} (h : c.toNat < 0x10000) : (UInt16.ofNat c.toNat).toNat = c.toNat :=
  UInt16.toNat_ofNat_of_lt' h

/-- UTF-8 by the number of the character. -/
theorem utf8EncodeChar_eq (c : Char) :
    String.utf8EncodeChar c =
      if c.toNat ≤ 0x7F then [UInt8.ofNat c.toNat]
      else if c.toNat ≤ 0x7FF then
        [UInt8.ofNat (c.toNat / 64 % 0x20 + 0xC0), UInt8.ofNat (c.toNat % 0x40 + 0x80)]
      else if c.toNat ≤ 0xFFFF then
        [UInt8.ofNat (c.toNat / 4096 % 0x10 + 0xE0), UInt8.ofNat (c.toNat / 64 % 0x40 + 0x80),
          UInt8.ofNat (c.toNat % 0x40 + 0x80)]
      else
        [UInt8.ofNat (c.toNat / 262144 % 0x08 + 0xF0),
          UInt8.ofNat (c.toNat / 4096 % 0x40 + 0x80), UInt8.ofNat (c.toNat / 64 % 0x40 + 0x80),
          UInt8.ofNat (c.toNat % 0x40 + 0x80)] := rfl

/-- A plain character is one unit, with the bytes of its UTF-8. -/
theorem encodeUnit_eq_utf8 {c : Char} (h : Plain c) :
    ModifiedUtf8.encode (units c) = String.utf8EncodeChar c := by
  obtain ⟨hzero, hbmp⟩ := h
  have hunits : units c = [UInt16.ofNat c.toNat] := if_pos hbmp
  rw [hunits, ModifiedUtf8.encode_cons, ModifiedUtf8.encode_nil, List.append_nil,
    utf8EncodeChar_eq]
  unfold ModifiedUtf8.encodeUnit
  rw [toNat_unit hbmp]
  by_cases hone : c.toNat < 0x80
  · -- one byte
    rw [if_pos ⟨Nat.pos_of_ne_zero hzero, hone⟩, if_pos (Nat.le_of_lt_succ hone)]
  · have hlow : ¬ (0 < c.toNat ∧ c.toNat < 0x80) := fun h => hone h.2
    have hlow' : ¬ c.toNat ≤ 0x7F := by omega
    have htail : 0x80 + c.toNat % 64 = c.toNat % 0x40 + 0x80 := by omega
    by_cases htwo : c.toNat < 0x800
    · -- two bytes
      have hlead : 0xC0 + c.toNat / 64 = c.toNat / 64 % 0x20 + 0xC0 := by omega
      rw [if_neg hlow, if_pos htwo, if_neg hlow', if_pos (Nat.le_of_lt_succ htwo), hlead, htail]
    · -- three bytes, the most that a plain character takes
      have hlead : 0xE0 + c.toNat / 4096 = c.toNat / 4096 % 0x10 + 0xE0 := by omega
      have hmiddle : 0x80 + c.toNat / 64 % 64 = c.toNat / 64 % 0x40 + 0x80 := by omega
      have htwo' : ¬ c.toNat ≤ 0x7FF := by omega
      rw [if_neg hlow, if_neg htwo, if_neg hlow', if_neg htwo', if_pos (Nat.le_of_lt_succ hbmp),
        hlead, hmiddle, htail]

/-- A surrogate takes three bytes. -/
theorem length_encodeUnit_surrogate {n : Nat} (hlow : 0xD800 ≤ n) (hhigh : n < 0xE000) :
    (ModifiedUtf8.encodeUnit (UInt16.ofNat n)).length = 3 := by
  have hn : (UInt16.ofNat n).toNat = n := UInt16.toNat_ofNat_of_lt' (by show n < 65536; omega)
  unfold ModifiedUtf8.encodeUnit
  rw [hn, if_neg (by omega), if_neg (by omega)]
  rfl

/-- U+0000 takes two bytes instead of one, a supplementary character six instead of four. -/
theorem length_utf8_lt {c : Char} (h : ¬ Plain c) :
    (String.utf8EncodeChar c).length < (ModifiedUtf8.encode (units c)).length := by
  by_cases hzero : c.toNat = 0
  · -- U+0000 is kept out of the encoded text
    have hunits : units c = [UInt16.ofNat c.toNat] := if_pos (by omega)
    rw [utf8EncodeChar_eq, hunits, hzero]
    decide
  · -- a pair of surrogates, each encoded on its own
    have hsupplementary : ¬ c.toNat < 0x10000 := fun hbmp => h ⟨hzero, hbmp⟩
    have hscalar := toNat_lt c
    have hunits : units c =
        [UInt16.ofNat (0xD800 + (c.toNat - 0x10000) / 1024),
          UInt16.ofNat (0xDC00 + (c.toNat - 0x10000) % 1024)] := if_neg hsupplementary
    have hfour : (String.utf8EncodeChar c).length = 4 := by
      rw [utf8EncodeChar_eq, if_neg (by omega), if_neg (by omega), if_neg (by omega)]
      rfl
    rw [hfour, hunits, ModifiedUtf8.encode_cons, ModifiedUtf8.encode_cons, ModifiedUtf8.encode_nil,
      List.append_nil, List.length_append, length_encodeUnit_surrogate (by omega) (by omega),
      length_encodeUnit_surrogate (by omega) (by omega)]
    decide

theorem length_utf8_le (c : Char) :
    (String.utf8EncodeChar c).length ≤ (ModifiedUtf8.encode (units c)).length := by
  by_cases h : Plain c
  · exact Nat.le_of_eq (by rw [encodeUnit_eq_utf8 h])
  · exact Nat.le_of_lt (length_utf8_lt h)

/-! ## Text -/

/-- Modified UTF-8 is never shorter. -/
theorem length_utf8_text_le (text : List Char) :
    (utf8 text).length ≤ (ModifiedUtf8.encode (encode text)).length := by
  rw [modifiedUtf8_encode]
  induction text with
  | nil => exact Nat.le_refl 0
  | cons c text ih =>
    rw [utf8_cons, List.flatMap_cons, List.length_append, List.length_append]
    exact Nat.add_le_add (length_utf8_le c) ih

/-- **Where the encodings part.** The modified UTF-8 of a text is its UTF-8 exactly when no
    character is U+0000 or supplementary. -/
theorem modifiedUtf8_eq_utf8_iff (text : List Char) :
    ModifiedUtf8.encode (encode text) = utf8 text ↔ ∀ c ∈ text, Plain c := by
  induction text with
  | nil => exact iff_of_true rfl fun c hc => by cases hc
  | cons c text ih =>
    -- induction over the characters: both encodings go one by one
    have hsplit : ModifiedUtf8.encode (encode (c :: text)) =
        ModifiedUtf8.encode (units c) ++ ModifiedUtf8.encode (encode text) := by
      rw [modifiedUtf8_encode, modifiedUtf8_encode, List.flatMap_cons]
    rw [hsplit, utf8_cons, List.forall_mem_cons, ← ih]
    constructor
    · intro h
      by_cases hplain : Plain c
      · rw [encodeUnit_eq_utf8 hplain] at h
        exact ⟨hplain, List.append_cancel_left h⟩
      · -- the first character alone makes the modified encoding longer
        have hlength := congrArg List.length h
        rw [List.length_append, List.length_append] at hlength
        have hlt := length_utf8_lt hplain
        have hle := length_utf8_text_le text
        omega
    · rintro ⟨hplain, h⟩
      rw [encodeUnit_eq_utf8 hplain, h]

end NunchukSdk.Foundation.Utf16
