import Mathlib.Data.List.Basic

/-!
# Modified UTF-8

The encoding in which JNI hands out the UTF-16 units of a Java string as bytes. It differs from
UTF-8 in two ways: the unit 0 takes two bytes, so that the result contains no zero byte, and every
unit is encoded on its own, so that a surrogate pair takes six bytes.

## Main results

- `decode_encode`: nothing is lost, for every list of units, also one with unpaired surrogates
- `decode_ascii`, `encode_widen`: on ASCII text the encoding is the identity
-/

namespace NunchukSdk.Foundation.ModifiedUtf8

/-! ## Encoding -/

/-- The bytes of one UTF-16 unit. -/
def encodeUnit (u : UInt16) : List UInt8 :=
  if 0 < u.toNat ∧ u.toNat < 0x80 then [UInt8.ofNat u.toNat]
  else if u.toNat < 0x800 then
    [UInt8.ofNat (0xC0 + u.toNat / 64), UInt8.ofNat (0x80 + u.toNat % 64)]
  else
    [UInt8.ofNat (0xE0 + u.toNat / 4096), UInt8.ofNat (0x80 + u.toNat / 64 % 64),
      UInt8.ofNat (0x80 + u.toNat % 64)]

/-- The bytes of a list of units. -/
def encode (units : List UInt16) : List UInt8 := units.flatMap encodeUnit

@[simp] theorem encode_nil : encode [] = [] := rfl

@[simp] theorem encode_cons (u : UInt16) (units : List UInt16) :
    encode (u :: units) = encodeUnit u ++ encode units := rfl

/-- No unit is encoded with a zero byte. -/
theorem zero_not_mem_encodeUnit (u : UInt16) : 0 ∉ encodeUnit u := by
  have hu : u.toNat < 65536 := u.toNat_lt
  have hne : ∀ n : Nat, 0 < n → n < 256 → (0 : UInt8) ≠ UInt8.ofNat n := by
    intro n hpos hlt heq
    have hzero : (0 : Nat) = n := by
      simpa [UInt8.toNat_ofNat_of_lt' hlt] using congrArg UInt8.toNat heq
    omega
  -- every byte of every form is `ofNat n` with `0 < n < 256`
  unfold encodeUnit
  split
  · rename_i h
    simpa using hne _ h.1 (by omega)
  · split
    · simp only [List.mem_cons, List.not_mem_nil, or_false, not_or]
      exact ⟨hne _ (by omega) (by omega), hne _ (by omega) (by omega)⟩
    · simp only [List.mem_cons, List.not_mem_nil, or_false, not_or]
      exact ⟨hne _ (by omega) (by omega), hne _ (by omega) (by omega),
        hne _ (by omega) (by omega)⟩

theorem zero_not_mem_encode (units : List UInt16) : 0 ∉ encode units := by
  intro hmem
  obtain ⟨u, -, hu⟩ := List.mem_flatMap.mp hmem
  exact zero_not_mem_encodeUnit u hu

/-! ## Decoding -/

/-- A byte that continues a unit. -/
def IsTail (b : UInt8) : Prop := 0x80 ≤ b.toNat ∧ b.toNat < 0xC0

instance (b : UInt8) : Decidable (IsTail b) := inferInstanceAs (Decidable (_ ∧ _))

/-- The units of a list of bytes; `none` where the bytes are no modified UTF-8. -/
def decode : List UInt8 → Option (List UInt16)
  | [] => some []
  | b :: rest =>
    -- a byte below 0x80 stands for itself, but for zero, which is written with two bytes
    if b.toNat < 0x80 then
      if b.toNat = 0 then none
      else (decode rest).map (UInt16.ofNat b.toNat :: ·)
    -- two bytes: five bits and six bits
    else if 0xC0 ≤ b.toNat ∧ b.toNat < 0xE0 then
      match rest with
      | c :: rest =>
        if IsTail c then
          (decode rest).map (UInt16.ofNat ((b.toNat - 0xC0) * 64 + (c.toNat - 0x80)) :: ·)
        else none
      | [] => none
    -- three bytes: four bits and twice six bits
    else if 0xE0 ≤ b.toNat ∧ b.toNat < 0xF0 then
      match rest with
      | c :: d :: rest =>
        if IsTail c ∧ IsTail d then
          (decode rest).map (UInt16.ofNat ((b.toNat - 0xE0) * 4096 + (c.toNat - 0x80) * 64 +
            (d.toNat - 0x80)) :: ·)
        else none
      | _ => none
    else none

theorem decode_one_byte {b : UInt8} (hpos : 0 < b.toNat) (hlt : b.toNat < 0x80)
    (rest : List UInt8) :
    decode (b :: rest) = (decode rest).map (UInt16.ofNat b.toNat :: ·) := by
  rw [decode.eq_def]
  dsimp only
  rw [if_pos hlt, if_neg (Nat.ne_of_gt hpos)]

theorem decode_two_bytes {b c : UInt8} (hb : 0xC0 ≤ b.toNat ∧ b.toNat < 0xE0) (hc : IsTail c)
    (rest : List UInt8) :
    decode (b :: c :: rest) =
      (decode rest).map (UInt16.ofNat ((b.toNat - 0xC0) * 64 + (c.toNat - 0x80)) :: ·) := by
  rw [decode.eq_def]
  dsimp only
  rw [if_neg (by omega), if_pos hb, if_pos hc]

theorem decode_three_bytes {b c d : UInt8} (hb : 0xE0 ≤ b.toNat ∧ b.toNat < 0xF0)
    (hc : IsTail c) (hd : IsTail d) (rest : List UInt8) :
    decode (b :: c :: d :: rest) =
      (decode rest).map (UInt16.ofNat ((b.toNat - 0xE0) * 4096 + (c.toNat - 0x80) * 64 +
        (d.toNat - 0x80)) :: ·) := by
  rw [decode.eq_def]
  dsimp only
  rw [if_neg (by omega), if_neg (by omega), if_pos hb, if_pos ⟨hc, hd⟩]

/-- Decoding starts with the unit whose bytes come first. -/
theorem decode_encodeUnit_append (u : UInt16) (rest : List UInt8) :
    decode (encodeUnit u ++ rest) = (decode rest).map (u :: ·) := by
  have hu : u.toNat < 65536 := u.toNat_lt
  have hbyte : ∀ n : Nat, n < 256 → (UInt8.ofNat n).toNat = n :=
    fun n hn => UInt8.toNat_ofNat_of_lt' hn
  have hunit : ∀ n : Nat, n = u.toNat → UInt16.ofNat n = u := by
    intro n hn
    rw [hn, UInt16.ofNat_toNat]
  -- one case for each form of `encodeUnit`; the arithmetic puts the bits together again
  unfold encodeUnit
  split
  · -- one byte
    rename_i h
    have hb := hbyte u.toNat (by omega)
    rw [List.cons_append, List.nil_append,
      decode_one_byte (by rw [hb]; exact h.1) (by rw [hb]; exact h.2), hb, hunit _ rfl]
  · split
    · -- two bytes
      have hb := hbyte (0xC0 + u.toNat / 64) (by omega)
      have hc := hbyte (0x80 + u.toNat % 64) (by omega)
      rw [List.cons_append, List.cons_append, List.nil_append,
        decode_two_bytes (by omega) (by unfold IsTail; omega), hb, hc, hunit _ (by omega)]
    · -- three bytes
      have hb := hbyte (0xE0 + u.toNat / 4096) (by omega)
      have hc := hbyte (0x80 + u.toNat / 64 % 64) (by omega)
      have hd := hbyte (0x80 + u.toNat % 64) (by omega)
      rw [List.cons_append, List.cons_append, List.cons_append, List.nil_append,
        decode_three_bytes (by omega) (by unfold IsTail; omega) (by unfold IsTail; omega), hb,
        hc, hd, hunit _ (by omega)]

/-- **Nothing is lost.** -/
theorem decode_encode (units : List UInt16) : decode (encode units) = some units := by
  induction units with
  | nil => rfl
  | cons u units ih =>
    rw [encode_cons, decode_encodeUnit_append, ih]
    rfl

theorem encode_injective {s t : List UInt16} (h : encode s = encode t) : s = t := by
  -- `decode` is a left inverse
  have hdecoded : some s = some t := by rw [← decode_encode s, h, decode_encode t]
  exact Option.some.inj hdecoded

/-! ## ASCII text -/

/-- A byte that stands for itself. -/
def IsAscii (b : UInt8) : Prop := 0 < b.toNat ∧ b.toNat < 0x80

/-- The unit with the same number as a byte. -/
def widen (b : UInt8) : UInt16 := UInt16.ofNat b.toNat

theorem toNat_widen (b : UInt8) : (widen b).toNat = b.toNat := by
  have hb : b.toNat < 256 := b.toNat_lt
  exact UInt16.toNat_ofNat_of_lt' (by show b.toNat < 65536; omega)

/-- ASCII bytes are decoded one by one. -/
theorem decode_ascii {bytes : List UInt8} (h : ∀ b ∈ bytes, IsAscii b) :
    decode bytes = some (bytes.map widen) := by
  induction bytes with
  | nil => rfl
  | cons b bytes ih =>
    obtain ⟨hb, hbytes⟩ := List.forall_mem_cons.mp h
    rw [decode_one_byte hb.1 hb.2, ih hbytes]
    rfl

/-- ASCII units are encoded one by one. -/
theorem encode_widen {bytes : List UInt8} (h : ∀ b ∈ bytes, IsAscii b) :
    encode (bytes.map widen) = bytes := by
  induction bytes with
  | nil => rfl
  | cons b bytes ih =>
    obtain ⟨hb, hbytes⟩ := List.forall_mem_cons.mp h
    have hunit : encodeUnit (widen b) = [b] := by
      have hone : 0 < b.toNat ∧ b.toNat < 0x80 := hb
      unfold encodeUnit
      rw [toNat_widen, if_pos hone, UInt8.ofNat_toNat]
    rw [List.map_cons, encode_cons, hunit, ih hbytes]
    rfl

end NunchukSdk.Foundation.ModifiedUtf8
