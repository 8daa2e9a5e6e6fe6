import NunchukSdk.Foundation.ModifiedUtf8

/-!
# Hexadecimal Text

Byte strings written with two hexadecimal digits for each byte. Text is a list of character codes,
one byte each. Writing uses lower case; reading takes digits of either case and refuses text of
odd length and text with any other character.

## Main results

- `decode_encode`: what was written is read back
- `encode_of_decode`: what is read was the lower-case text of the result
- `decode_isSome_iff`: exactly the even-length texts of digits are read
-/

namespace NunchukSdk.Foundation.HexBytes

/-! ## Digits -/

/-- The lower-case digit of a number below 16. -/
def digit (n : Nat) : UInt8 := if n < 10 then UInt8.ofNat (48 + n) else UInt8.ofNat (87 + n)

/-- The value of a digit of either case. -/
def value (c : UInt8) : Option Nat :=
  if 48 ≤ c.toNat ∧ c.toNat ≤ 57 then some (c.toNat - 48)
  else if 97 ≤ c.toNat ∧ c.toNat ≤ 102 then some (c.toNat - 87)
  else if 65 ≤ c.toNat ∧ c.toNat ≤ 70 then some (c.toNat - 55)
  else none

/-- A character that is a digit of either case. -/
def IsDigit (c : UInt8) : Prop :=
  (48 ≤ c.toNat ∧ c.toNat ≤ 57) ∨ (97 ≤ c.toNat ∧ c.toNat ≤ 102) ∨
    (65 ≤ c.toNat ∧ c.toNat ≤ 70)

instance (c : UInt8) : Decidable (IsDigit c) := inferInstanceAs (Decidable (_ ∨ _ ∨ _))

/-- A digit as writing produces it. -/
def IsLowerDigit (c : UInt8) : Prop :=
  (48 ≤ c.toNat ∧ c.toNat ≤ 57) ∨ (97 ≤ c.toNat ∧ c.toNat ≤ 102)

instance (c : UInt8) : Decidable (IsLowerDigit c) := inferInstanceAs (Decidable (_ ∨ _))

/-- The lower-case form of an ASCII letter; other characters stay. -/
def toLower (c : UInt8) : UInt8 :=
  if 65 ≤ c.toNat ∧ c.toNat ≤ 90 then UInt8.ofNat (c.toNat + 32) else c

theorem IsLowerDigit.isDigit {c : UInt8} (h : IsLowerDigit c) : IsDigit c := by
  rcases h with h | h
  · exact Or.inl h
  · exact Or.inr (Or.inl h)

/-- Digits are ASCII characters. -/
theorem IsDigit.isAscii {c : UInt8} (h : IsDigit c) : ModifiedUtf8.IsAscii c := by
  unfold IsDigit at h
  unfold ModifiedUtf8.IsAscii
  omega

theorem value_isSome_iff (c : UInt8) : (value c).isSome ↔ IsDigit c := by
  unfold value IsDigit
  split
  · simp [*]
  · split
    · simp [*]
    · split <;> simp [*]

theorem value_lt {c : UInt8} {n : Nat} (h : value c = some n) : n < 16 := by
  unfold value at h
  split at h
  · rw [Option.some.injEq] at h
    omega
  · split at h
    · rw [Option.some.injEq] at h
      omega
    · split at h
      · rw [Option.some.injEq] at h
        omega
      · cases h

theorem toNat_digit {n : Nat} (hn : n < 16) :
    (digit n).toNat = if n < 10 then 48 + n else 87 + n := by
  unfold digit
  split
  · exact UInt8.toNat_ofNat_of_lt' (by show 48 + n < 256; omega)
  · exact UInt8.toNat_ofNat_of_lt' (by show 87 + n < 256; omega)

theorem isLowerDigit_digit {n : Nat} (hn : n < 16) : IsLowerDigit (digit n) := by
  unfold IsLowerDigit
  rw [toNat_digit hn]
  split <;> omega

/-- Each digit is read as the number it was written for. -/
theorem value_digit {n : Nat} (hn : n < 16) : value (digit n) = some n := by
  unfold value
  rw [toNat_digit hn]
  by_cases h : n < 10
  · rw [if_pos h, if_pos (by omega)]
    congr 1
    omega
  · rw [if_neg h, if_neg (by omega), if_pos (by omega)]
    congr 1
    omega

/-- Writing the value of a digit gives its lower-case form. -/
theorem digit_of_value {c : UInt8} {n : Nat} (h : value c = some n) : digit n = toLower c := by
  have hc : c.toNat < 256 := c.toNat_lt
  have hn := value_lt h
  apply UInt8.toNat_inj.mp
  rw [toNat_digit hn]
  unfold toLower
  unfold value at h
  split at h
  · -- `0` to `9`
    rw [Option.some.injEq] at h
    have hsmall : n < 10 := by omega
    have hlow : ¬ (65 ≤ c.toNat ∧ c.toNat ≤ 90) := by omega
    rw [if_pos hsmall, if_neg hlow]
    omega
  · split at h
    · -- `a` to `f`
      rw [Option.some.injEq] at h
      have hbig : ¬ n < 10 := by omega
      have hlow : ¬ (65 ≤ c.toNat ∧ c.toNat ≤ 90) := by omega
      rw [if_neg hbig, if_neg hlow]
      omega
    · split at h
      · -- `A` to `F`
        rename_i hupper
        rw [Option.some.injEq] at h
        have hbig : ¬ n < 10 := by omega
        have hcase : 65 ≤ c.toNat ∧ c.toNat ≤ 90 := by omega
        have hbyte : (UInt8.ofNat (c.toNat + 32)).toNat = c.toNat + 32 :=
          UInt8.toNat_ofNat_of_lt' (by show c.toNat + 32 < 256; omega)
        rw [if_neg hbig, if_pos hcase, hbyte]
        omega
      · cases h

/-! ## Byte strings -/

/-- The digits of one byte, high half first. -/
def encodeByte (b : UInt8) : List UInt8 := [digit (b.toNat / 16), digit (b.toNat % 16)]

/-- Write every byte with two digits. -/
def encode (bytes : List UInt8) : List UInt8 := bytes.flatMap encodeByte

@[simp] theorem encode_nil : encode [] = [] := rfl

theorem encode_cons (b : UInt8) (bytes : List UInt8) :
    encode (b :: bytes) = digit (b.toNat / 16) :: digit (b.toNat % 16) :: encode bytes := rfl

theorem length_encode (bytes : List UInt8) : (encode bytes).length = 2 * bytes.length := by
  induction bytes with
  | nil => rfl
  | cons b bytes ih =>
    rw [encode_cons, List.length_cons, List.length_cons, ih, List.length_cons]
    omega

/-- Only lower-case digits are written. -/
theorem isLowerDigit_of_mem_encode {bytes : List UInt8} {c : UInt8} (h : c ∈ encode bytes) :
    IsLowerDigit c := by
  obtain ⟨b, -, hc⟩ := List.mem_flatMap.mp h
  have hb : b.toNat < 256 := b.toNat_lt
  simp only [encodeByte, List.mem_cons, List.not_mem_nil, or_false] at hc
  rcases hc with rfl | rfl
  · exact isLowerDigit_digit (by omega)
  · exact isLowerDigit_digit (by omega)

/-- Read two digits for each byte. -/
def decode : List UInt8 → Option (List UInt8)
  | [] => some []
  | [_] => none
  | h :: l :: rest =>
    match value h, value l with
    | some x, some y => (decode rest).map (UInt8.ofNat (16 * x + y) :: ·)
    | _, _ => none

/-- One step of reading. -/
theorem decode_cons_cons_eq_some {h l : UInt8} {rest bytes : List UInt8} :
    decode (h :: l :: rest) = some bytes ↔
      ∃ x y tail, value h = some x ∧ value l = some y ∧ decode rest = some tail ∧
        bytes = UInt8.ofNat (16 * x + y) :: tail := by
  rw [decode]
  cases value h with
  | none => simp
  | some x =>
    cases value l with
    | none => simp
    | some y =>
      simp only [Option.map_eq_some_iff, Option.some.injEq]
      constructor
      · rintro ⟨tail, htail, rfl⟩
        exact ⟨x, y, tail, rfl, rfl, htail, rfl⟩
      · rintro ⟨_, _, tail, rfl, rfl, htail, rfl⟩
        exact ⟨tail, htail, rfl⟩

/-- **What was written is read back.** -/
theorem decode_encode (bytes : List UInt8) : decode (encode bytes) = some bytes := by
  induction bytes with
  | nil => rfl
  | cons b bytes ih =>
    have hb : b.toNat < 256 := b.toNat_lt
    have hhalves : 16 * (b.toNat / 16) + b.toNat % 16 = b.toNat := Nat.div_add_mod _ _
    -- the two halves of a byte are below 16 and make the byte again
    rw [encode_cons, decode_cons_cons_eq_some]
    refine ⟨_, _, bytes, value_digit (by omega), value_digit (by omega), ih, ?_⟩
    rw [hhalves, UInt8.ofNat_toNat]

/-- **What is read was the text of the result**, up to the case of its letters. -/
theorem encode_of_decode {text bytes : List UInt8} (h : decode text = some bytes) :
    encode bytes = text.map toLower := by
  induction text using decode.induct generalizing bytes with
  | case1 =>
    cases h
    rfl
  | case2 c => cases h
  | case3 hi lo rest _ _ _ _ ih =>
    -- two digits `x` and `y` make the byte `16 * x + y`, whose halves they are
    obtain ⟨x, y, tail, hx, hy, htail, rfl⟩ := decode_cons_cons_eq_some.mp h
    have hxlt := value_lt hx
    have hylt := value_lt hy
    have hbyte : (UInt8.ofNat (16 * x + y)).toNat = 16 * x + y :=
      UInt8.toNat_ofNat_of_lt' (by show 16 * x + y < 256; omega)
    have hhigh : (16 * x + y) / 16 = x := by omega
    have hlow : (16 * x + y) % 16 = y := by omega
    rw [encode_cons, hbyte, hhigh, hlow, ih htail, digit_of_value hx, digit_of_value hy]
    rfl
  | case4 hi lo rest hbad =>
    -- one of the two characters is no digit: nothing was read
    obtain ⟨x, y, tail, hx, hy, -⟩ := decode_cons_cons_eq_some.mp h
    exact absurd hy (hbad x y hx)

theorem decode_cons_cons_isSome (h l : UInt8) (rest : List UInt8) :
    (decode (h :: l :: rest)).isSome ↔ IsDigit h ∧ IsDigit l ∧ (decode rest).isSome := by
  rw [decode, ← value_isSome_iff, ← value_isSome_iff]
  cases value h with
  | none => simp
  | some x => cases value l <;> simp

/-- **What is refused.** Exactly the texts of even length that consist of digits are read. -/
theorem decode_isSome_iff (text : List UInt8) :
    (decode text).isSome ↔ text.length % 2 = 0 ∧ ∀ c ∈ text, IsDigit c := by
  induction text using decode.induct with
  | case1 => simp [decode]
  | case2 c => simp [decode]
  | case3 hi lo rest _ _ _ _ ih =>
    -- two digits at a time keep the parity
    have hlength : (hi :: lo :: rest).length % 2 = rest.length % 2 := by
      rw [List.length_cons, List.length_cons]
      omega
    rw [decode_cons_cons_isSome, ih, List.forall_mem_cons, List.forall_mem_cons, hlength]
    tauto
  | case4 hi lo rest hbad =>
    rw [decode_cons_cons_isSome, List.forall_mem_cons, List.forall_mem_cons]
    have hvalues : ¬ (IsDigit hi ∧ IsDigit lo) := by
      rintro ⟨hhi, hlo⟩
      obtain ⟨x, hx⟩ := Option.isSome_iff_exists.mp ((value_isSome_iff hi).mpr hhi)
      obtain ⟨y, hy⟩ := Option.isSome_iff_exists.mp ((value_isSome_iff lo).mpr hlo)
      exact hbad x y hx hy
    tauto

end NunchukSdk.Foundation.HexBytes
