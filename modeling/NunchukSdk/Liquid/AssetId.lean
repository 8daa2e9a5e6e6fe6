import NunchukSdk.Foundation.HexBytes
import NunchukSdk.Jni.Strings
import NunchukSdk.Marshal.Amount

/-!
# Asset Ids as Hex Text

A Liquid asset id is a byte vector on the native side and hex text on the Kotlin side. The codec
is written out five times: three encoders (`convert2JTxOutput`, `convert2JAssetIdHex`, the
balances listener) and two decoders (`convert2CTxOutput`, `convert2CAssetId`).

## Model

The loops are translated as they stand: `pushHex` appends two characters to the text so far,
`decodeLoop` appends one byte to the id so far and gives up with an empty id at the first bad
digit. Text crosses the boundary through `StringWrapper` and `NewStringUTF`.

## Results

- `encodeLoop_eq`, `decodeLoop_eq`: the loops compute the hex library's functions
- `assetId_hex_codec`: the five loops are one codec
-/

namespace NunchukSdk

open Foundation NativeM

/-! ## The encoders -/

/-- The characters of `"0123456789abcdef"`. -/
def hexmap : NativeString :=
  [48, 49, 50, 51, 52, 53, 54, 55, 56, 57, 97, 98, 99, 100, 101, 102]

/-- One turn of an encoder's loop: two `push_back`s. -/
def pushHex (hex : NativeString) (c : UInt8) : NativeString :=
  hex ++ [hexmap.getD (c >>> 4).toNat 0] ++ [hexmap.getD (c &&& 0x0f).toNat 0]

/-- The loop that each encoder contains, the same text up to the name of its buffer. -/
def encodeLoop (assetId : AssetId) : NativeString := assetId.foldl pushHex []

/-- `Deserializer::convert2JAssetIdHex`. -/
def convert2JAssetIdHex (assetId : AssetId) : Option JString := newStringUTF (encodeLoop assetId)

/-- The key under which the balances listener reports the balance of an asset. -/
def balancesListenerKey (assetId : AssetId) : Option JString := newStringUTF (encodeLoop assetId)

/-- A native `TxOutput`. -/
structure TxOutput where
  address : NativeString
  amount : Int
  isChange : Bool
  isReceive : Bool
  userAmount : Int
  assetId : AssetId
  deriving DecidableEq, Repr

/-- Kotlin `TxOutput`. -/
structure JTxOutput where
  first : JString
  second : JAmount
  isChange : Bool
  isReceive : Bool
  userAmount : JAmount
  assetId : JString
  deriving DecidableEq, Repr

/-- `Deserializer::convert2JTxOutput`. None of its setters throws; `none` where `NewStringUTF` is
    undefined on the address. -/
def convert2JTxOutput (valueFromAmount : ValueFromAmount) (output : TxOutput) :
    Option JTxOutput := do
  let first ← newStringUTF output.address
  let assetHex := encodeLoop output.assetId
  let assetId ← newStringUTF assetHex
  pure
    { first := first
      second := convert2JAmount valueFromAmount output.amount
      isChange := output.isChange
      isReceive := output.isReceive
      userAmount := convert2JAmount valueFromAmount output.userAmount
      assetId := assetId }

/-! ## The decoders -/

/-- The lambda `decode`, which both decoders define for themselves. -/
def decodeHexDigit (c : UInt8) : Int :=
  if 48 ≤ c.toNat ∧ c.toNat ≤ 57 then c.toNat - 48
  else if 97 ≤ c.toNat ∧ c.toNat ≤ 102 then c.toNat - 97 + 10
  else if 65 ≤ c.toNat ∧ c.toNat ≤ 70 then c.toNat - 65 + 10
  else -1

/-- The loop that both decoders contain: a bad digit clears the id and ends the loop. -/
def decodeLoop (asset : AssetId) : NativeString → AssetId
  | hi :: lo :: rest =>
    if decodeHexDigit hi < 0 ∨ decodeHexDigit lo < 0 then []
    else
      decodeLoop (asset ++ [UInt8.ofNat
        ((decodeHexDigit hi).toNat <<< 4 ||| (decodeHexDigit lo).toNat)]) rest
  | _ => asset

/-- `Serializer::convert2CAssetId`; `none` is `nullptr`. -/
def convert2CAssetId (hex : Option JString) : AssetId :=
  match hex with
  | none => []
  | some hex =>
    let hexStr := stringWrapper hex
    if hexStr.isEmpty ∨ hexStr.length % 2 ≠ 0 then [] else decodeLoop [] hexStr

/-- The constructor `TxOutput(address, amount)`. -/
abbrev NewTxOutput := NativeString → Int → TxOutput

/-- `Serializer::convert2CTxOutput`. Kotlin's `assetId` is never null. -/
def convert2CTxOutput (newTxOutput : NewTxOutput) (input : JTxOutput) : TxOutput :=
  let out := newTxOutput (stringWrapper input.first) (convert2CAmount input.second)
  let hex := stringWrapper input.assetId
  if ¬ hex.isEmpty ∧ hex.length % 2 = 0 then { out with assetId := decodeLoop [] hex } else out

/-! ## The loops compute the hex codec -/

theorem hexmap_getD {n : Nat} (hn : n < 16) : hexmap.getD n 0 = HexBytes.digit n := by
  -- the table has sixteen entries
  have hall : ∀ m : Fin 16, hexmap.getD m 0 = HexBytes.digit m := by decide
  exact hall ⟨n, hn⟩

theorem pushHex_eq (hex : NativeString) (c : UInt8) :
    pushHex hex c = hex ++ HexBytes.encodeByte c := by
  have hc : c.toNat < 256 := c.toNat_lt
  -- the two halves of the byte, as the code takes them and as the hex library does
  have hhigh : (c >>> 4).toNat = c.toNat / 16 := by
    rw [UInt8.toNat_shiftRight]
    exact Nat.shiftRight_eq_div_pow _ 4
  have hlow : (c &&& 0x0f).toNat = c.toNat % 16 := by
    rw [UInt8.toNat_and]
    exact Nat.and_two_pow_sub_one_eq_mod _ 4
  unfold pushHex HexBytes.encodeByte
  rw [hhigh, hlow, hexmap_getD (by omega), hexmap_getD (by omega), List.append_assoc]
  rfl

/-- Every encoder's loop writes the hex text of the id. -/
theorem encodeLoop_eq (assetId : AssetId) : encodeLoop assetId = HexBytes.encode assetId := by
  -- the text before the loop stays in front
  have hloop : ∀ (v : AssetId) (hex : NativeString),
      v.foldl pushHex hex = hex ++ HexBytes.encode v := by
    intro v
    induction v with
    | nil => intro hex; exact (List.append_nil hex).symm
    | cons c v ih =>
      intro hex
      rw [List.foldl_cons, ih, pushHex_eq, List.append_assoc]
      rfl
  exact (hloop assetId []).trans (List.nil_append _)

/-- The lambda is the library's digit value, with `-1` for no digit. -/
theorem decodeHexDigit_eq (c : UInt8) :
    decodeHexDigit c =
      match HexBytes.value c with
      | some n => (n : Int)
      | none => -1 := by
  -- the ranges are tested in the same order on both sides
  unfold decodeHexDigit HexBytes.value
  split
  · simp only
    omega
  · split
    · simp only
      omega
    · split
      · simp only
        omega
      · rfl

theorem shiftLeft_or {x y : Nat} (hy : y < 16) : x <<< 4 ||| y = 16 * x + y := by
  rw [← Nat.shiftLeft_add_eq_or_of_lt (i := 4) hy, Nat.shiftLeft_eq]
  omega

/-- The decoders' loop, on text of even length: the bytes read are appended, and nothing is left
    of them when a digit is bad. -/
theorem decodeLoop_eq (text : NativeString) (asset : AssetId) (heven : text.length % 2 = 0) :
    decodeLoop asset text =
      match HexBytes.decode text with
      | some bytes => asset ++ bytes
      | none => [] := by
  induction text using HexBytes.decode.induct generalizing asset with
  | case1 => exact (List.append_nil asset).symm
  | case2 c => cases heven
  | case3 hi lo rest x y hlo hhi ih =>
    -- two good digits: one turn of the loop, one byte
    have hrest : rest.length % 2 = 0 := by
      rw [List.length_cons, List.length_cons] at heven
      omega
    have hgood : ¬ (decodeHexDigit hi < 0 ∨ decodeHexDigit lo < 0) := by
      rw [decodeHexDigit_eq, decodeHexDigit_eq, hhi, hlo]
      simp only
      omega
    have hbyte : (decodeHexDigit hi).toNat <<< 4 ||| (decodeHexDigit lo).toNat = 16 * x + y := by
      rw [decodeHexDigit_eq, decodeHexDigit_eq, hhi, hlo]
      exact shiftLeft_or (HexBytes.value_lt hlo)
    rw [decodeLoop, if_neg hgood, hbyte, ih _ hrest, HexBytes.decode, hhi, hlo]
    cases HexBytes.decode rest with
    | none => rfl
    | some bytes => exact List.append_assoc _ _ _
  | case4 hi lo rest hbad =>
    -- a bad digit: the loop ends with the empty id
    have hneg : decodeHexDigit hi < 0 ∨ decodeHexDigit lo < 0 := by
      rw [decodeHexDigit_eq, decodeHexDigit_eq]
      cases hhi : HexBytes.value hi with
      | none => exact Or.inl (by decide)
      | some x =>
        cases hlo : HexBytes.value lo with
        | none => exact Or.inr (by decide)
        | some y => exact absurd hlo (hbad x y hhi)
    have hnone : HexBytes.decode (hi :: lo :: rest) = none := by
      rw [Option.eq_none_iff_forall_ne_some]
      intro bytes hbytes
      obtain ⟨x, y, _, hx, hy, -⟩ := HexBytes.decode_cons_cons_eq_some.mp hbytes
      exact hbad x y hx hy
    rw [decodeLoop, if_pos hneg, hnone]

/-- What both decoders make of text: its bytes, or the empty id. -/
def decodedBytes (text : NativeString) : AssetId := (HexBytes.decode text).getD []

theorem decodedBytes_of_even {text : NativeString} (heven : text.length % 2 = 0) :
    decodeLoop [] text = decodedBytes text := by
  rw [decodeLoop_eq text [] heven]
  unfold decodedBytes
  cases HexBytes.decode text <;> rfl

theorem decodedBytes_of_odd {text : NativeString} (hodd : text.length % 2 ≠ 0) :
    decodedBytes text = [] := by
  have hnone : HexBytes.decode text = none := by
    rw [← Option.not_isSome_iff_eq_none, HexBytes.decode_isSome_iff]
    exact fun h => hodd h.1
  unfold decodedBytes
  rw [hnone]
  rfl

theorem convert2CAssetId_eq (s : JString) :
    convert2CAssetId (some s) = decodedBytes (stringWrapper s) := by
  unfold convert2CAssetId
  simp only
  split
  -- the guard: empty or odd text is the empty id on both sides
  · rename_i h
    rcases h with hempty | hodd
    · rw [List.isEmpty_iff.mp hempty]
      rfl
    · exact (decodedBytes_of_odd hodd).symm
  · rename_i h
    exact decodedBytes_of_even (not_not.mp (not_or.mp h).2)

/-- With a fresh `TxOutput` whose asset id is empty, the other decoder computes the same. -/
theorem convert2CTxOutput_assetId (newTxOutput : NewTxOutput)
    (hfresh : ∀ address amount, (newTxOutput address amount).assetId = []) (input : JTxOutput) :
    (convert2CTxOutput newTxOutput input).assetId =
      decodedBytes (stringWrapper input.assetId) := by
  unfold convert2CTxOutput
  simp only
  split
  · rename_i h
    exact decodedBytes_of_even h.2
  · rename_i h
    -- the setter is skipped, and the fresh object has the empty id
    rw [hfresh]
    rcases not_and_or.mp h with hempty | hodd
    · rw [List.isEmpty_iff.mp (not_not.mp hempty)]
      rfl
    · exact (decodedBytes_of_odd hodd).symm

/-! ## The codec on Java strings -/

/-- A hex digit of either case, as a UTF-16 unit. -/
def IsHexUnit (u : UInt16) : Prop :=
  (48 ≤ u.toNat ∧ u.toNat ≤ 57) ∨ (97 ≤ u.toNat ∧ u.toNat ≤ 102) ∨
    (65 ≤ u.toNat ∧ u.toNat ≤ 70)

/-- A lower-case hex digit, as a UTF-16 unit. -/
def IsLowerHexUnit (u : UInt16) : Prop :=
  (48 ≤ u.toNat ∧ u.toNat ≤ 57) ∨ (97 ≤ u.toNat ∧ u.toNat ≤ 102)

/-- The lower-case form of an ASCII letter; other units stay. -/
def lowerUnit (u : UInt16) : UInt16 :=
  if 65 ≤ u.toNat ∧ u.toNat ≤ 90 then UInt16.ofNat (u.toNat + 32) else u

/-- A non-empty string of hex digits of even length. -/
def IsHexText (s : JString) : Prop := s ≠ [] ∧ s.length % 2 = 0 ∧ ∀ u ∈ s, IsHexUnit u

/-- The hex text of an asset id. -/
def assetIdText (v : AssetId) : JString := (HexBytes.encode v).map ModifiedUtf8.widen

theorem isAscii_encode (v : AssetId) : ∀ b ∈ HexBytes.encode v, ModifiedUtf8.IsAscii b :=
  fun _ hb => (HexBytes.isLowerDigit_of_mem_encode hb).isDigit.isAscii

theorem isHexUnit_widen (b : UInt8) :
    IsHexUnit (ModifiedUtf8.widen b) ↔ HexBytes.IsDigit b := by
  unfold IsHexUnit HexBytes.IsDigit
  rw [ModifiedUtf8.toNat_widen]

theorem lowerUnit_widen {b : UInt8} (hb : ModifiedUtf8.IsAscii b) :
    lowerUnit (ModifiedUtf8.widen b) = ModifiedUtf8.widen (HexBytes.toLower b) := by
  have hlt : b.toNat < 0x80 := hb.2
  unfold lowerUnit HexBytes.toLower
  rw [ModifiedUtf8.toNat_widen]
  split
  · have hbyte : (UInt8.ofNat (b.toNat + 32)).toNat = b.toNat + 32 :=
      UInt8.toNat_ofNat_of_lt' (by show b.toNat + 32 < 256; omega)
    rw [ModifiedUtf8.widen, hbyte]
  · rfl

/-- Hex text arrives as its own characters. -/
theorem isHexText_iff (s : JString) :
    IsHexText s ↔ ∃ bytes, s = bytes.map ModifiedUtf8.widen ∧ bytes ≠ [] ∧
      bytes.length % 2 = 0 ∧ ∀ b ∈ bytes, HexBytes.IsDigit b := by
  constructor
  · rintro ⟨hne, heven, hdigits⟩
    -- a hex digit is an ASCII unit, so narrowing it loses nothing
    have hbyte : ∀ u ∈ s, ModifiedUtf8.widen (UInt8.ofNat u.toNat) = u := by
      intro u hu
      have hlt : u.toNat < 256 := by
        have hdigit := hdigits u hu
        unfold IsHexUnit at hdigit
        omega
      rw [ModifiedUtf8.widen, UInt8.toNat_ofNat_of_lt' hlt, UInt16.ofNat_toNat]
    have hs : (s.map fun u => UInt8.ofNat u.toNat).map ModifiedUtf8.widen = s := by
      rw [List.map_map]
      calc s.map (ModifiedUtf8.widen ∘ fun u => UInt8.ofNat u.toNat) = s.map id :=
            List.map_congr_left hbyte
        _ = s := List.map_id s
    refine ⟨s.map fun u => UInt8.ofNat u.toNat, hs.symm, ?_, ?_, ?_⟩
    · simpa using hne
    · simpa using heven
    · intro b hb
      obtain ⟨u, hu, rfl⟩ := List.mem_map.mp hb
      rw [← isHexUnit_widen, hbyte u hu]
      exact hdigits u hu
  · rintro ⟨bytes, rfl, hne, heven, hdigits⟩
    refine ⟨by simpa using hne, by simpa using heven, ?_⟩
    intro u hu
    obtain ⟨b, hb, rfl⟩ := List.mem_map.mp hu
    exact (isHexUnit_widen b).mpr (hdigits b hb)

/-- Reading back what was written. -/
theorem decodedBytes_assetIdText (v : AssetId) :
    decodedBytes (stringWrapper (assetIdText v)) = v := by
  have harrives : stringWrapper (assetIdText v) = HexBytes.encode v :=
    (stringWrapper_eq_ascii_iff (isAscii_encode v)).mpr rfl
  rw [harrives, decodedBytes, HexBytes.decode_encode]
  rfl

/-- Writing what was read gives hex text in lower case. -/
theorem assetIdText_decodedBytes {s : JString} (hs : IsHexText s) :
    assetIdText (decodedBytes (stringWrapper s)) = s.map lowerUnit := by
  obtain ⟨bytes, rfl, -, heven, hdigits⟩ := (isHexText_iff s).mp hs
  -- the characters arrive as the bytes of the same numbers, and those are digits
  have hascii : ∀ b ∈ bytes, ModifiedUtf8.IsAscii b := fun b hb => (hdigits b hb).isAscii
  have harrives : stringWrapper (bytes.map ModifiedUtf8.widen) = bytes :=
    (stringWrapper_eq_ascii_iff hascii).mpr rfl
  obtain ⟨v, hv⟩ := Option.isSome_iff_exists.mp
    ((HexBytes.decode_isSome_iff bytes).mpr ⟨heven, hdigits⟩)
  have hread : decodedBytes bytes = v := by rw [decodedBytes, hv]; rfl
  rw [harrives, hread, assetIdText, HexBytes.encode_of_decode hv, List.map_map, List.map_map]
  exact List.map_congr_left fun b hb => (lowerUnit_widen (hascii b hb)).symm

/-- Any other string is read as the empty id. -/
theorem decodedBytes_of_not_hexText {s : JString} (hs : ¬ IsHexText s) :
    decodedBytes (stringWrapper s) = [] := by
  unfold decodedBytes
  cases hread : HexBytes.decode (stringWrapper s) with
  | none => rfl
  | some v =>
    -- if anything was read, the text consists of digits; it was hex text, or empty
    obtain ⟨heven, hdigits⟩ := (HexBytes.decode_isSome_iff _).mp (Option.isSome_of_eq_some hread)
    have hs' : s = (stringWrapper s).map ModifiedUtf8.widen :=
      (stringWrapper_eq_ascii_iff fun b hb => (hdigits b hb).isAscii).mp rfl
    by_cases hempty : stringWrapper s = []
    · rw [hempty] at hread
      cases hread
      rfl
    · exact absurd ((isHexText_iff s).mpr ⟨_, hs', hempty, heven, hdigits⟩) hs

/-- **The asset-id codec is one codec.** On every id the three encoders produce the same
    lower-case text, two characters a byte, and both decoders read it back; on every string the
    two decoders agree, hex text of either case is read so that writing it again gives its lower
    case, and any other string is read as the empty id. -/
theorem assetId_hex_codec (valueFromAmount : ValueFromAmount) (newTxOutput : NewTxOutput)
    (hfresh : ∀ address amount, (newTxOutput address amount).assetId = []) :
    (∀ v : AssetId,
      convert2JAssetIdHex v = some (assetIdText v) ∧
      balancesListenerKey v = some (assetIdText v) ∧
      (∀ output : TxOutput, output.assetId = v →
        (convert2JTxOutput valueFromAmount output).map JTxOutput.assetId =
          (newStringUTF output.address).map fun _ => assetIdText v) ∧
      (assetIdText v).length = 2 * v.length ∧ (∀ u ∈ assetIdText v, IsLowerHexUnit u) ∧
      convert2CAssetId (some (assetIdText v)) = v ∧
      ∀ input : JTxOutput, input.assetId = assetIdText v →
        (convert2CTxOutput newTxOutput input).assetId = v) ∧
    ∀ s : JString,
      (∀ input : JTxOutput, input.assetId = s →
        (convert2CTxOutput newTxOutput input).assetId = convert2CAssetId (some s)) ∧
      (IsHexText s → assetIdText (convert2CAssetId (some s)) = s.map lowerUnit) ∧
      (¬ IsHexText s → convert2CAssetId (some s) = []) := by
  -- the three encoders run one loop over one alphabet
  have hencoder : ∀ v, newStringUTF (encodeLoop v) = some (assetIdText v) := by
    intro v
    rw [encodeLoop_eq, newStringUTF_ascii (isAscii_encode v)]
    rfl
  refine ⟨fun v => ⟨hencoder v, hencoder v, ?_, ?_, ?_, ?_, ?_⟩, fun s => ⟨?_, ?_, ?_⟩⟩
  · rintro output rfl
    unfold convert2JTxOutput
    simp only [hencoder]
    cases newStringUTF output.address <;> rfl
  · rw [assetIdText, List.length_map, HexBytes.length_encode]
  · intro u hu
    obtain ⟨b, hb, rfl⟩ := List.mem_map.mp hu
    unfold IsLowerHexUnit
    rw [ModifiedUtf8.toNat_widen]
    exact HexBytes.isLowerDigit_of_mem_encode hb
  · rw [convert2CAssetId_eq, decodedBytes_assetIdText]
  · intro input hinput
    rw [convert2CTxOutput_assetId newTxOutput hfresh, hinput, decodedBytes_assetIdText]
  · rintro input rfl
    rw [convert2CTxOutput_assetId newTxOutput hfresh, convert2CAssetId_eq]
  · intro hs
    rw [convert2CAssetId_eq, assetIdText_decodedBytes hs]
  · intro hs
    rw [convert2CAssetId_eq, decodedBytes_of_not_hexText hs]

/-- The text `0aFF` through a `TxOutput`: ten, then two hundred and fifty-five. -/
theorem txOutput_mixed_case_read :
    (convert2CTxOutput (fun address amount => ⟨address, amount, false, false, 0, []⟩)
      ⟨[], {}, false, false, {}, [48, 97, 70, 70]⟩).assetId = [10, 255] :=
  ((assetId_hex_codec (fun _ => .ok "")
    (fun address amount => ⟨address, amount, false, false, 0, []⟩) fun _ _ => rfl).2
      [48, 97, 70, 70]).1 _ rfl

end NunchukSdk
