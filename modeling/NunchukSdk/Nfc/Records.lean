import Mathlib.Data.List.Forall2
import NunchukSdk.Marshal.SatsCard

/-!
# NFC Records

A tag is read and written as a list of NDEF records. `convert2JRecords` makes the
`android.nfc.NdefRecord`s that Kotlin hands to the tag, `convert2CRecords` reads what Kotlin got
from one.

## Model

- `NdefRecordParts`: the four values that the constructor of `NdefRecord` is given
- `accepts`: the check that the constructor makes; a record of Kotlin carries the proof that it
  passed. A part that a getter returns is the one that the constructor was given.
- Where the constructor throws, `convert2JRecord` goes on with a pending exception, which JNI
  leaves undefined.

## Results

- `convert2JRecords_eq`: records that the constructor accepts are converted one by one
- `records_roundTrip`: both directions of the codec
-/

namespace NunchukSdk

open Foundation NativeM

/-! ## Records on both sides -/

/-- `nunchuk::NDEFRecord`. -/
structure NDEFRecord where
  typeNameFormat : UInt8
  type : List UInt8
  id : List UInt8
  payload : List UInt8
  deriving DecidableEq, Repr

/-- The arguments of `NdefRecord(short, byte[], byte[], byte[])`. -/
structure NdefRecordParts where
  tnf : Int16
  type : List Int8
  id : List Int8
  payload : List Int8
  deriving DecidableEq, Repr

/-- `android.nfc.NdefRecord`, by what its getters return. -/
structure NdefRecord (accepts : NdefRecordParts → Bool) where
  parts : NdefRecordParts
  accepted : accepts parts = true

/-! ## The conversions -/

section Conversions

variable {accepts : NdefRecordParts → Bool}

/-- `new NdefRecord(...)`; `none` is an `IllegalArgumentException`. -/
def newNdefRecord (accepts : NdefRecordParts → Bool) (parts : NdefRecordParts) :
    Option (NdefRecord accepts) :=
  if h : accepts parts = true then some ⟨parts, h⟩ else none

/-- What `convert2JRecord` gives the constructor. -/
def NDEFRecord.javaParts (record : NDEFRecord) : NdefRecordParts where
  tnf := Int16.ofNat record.typeNameFormat.toNat
  type := convert2JByteArray record.type
  id := convert2JByteArray record.id
  payload := convert2JByteArray record.payload

/-- `Deserializer::convert2JRecord`. -/
def convert2JRecord (accepts : NdefRecordParts → Bool) (record : NDEFRecord) :
    Jni (NdefRecord accepts) :=
  defined (newNdefRecord accepts record.javaParts)

/-- `Deserializer::convert2JRecords`. -/
def convert2JRecords (accepts : NdefRecordParts → Bool) (records : List NDEFRecord) :
    Jni (List (NdefRecord accepts)) :=
  records.mapM (convert2JRecord accepts)

/-- `static_cast<unsigned char>(x)` for a `jshort x`. -/
def castToByte (x : Int16) : UInt8 := UInt8.ofNat (x.toInt % 256).toNat

/-- The body of the loop of `convert2CRecords`. -/
def convert2CRecord (record : NdefRecord accepts) : NDEFRecord where
  typeNameFormat := castToByte record.parts.tnf
  type := convert2CByteArray record.parts.type
  id := convert2CByteArray record.parts.id
  payload := convert2CByteArray record.parts.payload

/-- `Serializer::convert2CRecords`. -/
def convert2CRecords (records : List (NdefRecord accepts)) : List NDEFRecord :=
  records.map convert2CRecord

/-! ## One record -/

/-- A byte that was widened to a `short` is cast back to itself. -/
theorem castToByte_ofNat (b : UInt8) : castToByte (Int16.ofNat b.toNat) = b := by
  have hb : b.toNat < 256 := b.toNat_lt
  have hvalue : (Int16.ofNat b.toNat).toInt = b.toNat := Int16.toInt_ofNat_of_lt (by omega)
  have hmod : ((b.toNat : Int) % 256).toNat = b.toNat := by omega
  rw [castToByte, hvalue, hmod, UInt8.ofNat_toNat]

/-- A `short` between 0 and 255 is the byte it is cast to. -/
theorem ofNat_castToByte {x : Int16} (hlow : 0 ≤ x.toInt) (hhigh : x.toInt ≤ 255) :
    Int16.ofNat (castToByte x).toNat = x := by
  have hbyte : (castToByte x).toNat = x.toInt.toNat := by
    have hmod : (x.toInt % 256).toNat = x.toInt.toNat := by omega
    have hlt : x.toInt.toNat < UInt8.size := by
      show x.toInt.toNat < 256
      omega
    rw [castToByte, hmod, UInt8.toNat_ofNat_of_lt' hlt]
  apply Int16.toInt.inj
  rw [hbyte, Int16.toInt_ofNat_of_lt (by omega)]
  omega

/-- The parts that the constructor was given lead back to the native record. -/
theorem convert2CRecord_javaParts {record : NDEFRecord} {jrecord : NdefRecord accepts}
    (h : jrecord.parts = record.javaParts) : convert2CRecord jrecord = record := by
  rw [convert2CRecord, h]
  simp only [NDEFRecord.javaParts, nativeBytes_roundTrip, castToByte_ofNat]

/-- The parts of a record are given to the constructor again. -/
theorem javaParts_convert2CRecord {record : NdefRecord accepts}
    (hlow : 0 ≤ record.parts.tnf.toInt) (hhigh : record.parts.tnf.toInt ≤ 255) :
    (convert2CRecord record).javaParts = record.parts := by
  simp only [NDEFRecord.javaParts, convert2CRecord, bytes_roundTrip, ofNat_castToByte hlow hhigh]

/-- A constructor that gets the parts of a record makes this record. -/
theorem newNdefRecord_parts (record : NdefRecord accepts) :
    newNdefRecord accepts record.parts = some record := dif_pos record.accepted

/-! ## Lists of records -/

/-- The native record and the Kotlin one have the same parts. -/
def SameParts (record : NDEFRecord) (jrecord : NdefRecord accepts) : Prop :=
  record.javaParts = jrecord.parts

/-- Records that the constructor accepts have Kotlin records of the same parts. -/
theorem exists_sameParts {records : List NDEFRecord}
    (h : ∀ record ∈ records, accepts record.javaParts = true) :
    ∃ jrecords : List (NdefRecord accepts), List.Forall₂ SameParts records jrecords := by
  induction records with
  | nil => exact ⟨[], .nil⟩
  | cons record records ih =>
    obtain ⟨haccepts, hrest⟩ := List.forall_mem_cons.mp h
    obtain ⟨jrecords, hparts⟩ := ih hrest
    exact ⟨⟨record.javaParts, haccepts⟩ :: jrecords, .cons rfl hparts⟩

/-- These are the ones that the loop makes. -/
theorem convert2JRecords_eq {records : List NDEFRecord} {jrecords : List (NdefRecord accepts)}
    (h : List.Forall₂ SameParts records jrecords) :
    convert2JRecords accepts records = pure jrecords := by
  have hlawful : LawfulMonad (NativeM CppException JavaEnv) := lawfulMonad
  induction h with
  | nil => rfl
  | cons hparts _ ih =>
    unfold convert2JRecords at ih ⊢
    rw [List.mapM_cons, convert2JRecord, hparts, newNdefRecord_parts, ih]
    rfl

/-- They lead back to the native records. -/
theorem convert2CRecords_eq {records : List NDEFRecord} {jrecords : List (NdefRecord accepts)}
    (h : List.Forall₂ SameParts records jrecords) : convert2CRecords jrecords = records := by
  induction h with
  | nil => rfl
  | cons hparts _ ih =>
    unfold convert2CRecords at ih ⊢
    rw [List.map_cons, ih, convert2CRecord_javaParts hparts.symm]

/-- **The codec of NFC records.** Native records that the constructor accepts become Kotlin records
    that lead back to them, and Kotlin records whose type name format is a byte come back as they
    are. -/
theorem records_roundTrip (accepts : NdefRecordParts → Bool) :
    (∀ records : List NDEFRecord, (∀ record ∈ records, accepts record.javaParts = true) →
      ∃ jrecords, (convert2JRecords accepts records).run {} = (.ok jrecords, {}) ∧
        convert2CRecords jrecords = records) ∧
    ∀ jrecords : List (NdefRecord accepts),
      (∀ record ∈ jrecords, 0 ≤ record.parts.tnf.toInt ∧ record.parts.tnf.toInt ≤ 255) →
      (convert2JRecords accepts (convert2CRecords jrecords)).run {} = (.ok jrecords, {}) := by
  refine ⟨?_, ?_⟩
  · intro records haccepts
    obtain ⟨jrecords, hparts⟩ := exists_sameParts haccepts
    refine ⟨jrecords, ?_, convert2CRecords_eq hparts⟩
    rw [convert2JRecords_eq hparts, run_pure]
  · intro jrecords htnf
    -- the parts of a record determine it, and each of them survives
    have hparts : List.Forall₂ SameParts (convert2CRecords jrecords) jrecords := by
      unfold convert2CRecords
      rw [List.forall₂_map_left_iff, List.forall₂_same]
      intro record hrecord
      exact javaParts_convert2CRecord (htnf record hrecord).1 (htnf record hrecord).2
    rw [convert2JRecords_eq hparts, run_pure]

/-- The check of the constructor on records of a well-known type, a media type or a URI. -/
def acceptsKnown (parts : NdefRecordParts) : Bool := 1 ≤ parts.tnf.toInt && parts.tnf.toInt ≤ 4

/-- A text record with a byte above 127 and an empty id. -/
def textRecord : NDEFRecord where
  typeNameFormat := 1
  type := [84]
  id := []
  payload := [2, 101, 110, 255]

/-- It is converted there and back. -/
theorem textRecord_roundTrip :
    ∃ jrecords, (convert2JRecords acceptsKnown [textRecord]).run {} = (.ok jrecords, {}) ∧
      convert2CRecords jrecords = [textRecord] :=
  (records_roundTrip acceptsKnown).1 [textRecord] (by decide)

end Conversions

end NunchukSdk
