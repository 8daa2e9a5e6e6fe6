import NunchukSdk.Jni.Requests
import NunchukSdk.Marshal.Wallet

/-!
# Signers There and Back

A signer that the app has fetched is written back by `updateRemoteSigner`, which converts the
Kotlin object with `convert2CSigner`. The library stores the ten fields of `SignerRecord`.

Two of them may change on the way:

- `convert2CSigner` passes the literal 0 as the last health check, which the Kotlin object has;
- when `get_descriptor` throws, `convert2JSigner` leaves tags and visibility at their defaults.

## Results

- `record_roundTrip_iff`: when one signer comes back with its record
- `signers_survive_iff`: when every signer of a list does
-/

namespace NunchukSdk

open Foundation NativeM

/-! ## What is stored -/

/-- The fields of a signer that are stored. -/
structure SignerRecord where
  name : String
  xpub : String
  publicKey : String
  derivationPath : String
  externalInternalIndex : Int × Int
  masterFingerprint : String
  type : SignerType
  tags : List SignerTag
  visible : Bool
  lastHealthCheck : Int
  deriving DecidableEq, Repr

/-- The stored fields of a native signer. -/
def SingleSigner.record (signer : SingleSigner) : SignerRecord where
  name := signer.name
  xpub := signer.xpub
  publicKey := signer.publicKey
  derivationPath := signer.derivationPath
  externalInternalIndex := signer.externalInternalIndex
  masterFingerprint := signer.masterFingerprint
  type := signer.type
  tags := signer.tags
  visible := signer.visible
  lastHealthCheck := signer.lastHealthCheck

/-- `LibNunchukAndroid_updateRemoteSigner`, with the outcomes of `UpdateRemoteSigner`. -/
def updateRemoteSigner (lib : LibNunchuk) (update : SingleSigner → Except CppException Unit)
    (signer : JSingleSigner) : Asking SingleSigner (JReturn Unit) :=
  asking
    (do
      ask (convert2CSigner lib signer) (update (convert2CSigner lib signer))
      pure .null)
    .null .null

/-- Every signer of a list comes back in its place with its record, and updating one that was
    not modified passes the library the record it has. -/
def SignersSurvive (lib : LibNunchuk) (update : SingleSigner → Except CppException Unit)
    (signers : List SingleSigner) : Prop :=
  (convert2CSigners lib (convert2JSigners lib signers)).map SingleSigner.record =
      signers.map SingleSigner.record ∧
    ∀ signer ∈ signers, ∃ passed,
      requestsOf (updateRemoteSigner lib update (convert2JSigner lib signer)) = [passed] ∧
        passed.record = signer.record

/-- The signer has not been checked yet, and tags and visibility are set in Kotlin or have the
    values they have there unset. -/
def SingleSigner.Unchecked (signer : SingleSigner) : Prop :=
  signer.lastHealthCheck = 0 ∧
    ((∃ descriptor, signer.descriptor = .ok descriptor) ∨
      (signer.tags = [] ∧ signer.visible = false))

/-- A new signer has the last health check that its constructor is given. -/
def LibNunchuk.KeepsHealthCheck (lib : LibNunchuk) : Prop :=
  ∀ args, (lib.newSigner args).lastHealthCheck = args.lastHealthCheck

theorem LibNunchuk.plain_keepsHealthCheck : LibNunchuk.plain.KeepsHealthCheck := fun _ => rfl

/-! ## Types and tags -/

section RoundTrip

variable {lib : LibNunchuk}

theorem convert2CSignerTags_roundTrip (hnum : lib.NumbersAsKotlin) (tags : List SignerTag) :
    convert2CSignerTags (convert2JSignerTags lib tags) = tags := by
  induction tags with
  | nil => rfl
  | cons tag tags ih =>
    have htag : convert2CSignerTag (convert2JSignerTag lib tag).ordinal = tag := by
      rw [convert2JSignerTag, hnum.signerTag, SignerTag.helperFrom_ordinal,
        convert2CSignerTag_ordinal]
    simp only [convert2CSignerTags, convert2JSignerTags, List.map_cons, htag] at ih ⊢
    rw [ih]

theorem convert2CSignerType_roundTrip (hnum : lib.NumbersAsKotlin) (type : SignerType) :
    convert2CSignerType (convert2JSignerType lib type).ordinal = type := by
  rw [convert2JSignerType, hnum.signerType, SignerType.helperFrom_ordinal,
    convert2CSignerType_ordinal]

/-! ## One signer -/

/-- What comes back: the record with no health check, and without tags and visibility when there
    is no descriptor. -/
theorem record_roundTrip (hnum : lib.NumbersAsKotlin) (hlib : lib.ConstructorsKeep)
    (hhealth : lib.KeepsHealthCheck) (signer : SingleSigner) :
    (convert2CSigner lib (convert2JSigner lib signer)).record =
      match signer.descriptor with
      | .error _ => { signer.record with lastHealthCheck := 0, tags := [], visible := false }
      | .ok _ => { signer.record with lastHealthCheck := 0 } := by
  have htype := convert2CSignerType_roundTrip hnum signer.type
  have htags := convert2CSignerTags_roundTrip hnum signer.tags
  rw [convert2JSigner_eq]
  cases signer.descriptor with
  | error e =>
    simp [convert2CSigner, SingleSigner.record, convert2JSignerPrefix, htype,
      convert2CSignerTags, hlib.signer_name, hlib.signer_xpub, hlib.signer_publicKey,
      hlib.signer_derivationPath, hlib.signer_externalInternalIndex,
      hlib.signer_masterFingerprint, hhealth _]
  | ok descriptor =>
    -- the index of the path is no stored field, whether it can be computed or not
    cases lib.getIndexFromPath signer.derivationPath with
    | error e =>
      simp [convert2CSigner, SingleSigner.record, convert2JSignerPrefix, htype, htags,
        hlib.signer_name, hlib.signer_xpub, hlib.signer_publicKey, hlib.signer_derivationPath,
        hlib.signer_externalInternalIndex, hlib.signer_masterFingerprint, hhealth _]
    | ok index =>
      simp [convert2CSigner, SingleSigner.record, convert2JSignerPrefix, htype, htags,
        hlib.signer_name, hlib.signer_xpub, hlib.signer_publicKey, hlib.signer_derivationPath,
        hlib.signer_externalInternalIndex, hlib.signer_masterFingerprint, hhealth _]

/-- One signer comes back with its record exactly when it is unchecked. -/
theorem record_roundTrip_iff (hnum : lib.NumbersAsKotlin) (hlib : lib.ConstructorsKeep)
    (hhealth : lib.KeepsHealthCheck) (signer : SingleSigner) :
    (convert2CSigner lib (convert2JSigner lib signer)).record = signer.record ↔
      signer.Unchecked := by
  rw [record_roundTrip hnum hlib hhealth, SingleSigner.Unchecked]
  -- the copy is cut off where the descriptor cannot be computed
  cases signer.descriptor with
  | error e =>
    simp only [SingleSigner.record, SignerRecord.mk.injEq, true_and]
    constructor
    · rintro ⟨htags, hvisible, hcheck⟩
      exact ⟨hcheck.symm, Or.inr ⟨htags.symm, hvisible.symm⟩⟩
    · rintro ⟨hcheck, ⟨descriptor, hdescriptor⟩ | ⟨htags, hvisible⟩⟩
      · cases hdescriptor
      · exact ⟨htags.symm, hvisible.symm, hcheck.symm⟩
  | ok descriptor =>
    simp only [SingleSigner.record, SignerRecord.mk.injEq, true_and]
    constructor
    · exact fun hcheck => ⟨hcheck.symm, Or.inl ⟨descriptor, rfl⟩⟩
    · exact fun h => h.1.symm

/-! ## A list of signers -/

theorem requestsOf_updateRemoteSigner (lib : LibNunchuk)
    (update : SingleSigner → Except CppException Unit) (signer : JSingleSigner) :
    requestsOf (updateRemoteSigner lib update signer) = [convert2CSigner lib signer] := by
  rw [updateRemoteSigner, requestsOf_asking]
  exact requestsOf_ask_bind fun _ => keepsFst_pure _

/-- **Signers survive the round trip exactly when none has a health check to lose.** -/
theorem signers_survive_iff (hnum : lib.NumbersAsKotlin) (hlib : lib.ConstructorsKeep)
    (hhealth : lib.KeepsHealthCheck) (update : SingleSigner → Except CppException Unit)
    (signers : List SingleSigner) :
    SignersSurvive lib update signers ↔ ∀ signer ∈ signers, signer.Unchecked := by
  have hlist : (convert2CSigners lib (convert2JSigners lib signers)).map SingleSigner.record =
      signers.map fun signer => (convert2CSigner lib (convert2JSigner lib signer)).record := by
    simp only [convert2CSigners, convert2JSigners, List.map_map]
    rfl
  -- the lists agree when they do place by place
  rw [SignersSurvive, hlist, List.map_inj_left]
  constructor
  · rintro ⟨hback, -⟩ signer hsigner
    exact (record_roundTrip_iff hnum hlib hhealth signer).mp (hback signer hsigner)
  · intro h
    have hback : ∀ signer ∈ signers,
        (convert2CSigner lib (convert2JSigner lib signer)).record = signer.record :=
      fun signer hsigner => (record_roundTrip_iff hnum hlib hhealth signer).mpr (h signer hsigner)
    refine ⟨hback, fun signer hsigner => ?_⟩
    exact ⟨_, requestsOf_updateRemoteSigner lib update _, hback signer hsigner⟩

end RoundTrip

/-! ## Two signers -/

/-- A signer whose health was checked in November 2023. -/
def checkedSigner : SingleSigner :=
  { sampleSigner "0f056943" with lastHealthCheck := 1700000000, tags := [.KEYSTONE] }

/-- A signer that was never checked survives. -/
theorem sampleSigner_survives :
    SignersSurvive LibNunchuk.plain (fun _ => .ok ()) [sampleSigner "0f056943"] :=
  (signers_survive_iff LibNunchuk.plain_numbersAsKotlin LibNunchuk.plain_constructorsKeep
    LibNunchuk.plain_keepsHealthCheck (fun _ => .ok ()) [sampleSigner "0f056943"]).mpr (by
      intro signer hsigner
      rw [List.mem_singleton.mp hsigner]
      exact ⟨rfl, Or.inl ⟨_, rfl⟩⟩)

/-- A signer that was checked comes back as one that was not. -/
theorem checkedSigner_not_survives :
    ¬ SignersSurvive LibNunchuk.plain (fun _ => .ok ()) [checkedSigner] := by
  rintro ⟨hback, -⟩
  have hzero : (convert2CSigner LibNunchuk.plain
      (convert2JSigner LibNunchuk.plain checkedSigner)).record =
      { checkedSigner.record with lastHealthCheck := 0 } := by
    rw [record_roundTrip LibNunchuk.plain_numbersAsKotlin LibNunchuk.plain_constructorsKeep
      LibNunchuk.plain_keepsHealthCheck]
    rfl
  have hone := (List.cons.inj hback).1
  rw [hzero] at hone
  exact absurd (congrArg SignerRecord.lastHealthCheck hone) (by decide)

end NunchukSdk
