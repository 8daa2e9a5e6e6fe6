import NunchukSdk.Marshal.Library

/-!
# Signers

`convert2JSigner` fills a Kotlin `SingleSigner` setter by setter. Two of the calls it makes can
throw, `get_descriptor` and `Utils::GetIndexFromPath`; the exception is logged and the signer is
returned with what was set before. `convert2CSigner` builds a native signer from seven of the
fields, and its type, tags and visibility.

## Results

- `convert2JSigner_eq`: what the two calls leave in the Kotlin signer
- `map_scriptData_convert2CSigners`: the data that determines scripts survives there and back, also
  when a call throws
-/

namespace NunchukSdk

open Foundation NativeM

/-! ## The Kotlin signer -/

/-- Kotlin `SingleSigner`. -/
structure JSingleSigner where
  name : String := ""
  xpub : String := ""
  publicKey : String := ""
  derivationPath : String := ""
  externalInternalIndex : Int × Int := (0, 1)
  masterFingerprint : String := ""
  lastHealthCheck : Int := 0
  masterSignerId : String := ""
  used : Bool := false
  type : SignerType := .AIRGAP
  hasMasterSigner : Bool := false
  descriptor : String := ""
  tags : List SignerTag := []
  isVisible : Bool := false
  index : Int := 0
  deriving DecidableEq, Repr

/-! ## To Kotlin -/

/-- `Deserializer::convert2JSignerType`. -/
def convert2JSignerType (lib : LibNunchuk) (type : SignerType) : SignerType :=
  SignerType.helperFrom (lib.signerTypeNumber type + 1)

/-- `Deserializer::convert2JSignerTag`. -/
def convert2JSignerTag (lib : LibNunchuk) (tag : SignerTag) : SignerTag :=
  SignerTag.helperFrom (lib.signerTagNumber tag)

/-- `Deserializer::convert2JSignerTags`. -/
def convert2JSignerTags (lib : LibNunchuk) (tags : List SignerTag) : List SignerTag :=
  tags.map (convert2JSignerTag lib)

/-- `Deserializer::convert2JSigner`. -/
def convert2JSigner (lib : LibNunchuk) (signer : SingleSigner) : JSingleSigner :=
  fillLogged {} do
    update fun s => { s with name := signer.name }
    update fun s => { s with xpub := signer.xpub }
    update fun s => { s with derivationPath := signer.derivationPath }
    update fun s => { s with externalInternalIndex := signer.externalInternalIndex }
    update fun s => { s with masterFingerprint := signer.masterFingerprint }
    update fun s => { s with publicKey := signer.publicKey }
    update fun s => { s with masterSignerId := signer.masterSignerId }
    update fun s => { s with lastHealthCheck := signer.lastHealthCheck }
    update fun s => { s with used := signer.used }
    update fun s => { s with hasMasterSigner := signer.hasMasterSigner }
    update fun s => { s with type := convert2JSignerType lib signer.type }
    let descriptor ← call signer.descriptor
    update fun s => { s with descriptor := descriptor }
    update fun s => { s with tags := convert2JSignerTags lib signer.tags }
    update fun s => { s with isVisible := signer.visible }
    let index ← call (lib.getIndexFromPath signer.derivationPath)
    update fun s => { s with index := index }

/-- `Deserializer::convert2JSigners`. -/
def convert2JSigners (lib : LibNunchuk) (signers : List SingleSigner) : List JSingleSigner :=
  signers.map (convert2JSigner lib)

/-- The fields that are set before the first call that can throw. -/
def convert2JSignerPrefix (lib : LibNunchuk) (signer : SingleSigner) : JSingleSigner where
  name := signer.name
  xpub := signer.xpub
  publicKey := signer.publicKey
  derivationPath := signer.derivationPath
  externalInternalIndex := signer.externalInternalIndex
  masterFingerprint := signer.masterFingerprint
  lastHealthCheck := signer.lastHealthCheck
  masterSignerId := signer.masterSignerId
  used := signer.used
  type := convert2JSignerType lib signer.type
  hasMasterSigner := signer.hasMasterSigner

/-- A signer without its descriptor keeps the defaults of all later fields; one whose path has
    no index only lacks the index. -/
theorem convert2JSigner_eq (lib : LibNunchuk) (signer : SingleSigner) :
    convert2JSigner lib signer =
      match signer.descriptor with
      | .error _ => convert2JSignerPrefix lib signer
      | .ok descriptor =>
        let named :=
          { convert2JSignerPrefix lib signer with
            descriptor := descriptor
            tags := convert2JSignerTags lib signer.tags
            isVisible := signer.visible }
        match lib.getIndexFromPath signer.derivationPath with
        | .error _ => named
        | .ok index => { named with index := index } := by
  unfold convert2JSigner fillLogged
  simp only [run_update_bind]
  -- the run continues only past a call that returns
  cases signer.descriptor with
  | error e => rfl
  | ok descriptor =>
    simp only [run_call_ok_bind, run_update_bind]
    cases lib.getIndexFromPath signer.derivationPath with
    | error e => rfl
    | ok index => rfl

/-! ## Back to the library -/

/-- `Serializer::convert2CSignerTags`. -/
def convert2CSignerTags (tags : List SignerTag) : List SignerTag :=
  tags.map fun tag => convert2CSignerTag tag.ordinal

/-- `Serializer::convert2CSigner`. The Kotlin property behind the index pair is not nullable, so
    the default the source has for a null pair is not taken. -/
def convert2CSigner (lib : LibNunchuk) (signer : JSingleSigner) : SingleSigner :=
  let singleSigner := lib.newSigner
    { name := signer.name
      xpub := signer.xpub
      publicKey := signer.publicKey
      derivationPath := signer.derivationPath
      externalInternalIndex := signer.externalInternalIndex
      masterFingerprint := signer.masterFingerprint
      lastHealthCheck := 0 }
  { singleSigner with
    type := convert2CSignerType signer.type.ordinal
    tags := convert2CSignerTags signer.tags
    visible := signer.isVisible }

/-- `Serializer::convert2CSigners`. -/
def convert2CSigners (lib : LibNunchuk) (signers : List JSingleSigner) : List SingleSigner :=
  signers.map (convert2CSigner lib)

/-! ## What a signer contributes to a script -/

/-- The script data of a Kotlin signer. -/
def JSingleSigner.scriptData (signer : JSingleSigner) : SignerScriptData where
  xpub := signer.xpub
  publicKey := signer.publicKey
  derivationPath := signer.derivationPath
  externalInternalIndex := signer.externalInternalIndex
  masterFingerprint := signer.masterFingerprint

/-- All script data is set before anything can throw. -/
@[simp] theorem scriptData_convert2JSigner (lib : LibNunchuk) (signer : SingleSigner) :
    (convert2JSigner lib signer).scriptData = signer.scriptData := by
  rw [convert2JSigner_eq]
  cases signer.descriptor with
  | error e => rfl
  | ok descriptor =>
    cases lib.getIndexFromPath signer.derivationPath with
    | error e => rfl
    | ok index => rfl

variable {lib : LibNunchuk}

@[simp] theorem scriptData_convert2CSigner (hlib : lib.ConstructorsKeep)
    (signer : JSingleSigner) : (convert2CSigner lib signer).scriptData = signer.scriptData := by
  simp [convert2CSigner, SingleSigner.scriptData, JSingleSigner.scriptData,
    hlib.signer_xpub, hlib.signer_publicKey, hlib.signer_derivationPath,
    hlib.signer_externalInternalIndex, hlib.signer_masterFingerprint]

/-- **Signers keep their script data and their order** on the way to Kotlin and back. -/
theorem map_scriptData_convert2CSigners (hlib : lib.ConstructorsKeep)
    (signers : List SingleSigner) :
    (convert2CSigners lib (convert2JSigners lib signers)).map SingleSigner.scriptData =
      signers.map SingleSigner.scriptData := by
  induction signers with
  | nil => rfl
  | cons signer signers ih =>
    have hhead : (convert2CSigner lib (convert2JSigner lib signer)).scriptData =
        signer.scriptData := by
      rw [scriptData_convert2CSigner hlib, scriptData_convert2JSigner]
    simp only [convert2CSigners, convert2JSigners, List.map_cons, hhead] at ih ⊢
    rw [ih]

end NunchukSdk
