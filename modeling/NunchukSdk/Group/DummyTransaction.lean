import NunchukSdk.Group.PlatformKey
import NunchukSdk.Jni.Requests
import NunchukSdk.Marshal.Transaction

/-!
# Group Dummy Transactions

A change of the platform key policies is confirmed by a dummy transaction that the members of the
group sign. The app fetches it, shows it, and may import it again: `importGroupDummyTx` hands the
library what `convert2CGroupDummyTransaction` reads from the Kotlin object.

`convert2JGroupDummyTransaction` passes the payload to the Kotlin constructor, with the old and
the new policies; `convert2CGroupDummyTransaction` reads every property but the payload.

## Results

- `convert2CGroupDummyTransaction_shown`: what comes back is the transaction with the payload of
  a fresh value
- `groupDummyTransaction_imported_iff`: a fetched transaction is imported as it is exactly when it
  has no payload
-/

namespace NunchukSdk

open Foundation NativeM

/-! ## Native and Kotlin values -/

/-- `nunchuk::GroupDummyTransactionSignature`. -/
structure GroupDummyTransactionSignature where
  masterFingerprint : String
  signature : String
  deriving DecidableEq, Repr

/-- `nunchuk::GroupDummyTransactionPayload`. -/
structure GroupDummyTransactionPayload where
  oldPolicies : GroupPlatformKeyPolicies
  newPolicies : GroupPlatformKeyPolicies
  deriving DecidableEq, Repr

/-- `nunchuk::GroupDummyTransaction`, with the numbers behind its two enumerations. -/
structure GroupDummyTransaction where
  id : String
  walletId : String
  type : Int
  status : Int
  payload : Option GroupDummyTransactionPayload
  requiredSignatures : Int
  pendingSignatures : Int
  requestBody : String
  signatures : List GroupDummyTransactionSignature
  createdAt : Int
  deriving DecidableEq, Repr

/-- Kotlin `GroupDummyTransactionSignature`. -/
structure JGroupDummyTransactionSignature where
  masterFingerprint : String := ""
  signature : String := ""
  deriving DecidableEq, Repr

/-- Kotlin `GroupDummyTransactionPayload`. -/
structure JGroupDummyTransactionPayload where
  oldPolicies : JGroupPlatformKeyPolicies := {}
  newPolicies : JGroupPlatformKeyPolicies := {}
  deriving DecidableEq, Repr

/-- Kotlin `GroupDummyTransaction`. -/
structure JGroupDummyTransaction where
  id : String := ""
  walletId : String := ""
  type : GroupDummyTransactionType := .UNKNOWN
  status : GroupDummyTransactionStatus := .PENDING_SIGNATURES
  payload : Option JGroupDummyTransactionPayload := none
  requiredSignatures : Int := 0
  pendingSignatures : Int := 0
  requestBody : String := ""
  signatures : List JGroupDummyTransactionSignature := []
  createdAt : Int := 0
  deriving DecidableEq, Repr

/-- What the conversions ask of libnunchuk: default-constructed values and the import. -/
structure LibDummyTransaction where
  newSignature : GroupDummyTransactionSignature
  newTransaction : GroupDummyTransaction
  /-- `ImportDummyTx`, with the id and the transaction it returns. -/
  importDummyTx : GroupDummyTransaction → Except CppException (String × Transaction)

/-! ## To Kotlin -/

/-- `Deserializer::convert2JGroupDummyTransactionSignature`. -/
def convert2JGroupDummyTransactionSignature (thread : JniThread)
    (sig : GroupDummyTransactionSignature) : Jni JGroupDummyTransactionSignature := do
  let _ ← needClass (loadClass thread "com/nunchuk/android/model/GroupDummyTransactionSignature")
  pure { masterFingerprint := sig.masterFingerprint, signature := sig.signature }

/-- `Deserializer::convert2JGroupDummyTransactionPayload`. -/
def convert2JGroupDummyTransactionPayload (thread : JniThread)
    (data : GroupDummyTransactionPayload) : Jni JGroupDummyTransactionPayload := do
  let _ ← needClass (loadClass thread "com/nunchuk/android/model/GroupDummyTransactionPayload")
  let oldPolicies ← convert2JGroupPlatformKeyPolicies thread data.oldPolicies
  let newPolicies ← convert2JGroupPlatformKeyPolicies thread data.newPolicies
  pure { oldPolicies := oldPolicies, newPolicies := newPolicies }

/-- `Deserializer::convert2JGroupDummyTransaction`. -/
def convert2JGroupDummyTransaction (thread : JniThread) (tx : GroupDummyTransaction) :
    Jni JGroupDummyTransaction := do
  let _ ← needClass (loadClass thread "com/nunchuk/android/model/GroupDummyTransaction")
  let _ ← needClass (loadClass thread "com/nunchuk/android/type/GroupDummyTransactionTypeHelper")
  let _ ← needClass
    (loadClass thread "com/nunchuk/android/type/GroupDummyTransactionStatusHelper")
  let payloadObj ← convert2JOptional (convert2JGroupDummyTransactionPayload thread) tx.payload
  let sigList ←
    buildArrayList thread (convert2JGroupDummyTransactionSignature thread) tx.signatures
  pure
    { id := tx.id
      walletId := tx.walletId
      type := GroupDummyTransactionType.helperFrom tx.type
      status := GroupDummyTransactionStatus.helperFrom tx.status
      payload := payloadObj
      requiredSignatures := tx.requiredSignatures
      pendingSignatures := tx.pendingSignatures
      requestBody := tx.requestBody
      signatures := sigList
      createdAt := tx.createdAt }

/-! ## Back to the library -/

/-- `Serializer::convert2CGroupDummyTransactionSignature`. -/
def convert2CGroupDummyTransactionSignature (lib : LibDummyTransaction)
    (obj : JGroupDummyTransactionSignature) : GroupDummyTransactionSignature :=
  let result := lib.newSignature
  let result := { result with masterFingerprint := obj.masterFingerprint }
  { result with signature := obj.signature }

/-- `Serializer::convert2CGroupDummyTransaction`. Of the properties it compares with null none is
    nullable; it does not read `payload`. -/
def convert2CGroupDummyTransaction (lib : LibDummyTransaction) (obj : JGroupDummyTransaction) :
    GroupDummyTransaction :=
  let result := lib.newTransaction
  let result := { result with id := obj.id }
  let result := { result with walletId := obj.walletId }
  let result := { result with type := obj.type.ordinal }
  let result := { result with status := obj.status.ordinal }
  let result := { result with requiredSignatures := obj.requiredSignatures }
  let result := { result with pendingSignatures := obj.pendingSignatures }
  let result := { result with requestBody := obj.requestBody }
  let result :=
    { result with
      signatures := obj.signatures.map (convert2CGroupDummyTransactionSignature lib) }
  { result with createdAt := obj.createdAt }

/-- `LibNunchukAndroid_importGroupDummyTx`. -/
def importGroupDummyTx (lib : LibNunchuk) (dummy : LibDummyTransaction)
    (dummyTransaction : JGroupDummyTransaction) :
    Asking GroupDummyTransaction (JReturn JTransaction) :=
  asking
    (do
      let pair ← ask (convert2CGroupDummyTransaction dummy dummyTransaction)
        (dummy.importDummyTx (convert2CGroupDummyTransaction dummy dummyTransaction))
      let jtransaction ← onSnd (convert2JTransaction lib { pair.2 with txid := pair.1 } 0)
      pure (.object jtransaction))
    .null .null

/-! ## What Kotlin is shown -/

/-- The Kotlin object for a signature. -/
def GroupDummyTransactionSignature.shown (sig : GroupDummyTransactionSignature) :
    JGroupDummyTransactionSignature where
  masterFingerprint := sig.masterFingerprint
  signature := sig.signature

/-- The Kotlin object for a payload. -/
def GroupDummyTransactionPayload.shown (data : GroupDummyTransactionPayload) :
    JGroupDummyTransactionPayload where
  oldPolicies := data.oldPolicies.shown
  newPolicies := data.newPolicies.shown

/-- The Kotlin object for a transaction. -/
def GroupDummyTransaction.shown (tx : GroupDummyTransaction) : JGroupDummyTransaction where
  id := tx.id
  walletId := tx.walletId
  type := GroupDummyTransactionType.helperFrom tx.type
  status := GroupDummyTransactionStatus.helperFrom tx.status
  payload := tx.payload.map GroupDummyTransactionPayload.shown
  requiredSignatures := tx.requiredSignatures
  pendingSignatures := tx.pendingSignatures
  requestBody := tx.requestBody
  signatures := tx.signatures.map GroupDummyTransactionSignature.shown
  createdAt := tx.createdAt

section Threads

variable {thread : JniThread}

theorem convert2JGroupDummyTransactionPayload_eq (hthread : thread.Resolves)
    (data : GroupDummyTransactionPayload) :
    convert2JGroupDummyTransactionPayload thread data = pure data.shown := by
  simp only [convert2JGroupDummyTransactionPayload, needClass_loadClass hthread, pure_bind_eq,
    convert2JGroupPlatformKeyPolicies_eq hthread]
  rfl

/-- The Kotlin object carries every field, the payload included. -/
theorem convert2JGroupDummyTransaction_eq (hthread : thread.Resolves)
    (tx : GroupDummyTransaction) :
    convert2JGroupDummyTransaction thread tx = pure tx.shown := by
  have hsignature : ∀ sig, convert2JGroupDummyTransactionSignature thread sig = pure sig.shown := by
    intro sig
    simp only [convert2JGroupDummyTransactionSignature, needClass_loadClass hthread,
      pure_bind_eq]
    rfl
  simp only [convert2JGroupDummyTransaction, needClass_loadClass hthread, pure_bind_eq,
    convert2JOptional_eq (convert2JGroupDummyTransactionPayload_eq hthread),
    buildArrayList_eq hthread hsignature]
  rfl

end Threads

/-! ## There and back -/

/-- The Kotlin enumerations have the type and the status. -/
def GroupDummyTransaction.EnumsKnown (tx : GroupDummyTransaction) : Prop :=
  (∃ type : GroupDummyTransactionType, tx.type = type.ordinal) ∧
    ∃ status : GroupDummyTransactionStatus, tx.status = status.ordinal

section RoundTrip

variable {dummy : LibDummyTransaction}

/-- Signatures keep their order, their fingerprints and their texts. -/
theorem map_convert2CGroupDummyTransactionSignature_shown
    (signatures : List GroupDummyTransactionSignature) :
    (signatures.map GroupDummyTransactionSignature.shown).map
      (convert2CGroupDummyTransactionSignature dummy) = signatures := by
  induction signatures with
  | nil => rfl
  | cons sig signatures ih =>
    rw [List.map_cons, List.map_cons, ih]
    rfl

/-- What comes back has the payload of a fresh value and every other field of the original. -/
theorem convert2CGroupDummyTransaction_shown {tx : GroupDummyTransaction} (h : tx.EnumsKnown) :
    convert2CGroupDummyTransaction dummy tx.shown =
      { tx with payload := dummy.newTransaction.payload } := by
  obtain ⟨⟨type, htype⟩, status, hstatus⟩ := h
  have htypeBack : (GroupDummyTransactionType.helperFrom tx.type).ordinal = tx.type := by
    rw [htype, GroupDummyTransactionType.helperFrom_ordinal]
  have hstatusBack : (GroupDummyTransactionStatus.helperFrom tx.status).ordinal = tx.status := by
    rw [hstatus, GroupDummyTransactionStatus.helperFrom_ordinal]
  have hsignatures : (tx.signatures.map GroupDummyTransactionSignature.shown).map
      (convert2CGroupDummyTransactionSignature dummy) = tx.signatures :=
    map_convert2CGroupDummyTransactionSignature_shown tx.signatures
  simp only [convert2CGroupDummyTransaction, GroupDummyTransaction.shown, htypeBack, hstatusBack,
    hsignatures]

/-- The import asks the library once, with what was read from the object. -/
theorem requestsOf_importGroupDummyTx (lib : LibNunchuk) (obj : JGroupDummyTransaction) :
    requestsOf (importGroupDummyTx lib dummy obj) =
      [convert2CGroupDummyTransaction dummy obj] := by
  rw [importGroupDummyTx, requestsOf_asking]
  exact requestsOf_ask_bind fun pair => (keepsFst_onSnd _).bind fun _ => keepsFst_pure _

/-- **A fetched dummy transaction is imported as it is exactly when it has no payload.** -/
theorem groupDummyTransaction_imported_iff (hfresh : dummy.newTransaction.payload = none)
    (lib : LibNunchuk) {tx : GroupDummyTransaction} (hknown : tx.EnumsKnown) (env : JavaEnv) :
    (∃ obj, (convert2JGroupDummyTransaction .java tx).run env = (.ok obj, env) ∧
      convert2CGroupDummyTransaction dummy obj = tx ∧
      requestsOf (importGroupDummyTx lib dummy obj) = [tx]) ↔ tx.payload = none := by
  rw [convert2JGroupDummyTransaction_eq JniThread.java_resolves]
  have hback : convert2CGroupDummyTransaction dummy tx.shown = { tx with payload := none } := by
    rw [convert2CGroupDummyTransaction_shown hknown, hfresh]
  constructor
  · rintro ⟨obj, hrun, hequal, -⟩
    cases hrun
    rw [hback] at hequal
    rw [← hequal]
  · intro hpayload
    have hsame : convert2CGroupDummyTransaction dummy tx.shown = tx := by
      rw [hback, ← hpayload]
    refine ⟨tx.shown, rfl, hsame, ?_⟩
    rw [requestsOf_importGroupDummyTx, hsame]

end RoundTrip

/-! ## Two transactions -/

/-- Default-constructed values that are empty, and a library that imports what it is given. -/
def LibDummyTransaction.plain : LibDummyTransaction where
  newSignature := { masterFingerprint := "", signature := "" }
  newTransaction :=
    { id := "", walletId := "", type := 0, status := 0, payload := none, requiredSignatures := 0
      pendingSignatures := 0, requestBody := "", signatures := [], createdAt := 0 }
  importDummyTx tx := .ok (tx.id, { txid := "" })

/-- A transaction without a payload that one signer has signed. -/
def signedDummyTransaction : GroupDummyTransaction where
  id := "dummy"
  walletId := "w"
  type := 1
  status := 0
  payload := none
  requiredSignatures := 2
  pendingSignatures := 1
  requestBody := "body"
  signatures := [{ masterFingerprint := "0f056943", signature := "sig" }]
  createdAt := 1700000000

/-- The same transaction with the change of policies that it stands for. -/
def policyDummyTransaction : GroupDummyTransaction :=
  { signedDummyTransaction with
    payload := some
      { oldPolicies := { global := none, signers := [] }, newPolicies := samplePolicies } }

theorem signedDummyTransaction_enumsKnown : signedDummyTransaction.EnumsKnown :=
  ⟨⟨.UPDATE_PLATFORM_KEY_POLICIES, rfl⟩, .PENDING_SIGNATURES, rfl⟩

/-- Without a payload the transaction is imported as it was fetched. -/
theorem signedDummyTransaction_imported :
    ∃ obj, (convert2JGroupDummyTransaction .java signedDummyTransaction).run {} =
        (.ok obj, {}) ∧
      convert2CGroupDummyTransaction LibDummyTransaction.plain obj = signedDummyTransaction ∧
      requestsOf (importGroupDummyTx LibNunchuk.plain LibDummyTransaction.plain obj) =
        [signedDummyTransaction] :=
  (groupDummyTransaction_imported_iff rfl LibNunchuk.plain signedDummyTransaction_enumsKnown
    {}).mpr rfl

/-- With one it is imported without it. -/
theorem policyDummyTransaction_not_imported :
    ¬ ∃ obj, (convert2JGroupDummyTransaction .java policyDummyTransaction).run {} =
        (.ok obj, {}) ∧
      convert2CGroupDummyTransaction LibDummyTransaction.plain obj = policyDummyTransaction ∧
      requestsOf (importGroupDummyTx LibNunchuk.plain LibDummyTransaction.plain obj) =
        [policyDummyTransaction] := by
  rw [convert2JGroupDummyTransaction_eq JniThread.java_resolves]
  rintro ⟨obj, hrun, hequal, -⟩
  cases hrun
  -- the payload of the fresh value is absent
  have hpayload := congrArg GroupDummyTransaction.payload hequal
  cases hpayload

end NunchukSdk
