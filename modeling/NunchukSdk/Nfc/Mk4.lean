import NunchukSdk.Jni.Methods
import NunchukSdk.Marshal.Transaction
import NunchukSdk.Nfc.Records

/-!
# Transactions on a Tag

A ColdCard Mk4 has no cable to the phone: the app writes a PSBT to the tag of the card,
`exportPsbtToMk4`, the card signs it and writes back what it made, and the app reads the tag,
`importTransactionFromMk4`. What comes back is a signed PSBT, or the finished transaction.

- `LibMk4`: the library calls of these methods, on a state of the library
- `CardAnswer`: what a card writes
- `importTransactionFromMk4_run`: the method imports what the library reads from the records
-/

namespace NunchukSdk

open Foundation NativeM

/-- `nunchuk::ndef::NDEFMessageType`; the methods ask for five of its values. -/
inductive NDEFMessageType where
  | PSBT
  | TRANSACTION
  | JSON
  | WALLET
  | TEXT
  | OTHER
  deriving DecidableEq, Repr

/-- The library calls of the methods. -/
structure LibMk4 (S : Type) where
  detectNDEFMessageType : List NDEFRecord → Except CppException NDEFMessageType
  ndefRecordsFromPSBT : String → Except CppException (List NDEFRecord)
  ndefRecordsToPSBT : List NDEFRecord → Except CppException String
  ndefRecordsToRawTransaction : List NDEFRecord → Except CppException String
  /-- `GetTransaction(wallet_id, tx_id)`. -/
  getTransaction : String → String → S → Except CppException Transaction × S
  /-- `ImportPsbt(wallet_id, psbt)`. -/
  importPsbt : String → String → S → Except CppException Transaction × S
  /-- `ImportRawTransaction(wallet_id, raw_tx)`. -/
  importRawTransaction : String → String → S → Except CppException Transaction × S

/-- A native method beside the library. -/
abbrev Mk4M (S α : Type) := NativeM CppException (S × JavaEnv) α

/-! ## The entry points -/

section EntryPoints

variable {S : Type} (lib : LibNunchuk) (mk4 : LibMk4 S) (accepts : NdefRecordParts → Bool)

/-- `LibNunchukAndroid_exportPsbtToMk4`. -/
def exportPsbtToMk4 (walletId txId : String) : Mk4M S (JReturn (List (NdefRecord accepts))) :=
  nativeMethod
    (do
      let tx ← onFst (callOn (mk4.getTransaction walletId txId))
      let cRecords ← call (mk4.ndefRecordsFromPSBT tx.psbt)
      let records ← onSnd (convert2JRecords accepts cRecords)
      pure (.object records))
    .null .null

/-- `LibNunchukAndroid_exportRawPsbtToMk4`. -/
def exportRawPsbtToMk4 (psbt : String) : Mk4M S (JReturn (List (NdefRecord accepts))) :=
  nativeMethod
    (do
      let cRecords ← call (mk4.ndefRecordsFromPSBT psbt)
      let records ← onSnd (convert2JRecords accepts cRecords)
      pure (.object records))
    .null .null

variable {accepts}

/-- `LibNunchukAndroid_importTransactionFromMk4`. -/
def importTransactionFromMk4 (walletId : String) (records : List (NdefRecord accepts)) :
    Mk4M S (JReturn JTransaction) :=
  nativeMethod
    (do
      let cRecords := convert2CRecords records
      let type ← call (mk4.detectNDEFMessageType cRecords)
      match type with
      | .PSBT => do
        let psbt ← call (mk4.ndefRecordsToPSBT cRecords)
        let tx ← onFst (callOn (mk4.importPsbt walletId psbt))
        let shown ← onSnd (convert2JTransaction lib tx 0)
        pure (.object shown)
      | .TRANSACTION => do
        let rawTx ← call (mk4.ndefRecordsToRawTransaction cRecords)
        let tx ← onFst (callOn (mk4.importRawTransaction walletId rawTx))
        let shown ← onSnd (convert2JTransaction lib tx 0)
        pure (.object shown)
      | _ => pure .null)
    .null .null

/-- `LibNunchukAndroid_getPsbtFromMk4`. -/
def getPsbtFromMk4 (records : List (NdefRecord accepts)) : Mk4M S (JReturn String) :=
  nativeMethod
    (do
      let cRecords := convert2CRecords records
      let type ← call (mk4.detectNDEFMessageType cRecords)
      match type with
      | .PSBT => do
        let psbt ← call (mk4.ndefRecordsToPSBT cRecords)
        pure (.object psbt)
      | _ => pure .null)
    .null .null

end EntryPoints

/-! ## What a card writes -/

/-- A PSBT that the card has signed, or the transaction that it has finished. -/
inductive CardAnswer where
  | psbt (psbt : String)
  | rawTransaction (rawTx : String)
  deriving DecidableEq, Repr

/-- What `getPsbtFromMk4` returns of it. -/
def CardAnswer.returned : CardAnswer → JReturn String
  | .psbt text => .object text
  | .rawTransaction _ => .null

section Answers

variable {S : Type} (lib : LibNunchuk) (mk4 : LibMk4 S)

/-- What the library reads from records; `none` for a message of another type. -/
def LibMk4.readAnswer (records : List NDEFRecord) : Except CppException (Option CardAnswer) := do
  match ← mk4.detectNDEFMessageType records with
  | .PSBT => return some (.psbt (← mk4.ndefRecordsToPSBT records))
  | .TRANSACTION => return some (.rawTransaction (← mk4.ndefRecordsToRawTransaction records))
  | _ => return none

/-- The import of an answer. -/
def LibMk4.importAnswer (walletId : String) :
    CardAnswer → S → Except CppException Transaction × S
  | .psbt psbt => mk4.importPsbt walletId psbt
  | .rawTransaction rawTx => mk4.importRawTransaction walletId rawTx

variable {lib mk4} {accepts : NdefRecordParts → Bool}

/-- An import, and what is shown of it. -/
theorem run_import (f : S → Except CppException Transaction × S) (store : S) :
    (nativeMethod
      (do
        let tx ← onFst (callOn f)
        let shown ← onSnd (convert2JTransaction lib tx 0)
        pure (JReturn.object shown)) .null .null).run (store, ({} : JavaEnv)) =
      ((shownOutcome lib (f store).1).1, ((f store).2, (shownOutcome lib (f store).1).2)) := by
  rw [run_nativeMethod, run_bind, run_onFst, run_callOn]
  rcases f store with ⟨outcome, store'⟩
  cases outcome with
  | error e =>
    simp only [Except.mapError, shownOutcome, ite_self]
    rfl
  | ok tx =>
    simp only [Except.mapError]
    rw [run_bind, run_onSnd, convert2JTransaction_eq, shownOutcome]
    cases shownTransaction lib tx 0 with
    | none => rfl
    | some shown => rfl

/-- **The import of a tag.** Where the library reads an answer from the records, the answer is
    imported and the transaction shown. -/
theorem importTransactionFromMk4_run {records : List (NdefRecord accepts)} {answer : CardAnswer}
    (h : mk4.readAnswer (convert2CRecords records) = .ok (some answer)) (walletId : String)
    (store : S) :
    (importTransactionFromMk4 lib mk4 walletId records).run (store, {}) =
      ((shownOutcome lib (mk4.importAnswer walletId answer store).1).1,
        ((mk4.importAnswer walletId answer store).2,
          (shownOutcome lib (mk4.importAnswer walletId answer store).1).2)) := by
  obtain ⟨type, htype, h⟩ := bind_eq_ok.mp h
  unfold importTransactionFromMk4
  dsimp only
  rw [htype]
  cases type with
  | PSBT =>
    obtain ⟨psbt, hpsbt, h⟩ := bind_eq_ok.mp h
    rw [← Option.some.inj (Except.ok.inj h)]
    show (nativeMethod (call (mk4.ndefRecordsToPSBT (convert2CRecords records)) >>= fun psbt =>
      _) _ _).run _ = _
    rw [hpsbt]
    exact run_import _ store
  | TRANSACTION =>
    obtain ⟨rawTx, hrawTx, h⟩ := bind_eq_ok.mp h
    rw [← Option.some.inj (Except.ok.inj h)]
    show (nativeMethod (call (mk4.ndefRecordsToRawTransaction (convert2CRecords records)) >>=
      fun rawTx => _) _ _).run _ = _
    rw [hrawTx]
    exact run_import _ store
  | JSON => cases h
  | WALLET => cases h
  | TEXT => cases h
  | OTHER => cases h

/-- The library's codec of PSBTs: the constructor of `NdefRecord` accepts what it writes, and it
    reads the PSBT back. -/
structure LibMk4.CarriesPsbts (mk4 : LibMk4 S) (accepts : NdefRecordParts → Bool) : Prop where
  accepted : ∀ {psbt records}, mk4.ndefRecordsFromPSBT psbt = .ok records →
    ∀ record ∈ records, accepts record.javaParts = true
  readBack : ∀ {psbt records}, mk4.ndefRecordsFromPSBT psbt = .ok records →
    mk4.readAnswer records = .ok (some (.psbt psbt))

/-- What `exportPsbtToMk4` is asked for: the transaction, and records for its PSBT. -/
def LibMk4.exported (mk4 : LibMk4 S) (walletId txId : String) (store : S) :
    Except CppException (String × List NDEFRecord) := do
  let tx ← (mk4.getTransaction walletId txId store).1
  let records ← mk4.ndefRecordsFromPSBT tx.psbt
  pure (tx.psbt, records)

theorem exportPsbtToMk4_run_error {walletId txId : String} {store : S} {e : CppException}
    (h : mk4.exported walletId txId store = .error e) :
    (exportPsbtToMk4 mk4 accepts walletId txId).run (store, {}) =
      (.ok .null, ((mk4.getTransaction walletId txId store).2, ⟨[⟨e.message⟩]⟩)) := by
  unfold LibMk4.exported at h
  rw [exportPsbtToMk4, run_nativeMethod, run_bind, run_onFst, run_callOn]
  rcases hget : mk4.getTransaction walletId txId store with ⟨outcome, store'⟩
  rw [hget] at h
  cases outcome with
  | error e' =>
    cases h
    simp only [Except.mapError, ite_self]
    rfl
  | ok tx =>
    simp only [Except.mapError]
    cases hrecords : mk4.ndefRecordsFromPSBT tx.psbt with
    | ok records =>
      exfalso
      simp [hrecords, bind, Except.bind, pure, Except.pure] at h
    | error e' =>
      have he : e' = e := by
        simpa [hrecords, bind, Except.bind] using h
      rw [run_call_error_bind, he]
      simp only [ite_self]
      rfl

/-- The records that Kotlin is given read back as the PSBT of the transaction. -/
theorem exportPsbtToMk4_run_ok (hcodec : mk4.CarriesPsbts accepts) {walletId txId : String}
    {store : S} {psbt : String} {cRecords : List NDEFRecord}
    (h : mk4.exported walletId txId store = .ok (psbt, cRecords)) :
    ∃ records : List (NdefRecord accepts),
      (exportPsbtToMk4 mk4 accepts walletId txId).run (store, {}) =
        (.ok (.object records), ((mk4.getTransaction walletId txId store).2, {})) ∧
      mk4.readAnswer (convert2CRecords records) = .ok (some (.psbt psbt)) := by
  obtain ⟨tx, htx, h⟩ := bind_eq_ok.mp h
  obtain ⟨cRecords', hrecords, h⟩ := bind_eq_ok.mp h
  cases h
  obtain ⟨records, hparts⟩ := exists_sameParts (hcodec.accepted hrecords)
  refine ⟨records, ?_, ?_⟩
  · rw [exportPsbtToMk4, run_nativeMethod, run_bind, run_onFst, run_callOn, htx]
    simp only [Except.mapError]
    rw [hrecords, run_call_ok_bind, convert2JRecords_eq hparts]
    rfl
  · rw [convert2CRecords_eq hparts]
    exact hcodec.readBack hrecords

theorem exportRawPsbtToMk4_run_error {psbt : String} {e : CppException}
    (h : mk4.ndefRecordsFromPSBT psbt = .error e) (store : S) :
    (exportRawPsbtToMk4 mk4 accepts psbt).run (store, {}) =
      (.ok .null, (store, ⟨[⟨e.message⟩]⟩)) := by
  rw [exportRawPsbtToMk4, run_nativeMethod, h, run_call_error_bind]
  simp only [ite_self]
  rfl

/-- So do the records for a PSBT that Kotlin gives. -/
theorem exportRawPsbtToMk4_run_ok (hcodec : mk4.CarriesPsbts accepts) {psbt : String}
    {cRecords : List NDEFRecord} (h : mk4.ndefRecordsFromPSBT psbt = .ok cRecords) (store : S) :
    ∃ records : List (NdefRecord accepts),
      (exportRawPsbtToMk4 mk4 accepts psbt).run (store, {}) = (.ok (.object records), (store, {})) ∧
      mk4.readAnswer (convert2CRecords records) = .ok (some (.psbt psbt)) := by
  obtain ⟨records, hparts⟩ := exists_sameParts (hcodec.accepted h)
  refine ⟨records, ?_, ?_⟩
  · rw [exportRawPsbtToMk4, run_nativeMethod, h, run_call_ok_bind, convert2JRecords_eq hparts]
    rfl
  · rw [convert2CRecords_eq hparts]
    exact hcodec.readBack h

/-- A finished transaction is not returned as a PSBT. -/
theorem getPsbtFromMk4_run {records : List (NdefRecord accepts)} {answer : CardAnswer}
    (h : mk4.readAnswer (convert2CRecords records) = .ok (some answer)) (store : S) :
    (getPsbtFromMk4 mk4 records).run (store, {}) = (.ok answer.returned, (store, {})) := by
  obtain ⟨type, htype, h⟩ := bind_eq_ok.mp h
  unfold getPsbtFromMk4
  dsimp only
  rw [run_nativeMethod, htype, run_call_ok_bind]
  cases type with
  | PSBT =>
    obtain ⟨psbt, hpsbt, h⟩ := bind_eq_ok.mp h
    rw [← Option.some.inj (Except.ok.inj h)]
    dsimp only
    rw [hpsbt]
    rfl
  | TRANSACTION =>
    obtain ⟨rawTx, -, h⟩ := bind_eq_ok.mp h
    rw [← Option.some.inj (Except.ok.inj h)]
    rfl
  | JSON => cases h
  | WALLET => cases h
  | TEXT => cases h
  | OTHER => cases h

end Answers

end NunchukSdk
