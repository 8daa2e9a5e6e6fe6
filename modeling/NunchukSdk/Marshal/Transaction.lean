import Mathlib.Algebra.Ring.Int.Defs
import NunchukSdk.Jni.ClassLookup
import NunchukSdk.Jni.EntryPoint
import NunchukSdk.Liquid.AssetId
import NunchukSdk.Marshal.Coin
import NunchukSdk.Marshal.Signer
import NunchukSdk.Foundation.KeyedMap

/-!
# Transactions

`convert2JTransaction` fills a Kotlin `Transaction`. It splits the outputs for display: those the
wallet receives, those the user asked for (the ones with a user amount), and the index of the
first change output.

The address of an output is a byte string of the library. `NewStringUTF` is undefined on one that
is not modified UTF-8, and with it the whole conversion; every other call returns.
-/

namespace NunchukSdk

open Foundation NativeM

/-! ## Native and Kotlin transactions -/

/-- `nunchuk::KeysetStatus`: the number of a status and which signers have signed. -/
abbrev KeysetStatus := Int × AList fun _ : String => Bool

/-- `nunchuk::Transaction`. -/
structure Transaction where
  txid : String
  height : Int := 0
  inputs : List TxInput := []
  outputs : List TxOutput := []
  m : Int := 0
  signers : AList fun _ : String => Bool := ∅
  memo : String := ""
  /-- The number of the status. -/
  status : Int := 0
  replacedByTxid : String := ""
  replaceTxid : String := ""
  fee : Int := 0
  feeRate : Int := 0
  blocktime : Int := 0
  subtractFeeFromAmount : Bool := false
  receive : Bool := false
  subAmount : Int := 0
  psbt : String := ""
  keysetStatus : List KeysetStatus := []
  lockTime : Int := 0
  raw : String := ""
  signed : List SingleSigner := []

/-- Kotlin `KeySetStatus`. -/
structure JKeySetStatus where
  status : TransactionStatus
  signerStatus : Finmap fun _ : String => Bool

/-- Kotlin `Transaction`. -/
structure JTransaction where
  txId : String := ""
  height : Int := 0
  inputs : List JTxInput := []
  outputs : List JTxOutput := []
  userOutputs : List JTxOutput := []
  receiveOutputs : List JTxOutput := []
  changeIndex : Int := 0
  m : Int := 0
  signers : Finmap (fun _ : String => Bool) := ∅
  memo : String := ""
  status : TransactionStatus := .PENDING_SIGNATURES
  replacedByTxid : String := ""
  replacedTxid : String := ""
  fee : JAmount := {}
  feeRate : JAmount := {}
  blockTime : Int := 0
  subtractFeeFromAmount : Bool := false
  isReceive : Bool := false
  subAmount : JAmount := {}
  totalAmount : JAmount := {}
  psbt : String := ""
  cpfpFee : JAmount := {}
  keySetStatus : List JKeySetStatus := []
  scriptPathFee : JAmount := {}
  lockTime : Int := 0
  raw : String := ""
  signedSigner : List JSingleSigner := []

/-! ## The parts -/

/-- `Deserializer::convert2JTxInput`. -/
def convert2JTxInput (input : TxInput) : JTxInput where
  first := input.1
  second := input.2

/-- `Deserializer::convert2JTxInputs`. -/
def convert2JTxInputs (inputs : List TxInput) : List JTxInput := inputs.map convert2JTxInput

/-- `Deserializer::convert2JTxOutputs`. -/
def convert2JTxOutputs (valueFromAmount : ValueFromAmount) (outputs : List TxOutput) :
    Option (List JTxOutput) :=
  outputs.mapM (convert2JTxOutput valueFromAmount)

/-- `Deserializer::convert2JStringBooleanMap`. -/
def convert2JStringBooleanMap (signersMap : AList fun _ : String => Bool) :
    Finmap fun _ : String => Bool :=
  fillOverwriting id id signersMap.entries

/-- `Deserializer::convert2JKeySetStatus`. -/
def convert2JKeySetStatus (keySetStatus : List KeysetStatus) : List JKeySetStatus :=
  keySetStatus.map fun status =>
    { status := TransactionStatus.helperFrom status.1
      signerStatus := convert2JStringBooleanMap status.2 }

/-- The outputs with a user amount. -/
def userOutputsOf (outputs : List TxOutput) : List TxOutput :=
  outputs.filter fun o => o.userAmount ≠ 0

/-- The index of the first change output, and -1 without one. -/
def changeIndexOf (outputs : List TxOutput) : Int :=
  match outputs.findIdx? fun o => o.isChange with
  | some i => i
  | none => -1

/-- A conversion that JNI may leave undefined. -/
def defined {ε σ α : Type} : Option α → NativeM ε σ α
  | some a => pure a
  | none => undefinedBehaviour

/-! ## The transaction -/

/-- `Deserializer::convert2JTransaction`. -/
def convert2JTransaction (lib : LibNunchuk) (transaction : Transaction) (amount : Int) :
    Jni JTransaction :=
  fillLoggedOn {} do
    let total :=
      if transaction.receive then transaction.subAmount
      else transaction.subAmount + transaction.fee
    update fun t => { t with txId := transaction.txid }
    update fun t => { t with height := transaction.height }
    update fun t => { t with inputs := convert2JTxInputs transaction.inputs }
    let outputs ← defined (convert2JTxOutputs lib.valueFromAmount transaction.outputs)
    update fun t => { t with outputs := outputs }
    let receiveOutputs ← defined (convert2JTxOutputs lib.valueFromAmount
      (transaction.outputs.filter fun o => o.isReceive))
    update fun t => { t with receiveOutputs := receiveOutputs }
    let userOutputs ← defined
      (convert2JTxOutputs lib.valueFromAmount (userOutputsOf transaction.outputs))
    update fun t => { t with userOutputs := userOutputs }
    update fun t => { t with changeIndex := changeIndexOf transaction.outputs }
    update fun t => { t with m := transaction.m }
    update fun t => { t with signers := convert2JStringBooleanMap transaction.signers }
    update fun t => { t with memo := transaction.memo }
    update fun t => { t with status := TransactionStatus.helperFrom transaction.status }
    update fun t => { t with replacedByTxid := transaction.replacedByTxid }
    update fun t => { t with replacedTxid := transaction.replaceTxid }
    update fun t => { t with fee := convert2JAmount lib.valueFromAmount transaction.fee }
    update fun t => { t with feeRate := convert2JAmount lib.valueFromAmount transaction.feeRate }
    update fun t => { t with blockTime := transaction.blocktime }
    update fun t => { t with subtractFeeFromAmount := transaction.subtractFeeFromAmount }
    update fun t => { t with isReceive := transaction.receive }
    update fun t =>
      { t with subAmount := convert2JAmount lib.valueFromAmount transaction.subAmount }
    update fun t => { t with totalAmount := convert2JAmount lib.valueFromAmount total }
    update fun t => { t with psbt := transaction.psbt }
    update fun t => { t with cpfpFee := convert2JAmount lib.valueFromAmount amount }
    update fun t => { t with keySetStatus := convert2JKeySetStatus transaction.keysetStatus }
    update fun t => { t with lockTime := transaction.lockTime }
    update fun t => { t with raw := transaction.raw }
    update fun t => { t with signedSigner := convert2JSigners lib transaction.signed }

/-- The Kotlin transaction, where every address is a Java string. -/
def shownTransaction (lib : LibNunchuk) (transaction : Transaction) (amount : Int) :
    Option JTransaction := do
  let outputs ← convert2JTxOutputs lib.valueFromAmount transaction.outputs
  let receiveOutputs ← convert2JTxOutputs lib.valueFromAmount
    (transaction.outputs.filter fun o => o.isReceive)
  let userOutputs ← convert2JTxOutputs lib.valueFromAmount (userOutputsOf transaction.outputs)
  some
    { txId := transaction.txid
      height := transaction.height
      inputs := convert2JTxInputs transaction.inputs
      outputs := outputs
      userOutputs := userOutputs
      receiveOutputs := receiveOutputs
      changeIndex := changeIndexOf transaction.outputs
      m := transaction.m
      signers := convert2JStringBooleanMap transaction.signers
      memo := transaction.memo
      status := TransactionStatus.helperFrom transaction.status
      replacedByTxid := transaction.replacedByTxid
      replacedTxid := transaction.replaceTxid
      fee := convert2JAmount lib.valueFromAmount transaction.fee
      feeRate := convert2JAmount lib.valueFromAmount transaction.feeRate
      blockTime := transaction.blocktime
      subtractFeeFromAmount := transaction.subtractFeeFromAmount
      isReceive := transaction.receive
      subAmount := convert2JAmount lib.valueFromAmount transaction.subAmount
      totalAmount := convert2JAmount lib.valueFromAmount
        (if transaction.receive then transaction.subAmount
          else transaction.subAmount + transaction.fee)
      psbt := transaction.psbt
      cpfpFee := convert2JAmount lib.valueFromAmount amount
      keySetStatus := convert2JKeySetStatus transaction.keysetStatus
      lockTime := transaction.lockTime
      raw := transaction.raw
      signedSigner := convert2JSigners lib transaction.signed }

/-- A transaction or a failure, as it crosses. -/
def shownOutcome (lib : LibNunchuk) : Except CppException Transaction → JResult JTransaction
  | .error e => (.ok .null, ⟨[⟨e.message⟩]⟩)
  | .ok tx =>
    match shownTransaction lib tx 0 with
    | some shown => (.ok (.object shown), {})
    | none => (.error .undefinedBehaviour, {})

/-- Nothing else can keep the conversion from returning. -/
theorem convert2JTransaction_eq (lib : LibNunchuk) (transaction : Transaction) (amount : Int) :
    convert2JTransaction lib transaction amount =
      defined (shownTransaction lib transaction amount) := by
  apply NativeM.ext
  intro env
  unfold convert2JTransaction shownTransaction
  cases convert2JTxOutputs lib.valueFromAmount transaction.outputs with
  | none => rfl
  | some outputs =>
    cases convert2JTxOutputs lib.valueFromAmount
        (transaction.outputs.filter fun o => o.isReceive) with
    | none => rfl
    | some receiveOutputs =>
      cases convert2JTxOutputs lib.valueFromAmount (userOutputsOf transaction.outputs) with
      | none => rfl
      | some userOutputs => rfl

/-- What is set from the fields beside the outputs. -/
theorem fields_shownTransaction {lib : LibNunchuk} {transaction : Transaction} {amount : Int}
    {shown : JTransaction} (h : shownTransaction lib transaction amount = some shown) :
    shown.psbt = transaction.psbt ∧
      shown.signers = convert2JStringBooleanMap transaction.signers := by
  obtain ⟨outputs, -, h⟩ := Option.bind_eq_some_iff.mp h
  obtain ⟨receiveOutputs, -, h⟩ := Option.bind_eq_some_iff.mp h
  obtain ⟨userOutputs, -, h⟩ := Option.bind_eq_some_iff.mp h
  rw [← Option.some.inj h]
  exact ⟨rfl, rfl⟩

/-- Whether a transaction can be shown is a matter of its outputs. -/
theorem exists_shownTransaction {lib : LibNunchuk} {transaction transaction' : Transaction}
    {amount : Int} {shown : JTransaction} (houtputs : transaction'.outputs = transaction.outputs)
    (h : shownTransaction lib transaction amount = some shown) :
    ∃ shown', shownTransaction lib transaction' amount = some shown' := by
  obtain ⟨outputs, hall, h⟩ := Option.bind_eq_some_iff.mp h
  obtain ⟨receiveOutputs, hreceive, h⟩ := Option.bind_eq_some_iff.mp h
  obtain ⟨userOutputs, huser, h⟩ := Option.bind_eq_some_iff.mp h
  apply Option.isSome_iff_exists.mp
  unfold shownTransaction
  rw [houtputs, hall, hreceive, huser]
  rfl

/-- The Kotlin map has what the native one has. -/
theorem lookup_convert2JStringBooleanMap_iff (signersMap : AList fun _ : String => Bool)
    (id : String) (signed : Bool) :
    (convert2JStringBooleanMap signersMap).lookup id = some signed ↔
      signersMap.lookup id = some signed := by
  have hagree : ∀ e ∈ signersMap.entries, ∀ e' ∈ signersMap.entries, e.1 = e'.1 → e.2 = e'.2 := by
    rintro ⟨a, v⟩ he ⟨a', v'⟩ he' rfl
    have hv := AList.mem_lookup_iff.mpr he
    have hv' := AList.mem_lookup_iff.mpr he'
    exact Option.some.inj (hv.symm.trans hv')
  apply (lookup_fillOverwriting_iff hagree).trans
  constructor
  · rintro ⟨⟨a, v⟩, he, rfl, rfl⟩
    exact AList.mem_lookup_iff.mpr he
  · intro h
    exact ⟨⟨id, signed⟩, AList.mem_lookup_iff.mp h, rfl, rfl⟩

theorem lookup_convert2JStringBooleanMap (signersMap : AList fun _ : String => Bool)
    {id : String} {signed : Bool} (h : signersMap.lookup id = some signed) :
    (convert2JStringBooleanMap signersMap).lookup id = some signed :=
  (lookup_convert2JStringBooleanMap_iff signersMap id signed).mpr h

/-! ## What the user outputs show -/

/-- Converted outputs keep their user amounts. -/
theorem userAmounts_convert2JTxOutputs (valueFromAmount : ValueFromAmount)
    (outputs : List TxOutput) {shown : List JTxOutput}
    (h : convert2JTxOutputs valueFromAmount outputs = some shown) :
    shown.map (fun o => o.userAmount.value) = outputs.map TxOutput.userAmount := by
  induction outputs generalizing shown with
  | nil =>
    cases h
    rfl
  | cons output outputs ih =>
    rw [convert2JTxOutputs, List.mapM_cons] at h
    obtain ⟨first, hfirst, h⟩ := Option.bind_eq_some_iff.mp h
    obtain ⟨rest, hrest, h⟩ := Option.bind_eq_some_iff.mp h
    cases h
    -- the user amount is set from the native one, whatever the texts are
    have hamount : first.userAmount.value = output.userAmount := by
      obtain ⟨address, -, hfirst⟩ := Option.bind_eq_some_iff.mp hfirst
      obtain ⟨assetId, -, hfirst⟩ := Option.bind_eq_some_iff.mp hfirst
      cases hfirst
      exact convert2JAmount_value valueFromAmount output.userAmount
    rw [List.map_cons, List.map_cons, hamount, ih hrest]

/-- A conversion that returns has converted the user outputs. -/
theorem userOutputs_convert2JTransaction {lib : LibNunchuk} {transaction : Transaction}
    {amount : Int} {env env' : JavaEnv} {shown : JTransaction}
    (h : (convert2JTransaction lib transaction amount).run env = (.ok shown, env')) :
    convert2JTxOutputs lib.valueFromAmount (userOutputsOf transaction.outputs) =
      some shown.userOutputs := by
  -- each of the three lists is defined, or the conversion is not
  unfold convert2JTransaction at h
  cases houtputs : convert2JTxOutputs lib.valueFromAmount transaction.outputs with
  | none =>
    rw [houtputs] at h
    cases h
  | some outputs =>
    cases hreceive : convert2JTxOutputs lib.valueFromAmount
        (transaction.outputs.filter fun o => o.isReceive) with
    | none =>
      rw [houtputs, hreceive] at h
      cases h
    | some receiveOutputs =>
      cases huser : convert2JTxOutputs lib.valueFromAmount (userOutputsOf transaction.outputs) with
      | none =>
        rw [houtputs, hreceive, huser] at h
        cases h
      | some userOutputs =>
        rw [houtputs, hreceive, huser] at h
        cases h
        rfl

/-- **The user outputs show the total of the user amounts.** -/
theorem userTotal_convert2JTransaction {lib : LibNunchuk} {transaction : Transaction}
    {amount : Int} {env env' : JavaEnv} {shown : JTransaction}
    (h : (convert2JTransaction lib transaction amount).run env = (.ok shown, env')) :
    (shown.userOutputs.map fun o => o.userAmount.value).sum =
      ((userOutputsOf transaction.outputs).map TxOutput.userAmount).sum := by
  rw [userAmounts_convert2JTxOutputs _ _ (userOutputs_convert2JTransaction h)]

end NunchukSdk
