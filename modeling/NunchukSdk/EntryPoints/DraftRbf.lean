import Mathlib.Algebra.Order.Ring.Int
import Mathlib.Algebra.Ring.Int.Defs
import NunchukSdk.Foundation.KeyTotals
import NunchukSdk.Jni.Requests
import NunchukSdk.Liquid.Outputs
import NunchukSdk.Marshal.Transaction
import NunchukSdk.Marshal.Wallet

/-!
# Replace-by-Fee Drafts

`draftRbfTransaction` drafts a transaction that pays what an original one paid, at another fee
rate. It collects the outputs of the original that have a user amount into a map from addresses to
amounts and hands the map to `DraftTransaction`.

## Results

- `rbfOutputs_eq`: the loop is the overwriting fill of a map
- `drafts_draftRbfTransaction`: what `DraftTransaction` is called with
- `draftRbf_paysAsOriginal_iff`: the draft pays every address what the original paid it exactly
  when the outputs with a user amount have distinct addresses; `mapOut[address] = amount` keeps
  the last of several amounts
-/

namespace NunchukSdk

open Foundation NativeM

/-! ## The entry point -/

/-- `nunchuk::SigningPath`, a vector of vectors of `size_t`. -/
abbrev SigningPath := List (List Nat)

/-- `Serializer::convert2CSigningPath` with a `size_t` of the given number of bits; `none` is a
    null object. -/
def convert2CSigningPath (sizeBits : Nat) : Option (List (List Int)) → SigningPath
  | none => []
  | some path => path.map fun inner => inner.map fun value => (value % 2 ^ sizeBits).toNat

/-- The arguments of `DraftTransaction`. -/
structure DraftTransactionArgs where
  walletId : String
  outputs : AmountsMap
  inputs : List UnspentOutput
  feeRate : Int
  subtractFeeFromAmount : Bool
  replaceTxId : String
  useScriptPath : Bool
  signingPath : SigningPath

/-- The library calls that the draft makes. -/
structure LibDraft where
  sizeBits : Nat
  getTransaction : String → String → Except CppException Transaction
  getUnspentOutputsFromTxInputs : String → List TxInput → Except CppException (List UnspentOutput)
  draftTransaction : DraftTransactionArgs → Except CppException Transaction
  /-- `IsCPFP`, with the package fee rate it writes when it returns true. -/
  isCPFP : String → Transaction → Except CppException (Option Int)
  getWallet : String → Except CppException Wallet
  getScriptPathFeeRate : String → Transaction → Except CppException Int

/-- Those calls as requests. -/
inductive DraftRequest where
  | getTransaction (walletId txId : String)
  | getUnspentOutputsFromTxInputs (walletId : String) (inputs : List TxInput)
  | draftTransaction (args : DraftTransactionArgs)
  | isCPFP (walletId : String) (transaction : Transaction)
  | getWallet (walletId : String)
  | getScriptPathFeeRate (walletId : String) (transaction : Transaction)

/-- What Kotlin calls the method with. -/
structure DraftRbfArgs where
  walletId : String
  feeRate : JAmount
  replaceTxId : String
  useScriptPath : Bool
  signingPath : Option (List (List Int))

/-- The loop over the outputs of the original. -/
def rbfOutputs (outputs : List TxOutput) : AmountsMap :=
  outputs.foldl (fun mapOut output =>
    if output.userAmount ≠ 0 then mapOut.insert output.address output.userAmount else mapOut) ∅

/-- The call of `DraftTransaction` for an original and its coins. -/
def rbfDraft (calls : LibDraft) (args : DraftRbfArgs) (original : Transaction)
    (coins : List UnspentOutput) : DraftTransactionArgs where
  walletId := args.walletId
  outputs := rbfOutputs original.outputs
  inputs := coins
  feeRate := convert2CAmount args.feeRate
  subtractFeeFromAmount := original.subtractFeeFromAmount
  replaceTxId := args.replaceTxId
  useScriptPath := args.useScriptPath
  signingPath := convert2CSigningPath calls.sizeBits args.signingPath

/-- What the method does with the draft it gets: convert it, with the package fee rate of a CPFP
    transaction and the script path fee of a Taproot multisig wallet. -/
def showDraft (lib : LibNunchuk) (calls : LibDraft) (walletId : String)
    (transaction : Transaction) : Asking DraftRequest (JReturn JTransaction) := do
  let packageFeeRate ← ask (.isCPFP walletId transaction) (calls.isCPFP walletId transaction)
  let jtransaction ← onSnd (convert2JTransaction lib transaction (packageFeeRate.getD 0))
  let wallet ← ask (.getWallet walletId) (calls.getWallet walletId)
  if wallet.addressType = .TAPROOT ∧ wallet.walletType = .MULTI_SIG then do
    let fee ← ask (.getScriptPathFeeRate walletId transaction)
      (calls.getScriptPathFeeRate walletId transaction)
    pure (.object { jtransaction with scriptPathFee := convert2JAmount lib.valueFromAmount fee })
  else pure (.object jtransaction)

/-- `LibNunchukAndroid_draftRbfTransaction`. -/
def draftRbfTransaction (lib : LibNunchuk) (calls : LibDraft) (args : DraftRbfArgs) :
    Asking DraftRequest (JReturn JTransaction) :=
  asking
    (do
      let original ← ask (.getTransaction args.walletId args.replaceTxId)
        (calls.getTransaction args.walletId args.replaceTxId)
      let coins ← ask (.getUnspentOutputsFromTxInputs args.walletId original.inputs)
        (calls.getUnspentOutputsFromTxInputs args.walletId original.inputs)
      let transaction ← ask (.draftTransaction (rbfDraft calls args original coins))
        (calls.draftTransaction (rbfDraft calls args original coins))
      showDraft lib calls args.walletId transaction)
    .throwable .throwable

/-- The calls of `DraftTransaction` among the requests. -/
def draftsOf (requests : List DraftRequest) : List DraftTransactionArgs :=
  requests.filterMap fun
    | .draftTransaction args => some args
    | _ => none

/-! ## What is drafted -/

/-- Any other request leaves the drafts as they are. -/
theorem draftsOf_concat (requests : List DraftRequest) (request : DraftRequest)
    (h : draftsOf [request] = []) : draftsOf (requests ++ [request]) = draftsOf requests := by
  unfold draftsOf at h ⊢
  rw [List.filterMap_append, h, List.append_nil]

/-- Showing a draft drafts nothing, however the library calls end. -/
theorem draftsOf_showDraft (lib : LibNunchuk) (calls : LibDraft) (walletId : String)
    (transaction : Transaction) (requests : List DraftRequest) (env : JavaEnv) :
    draftsOf ((showDraft lib calls walletId transaction).run (requests, env)).2.1 =
      draftsOf requests := by
  unfold showDraft
  cases calls.isCPFP walletId transaction with
  | error e => exact draftsOf_concat _ _ rfl
  | ok packageFeeRate =>
    rw [run_ask_ok_bind, run_bind, run_onSnd]
    rcases (convert2JTransaction lib transaction (packageFeeRate.getD 0)).run env with ⟨r, env⟩
    cases r with
    | error fault => exact draftsOf_concat _ _ rfl
    | ok jtransaction =>
      cases calls.getWallet walletId with
      | error e => exact (draftsOf_concat _ _ rfl).trans (draftsOf_concat _ _ rfl)
      | ok wallet =>
        simp only [run_ask_ok_bind]
        split
        · cases calls.getScriptPathFeeRate walletId transaction with
          | error e =>
            exact (draftsOf_concat _ _ rfl).trans
              ((draftsOf_concat _ _ rfl).trans (draftsOf_concat _ _ rfl))
          | ok fee =>
            exact (draftsOf_concat _ _ rfl).trans
              ((draftsOf_concat _ _ rfl).trans (draftsOf_concat _ _ rfl))
        · exact (draftsOf_concat _ _ rfl).trans (draftsOf_concat _ _ rfl)

/-- With the original and its coins at hand, one draft is asked for, whatever the library then
    does. -/
theorem drafts_draftRbfTransaction {lib : LibNunchuk} {calls : LibDraft} {args : DraftRbfArgs}
    {original : Transaction} {coins : List UnspentOutput}
    (horiginal : calls.getTransaction args.walletId args.replaceTxId = .ok original)
    (hcoins : calls.getUnspentOutputsFromTxInputs args.walletId original.inputs = .ok coins) :
    draftsOf (requestsOf (draftRbfTransaction lib calls args)) =
      [rbfDraft calls args original coins] := by
  rw [draftRbfTransaction, requestsOf_asking, requestsOf, horiginal, run_ask_ok_bind, hcoins,
    run_ask_ok_bind]
  cases calls.draftTransaction (rbfDraft calls args original coins) with
  | error e => rfl
  | ok transaction =>
    rw [run_ask_ok_bind, draftsOf_showDraft]
    rfl

/-! ## What the original paid -/

/-- The output map pays every address that the original paid the sum of the user amounts of its
    outputs to it, and no other, and in total what Kotlin shows as the user outputs of the
    original. -/
def PaysAsOriginal (lib : LibNunchuk) (original : Transaction) (mapOut : AmountsMap) : Prop :=
  (∀ address, mapOut.lookup address =
    if ∃ o ∈ original.outputs, o.address = address ∧ o.userAmount ≠ 0 then
      some ((original.outputs.filter fun o => o.address = address).map TxOutput.userAmount).sum
    else none) ∧
  ∀ amount shown env env',
    (convert2JTransaction lib original amount).run env = (.ok shown, env') →
      (mapOut.entries.map Sigma.snd).sum =
        (shown.userOutputs.map fun o => o.userAmount.value).sum

/-- The addresses of the outputs with a user amount. -/
def userAddresses (outputs : List TxOutput) : List NativeString :=
  (userOutputsOf outputs).map TxOutput.address

/-- The payments of a list of outputs, in order. -/
def paymentsOf (outputs : List TxOutput) : List (Sigma fun _ : NativeString => Int) :=
  (userOutputsOf outputs).map fun o => ⟨o.address, o.userAmount⟩

/-- The loop fills the map with the payments, later ones over earlier ones. -/
theorem rbfOutputs_eq (outputs : List TxOutput) :
    rbfOutputs outputs = overwriting (paymentsOf outputs) := by
  unfold rbfOutputs overwriting fillOverwriting paymentsOf userOutputsOf
  rw [List.foldl_map, List.foldl_filter]
  simp

theorem keys_paymentsOf (outputs : List TxOutput) :
    (paymentsOf outputs).keys = userAddresses outputs := by
  simp [paymentsOf, userAddresses, List.keys]

theorem mem_userAddresses {outputs : List TxOutput} {address : NativeString} :
    address ∈ userAddresses outputs ↔
      ∃ o ∈ outputs, o.address = address ∧ o.userAmount ≠ 0 := by
  constructor
  · intro h
    obtain ⟨o, ho, haddress⟩ := List.mem_map.mp h
    obtain ⟨hmem, hamount⟩ := List.mem_filter.mp ho
    exact ⟨o, hmem, haddress, of_decide_eq_true hamount⟩
  · rintro ⟨o, hmem, haddress, hamount⟩
    exact List.mem_map.mpr ⟨o, List.mem_filter.mpr ⟨hmem, decide_eq_true hamount⟩, haddress⟩

theorem paymentsOf_cons (o : TxOutput) (outputs : List TxOutput) :
    paymentsOf (o :: outputs) =
      if o.userAmount = 0 then paymentsOf outputs
      else ⟨o.address, o.userAmount⟩ :: paymentsOf outputs := by
  unfold paymentsOf userOutputsOf
  by_cases hamount : o.userAmount = 0
  · simp [hamount]
  · simp [hamount]

/-- Outputs without a user amount add nothing to the sum of an address. -/
theorem totalAt_paymentsOf (outputs : List TxOutput) (address : NativeString) :
    totalAt (paymentsOf outputs) address =
      ((outputs.filter fun o => o.address = address).map TxOutput.userAmount).sum := by
  induction outputs with
  | nil => rfl
  | cons o outputs ih =>
    rw [paymentsOf_cons, List.filter_cons]
    by_cases hamount : o.userAmount = 0
    -- the head is no payment, and a zero in the sum
    · rw [if_pos hamount, ih]
      by_cases haddress : o.address = address
      · simp [haddress, hamount]
      · simp [haddress]
    · rw [if_neg hamount, totalAt_cons, ih]
      by_cases haddress : o.address = address
      · simp [haddress]
      · simp [haddress]

/-- The sum per address that the original paid is the one that adds the payments up. -/
theorem summed_paymentsOf (outputs : List TxOutput) (address : NativeString) :
    summed (paymentsOf outputs) address =
      if ∃ o ∈ outputs, o.address = address ∧ o.userAmount ≠ 0 then
        some ((outputs.filter fun o => o.address = address).map TxOutput.userAmount).sum
      else none := by
  unfold summed
  rw [totalAt_paymentsOf, keys_paymentsOf]
  by_cases h : address ∈ userAddresses outputs
  · rw [if_pos h, if_pos (mem_userAddresses.mp h)]
  · rw [if_neg h, if_neg (fun hex => h (mem_userAddresses.mpr hex))]

theorem paymentsOf_pos {outputs : List TxOutput} (hnonneg : ∀ o ∈ outputs, 0 ≤ o.userAmount) :
    ∀ e ∈ paymentsOf outputs, 0 < e.2 := by
  intro e he
  obtain ⟨o, ho, rfl⟩ := List.mem_map.mp he
  obtain ⟨hmem, hamount⟩ := List.mem_filter.mp ho
  exact lt_of_le_of_ne (hnonneg o hmem) (Ne.symm (of_decide_eq_true hamount))

/-- The map of the loop pays as the original exactly when no address repeats. -/
theorem paysAsOriginal_iff (lib : LibNunchuk) {original : Transaction}
    (hnonneg : ∀ o ∈ original.outputs, 0 ≤ o.userAmount) :
    PaysAsOriginal lib original (rbfOutputs original.outputs) ↔
      (userAddresses original.outputs).Nodup := by
  have hpos := paymentsOf_pos hnonneg
  have hiff := overwritingSums_iff_nodupKeys hpos
  rw [List.NodupKeys, keys_paymentsOf] at hiff
  rw [← hiff, PaysAsOriginal, rbfOutputs_eq]
  constructor
  · rintro ⟨hlookup, -⟩ address
    rw [hlookup address, summed_paymentsOf]
  · intro hsums
    refine ⟨fun address => by rw [hsums address, summed_paymentsOf], ?_⟩
    intro amount shown env env' hrun
    have hnodup : (paymentsOf original.outputs).NodupKeys := by
      rw [List.NodupKeys, keys_paymentsOf]
      exact hiff.mp hsums
    -- with distinct addresses the map holds each payment once
    rw [sum_overwriting hnodup, userTotal_convert2JTransaction hrun, paymentsOf, List.map_map]
    rfl

/-- **A replace-by-fee draft pays what the original paid exactly when no paid address repeats.** -/
theorem draftRbf_paysAsOriginal_iff (lib : LibNunchuk) (calls : LibDraft) (args : DraftRbfArgs)
    {original : Transaction} {coins : List UnspentOutput}
    (horiginal : calls.getTransaction args.walletId args.replaceTxId = .ok original)
    (hcoins : calls.getUnspentOutputsFromTxInputs args.walletId original.inputs = .ok coins)
    (hnonneg : ∀ o ∈ original.outputs, 0 ≤ o.userAmount) :
    (∃ draft, draftsOf (requestsOf (draftRbfTransaction lib calls args)) = [draft] ∧
      PaysAsOriginal lib original draft.outputs) ↔
      (userAddresses original.outputs).Nodup := by
  rw [drafts_draftRbfTransaction horiginal hcoins, ← paysAsOriginal_iff lib hnonneg]
  constructor
  · -- the one draft of the list is the one that was computed
    rintro ⟨draft, hdraft, hpays⟩
    cases hdraft
    exact hpays
  · intro hpays
    exact ⟨_, rfl, hpays⟩

/-! ## Two originals -/

/-- An output that the user asked for. -/
def paymentTo (address : NativeString) (amount : Int) : TxOutput where
  address := address
  amount := amount
  isChange := false
  isReceive := false
  userAmount := amount
  assetId := []

/-- A library that has one transaction and drafts whatever it is asked for. -/
def callsWith (original : Transaction) : LibDraft where
  sizeBits := 64
  getTransaction _ _ := .ok original
  getUnspentOutputsFromTxInputs _ _ := .ok []
  draftTransaction _ := .ok original
  isCPFP _ _ := .ok none
  getWallet _ := .ok (taprootWallet .DEFAULT)
  getScriptPathFeeRate _ _ := .ok 0

theorem callsWith_original (original : Transaction) (walletId txId : String) :
    (callsWith original).getTransaction walletId txId = .ok original := rfl

theorem callsWith_coins (original : Transaction) (walletId : String) (inputs : List TxInput) :
    (callsWith original).getUnspentOutputsFromTxInputs walletId inputs = .ok [] := rfl

/-- A replacement of the transaction `"tx"`. -/
def sampleRbfArgs : DraftRbfArgs where
  walletId := "w"
  feeRate := { value := 2000 }
  replaceTxId := "tx"
  useScriptPath := false
  signingPath := none

/-- Five to the address `"a"` and seven to the address `"b"`. -/
def distinctPayments : Transaction :=
  { txid := "tx", outputs := [paymentTo [97] 5, paymentTo [98] 7] }

/-- Five and seven to the address `"a"`. -/
def repeatedPayments : Transaction :=
  { txid := "tx", outputs := [paymentTo [97] 5, paymentTo [97] 7] }

/-- Two payments to two addresses are drafted again. -/
theorem distinctPayments_paid :
    ∃ draft, draftsOf (requestsOf (draftRbfTransaction LibNunchuk.plain
        (callsWith distinctPayments) sampleRbfArgs)) = [draft] ∧
      PaysAsOriginal LibNunchuk.plain distinctPayments draft.outputs :=
  (draftRbf_paysAsOriginal_iff LibNunchuk.plain (callsWith distinctPayments) sampleRbfArgs
    (callsWith_original distinctPayments _ _) (callsWith_coins distinctPayments _ _)
    (by decide)).mpr (by decide)

/-- Of two payments to one address the draft keeps the second. -/
theorem repeatedPayments_not_paid :
    ¬ ∃ draft, draftsOf (requestsOf (draftRbfTransaction LibNunchuk.plain
        (callsWith repeatedPayments) sampleRbfArgs)) = [draft] ∧
      PaysAsOriginal LibNunchuk.plain repeatedPayments draft.outputs := by
  rw [drafts_draftRbfTransaction (callsWith_original repeatedPayments _ _)
    (callsWith_coins repeatedPayments _ _)]
  rintro ⟨draft, hdraft, hlookup, -⟩
  cases hdraft
  -- the draft pays seven where the original paid twelve
  have hseven : (rbfOutputs repeatedPayments.outputs).lookup [97] = some 7 := by decide
  have htwelve := hlookup [97]
  rw [rbfDraft, hseven] at htwelve
  exact absurd htwelve (by decide)

end NunchukSdk
