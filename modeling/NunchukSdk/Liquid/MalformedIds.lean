import NunchukSdk.Jni.Requests
import NunchukSdk.Liquid.Outputs
import NunchukSdk.Marshal.Transaction
import NunchukSdk.Marshal.Wallet

/-!
# Malformed Asset Ids

Four entry points take asset ids as text: `draftLiquidTransaction`, `createLiquidTransaction` and
`estimateFeeForLiquidTransaction` as the keys of their outputs map, `getAssetBalance` as an
argument. All of them decode with `convert2CAssetId`, which has no way to report a failure: it
gives up with the empty id, and no caller looks at it.

## Model

- `LiquidCall`: a call of one of the four methods, as Kotlin makes it
- `liquidMethod`: the method, as native code that makes requests
- `ActsOn`: the asset ids that a request is about

## Results

- `assetOfKey_of_malformed`: a malformed string is the empty id
- `malformed_acts_on_empty`: a call with one asks the library about the empty id
- `malformedRejected_iff`: malformed ids are rejected only where there are none
-/

namespace NunchukSdk

open Foundation NativeM

/-! ## The entry points -/

/-- The arguments that the three transaction calls share. -/
structure LiquidDraftArgs where
  walletId : NativeString
  outputs : LiquidOutputs
  feeRate : Int
  subtractFeeFromAmount : Bool

/-- The library calls of the four methods. -/
structure LibLiquid where
  getWallet : NativeString → Except CppException Wallet
  draftLiquidTransaction : LiquidDraftArgs → Except CppException Transaction
  createLiquidTransaction : LiquidDraftArgs → NativeString → Except CppException Transaction
  estimateFeeForLiquidTransaction : LiquidDraftArgs → Except CppException Int

/-- Those calls as requests. -/
inductive LiquidRequest where
  | getWallet (walletId : NativeString)
  | draft (args : LiquidDraftArgs)
  | create (args : LiquidDraftArgs) (memo : NativeString)
  | estimateFee (args : LiquidDraftArgs)
  | getAssetBalance (asset : AssetId)

/-- What Kotlin passes to the three transaction calls. -/
structure JLiquidArgs where
  walletId : JString
  outputs : JavaMap (JavaMap JAmount)
  feeRate : JAmount
  subtractFeeFromAmount : Bool

/-- A call from Kotlin. -/
inductive LiquidCall where
  | draftLiquidTransaction (args : JLiquidArgs)
  | createLiquidTransaction (args : JLiquidArgs) (memo : JString)
  | estimateFeeForLiquidTransaction (args : JLiquidArgs)
  | getAssetBalance (walletId assetIdHex : JString)

/-- What the methods return. -/
inductive LiquidResult where
  | transaction (t : JTransaction)
  | amount (a : JAmount)

/-- The native arguments of a transaction call. -/
def convert2CLiquidArgs (args : JLiquidArgs) : LiquidDraftArgs where
  walletId := stringWrapper args.walletId
  outputs := convert2CLiquidOutputs args.outputs
  feeRate := convert2CAmount args.feeRate
  subtractFeeFromAmount := args.subtractFeeFromAmount

/-- `Deserializer::convert2JTransaction` as the value of a method. -/
def returnTransaction (lib : LibNunchuk) (tx : Transaction) :
    Asking LiquidRequest (JReturn LiquidResult) := do
  let jtransaction ← onSnd (convert2JTransaction lib tx 0)
  pure (.object (.transaction jtransaction))

/-- `LibNunchukAndroid_draftLiquidTransaction`. -/
def draftLiquidTransaction (lib : LibNunchuk) (calls : LibLiquid) (args : JLiquidArgs) :
    Asking LiquidRequest (JReturn LiquidResult) :=
  asking
    (do
      let tx ← ask (.draft (convert2CLiquidArgs args))
        (calls.draftLiquidTransaction (convert2CLiquidArgs args))
      returnTransaction lib tx)
    .null .null

/-- `LibNunchukAndroid_createLiquidTransaction`. -/
def createLiquidTransaction (lib : LibNunchuk) (calls : LibLiquid) (args : JLiquidArgs)
    (memo : JString) : Asking LiquidRequest (JReturn LiquidResult) :=
  asking
    (do
      let tx ← ask (.create (convert2CLiquidArgs args) (stringWrapper memo))
        (calls.createLiquidTransaction (convert2CLiquidArgs args) (stringWrapper memo))
      returnTransaction lib tx)
    .null .null

/-- `LibNunchukAndroid_estimateFeeForLiquidTransaction`. -/
def estimateFeeForLiquidTransaction (lib : LibNunchuk) (calls : LibLiquid) (args : JLiquidArgs) :
    Asking LiquidRequest (JReturn LiquidResult) :=
  asking
    (do
      let fee ← ask (.estimateFee (convert2CLiquidArgs args))
        (calls.estimateFeeForLiquidTransaction (convert2CLiquidArgs args))
      pure (.object (.amount (convert2JAmount lib.valueFromAmount fee))))
    .null .null

/-- `LibNunchukAndroid_getAssetBalance`. -/
def getAssetBalance (lib : LibNunchuk) (calls : LibLiquid) (walletId assetIdHex : JString) :
    Asking LiquidRequest (JReturn LiquidResult) :=
  asking
    (do
      let wallet ← ask (.getWallet (stringWrapper walletId))
        (calls.getWallet (stringWrapper walletId))
      let amount ← ask (.getAssetBalance (convert2CAssetId (some assetIdHex)))
        (wallet.assetBalance (convert2CAssetId (some assetIdHex)))
      pure (.object (.amount (convert2JAmount lib.valueFromAmount amount))))
    .null .null

/-- The method that a call enters. -/
def liquidMethod (lib : LibNunchuk) (calls : LibLiquid) :
    LiquidCall → Asking LiquidRequest (JReturn LiquidResult)
  | .draftLiquidTransaction args => draftLiquidTransaction lib calls args
  | .createLiquidTransaction args memo => createLiquidTransaction lib calls args memo
  | .estimateFeeForLiquidTransaction args => estimateFeeForLiquidTransaction lib calls args
  | .getAssetBalance walletId assetIdHex => getAssetBalance lib calls walletId assetIdHex

/-! ## Malformed strings -/

/-- Text of odd length, or with a character that is no hex digit. -/
def Malformed (s : JString) : Prop := s.length % 2 ≠ 0 ∨ ∃ u ∈ s, ¬ IsHexUnit u

/-- The asset-id strings of a call. -/
def LiquidCall.assetStrings : LiquidCall → List JString
  | draftLiquidTransaction args => args.outputs.keys
  | createLiquidTransaction args _ => args.outputs.keys
  | estimateFeeForLiquidTransaction args => args.outputs.keys
  | getAssetBalance _ assetIdHex => [assetIdHex]

/-- The asset ids that a request is about. -/
def ActsOn : LiquidRequest → AssetId → Prop
  | .getWallet _, _ => False
  | .draft args, asset => asset ∈ args.outputs
  | .create args _, asset => asset ∈ args.outputs
  | .estimateFee args, asset => asset ∈ args.outputs
  | .getAssetBalance asset', asset => asset' = asset

/-- A call with a malformed id fails with a Java exception, and the library is asked about no
    asset id but those that well-formed strings of the call spell. Whatever the library does, two
    different malformed keys give two entries of the native map. -/
def MalformedRejected (request : LiquidCall) : Prop :=
  (∀ lib calls, (∃ s ∈ request.assetStrings, Malformed s) →
    ((liquidMethod lib calls request).run ([], {})).2.2.pending ≠ [] ∧
      ∀ r ∈ requestsOf (liquidMethod lib calls request), ∀ asset, ActsOn r asset →
        ∃ s ∈ request.assetStrings, ¬ Malformed s ∧ assetOfKey s = asset) ∧
  ∀ s ∈ request.assetStrings, ∀ s' ∈ request.assetStrings, Malformed s → Malformed s' → s ≠ s' →
    assetOfKey s ≠ assetOfKey s'

/-- A malformed string is decoded to the empty id. -/
theorem assetOfKey_of_malformed {s : JString} (h : Malformed s) : assetOfKey s = [] := by
  rw [assetOfKey, convert2CAssetId_eq]
  apply decodedBytes_of_not_hexText
  rintro ⟨-, heven, hdigits⟩
  rcases h with hodd | ⟨u, hu, hdigit⟩
  · exact hodd heven
  · exact hdigit (hdigits u hu)

/-- A key of the outputs map becomes an asset id of the native map. -/
theorem assetOfKey_mem_convert2CLiquidOutputs {outputs : JavaMap (JavaMap JAmount)} {s : JString}
    (hs : s ∈ outputs.keys) : assetOfKey s ∈ convert2CLiquidOutputs outputs := by
  obtain ⟨e, he, rfl⟩ := List.mem_map.mp hs
  obtain ⟨v, hv⟩ := lookup_fillOverwriting_ne_none (f := assetOfKey) (g := convert2CAmountsMap) he
  exact Finmap.mem_iff.mpr ⟨v, hv⟩

/-! ## What the library is asked -/

theorem keepsFst_returnTransaction (lib : LibNunchuk) (tx : Transaction) :
    KeepsFst (returnTransaction lib tx) :=
  (keepsFst_onSnd _).bind fun _ => keepsFst_pure _

/-- A drafting call asks for its draft. -/
theorem requestsOf_draftLiquidTransaction (lib : LibNunchuk) (calls : LibLiquid)
    (args : JLiquidArgs) :
    requestsOf (draftLiquidTransaction lib calls args) = [.draft (convert2CLiquidArgs args)] := by
  rw [draftLiquidTransaction, requestsOf_asking]
  exact requestsOf_ask_bind (keepsFst_returnTransaction lib)

theorem requestsOf_createLiquidTransaction (lib : LibNunchuk) (calls : LibLiquid)
    (args : JLiquidArgs) (memo : JString) :
    requestsOf (createLiquidTransaction lib calls args memo) =
      [.create (convert2CLiquidArgs args) (stringWrapper memo)] := by
  rw [createLiquidTransaction, requestsOf_asking]
  exact requestsOf_ask_bind (keepsFst_returnTransaction lib)

theorem requestsOf_estimateFeeForLiquidTransaction (lib : LibNunchuk) (calls : LibLiquid)
    (args : JLiquidArgs) :
    requestsOf (estimateFeeForLiquidTransaction lib calls args) =
      [.estimateFee (convert2CLiquidArgs args)] := by
  rw [estimateFeeForLiquidTransaction, requestsOf_asking]
  exact requestsOf_ask_bind fun fee => keepsFst_pure _

/-- The balance is asked for once the wallet is there. -/
theorem requestsOf_getAssetBalance (lib : LibNunchuk) {calls : LibLiquid} {wallet : Wallet}
    (walletId assetIdHex : JString) (h : calls.getWallet (stringWrapper walletId) = .ok wallet) :
    requestsOf (getAssetBalance lib calls walletId assetIdHex) =
      [.getWallet (stringWrapper walletId), .getAssetBalance (assetOfKey assetIdHex)] := by
  rw [getAssetBalance, requestsOf_asking, requestsOf, h, run_ask_ok_bind]
  cases wallet.assetBalance (convert2CAssetId (some assetIdHex)) with
  | error e => rfl
  | ok amount => rfl

/-- **A malformed id is taken for the empty one.** Where the wallet exists, a call with a
    malformed string asks the library about the empty asset id. -/
theorem malformed_acts_on_empty (lib : LibNunchuk) {calls : LibLiquid}
    (hwallet : ∀ walletId, ∃ wallet, calls.getWallet walletId = .ok wallet)
    {request : LiquidCall} (h : ∃ s ∈ request.assetStrings, Malformed s) :
    ∃ r ∈ requestsOf (liquidMethod lib calls request), ActsOn r [] := by
  obtain ⟨s, hs, hmalformed⟩ := h
  have hempty := assetOfKey_of_malformed hmalformed
  -- each method hands the id that the string became to one call
  cases request with
  | draftLiquidTransaction args =>
    refine ⟨.draft (convert2CLiquidArgs args), ?_, ?_⟩
    · rw [liquidMethod, requestsOf_draftLiquidTransaction]
      exact List.mem_singleton_self _
    · exact hempty ▸ assetOfKey_mem_convert2CLiquidOutputs hs
  | createLiquidTransaction args memo =>
    refine ⟨.create (convert2CLiquidArgs args) (stringWrapper memo), ?_, ?_⟩
    · rw [liquidMethod, requestsOf_createLiquidTransaction]
      exact List.mem_singleton_self _
    · exact hempty ▸ assetOfKey_mem_convert2CLiquidOutputs hs
  | estimateFeeForLiquidTransaction args =>
    refine ⟨.estimateFee (convert2CLiquidArgs args), ?_, ?_⟩
    · rw [liquidMethod, requestsOf_estimateFeeForLiquidTransaction]
      exact List.mem_singleton_self _
    · exact hempty ▸ assetOfKey_mem_convert2CLiquidOutputs hs
  | getAssetBalance walletId assetIdHex =>
    obtain ⟨wallet, hw⟩ := hwallet (stringWrapper walletId)
    refine ⟨.getAssetBalance (assetOfKey assetIdHex), ?_, ?_⟩
    · rw [liquidMethod, requestsOf_getAssetBalance lib walletId assetIdHex hw]
      exact List.mem_cons_of_mem _ (List.mem_singleton_self _)
    · rw [← List.mem_singleton.mp hs]
      exact hempty

/-! ## Rejection -/

/-- A library in which every call returns. -/
def LibLiquid.willing : LibLiquid where
  getWallet _ := .ok (taprootWallet .DEFAULT)
  draftLiquidTransaction _ := .ok { txid := "" }
  createLiquidTransaction _ _ := .ok { txid := "" }
  estimateFeeForLiquidTransaction _ := .ok 0

/-- With such a library no call fails, whatever its strings are. -/
theorem pending_willing (request : LiquidCall) :
    ((liquidMethod LibNunchuk.plain LibLiquid.willing request).run ([], {})).2.2.pending = [] := by
  cases request with
  | draftLiquidTransaction args => rfl
  | createLiquidTransaction args memo => rfl
  | estimateFeeForLiquidTransaction args => rfl
  | getAssetBalance walletId assetIdHex => rfl

/-- **Malformed ids are rejected exactly where there are none.** -/
theorem malformedRejected_iff (request : LiquidCall) :
    MalformedRejected request ↔ ∀ s ∈ request.assetStrings, ¬ Malformed s := by
  constructor
  · rintro ⟨hrejects, -⟩ s hs hmalformed
    -- a library that returns leaves nothing to fail with
    have hfails := (hrejects LibNunchuk.plain LibLiquid.willing ⟨s, hs, hmalformed⟩).1
    exact hfails (pending_willing request)
  · intro hnone
    refine ⟨?_, ?_⟩
    · rintro lib calls ⟨s, hs, hmalformed⟩
      exact absurd hmalformed (hnone s hs)
    · intro s hs s' _ hmalformed
      exact absurd hmalformed (hnone s hs)

/-- A draft that pays 5 of the asset `zz` and 7 of the asset `abc` to the address `x`. -/
def malformedDraft : LiquidCall :=
  .draftLiquidTransaction
    { walletId := [119]
      outputs :=
        { entries :=
            [⟨[122, 122], AList.singleton [120] ⟨5, "5"⟩⟩,
              ⟨[97, 98, 99], AList.singleton [120] ⟨7, "7"⟩⟩]
          nodupKeys := by
            unfold List.NodupKeys
            decide }
      feeRate := ⟨1000, "0.00001000"⟩
      subtractFeeFromAmount := false }

/-- Nothing rejects it. -/
theorem malformedDraft_not_rejected : ¬ MalformedRejected malformedDraft := by
  rintro ⟨hrejects, -⟩
  have hmem : ([97, 98, 99] : JString) ∈ malformedDraft.assetStrings := by decide
  have hodd : Malformed [97, 98, 99] := Or.inl (by decide)
  have hfails := (hrejects LibNunchuk.plain LibLiquid.willing ⟨_, hmem, hodd⟩).1
  exact hfails (pending_willing malformedDraft)

end NunchukSdk
