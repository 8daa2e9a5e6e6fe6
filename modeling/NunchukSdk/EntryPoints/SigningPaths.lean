import NunchukSdk.EntryPoints.DraftRbf
import NunchukSdk.Jni.Numbers

/-!
# Signing Paths Offered and Chosen

A policy may be satisfied in several ways. `estimateFeeForSigningPaths` offers the signing paths
of a wallet with the fee of each; the user picks one, and `draftTransaction` is called with it. A
signing path is a list of node ids, lists of `size_t` on the native side and of `Int` in Kotlin.

## Results

- `convert2JSigningPath_convert2C`: a Kotlin path comes back as it was sent, also with negative
  numbers, for both word sizes
- `convert2CSigningPath_convert2J`: a native path of small indices comes back as it was shown
- `signingPath_roundTrip`: both, and the path that is picked is the one that is drafted with
-/

namespace NunchukSdk

open Foundation NativeM

/-! ## The conversions -/

/-- Kotlin `SigningPath.path`. -/
abbrev JSigningPath := List (List Int32)

/-- The values that `intValue` reads. -/
def JSigningPath.values (path : JSigningPath) : List (List Int) :=
  path.map fun inner => inner.map Int32.toInt

/-- `Deserializer::convert2JSigningPath`. -/
def convert2JSigningPath (signingPath : SigningPath) : JSigningPath :=
  signingPath.map fun scriptNodeId => scriptNodeId.map castToJint

/-- `Deserializer::convert2JSigningPathAmountPairs`. -/
def convert2JSigningPathAmountPairs (valueFromAmount : ValueFromAmount)
    (pairs : List (SigningPath × Int)) : List (JSigningPath × JAmount) :=
  pairs.map fun pair => (convert2JSigningPath pair.1, convert2JAmount valueFromAmount pair.2)

/-- Every index of the path fits in a positive `jint`. -/
def SigningPath.Small (path : SigningPath) : Prop := ∀ inner ∈ path, ∀ index ∈ inner, index < 2 ^ 31

instance (path : SigningPath) : Decidable path.Small :=
  inferInstanceAs (Decidable (∀ inner ∈ path, ∀ index ∈ inner, index < 2 ^ 31))

/-- What a Kotlin path becomes is the cast of its numbers. -/
theorem convert2CSigningPath_values (abi : Abi) (path : JSigningPath) :
    convert2CSigningPath abi.sizeBits (some path.values) =
      path.map fun inner => inner.map (castToSize abi) := by
  simp only [convert2CSigningPath, JSigningPath.values, List.map_map]
  exact List.map_congr_left fun inner _ => List.map_map

/-- Casts that cancel on every number of a nested list cancel on the list. -/
theorem map_map_nested {α β : Type} {f : α → β} {g : β → α} {path : List (List α)}
    (h : ∀ inner ∈ path, ∀ x ∈ inner, g (f x) = x) :
    (path.map fun inner => inner.map f).map (fun inner => inner.map g) = path := by
  have hinner : ∀ inner ∈ path, (inner.map f).map g = id inner := by
    intro inner hmem
    rw [List.map_map]
    calc inner.map (g ∘ f) = inner.map id := List.map_congr_left (h inner hmem)
      _ = id inner := List.map_id inner
  rw [List.map_map]
  calc path.map _ = path.map id := List.map_congr_left hinner
    _ = path := List.map_id path

/-- **Kotlin to native code and back.** -/
theorem convert2JSigningPath_convert2C (abi : Abi) (path : JSigningPath) :
    convert2JSigningPath (convert2CSigningPath abi.sizeBits (some path.values)) = path := by
  rw [convert2CSigningPath_values, convert2JSigningPath]
  exact map_map_nested fun _ _ x _ => castToJint_castToSize abi x

/-- **Native code to Kotlin and back.** -/
theorem convert2CSigningPath_convert2J (abi : Abi) {path : SigningPath} (h : path.Small) :
    convert2CSigningPath abi.sizeBits (some (convert2JSigningPath path).values) = path := by
  rw [convert2CSigningPath_values, convert2JSigningPath]
  exact map_map_nested fun inner hinner index hindex =>
    castToSize_castToJint abi (h inner hinner index hindex)

/-! ## Offering and drafting -/

/-- What Kotlin calls both methods with. -/
structure DraftArgs where
  walletId : String
  outputs : JavaMap JAmount
  inputs : List JTxInput
  feeRate : JAmount
  subtractFeeFromAmount : Bool
  replaceTxId : String

/-- `Nunchuk::EstimateFeeForSigningPaths`. -/
abbrev EstimateFeeForSigningPaths :=
  DraftArgs → List UnspentOutput → Except CppException (List (SigningPath × Int))

/-- The library calls of `estimateFeeForSigningPaths`. -/
def offeredPaths (calls : LibDraft) (estimate : EstimateFeeForSigningPaths) (args : DraftArgs) :
    Except CppException (List (SigningPath × Int)) := do
  let coins ← calls.getUnspentOutputsFromTxInputs args.walletId (convert2CTxInputs args.inputs)
  estimate args coins

/-- `LibNunchukAndroid_estimateFeeForSigningPaths`. -/
def estimateFeeForSigningPaths (valueFromAmount : ValueFromAmount) (calls : LibDraft)
    (estimate : EstimateFeeForSigningPaths) (args : DraftArgs) :
    Jni (JReturn (List (JSigningPath × JAmount))) :=
  wrapped (offeredPaths calls estimate args) (convert2JSigningPathAmountPairs valueFromAmount)
    .null .null

/-- The call of `DraftTransaction` with some coins. -/
def draftArgs (sizeBits : Nat) (args : DraftArgs) (useScriptPath : Bool)
    (signingPath : Option JSigningPath) (coins : List UnspentOutput) : DraftTransactionArgs where
  walletId := args.walletId
  outputs := convert2CAmountsMap args.outputs
  inputs := coins
  feeRate := convert2CAmount args.feeRate
  subtractFeeFromAmount := args.subtractFeeFromAmount
  replaceTxId := args.replaceTxId
  useScriptPath := useScriptPath
  signingPath := convert2CSigningPath sizeBits (signingPath.map JSigningPath.values)

/-- `LibNunchukAndroid_draftTransaction`. -/
def draftTransaction (lib : LibNunchuk) (calls : LibDraft) (args : DraftArgs)
    (useScriptPath : Bool) (signingPath : Option JSigningPath) :
    Asking DraftRequest (JReturn JTransaction) :=
  asking
    (do
      let coins ←
        ask (.getUnspentOutputsFromTxInputs args.walletId (convert2CTxInputs args.inputs))
          (calls.getUnspentOutputsFromTxInputs args.walletId (convert2CTxInputs args.inputs))
      let transaction ←
        ask (.draftTransaction (draftArgs calls.sizeBits args useScriptPath signingPath coins))
          (calls.draftTransaction (draftArgs calls.sizeBits args useScriptPath signingPath coins))
      showDraft lib calls args.walletId transaction)
    .throwable .throwable

/-- With the coins at hand, one draft is asked for, with the path converted once, whatever the
    library then does. -/
theorem draftsOf_draftTransaction {lib : LibNunchuk} {calls : LibDraft} {args : DraftArgs}
    {coins : List UnspentOutput}
    (hcoins : calls.getUnspentOutputsFromTxInputs args.walletId (convert2CTxInputs args.inputs) =
      .ok coins)
    (useScriptPath : Bool) (signingPath : Option JSigningPath) :
    draftsOf (requestsOf (draftTransaction lib calls args useScriptPath signingPath)) =
      [draftArgs calls.sizeBits args useScriptPath signingPath coins] := by
  rw [draftTransaction, requestsOf_asking, requestsOf, hcoins, run_ask_ok_bind]
  cases calls.draftTransaction (draftArgs calls.sizeBits args useScriptPath signingPath coins) with
  | error e => rfl
  | ok transaction =>
    rw [run_ask_ok_bind, draftsOf_showDraft]
    rfl

/-- Without the coins none is asked for. -/
theorem draftsOf_draftTransaction_error {lib : LibNunchuk} {calls : LibDraft} {args : DraftArgs}
    {e : CppException}
    (hcoins : calls.getUnspentOutputsFromTxInputs args.walletId (convert2CTxInputs args.inputs) =
      .error e)
    (useScriptPath : Bool) (signingPath : Option JSigningPath) :
    draftsOf (requestsOf (draftTransaction lib calls args useScriptPath signingPath)) = [] := by
  rw [draftTransaction, requestsOf_asking, requestsOf, hcoins, run_ask_error_bind]
  rfl

/-- **Signing paths survive both directions.** On both word sizes a Kotlin path comes back as it
    was sent and a native path of small indices as it was shown. Of the paths that the library
    offers, each is shown in its place, and whichever is sent back is the one that the transaction
    is drafted with, where the library finds the coins; else nothing is drafted. -/
theorem signingPath_roundTrip (abi : Abi) :
    (∀ path : JSigningPath,
      convert2JSigningPath (convert2CSigningPath abi.sizeBits (some path.values)) = path) ∧
    (∀ path : SigningPath, path.Small →
      convert2CSigningPath abi.sizeBits (some (convert2JSigningPath path).values) = path) ∧
    ∀ lib calls estimate args args' useScriptPath pairs,
      calls.sizeBits = abi.sizeBits → offeredPaths calls estimate args = .ok pairs →
      (∀ pair ∈ pairs, pair.1.Small) →
      ∃ shown,
        (estimateFeeForSigningPaths lib.valueFromAmount calls estimate args).run {} =
          (.ok (.object shown), {}) ∧
        List.Forall₂ (fun pair picked =>
          match calls.getUnspentOutputsFromTxInputs args'.walletId
              (convert2CTxInputs args'.inputs) with
          | .ok coins =>
            ∃ draft,
              draftsOf (requestsOf
                (draftTransaction lib calls args' useScriptPath (some picked.1))) = [draft] ∧
              draft.signingPath = pair.1 ∧ draft.inputs = coins
          | .error _ =>
            draftsOf (requestsOf
              (draftTransaction lib calls args' useScriptPath (some picked.1))) = [])
          pairs shown := by
  refine ⟨convert2JSigningPath_convert2C abi,
    fun path h => convert2CSigningPath_convert2J abi h, ?_⟩
  intro lib calls estimate args args' useScriptPath pairs habi hoffered hsmall
  refine ⟨convert2JSigningPathAmountPairs lib.valueFromAmount pairs, ?_, ?_⟩
  · -- what is shown is the conversion of what was offered
    rw [estimateFeeForSigningPaths, hoffered, run_wrapped_ok]
  · unfold convert2JSigningPathAmountPairs
    rw [List.forall₂_map_right_iff, List.forall₂_same]
    intro pair hpair
    cases hcoins : calls.getUnspentOutputsFromTxInputs args'.walletId
        (convert2CTxInputs args'.inputs) with
    | error e => exact draftsOf_draftTransaction_error hcoins _ _
    | ok coins =>
      refine ⟨_, draftsOf_draftTransaction hcoins _ _, ?_, rfl⟩
      -- the picked path is converted back
      show convert2CSigningPath calls.sizeBits (some (convert2JSigningPath pair.1).values) = pair.1
      rw [habi]
      exact convert2CSigningPath_convert2J abi (hsmall pair hpair)

/-- What a transaction of the wallet `"w"` is drafted from. -/
def samplePathArgs : DraftArgs where
  walletId := "w"
  outputs := ∅
  inputs := []
  feeRate := { value := 2000 }
  subtractFeeFromAmount := false
  replaceTxId := ""

/-- The path of the second of two nodes comes back from a 32-bit target, and is the one that a
    transaction is drafted with on a 64-bit one. -/
theorem samplePath_roundTrip :
    convert2CSigningPath Abi.ilp32.sizeBits (some (convert2JSigningPath [[1, 2], []]).values) =
        [[1, 2], []] ∧
      ∃ draft,
        draftsOf (requestsOf (draftTransaction LibNunchuk.plain (callsWith distinctPayments)
          samplePathArgs true (some (convert2JSigningPath [[1, 2], []])))) = [draft] ∧
        draft.signingPath = [[1, 2], []] := by
  refine ⟨(signingPath_roundTrip .ilp32).2.1 [[1, 2], []] (by decide), ?_⟩
  obtain ⟨shown, hshown, hpicked⟩ := (signingPath_roundTrip .lp64).2.2 LibNunchuk.plain
    (callsWith distinctPayments) (fun _ _ => .ok [([[1, 2], []], 300)]) samplePathArgs
    samplePathArgs true [([[1, 2], []], 300)] rfl rfl (by decide)
  cases hpicked with
  | cons hfirst hnone =>
    cases hnone
    obtain ⟨draft, hdraft, hpath, -⟩ := hfirst
    cases hshown
    exact ⟨draft, hdraft, hpath⟩

end NunchukSdk
