import Mathlib.Algebra.Order.BigOperators.Group.List
import Mathlib.Algebra.Order.Ring.Int
import Mathlib.Algebra.Ring.Int.Defs
import NunchukSdk.Foundation.SignedSum
import NunchukSdk.Jni.EntryPoint
import NunchukSdk.Marshal.Coin
import NunchukSdk.Marshal.Wallet

/-!
# What Can Be Spent Now

Some coins of a miniscript wallet are locked for a time. `getSpendableNowAmount` adds up all coins
and the locked ones in two `int64_t`s and returns the difference; without a locked coin it returns
-1 for "all of them".

## Model

- An overflow of a signed accumulator is undefined behaviour (`sumSigned`), so that a run that
  returns has had none.
- `Utils::GetTimelockedCoins` also writes a lock value, which the method does not read.

## Results

- `getSpendableNowAmount_eq`: the two loops and the subtraction in one equation
- `spendableNow_exact`: with locked coins among the coins of the wallet, the amount that is left
-/

namespace NunchukSdk

open Foundation NativeM

/-! ## The entry point -/

/-- The library calls of the method. -/
structure SpendableLib where
  getWallet : String → Except CppException Wallet
  getUnspentOutputs : String → Except CppException (List UnspentOutput)
  getChainTip : Except CppException Int
  /-- `Utils::GetTimelockedCoins` of a miniscript, coins and the chain tip. -/
  getTimelockedCoins :
    String → List UnspentOutput → Int → Except CppException (List UnspentOutput)

/-- The amounts of a list of coins, as its loop reads them. -/
def amountsOf (coins : List UnspentOutput) : List Int := coins.map UnspentOutput.amount

/-- What a list of coins is worth. -/
def totalOf (coins : List UnspentOutput) : Int := (amountsOf coins).sum

/-- `LibNunchukAndroid_getSpendableNowAmount`. -/
def getSpendableNowAmount (valueFromAmount : ValueFromAmount) (nu : SpendableLib)
    (walletId : String) : Jni (JReturn JAmount) :=
  catchBaseStd
    (do
      let wallet ← call (nu.getWallet walletId)
      let coins ← call (nu.getUnspentOutputs walletId)
      let chainTip ← call nu.getChainTip
      let lockedCoins ← call (nu.getTimelockedCoins wallet.miniscript coins chainTip)
      if lockedCoins.isEmpty then pure (.object (convert2JAmount valueFromAmount (-1)))
      else do
        let totalAmount ← sumSigned 63 0 (amountsOf coins)
        let lockedAmount ← sumSigned 63 0 (amountsOf lockedCoins)
        let spendableAmount ← signed 63 (totalAmount - lockedAmount)
        pure (.object (convert2JAmount valueFromAmount spendableAmount)))
    (fun code what => do
      convert2JException code what
      pure .throwable)
    (fun e => do
      convertStdException2JException e
      pure .throwable)

/-- The library knows the wallet, with these coins, of which these are locked. -/
def SpendableLib.Yields (nu : SpendableLib) (walletId : String)
    (coins lockedCoins : List UnspentOutput) : Prop :=
  ∃ wallet chainTip, nu.getWallet walletId = .ok wallet ∧
    nu.getUnspentOutputs walletId = .ok coins ∧ nu.getChainTip = .ok chainTip ∧
    nu.getTimelockedCoins wallet.miniscript coins chainTip = .ok lockedCoins

/-! ## The arithmetic -/

/-- Locked coins and the others together are the coins. -/
theorem totalOf_diff {coins lockedCoins : List UnspentOutput} (h : lockedCoins.Subperm coins) :
    totalOf lockedCoins + totalOf (coins.diff lockedCoins) = totalOf coins := by
  have hperm : (lockedCoins ++ coins.diff lockedCoins).Perm coins :=
    List.subperm_append_diff_self_of_count_le fun coin _ => h.count_le coin
  calc totalOf lockedCoins + totalOf (coins.diff lockedCoins) =
        totalOf (lockedCoins ++ coins.diff lockedCoins) := by
        unfold totalOf amountsOf
        rw [List.map_append, List.sum_append]
    _ = totalOf coins := (hperm.map UnspentOutput.amount).sum_eq

theorem amountsOf_nonneg {coins : List UnspentOutput} (h : ∀ coin ∈ coins, 0 ≤ coin.amount) :
    ∀ n ∈ amountsOf coins, 0 ≤ n := by
  intro n hn
  obtain ⟨coin, hcoin, rfl⟩ := List.mem_map.mp hn
  exact h coin hcoin

theorem totalOf_nonneg {coins : List UnspentOutput} (h : ∀ coin ∈ coins, 0 ≤ coin.amount) :
    0 ≤ totalOf coins :=
  List.sum_nonneg (amountsOf_nonneg h)

section Wallet

variable {coins lockedCoins : List UnspentOutput}

/-- The partial sums over a list of coins fit in an `int64_t`. -/
def PartialSumsFit (coins : List UnspentOutput) : Prop :=
  ∀ front, front <+: amountsOf coins → Fits 63 front.sum

theorem partialSumsFit (hnonneg : ∀ coin ∈ coins, 0 ≤ coin.amount)
    (htotal : totalOf coins < 2 ^ 63) : PartialSumsFit coins :=
  fun _ hfront => fits_front (amountsOf_nonneg hnonneg) htotal hfront

theorem sumSigned_coins {ε σ : Type} (h : PartialSumsFit coins) :
    (sumSigned 63 0 (amountsOf coins) : NativeM ε σ Int) = pure (totalOf coins) := by
  have hfits : ∀ front, front <+: amountsOf coins → Fits 63 (0 + front.sum) := by
    intro front hfront
    rw [Int.zero_add]
    exact h front hfront
  rw [sumSigned_eq hfits, Int.zero_add]
  rfl

/-- What is locked is worth no more than the coins, and not less than nothing. -/
theorem totalOf_locked (hnonneg : ∀ coin ∈ coins, 0 ≤ coin.amount)
    (hsub : lockedCoins.Subperm coins) :
    0 ≤ totalOf lockedCoins ∧ 0 ≤ totalOf (coins.diff lockedCoins) := by
  constructor
  · exact totalOf_nonneg fun coin hcoin => hnonneg coin (hsub.subset hcoin)
  · exact totalOf_nonneg fun coin hcoin => hnonneg coin (List.diff_subset _ _ hcoin)

/-! ## What is returned -/

/-- The two loops and the subtraction, where nothing overflows. -/
theorem getSpendableNowAmount_eq (valueFromAmount : ValueFromAmount) {nu : SpendableLib}
    {walletId : String} (hcalls : nu.Yields walletId coins lockedCoins)
    (hcoins : PartialSumsFit coins) (hlocked : PartialSumsFit lockedCoins)
    (hdiff : Fits 63 (totalOf coins - totalOf lockedCoins)) :
    (getSpendableNowAmount valueFromAmount nu walletId).run {} =
      (.ok (.object (convert2JAmount valueFromAmount
        (if lockedCoins = [] then -1 else totalOf coins - totalOf lockedCoins))), {}) := by
  obtain ⟨wallet, chainTip, hwallet, hunspent, htip, htimelocked⟩ := hcalls
  unfold getSpendableNowAmount
  apply run_catchBaseStd_ok
  rw [hwallet, run_call_ok_bind, hunspent, run_call_ok_bind, htip, run_call_ok_bind, htimelocked,
    run_call_ok_bind]
  -- no locked coin leaves the sentinel; else both loops run
  cases lockedCoins with
  | nil => rfl
  | cons coin lockedCoins =>
    rw [sumSigned_coins hcoins, sumSigned_coins hlocked]
    simp only [List.isEmpty_cons, Bool.false_eq_true, if_false, run_pure_bind, signed_eq hdiff,
      run_pure, reduceCtorEq]

/-- **Spendable-now arithmetic is exact.** With locked coins among the coins of the wallet, the
    method returns -1 exactly when none is locked and else what the others are worth, which lies
    between nothing and the total; no partial sum leaves the range of an `int64_t`. -/
theorem spendableNow_exact (valueFromAmount : ValueFromAmount) {nu : SpendableLib}
    {walletId : String} (hcalls : nu.Yields walletId coins lockedCoins)
    (hnonneg : ∀ coin ∈ coins, 0 ≤ coin.amount) (htotal : totalOf coins < 2 ^ 63)
    (hsub : lockedCoins.Subperm coins) :
    (∃ shown : JAmount,
      (getSpendableNowAmount valueFromAmount nu walletId).run {} = (.ok (.object shown), {}) ∧
      (shown.value = -1 ↔ lockedCoins = []) ∧
      (lockedCoins ≠ [] → shown.value = totalOf (coins.diff lockedCoins) ∧
        0 ≤ shown.value ∧ shown.value ≤ totalOf coins)) ∧
    PartialSumsFit coins ∧ PartialSumsFit lockedCoins ∧
      Fits 63 (totalOf coins - totalOf lockedCoins) := by
  have hsum := totalOf_diff hsub
  obtain ⟨hlow, hrest⟩ := totalOf_locked hnonneg hsub
  have hcoins : PartialSumsFit coins := partialSumsFit hnonneg htotal
  have hlocked : PartialSumsFit lockedCoins :=
    partialSumsFit (fun coin hcoin => hnonneg coin (hsub.subset hcoin)) (by omega)
  -- the locked coins are worth no more than all, so the difference is in range
  have hdiff : Fits 63 (totalOf coins - totalOf lockedCoins) := by
    constructor
    · omega
    · omega
  refine ⟨⟨_, getSpendableNowAmount_eq valueFromAmount hcalls hcoins hlocked hdiff, ?_, ?_⟩,
    hcoins, hlocked, hdiff⟩
  · rw [convert2JAmount_value]
    by_cases hnone : lockedCoins = []
    · simp [hnone]
    · -- an amount that is left is not the sentinel
      rw [if_neg hnone]
      exact iff_of_false (by omega) hnone
  · intro hsome
    rw [convert2JAmount_value, if_neg hsome]
    exact ⟨by omega, by omega, by omega⟩

end Wallet

/-- A coin of a wallet. -/
def coinOf (txid : String) (amount : Int) : UnspentOutput where
  txid := txid
  address := "address"
  vout := 0
  height := 0
  memo := ""
  isChange := false
  isLocked := false
  blocktime := 0
  scheduleTime := 0
  status := 0
  tags := []
  collections := []
  amount := amount
  lockBased := 0
  timelocks := []

/-- A library with two coins, of which the second is locked. -/
def SpendableLib.twoCoins : SpendableLib where
  getWallet _ := .ok (taprootWallet .DEFAULT)
  getUnspentOutputs _ := .ok [coinOf "a" 5, coinOf "b" 7]
  getChainTip := .ok 100
  getTimelockedCoins _ _ _ := .ok [coinOf "b" 7]

/-- Five are left of twelve. -/
theorem twoCoins_spendable :
    ∃ shown : JAmount,
      (getSpendableNowAmount (fun _ => .ok "") SpendableLib.twoCoins "wallet").run {} =
        (.ok (.object shown), {}) ∧
      (shown.value = -1 ↔ [coinOf "b" 7] = []) ∧
      ([coinOf "b" 7] ≠ [] →
        shown.value = totalOf ([coinOf "a" 5, coinOf "b" 7].diff [coinOf "b" 7]) ∧
          0 ≤ shown.value ∧ shown.value ≤ totalOf [coinOf "a" 5, coinOf "b" 7]) :=
  (spendableNow_exact (fun _ => .ok "")
    ⟨taprootWallet .DEFAULT, 100, rfl, rfl, rfl, rfl⟩ (by decide) (by decide)
    (List.Sublist.subperm (by decide))).1

end NunchukSdk
