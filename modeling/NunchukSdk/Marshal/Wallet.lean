import NunchukSdk.Marshal.Signer

/-!
# Wallets: Native, Kotlin, Bridge, and Back

A wallet reaches Kotlin through `convert2JWallet` and comes back through a third class: Kotlin's
`Wallet.toBridge()` copies it into a `WalletBridge`, and `convert2CWallet` constructs a native
`Wallet` from that.

## Model

- `convert2JWallet` fills its object inside a `try`: an exception from one of the balance calls
  leaves every later field at its Kotlin default
- `toBridge` copies the fields that `WalletBridge` has
- `convert2CWallet` chooses one of two native constructors by the miniscript text

## Results

- `convert2JWallet_complete`, `convert2JWallet_cut`: the Kotlin wallet, by what `readBalances`
  does
-/

namespace NunchukSdk

open Foundation NativeM

/-! ## The Kotlin classes -/

/-- Kotlin `Wallet`. -/
structure JWallet where
  id : String := ""
  name : String := ""
  totalRequireSigns : Int := 0
  signers : List JSingleSigner := []
  addressType : AddressType := .NESTED_SEGWIT
  escrow : Bool := false
  balance : JAmount := {}
  usdtBalance : JAmount := {}
  lbtcBalance : JAmount := {}
  createDate : Int := 0
  description : String := ""
  gapLimit : Int := 0
  needBackup : Bool := false
  walletTemplate : WalletTemplate := .DEFAULT
  archived : Bool := false
  miniscript : String := ""
  walletType : WalletType := .MULTI_SIG
  needsPassphrase : Bool := false
  deriving DecidableEq, Repr

/-- Kotlin `WalletBridge`. -/
structure WalletBridge where
  id : String := ""
  name : String := ""
  totalRequireSigns : Int := 0
  signers : List JSingleSigner := []
  addressType : Int
  escrow : Bool := false
  balance : JAmount := {}
  createDate : Int := 0
  description : String := ""
  gapLimit : Int := 0
  needBackup : Bool := false
  archived : Bool := false
  miniscript : String := ""
  deriving DecidableEq, Repr

/-- Kotlin `Wallet.toBridge()`. -/
def JWallet.toBridge (wallet : JWallet) : WalletBridge where
  id := wallet.id
  name := wallet.name
  totalRequireSigns := wallet.totalRequireSigns
  signers := wallet.signers
  addressType := wallet.addressType.ordinal
  escrow := wallet.escrow
  balance := wallet.balance
  createDate := wallet.createDate
  description := wallet.description
  gapLimit := wallet.gapLimit
  needBackup := wallet.needBackup
  archived := wallet.archived
  miniscript := wallet.miniscript

/-! ## To Kotlin -/

/-- `Deserializer::convert2JAddressType`. -/
def convert2JAddressType (lib : LibNunchuk) (type : AddressType) : AddressType :=
  AddressType.helperFrom (lib.addressTypeNumber type)

/-- `Deserializer::convert2JWalletType`. -/
def convert2JWalletType (lib : LibNunchuk) (type : WalletType) : WalletType :=
  WalletType.helperFrom (lib.walletTypeNumber type)

/-- `Deserializer::convert2JWalletTemplate`. Kotlin's `from` throws on an unknown number, and
    JNI calls made while a Java exception is pending are undefined. -/
def convert2JWalletTemplate {σ : Type} (lib : LibNunchuk) (template : WalletTemplate) :
    NativeM CppException σ WalletTemplate :=
  match WalletTemplate.from (lib.walletTemplateNumber template) with
  | some t => pure t
  | none => undefinedBehaviour

/-- `Deserializer::convert2JWallet`. -/
def convert2JWallet (lib : LibNunchuk) (wallet : Wallet) : JWallet :=
  fillLogged {} do
    let signers := convert2JSigners lib wallet.signers
    update fun w => { w with id := wallet.id }
    update fun w => { w with name := wallet.name }
    update fun w => { w with totalRequireSigns := wallet.m }
    update fun w => { w with signers := signers }
    update fun w => { w with escrow := wallet.escrow }
    let balance ← call wallet.unconfirmedBalance
    update fun w => { w with balance := convert2JAmount lib.valueFromAmount balance }
    let usdt ← call lib.getUSDTAssetId
    let usdtBalance ← call (wallet.assetBalance usdt)
    update fun w => { w with usdtBalance := convert2JAmount lib.valueFromAmount usdtBalance }
    let lbtc ← call lib.getLBTCAssetId
    let lbtcBalance ← call (wallet.assetBalance lbtc)
    update fun w => { w with lbtcBalance := convert2JAmount lib.valueFromAmount lbtcBalance }
    update fun w => { w with addressType := convert2JAddressType lib wallet.addressType }
    update fun w => { w with createDate := wallet.createDate }
    update fun w => { w with description := wallet.description }
    update fun w => { w with gapLimit := wallet.gapLimit }
    update fun w => { w with needBackup := wallet.needBackup }
    let template ← convert2JWalletTemplate lib wallet.walletTemplate
    update fun w => { w with walletTemplate := template }
    update fun w => { w with archived := wallet.archived }
    update fun w => { w with miniscript := wallet.miniscript }
    update fun w => { w with walletType := convert2JWalletType lib wallet.walletType }
    update fun w => { w with needsPassphrase := wallet.needsPassphrase }
    -- the closing log line renders one more balance; nothing is set after it
    let balance ← call wallet.balance
    let _ ← call (lib.valueFromAmount balance)
    pure ()

/-! ## What the conversion leaves -/

/-- The balances of a wallet. -/
structure Balances where
  unconfirmed : Int
  usdt : Int
  lbtc : Int
  deriving DecidableEq, Repr

/-- The calls of `convert2JWallet` whose exceptions skip setters, in their order. -/
def readBalances (lib : LibNunchuk) (wallet : Wallet) : Except CppException Balances := do
  let unconfirmed ← wallet.unconfirmedBalance
  let usdt ← lib.getUSDTAssetId
  let usdtBalance ← wallet.assetBalance usdt
  let lbtc ← lib.getLBTCAssetId
  let lbtcBalance ← wallet.assetBalance lbtc
  pure ⟨unconfirmed, usdtBalance, lbtcBalance⟩

/-- The balances are there exactly when each of the five calls returns. -/
theorem readBalances_eq_ok {lib : LibNunchuk} {wallet : Wallet} {b : Balances} :
    readBalances lib wallet = .ok b ↔
      wallet.unconfirmedBalance = .ok b.unconfirmed ∧
        (∃ usdt, lib.getUSDTAssetId = .ok usdt ∧ wallet.assetBalance usdt = .ok b.usdt) ∧
        ∃ lbtc, lib.getLBTCAssetId = .ok lbtc ∧ wallet.assetBalance lbtc = .ok b.lbtc := by
  simp only [readBalances, bind_eq_ok]
  constructor
  · rintro ⟨u, hu, usdt, husdt, ub, hub, lbtc, hlbtc, lb, hlb, hb⟩
    rw [← Except.ok.inj hb]
    exact ⟨hu, ⟨usdt, husdt, hub⟩, lbtc, hlbtc, hlb⟩
  · rintro ⟨hu, ⟨usdt, husdt, hub⟩, lbtc, hlbtc, hlb⟩
    exact ⟨_, hu, usdt, husdt, _, hub, lbtc, hlbtc, _, hlb, rfl⟩

section Complete

variable {lib : LibNunchuk}

theorem convert2JAddressType_eq (hnum : lib.NumbersAsKotlin) (type : AddressType) :
    convert2JAddressType lib type = type := by
  simp [convert2JAddressType, hnum.addressType]

theorem convert2JWalletType_eq (hnum : lib.NumbersAsKotlin) (type : WalletType) :
    convert2JWalletType lib type = type := by
  simp [convert2JWalletType, hnum.walletType]

theorem convert2JWalletTemplate_eq {σ : Type} (hnum : lib.NumbersAsKotlin)
    (template : WalletTemplate) :
    (convert2JWalletTemplate lib template : NativeM CppException σ WalletTemplate) =
      pure template := by
  simp [convert2JWalletTemplate, hnum.walletTemplate]

/-- **When every balance call returns, every field is set.** -/
theorem convert2JWallet_complete (hnum : lib.NumbersAsKotlin) {wallet : Wallet} {b : Balances}
    (h : readBalances lib wallet = .ok b) :
    convert2JWallet lib wallet =
      { id := wallet.id
        name := wallet.name
        totalRequireSigns := wallet.m
        signers := convert2JSigners lib wallet.signers
        addressType := wallet.addressType
        escrow := wallet.escrow
        balance := convert2JAmount lib.valueFromAmount b.unconfirmed
        usdtBalance := convert2JAmount lib.valueFromAmount b.usdt
        lbtcBalance := convert2JAmount lib.valueFromAmount b.lbtc
        createDate := wallet.createDate
        description := wallet.description
        gapLimit := wallet.gapLimit
        needBackup := wallet.needBackup
        walletTemplate := wallet.walletTemplate
        archived := wallet.archived
        miniscript := wallet.miniscript
        walletType := wallet.walletType
        needsPassphrase := wallet.needsPassphrase } := by
  rcases readBalances_eq_ok.mp h with ⟨hu, ⟨usdt, husdt, hub⟩, lbtc, hlbtc, hlb⟩
  unfold convert2JWallet fillLogged
  simp only [run_update_bind, hu, husdt, hub, hlbtc, hlb, run_call_ok_bind,
    convert2JAddressType_eq hnum, convert2JWalletType_eq hnum, convert2JWalletTemplate_eq hnum,
    run_pure_bind]
  -- all setters have run; the log line at the end cannot undo them
  cases wallet.balance with
  | error e => rfl
  | ok balance =>
    cases hvalue : lib.valueFromAmount balance with
    | error e => simp [hvalue]
    | ok text => simp [hvalue]

end Complete

/-- **When a balance call throws, the wallet is cut off.** Signers, id, name, number of signatures
    and the escrow flag are set; every field after the balances has its Kotlin default. -/
theorem convert2JWallet_cut {lib : LibNunchuk} {wallet : Wallet} {e : CppException}
    (h : readBalances lib wallet = .error e) :
    ∃ balance usdtBalance lbtcBalance, convert2JWallet lib wallet =
      { id := wallet.id
        name := wallet.name
        totalRequireSigns := wallet.m
        signers := convert2JSigners lib wallet.signers
        escrow := wallet.escrow
        balance := balance
        usdtBalance := usdtBalance
        lbtcBalance := lbtcBalance } := by
  unfold convert2JWallet fillLogged
  simp only [run_update_bind]
  -- the first call that throws ends the run with the object as it is
  cases hu : wallet.unconfirmedBalance with
  | error e => exact ⟨_, _, _, rfl⟩
  | ok unconfirmed =>
  cases husdt : lib.getUSDTAssetId with
  | error e => exact ⟨_, _, _, rfl⟩
  | ok usdt =>
  simp only [run_call_ok_bind, run_update_bind]
  cases hub : wallet.assetBalance usdt with
  | error e => exact ⟨_, _, _, rfl⟩
  | ok usdtBalance =>
  cases hlbtc : lib.getLBTCAssetId with
  | error e => exact ⟨_, _, _, rfl⟩
  | ok lbtc =>
  simp only [run_call_ok_bind, run_update_bind]
  cases hlb : wallet.assetBalance lbtc with
  | error e => exact ⟨_, _, _, rfl⟩
  | ok lbtcBalance =>
    have hok : readBalances lib wallet = .ok ⟨unconfirmed, usdtBalance, lbtcBalance⟩ :=
      readBalances_eq_ok.mpr ⟨hu, ⟨usdt, husdt, hub⟩, lbtc, hlbtc, hlb⟩
    rw [hok] at h
    cases h

/-! ## Back to the library -/

/-- `Serializer::convert2CWallet`. -/
def convert2CWallet (lib : LibNunchuk) (wallet : WalletBridge) : Wallet :=
  let signers := convert2CSigners lib wallet.signers
  let addressType := convert2CAddressType wallet.addressType
  let fresh :=
    if wallet.miniscript ≠ "" then
      lib.newMiniscriptWallet
        { miniscript := wallet.miniscript
          signers := signers
          addressType := addressType
          m := wallet.totalRequireSigns }
    else
      lib.newKeysWallet
        { id := wallet.id
          m := wallet.totalRequireSigns
          n := signers.length
          signers := signers
          addressType := addressType
          escrow := wallet.escrow
          createDate := wallet.createDate }
  let updateWallet :=
    { fresh with
      name := wallet.name
      gapLimit := wallet.gapLimit
      needBackup := wallet.needBackup
      archived := wallet.archived }
  if wallet.miniscript ≠ "" then updateWallet
  else { updateWallet with miniscript := wallet.miniscript }

/-! ## A sample wallet -/

/-- A signer of the sample wallet. -/
def sampleSigner (masterFingerprint : String) : SingleSigner where
  name := "signer"
  xpub := "xpub"
  publicKey := ""
  derivationPath := "m/48h/0h/0h/3h"
  externalInternalIndex := (0, 1)
  masterFingerprint := masterFingerprint
  lastHealthCheck := 0
  descriptor := .ok "[fp/48h/0h/0h/3h]xpub"

/-- A Taproot wallet that two keys sign for together. -/
def taprootWallet (template : WalletTemplate) : Wallet where
  id := "w"
  name := "vault"
  m := 2
  signers := [sampleSigner "00000001", sampleSigner "00000002"]
  addressType := .TAPROOT
  walletType := .MULTI_SIG
  walletTemplate := template

end NunchukSdk
