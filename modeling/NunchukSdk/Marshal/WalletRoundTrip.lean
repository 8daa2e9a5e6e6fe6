import NunchukSdk.Marshal.Wallet

/-!
# Script Data Across the Round Trip

The entry points that take a wallet by value work on what `convert2CWallet` makes of the bridge
of a Kotlin wallet; the ones that take an id work on the stored wallet. The two agree when the
round trip native, Kotlin, bridge, native keeps the data that determines scripts.

It does not keep all of it. `convert2JWallet` hands the wallet template and the wallet type to
Kotlin, and `WalletBridge` has no field for either, so that the native constructor derives the
type anew and leaves the template at its default. A balance call that throws costs the address
type and the miniscript as well.

## Results

- `roundTrip_scriptData`: what the round trip makes of the script data
- `roundTrip_scriptData_iff`: when it is what it was
-/

namespace NunchukSdk

open Foundation

/-- A native wallet through `convert2JWallet`, `toBridge` and `convert2CWallet`. -/
def roundTrip (lib : LibNunchuk) (wallet : Wallet) : Wallet :=
  convert2CWallet lib (convert2JWallet lib wallet).toBridge

/-- The type that the constructors derive for a wallet with these data. -/
def Wallet.derivedType (lib : LibNunchuk) (wallet : Wallet) : WalletType :=
  if wallet.miniscript = "" then
    lib.keysWalletType wallet.m wallet.signers.length wallet.addressType wallet.escrow
  else lib.miniscriptWalletType wallet.miniscript wallet.addressType wallet.m

/-- The balance calls made for a wallet return. -/
def BalancesReturn (lib : LibNunchuk) (wallet : Wallet) : Prop :=
  ∃ b, readBalances lib wallet = .ok b

section

variable {lib : LibNunchuk}

theorem length_convert2CSigners (signers : List SingleSigner) :
    (convert2CSigners lib (convert2JSigners lib signers)).length = signers.length := by
  simp [convert2CSigners, convert2JSigners]

/-- The script data of a native wallet made from a bridge. -/
theorem scriptData_convert2CWallet (hkeep : lib.ConstructorsKeep) (bridge : WalletBridge) :
    (convert2CWallet lib bridge).scriptData =
      { m := bridge.totalRequireSigns
        signers := (convert2CSigners lib bridge.signers).map SingleSigner.scriptData
        addressType := convert2CAddressType bridge.addressType
        walletType :=
          if bridge.miniscript = "" then
            lib.keysWalletType bridge.totalRequireSigns (convert2CSigners lib bridge.signers).length
              (convert2CAddressType bridge.addressType) bridge.escrow
          else
            lib.miniscriptWalletType bridge.miniscript (convert2CAddressType bridge.addressType)
              bridge.totalRequireSigns
        walletTemplate := .DEFAULT
        miniscript := bridge.miniscript } := by
  by_cases hscript : bridge.miniscript = ""
  · -- the constructor for keys
    simp [convert2CWallet, Wallet.scriptData, hscript, hkeep.keys_m, hkeep.keys_signers,
      hkeep.keys_addressType, hkeep.keys_walletType, hkeep.keys_walletTemplate]
  · -- the constructor for a miniscript
    simp [convert2CWallet, Wallet.scriptData, hscript, hkeep.miniscript_m,
      hkeep.miniscript_signers, hkeep.miniscript_addressType, hkeep.miniscript_walletType,
      hkeep.miniscript_walletTemplate, hkeep.miniscript_miniscript]

variable (hnum : lib.NumbersAsKotlin) (hkeep : lib.ConstructorsKeep)

include hnum hkeep in
/-- When the balances are there, only the wallet type and the template may differ. -/
theorem roundTrip_scriptData {wallet : Wallet} (h : BalancesReturn lib wallet) :
    (roundTrip lib wallet).scriptData =
      { wallet.scriptData with
        walletType := wallet.derivedType lib
        walletTemplate := .DEFAULT } := by
  rcases h with ⟨b, hb⟩
  rw [roundTrip, scriptData_convert2CWallet hkeep, convert2JWallet_complete hnum hb]
  simp only [JWallet.toBridge, map_scriptData_convert2CSigners hkeep,
    length_convert2CSigners, convert2CAddressType_ordinal, Wallet.scriptData,
    Wallet.derivedType]

include hkeep in
/-- When they are not, the address type and the miniscript are those of a new Kotlin wallet. -/
theorem roundTrip_scriptData_cut {wallet : Wallet} (h : ¬ BalancesReturn lib wallet) :
    (roundTrip lib wallet).scriptData =
      { wallet.scriptData with
        addressType := .NESTED_SEGWIT
        walletType := lib.keysWalletType wallet.m wallet.signers.length .NESTED_SEGWIT wallet.escrow
        walletTemplate := .DEFAULT
        miniscript := "" } := by
  cases hread : readBalances lib wallet with
  | ok b => exact absurd ⟨b, hread⟩ h
  | error e =>
    -- the conversion stopped before the address type and the miniscript
    rcases convert2JWallet_cut hread with ⟨balance, usdtBalance, lbtcBalance, hcut⟩
    rw [roundTrip, scriptData_convert2CWallet hkeep, hcut]
    simp only [JWallet.toBridge, map_scriptData_convert2CSigners hkeep,
      length_convert2CSigners, convert2CAddressType_ordinal, Wallet.scriptData, if_true]

/-- The wallets whose script data the round trip keeps. -/
def Wallet.SurvivesRoundTrip (lib : LibNunchuk) (wallet : Wallet) : Prop :=
  wallet.walletTemplate = .DEFAULT ∧ wallet.walletType = wallet.derivedType lib ∧
    (BalancesReturn lib wallet ∨ wallet.addressType = .NESTED_SEGWIT ∧ wallet.miniscript = "")

include hnum hkeep in
/-- **By value and by id meet exactly on default-template wallets of their derived type.** The
    round trip keeps the script data of a wallet if and only if its template is the default, its
    type is the one the constructors derive, and the balance calls return or lose nothing. -/
theorem roundTrip_scriptData_iff (wallet : Wallet) :
    (roundTrip lib wallet).scriptData = wallet.scriptData ↔ wallet.SurvivesRoundTrip lib := by
  by_cases hbalances : BalancesReturn lib wallet
  -- two fields are rebuilt, and each has to come out as it was
  · rw [roundTrip_scriptData hnum hkeep hbalances]
    simp only [Wallet.SurvivesRoundTrip, hbalances, true_or, and_true]
    constructor
    · intro h
      have htype := congrArg WalletScriptData.walletType h
      have htemplate := congrArg WalletScriptData.walletTemplate h
      exact ⟨htemplate.symm, htype.symm⟩
    · rintro ⟨htemplate, htype⟩
      simp [Wallet.scriptData, htemplate, ← htype]
  -- four are, two of them with the defaults of a new Kotlin wallet
  · rw [roundTrip_scriptData_cut hkeep hbalances]
    simp only [Wallet.SurvivesRoundTrip, hbalances, false_or]
    constructor
    · intro h
      have htype := congrArg WalletScriptData.walletType h
      have htemplate := congrArg WalletScriptData.walletTemplate h
      have haddress : .NESTED_SEGWIT = wallet.addressType :=
        congrArg WalletScriptData.addressType h
      have hscript : "" = wallet.miniscript := congrArg WalletScriptData.miniscript h
      refine ⟨htemplate.symm, ?_, haddress.symm, hscript.symm⟩
      -- the constructor that is taken is the one for keys, at the default address type
      rw [Wallet.derivedType, if_pos hscript.symm, ← haddress]
      exact htype.symm
    · rintro ⟨htemplate, htype, haddress, hscript⟩
      rw [Wallet.derivedType, if_pos hscript, haddress] at htype
      simp [Wallet.scriptData, htemplate, htype, haddress, hscript]

include hnum hkeep in
/-- No Liquid wallet survives: neither constructor makes one. -/
theorem roundTrip_liquid {wallet : Wallet} (hliquid : wallet.walletType = .LIQUID) :
    (roundTrip lib wallet).scriptData ≠ wallet.scriptData := by
  intro h
  have htype := ((roundTrip_scriptData_iff hnum hkeep wallet).mp h).2.1
  rw [hliquid, Wallet.derivedType] at htype
  split at htype
  · exact hkeep.keysWalletType_ne _ _ _ _ htype.symm
  · exact hkeep.miniscriptWalletType_ne _ _ _ htype.symm

end

/-! ## A Taproot wallet without a key path -/

/-- Without its key path disabled, the wallet survives. -/
theorem roundTrip_taproot_default :
    (roundTrip .plain (taprootWallet .DEFAULT)).scriptData =
      (taprootWallet .DEFAULT).scriptData :=
  (roundTrip_scriptData_iff LibNunchuk.plain_numbersAsKotlin LibNunchuk.plain_constructorsKeep
    (taprootWallet .DEFAULT)).mpr ⟨rfl, rfl, Or.inl ⟨⟨0, 0, 0⟩, rfl⟩⟩

/-- With its key path disabled it comes back with the default template: other scripts. -/
theorem roundTrip_disableKeyPath_lost :
    LibNunchuk.plain.NumbersAsKotlin ∧ LibNunchuk.plain.ConstructorsKeep ∧
      (roundTrip .plain (taprootWallet .DISABLE_KEY_PATH)).scriptData ≠
        (taprootWallet .DISABLE_KEY_PATH).scriptData := by
  refine ⟨LibNunchuk.plain_numbersAsKotlin, LibNunchuk.plain_constructorsKeep, ?_⟩
  intro h
  have htemplate := congrArg WalletScriptData.walletTemplate h
  exact absurd htemplate (by decide)

end NunchukSdk
