import NunchukSdk.Marshal.Amount
import NunchukSdk.Types.Enums

/-!
# What the Wallet Marshalling Asks of libnunchuk

`convert2JWallet` and `convert2CWallet` stand between Kotlin objects and the classes
`nunchuk::Wallet` and `nunchuk::SingleSigner`, whose code is not in this repository. A native
object is modelled by what its getters return; a getter that can throw is an `Except`.

## Model

- `SingleSigner`, `Wallet`: getter results; a setter changes the result of its own getter, so it
  is a record update
- `LibNunchuk`: the numbers behind the enumerations, the static `Utils` calls, the constructors
- `NumbersAsKotlin`, `ConstructorsKeep`: what the marshalling relies on
- `LibNunchuk.plain`: one library that satisfies both
-/

namespace NunchukSdk

/-! ## Native objects -/

/-- `nunchuk::SingleSigner`. -/
structure SingleSigner where
  name : String
  xpub : String
  publicKey : String
  derivationPath : String
  externalInternalIndex : Int × Int
  masterFingerprint : String
  masterSignerId : String := ""
  lastHealthCheck : Int
  used : Bool := false
  hasMasterSigner : Bool := false
  type : SignerType := .AIRGAP
  tags : List SignerTag := []
  visible : Bool := true
  /-- `get_descriptor()`. -/
  descriptor : Except CppException String

/-- `nunchuk::Wallet`. -/
structure Wallet where
  id : String
  name : String := ""
  m : Int
  signers : List SingleSigner
  addressType : AddressType
  walletType : WalletType
  walletTemplate : WalletTemplate := .DEFAULT
  escrow : Bool := false
  createDate : Int := 0
  description : String := ""
  gapLimit : Int := 20
  needBackup : Bool := false
  archived : Bool := false
  miniscript : String := ""
  needsPassphrase : Bool := false
  /-- `get_balance()`. -/
  balance : Except CppException Int := .ok 0
  /-- `get_unconfirmed_balance()`. -/
  unconfirmedBalance : Except CppException Int := .ok 0
  /-- `get_asset_balance(assetId)`. -/
  assetBalance : AssetId → Except CppException Int := fun _ => .ok 0

/-! ## What determines the scripts -/

/-- The part of a signer that goes into a descriptor. -/
structure SignerScriptData where
  xpub : String
  publicKey : String
  derivationPath : String
  externalInternalIndex : Int × Int
  masterFingerprint : String
  deriving DecidableEq, Repr

/-- The script data of a native signer. -/
def SingleSigner.scriptData (signer : SingleSigner) : SignerScriptData where
  xpub := signer.xpub
  publicKey := signer.publicKey
  derivationPath := signer.derivationPath
  externalInternalIndex := signer.externalInternalIndex
  masterFingerprint := signer.masterFingerprint

/-- The part of a wallet that determines its scripts, and with them its addresses. -/
structure WalletScriptData where
  m : Int
  signers : List SignerScriptData
  addressType : AddressType
  walletType : WalletType
  walletTemplate : WalletTemplate
  miniscript : String
  deriving DecidableEq, Repr

/-- The script data of a native wallet. -/
def Wallet.scriptData (wallet : Wallet) : WalletScriptData where
  m := wallet.m
  signers := wallet.signers.map SingleSigner.scriptData
  addressType := wallet.addressType
  walletType := wallet.walletType
  walletTemplate := wallet.walletTemplate
  miniscript := wallet.miniscript

/-! ## The library -/

/-- The arguments of `SingleSigner(name, xpub, public_key, derivation_path,
    external_internal_index, master_fingerprint, last_health_check)`. -/
structure SignerArgs where
  name : String
  xpub : String
  publicKey : String
  derivationPath : String
  externalInternalIndex : Int × Int
  masterFingerprint : String
  lastHealthCheck : Int

/-- The arguments of `Wallet(id, m, n, signers, address_type, is_escrow, create_date)`. -/
structure KeysWalletArgs where
  id : String
  m : Int
  n : Nat
  signers : List SingleSigner
  addressType : AddressType
  escrow : Bool
  createDate : Int

/-- The arguments of `Wallet(miniscript, signers, address_type, keypath_m)`. -/
structure MiniscriptWalletArgs where
  miniscript : String
  signers : List SingleSigner
  addressType : AddressType
  m : Int

/-- The calls into libnunchuk that the marshalling makes. -/
structure LibNunchuk where
  /-- `(int) type`, for each enumeration. -/
  addressTypeNumber : AddressType → Int
  walletTypeNumber : WalletType → Int
  walletTemplateNumber : WalletTemplate → Int
  signerTypeNumber : SignerType → Int
  signerTagNumber : SignerTag → Int
  /-- `Utils::ValueFromAmount`. -/
  valueFromAmount : ValueFromAmount
  /-- `Utils::GetUSDTAssetId`. -/
  getUSDTAssetId : Except CppException AssetId
  /-- `Utils::GetLBTCAssetId`. -/
  getLBTCAssetId : Except CppException AssetId
  /-- `Utils::GetIndexFromPath`. -/
  getIndexFromPath : String → Except CppException Int
  newSigner : SignerArgs → SingleSigner
  newKeysWallet : KeysWalletArgs → Wallet
  newMiniscriptWallet : MiniscriptWalletArgs → Wallet
  /-- The wallet type that the first constructor derives from `m`, `n`, the address type and the
      escrow flag. -/
  keysWalletType : Int → Nat → AddressType → Bool → WalletType
  /-- The wallet type that the second constructor derives from the miniscript, the address type
      and `m`. -/
  miniscriptWalletType : String → AddressType → Int → WalletType
  /-- The id that the second constructor derives from the script data it is given. -/
  miniscriptWalletId : String → List SignerScriptData → AddressType → Int → String
  /-- The escrow flag and the creation date of a wallet whose constructor is given neither. -/
  unsetEscrow : Bool
  unsetCreateDate : Int

namespace LibNunchuk

/-- The C++ enumerators are numbered as the Kotlin helpers expect; `SignerType` starts at
    `UNKNOWN = -1`. -/
structure NumbersAsKotlin (lib : LibNunchuk) : Prop where
  addressType : ∀ t, lib.addressTypeNumber t = t.ordinal
  walletType : ∀ t, lib.walletTypeNumber t = t.ordinal
  walletTemplate : ∀ t, lib.walletTemplateNumber t = t.ordinal
  signerType : ∀ t, lib.signerTypeNumber t + 1 = t.ordinal
  signerTag : ∀ t, lib.signerTagNumber t = t.ordinal

/-- The getters return what the constructors were given. What a constructor is not given is
    derived from what it is given, or has the value it has in a new object; neither constructor
    makes a Liquid wallet. -/
structure ConstructorsKeep (lib : LibNunchuk) : Prop where
  signer_name : ∀ a, (lib.newSigner a).name = a.name
  signer_xpub : ∀ a, (lib.newSigner a).xpub = a.xpub
  signer_publicKey : ∀ a, (lib.newSigner a).publicKey = a.publicKey
  signer_derivationPath : ∀ a, (lib.newSigner a).derivationPath = a.derivationPath
  signer_externalInternalIndex : ∀ a,
    (lib.newSigner a).externalInternalIndex = a.externalInternalIndex
  signer_masterFingerprint : ∀ a, (lib.newSigner a).masterFingerprint = a.masterFingerprint
  keys_id : ∀ a, (lib.newKeysWallet a).id = a.id
  keys_m : ∀ a, (lib.newKeysWallet a).m = a.m
  keys_signers : ∀ a, (lib.newKeysWallet a).signers = a.signers
  keys_addressType : ∀ a, (lib.newKeysWallet a).addressType = a.addressType
  keys_escrow : ∀ a, (lib.newKeysWallet a).escrow = a.escrow
  keys_createDate : ∀ a, (lib.newKeysWallet a).createDate = a.createDate
  keys_description : ∀ a, (lib.newKeysWallet a).description = ""
  keys_walletTemplate : ∀ a, (lib.newKeysWallet a).walletTemplate = .DEFAULT
  keys_walletType : ∀ a,
    (lib.newKeysWallet a).walletType = lib.keysWalletType a.m a.n a.addressType a.escrow
  keysWalletType_ne : ∀ m n type escrow, lib.keysWalletType m n type escrow ≠ .LIQUID
  miniscript_miniscript : ∀ a, (lib.newMiniscriptWallet a).miniscript = a.miniscript
  miniscript_signers : ∀ a, (lib.newMiniscriptWallet a).signers = a.signers
  miniscript_addressType : ∀ a, (lib.newMiniscriptWallet a).addressType = a.addressType
  miniscript_m : ∀ a, (lib.newMiniscriptWallet a).m = a.m
  miniscript_id : ∀ a, (lib.newMiniscriptWallet a).id =
    lib.miniscriptWalletId a.miniscript (a.signers.map SingleSigner.scriptData) a.addressType a.m
  miniscript_escrow : ∀ a, (lib.newMiniscriptWallet a).escrow = lib.unsetEscrow
  miniscript_createDate : ∀ a, (lib.newMiniscriptWallet a).createDate = lib.unsetCreateDate
  miniscript_description : ∀ a, (lib.newMiniscriptWallet a).description = ""
  miniscript_walletTemplate : ∀ a, (lib.newMiniscriptWallet a).walletTemplate = .DEFAULT
  miniscript_walletType : ∀ a, (lib.newMiniscriptWallet a).walletType =
    lib.miniscriptWalletType a.miniscript a.addressType a.m
  miniscriptWalletType_ne : ∀ script type m, lib.miniscriptWalletType script type m ≠ .LIQUID

/-! ## A library that keeps both promises -/

/-- A library in which every call returns: the constructors store their arguments and derive
    the wallet type from them. -/
def plain : LibNunchuk where
  addressTypeNumber := AddressType.ordinal
  walletTypeNumber := WalletType.ordinal
  walletTemplateNumber := WalletTemplate.ordinal
  signerTypeNumber t := t.ordinal - 1
  signerTagNumber := SignerTag.ordinal
  valueFromAmount amount := .ok (toString amount)
  getUSDTAssetId := .ok [1]
  getLBTCAssetId := .ok [2]
  getIndexFromPath _ := .ok 0
  newSigner a :=
    { name := a.name, xpub := a.xpub, publicKey := a.publicKey
      derivationPath := a.derivationPath, externalInternalIndex := a.externalInternalIndex
      masterFingerprint := a.masterFingerprint, lastHealthCheck := a.lastHealthCheck
      descriptor := .ok a.xpub }
  newKeysWallet a :=
    { id := a.id, m := a.m, signers := a.signers, addressType := a.addressType
      walletType := if a.n = 1 then .SINGLE_SIG else if a.escrow then .ESCROW else .MULTI_SIG
      escrow := a.escrow, createDate := a.createDate }
  newMiniscriptWallet a :=
    { id := a.miniscript, m := a.m, signers := a.signers, addressType := a.addressType
      walletType := .MINISCRIPT, miniscript := a.miniscript }
  keysWalletType _ n _ escrow :=
    if n = 1 then .SINGLE_SIG else if escrow then .ESCROW else .MULTI_SIG
  miniscriptWalletType _ _ _ := .MINISCRIPT
  miniscriptWalletId miniscript _ _ _ := miniscript
  unsetEscrow := false
  unsetCreateDate := 0

theorem plain_numbersAsKotlin : plain.NumbersAsKotlin where
  addressType _ := rfl
  walletType _ := rfl
  walletTemplate _ := rfl
  signerType t := Int.sub_add_cancel t.ordinal 1
  signerTag _ := rfl

theorem plain_constructorsKeep : plain.ConstructorsKeep where
  signer_name _ := rfl
  signer_xpub _ := rfl
  signer_publicKey _ := rfl
  signer_derivationPath _ := rfl
  signer_externalInternalIndex _ := rfl
  signer_masterFingerprint _ := rfl
  keys_id _ := rfl
  keys_m _ := rfl
  keys_signers _ := rfl
  keys_addressType _ := rfl
  keys_escrow _ := rfl
  keys_createDate _ := rfl
  keys_description _ := rfl
  keys_walletTemplate _ := rfl
  keys_walletType _ := rfl
  keysWalletType_ne m n type escrow := by
    -- one key, an escrow, or several keys: three types, none of them Liquid
    simp only [plain]
    split
    · simp
    · split <;> simp
  miniscript_miniscript _ := rfl
  miniscript_signers _ := rfl
  miniscript_addressType _ := rfl
  miniscript_m _ := rfl
  miniscript_id _ := rfl
  miniscript_escrow _ := rfl
  miniscript_createDate _ := rfl
  miniscript_description _ := rfl
  miniscript_walletTemplate _ := rfl
  miniscript_walletType _ := rfl
  miniscriptWalletType_ne _ _ _ := by simp [plain]

end LibNunchuk

end NunchukSdk
