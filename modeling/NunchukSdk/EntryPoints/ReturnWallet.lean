import Mathlib.Data.List.Forall2
import NunchukSdk.EntryPoints.Failures

/-!
# Entry Points That Return a Wallet

Some fifteen native methods end in `return Deserializer::convert2JWallet(env, wallet)` inside a
`try` whose clauses turn an exception into a Java one. The clauses only see what the library call
before the conversion throws: the converters of wallets, signers and amounts each catch and log
what is thrown inside them and return the object as far as it got.

## Model

- `IsCopyOfAmount`, `IsCopyOfSigner`, `IsCopyOfWallet`: every field of the Kotlin object is the
  value taken from the native one
- `ConversionCallsReturn`: the library calls of the three converters all return
- `returnJWallet`: the common shape of the entry points. `parseKeystoneWallet`, with its second
  parser, has another, and so have `importWalletFromMk4` and `parseWalletFromMk4`: for records that
  are no `WALLET` message these make no library call, and return null without an exception.

## Results

- `isCopyOfWallet_iff`: the conversion is complete exactly when all its calls return
- `walletReturns_complete_iff`: when an entry point returns a complete wallet or raises an
  exception
-/

namespace NunchukSdk

open Foundation NativeM

/-! ## Complete copies -/

/-- `copy` holds the amount and its rendering. -/
structure IsCopyOfAmount (lib : LibNunchuk) (amount : Int) (copy : JAmount) : Prop where
  value : copy.value = amount
  formattedValue : lib.valueFromAmount amount = .ok copy.formattedValue

/-- Every field of `copy` is the value taken from the native signer. -/
structure IsCopyOfSigner (lib : LibNunchuk) (signer : SingleSigner) (copy : JSingleSigner) :
    Prop where
  name : copy.name = signer.name
  xpub : copy.xpub = signer.xpub
  publicKey : copy.publicKey = signer.publicKey
  derivationPath : copy.derivationPath = signer.derivationPath
  externalInternalIndex : copy.externalInternalIndex = signer.externalInternalIndex
  masterFingerprint : copy.masterFingerprint = signer.masterFingerprint
  lastHealthCheck : copy.lastHealthCheck = signer.lastHealthCheck
  masterSignerId : copy.masterSignerId = signer.masterSignerId
  used : copy.used = signer.used
  type : copy.type = signer.type
  hasMasterSigner : copy.hasMasterSigner = signer.hasMasterSigner
  descriptor : signer.descriptor = .ok copy.descriptor
  tags : copy.tags = signer.tags
  isVisible : copy.isVisible = signer.visible
  index : lib.getIndexFromPath signer.derivationPath = .ok copy.index

/-- The three amounts of `copy` are the balances of the native wallet. -/
structure HasBalances (lib : LibNunchuk) (balances : Balances) (copy : JWallet) : Prop where
  balance : IsCopyOfAmount lib balances.unconfirmed copy.balance
  usdtBalance : IsCopyOfAmount lib balances.usdt copy.usdtBalance
  lbtcBalance : IsCopyOfAmount lib balances.lbtc copy.lbtcBalance

/-- Every field of `copy`, and of every signer in it, is the value taken from the native
    wallet. -/
structure IsCopyOfWallet (lib : LibNunchuk) (wallet : Wallet) (copy : JWallet) : Prop where
  id : copy.id = wallet.id
  name : copy.name = wallet.name
  totalRequireSigns : copy.totalRequireSigns = wallet.m
  signers : List.Forall₂ (IsCopyOfSigner lib) wallet.signers copy.signers
  addressType : copy.addressType = wallet.addressType
  escrow : copy.escrow = wallet.escrow
  balances : ∃ b, readBalances lib wallet = .ok b ∧ HasBalances lib b copy
  createDate : copy.createDate = wallet.createDate
  description : copy.description = wallet.description
  gapLimit : copy.gapLimit = wallet.gapLimit
  needBackup : copy.needBackup = wallet.needBackup
  walletTemplate : copy.walletTemplate = wallet.walletTemplate
  archived : copy.archived = wallet.archived
  miniscript : copy.miniscript = wallet.miniscript
  walletType : copy.walletType = wallet.walletType
  needsPassphrase : copy.needsPassphrase = wallet.needsPassphrase

/-! ## The calls of the converters -/

/-- `Utils::ValueFromAmount` renders the amount. -/
def Renders (lib : LibNunchuk) (amount : Int) : Prop :=
  ∃ text, lib.valueFromAmount amount = .ok text

/-- The descriptor and the path index of a signer can be read. -/
def SignerCallsReturn (lib : LibNunchuk) (signer : SingleSigner) : Prop :=
  (∃ text, signer.descriptor = .ok text) ∧
    ∃ index, lib.getIndexFromPath signer.derivationPath = .ok index

/-- Every library call that `convert2JWallet` and its nested converters make for a wallet
    returns, the closing log line apart. -/
structure ConversionCallsReturn (lib : LibNunchuk) (wallet : Wallet) : Prop where
  balances : ∃ b, readBalances lib wallet = .ok b ∧
    Renders lib b.unconfirmed ∧ Renders lib b.usdt ∧ Renders lib b.lbtc
  signers : ∀ signer ∈ wallet.signers, SignerCallsReturn lib signer

section

variable {lib : LibNunchuk}

theorem isCopyOfAmount_iff (amount : Int) :
    IsCopyOfAmount lib amount (convert2JAmount lib.valueFromAmount amount) ↔
      Renders lib amount := by
  constructor
  · intro h
    exact ⟨_, h.formattedValue⟩
  · rintro ⟨text, htext⟩
    rw [convert2JAmount_eq, htext]
    exact ⟨rfl, htext⟩

theorem convert2JSignerType_eq (hnum : lib.NumbersAsKotlin) (type : SignerType) :
    convert2JSignerType lib type = type := by
  simp [convert2JSignerType, hnum.signerType]

theorem convert2JSignerTags_eq (hnum : lib.NumbersAsKotlin) (tags : List SignerTag) :
    convert2JSignerTags lib tags = tags := by
  have htag : convert2JSignerTag lib = id := by
    funext tag
    simp [convert2JSignerTag, hnum.signerTag]
  rw [convert2JSignerTags, htag, List.map_id]

/-- A signer arrives complete exactly when its two calls return. -/
theorem isCopyOfSigner_iff (hnum : lib.NumbersAsKotlin) (signer : SingleSigner) :
    IsCopyOfSigner lib signer (convert2JSigner lib signer) ↔ SignerCallsReturn lib signer := by
  constructor
  · -- a complete copy has a descriptor and an index, which two calls gave
    intro h
    exact ⟨⟨_, h.descriptor⟩, _, h.index⟩
  · -- with both calls returning, every field is set
    rintro ⟨⟨text, htext⟩, index, hindex⟩
    rw [convert2JSigner_eq, htext]
    simp only [hindex]
    exact
      { name := rfl
        xpub := rfl
        publicKey := rfl
        derivationPath := rfl
        externalInternalIndex := rfl
        masterFingerprint := rfl
        lastHealthCheck := rfl
        masterSignerId := rfl
        used := rfl
        type := convert2JSignerType_eq hnum signer.type
        hasMasterSigner := rfl
        descriptor := htext
        tags := convert2JSignerTags_eq hnum signer.tags
        isVisible := rfl
        index := hindex }

/-- A list of signers arrives complete exactly when the calls of each signer return. -/
theorem isCopyOfSigners_iff (hnum : lib.NumbersAsKotlin) (signers : List SingleSigner) :
    List.Forall₂ (IsCopyOfSigner lib) signers (convert2JSigners lib signers) ↔
      ∀ signer ∈ signers, SignerCallsReturn lib signer := by
  rw [convert2JSigners, List.forall₂_map_right_iff, List.forall₂_same]
  simp only [isCopyOfSigner_iff hnum]

/-- **A wallet arrives complete exactly when every call of its conversion returns.** -/
theorem isCopyOfWallet_iff (hnum : lib.NumbersAsKotlin) (wallet : Wallet) :
    IsCopyOfWallet lib wallet (convert2JWallet lib wallet) ↔
      ConversionCallsReturn lib wallet := by
  constructor
  · intro h
    -- the balances can only be right if they could be read, and then the rest was set
    rcases h.balances with ⟨b, hb, hamounts⟩
    have hcomplete := convert2JWallet_complete hnum hb
    have hsigners := h.signers
    rw [hcomplete] at hamounts hsigners
    exact
      { balances := ⟨b, hb, (isCopyOfAmount_iff _).mp hamounts.balance,
          (isCopyOfAmount_iff _).mp hamounts.usdtBalance,
          (isCopyOfAmount_iff _).mp hamounts.lbtcBalance⟩
        signers := (isCopyOfSigners_iff hnum _).mp hsigners }
  · intro h
    rcases h.balances with ⟨b, hb, hunconfirmed, husdt, hlbtc⟩
    rw [convert2JWallet_complete hnum hb]
    exact
      { id := rfl
        name := rfl
        totalRequireSigns := rfl
        signers := (isCopyOfSigners_iff hnum _).mpr h.signers
        addressType := rfl
        escrow := rfl
        balances := ⟨b, hb, (isCopyOfAmount_iff _).mpr hunconfirmed,
          (isCopyOfAmount_iff _).mpr husdt, (isCopyOfAmount_iff _).mpr hlbtc⟩
        createDate := rfl
        description := rfl
        gapLimit := rfl
        needBackup := rfl
        walletTemplate := rfl
        archived := rfl
        miniscript := rfl
        walletType := rfl
        needsPassphrase := rfl }

end

/-! ## The entry points -/

/-- A native method that returns the conversion of the wallet a library call yields. The methods
    differ in that call and in what they return beside a raised exception. `importWalletFromMk4` and
    `parseWalletFromMk4` come to this once their records are a `WALLET` message; for other records
    they return null and raise nothing. -/
def returnJWallet (lib : LibNunchuk) (onBase onStd : JReturn JWallet)
    (outcome : Except CppException Wallet) : Jni (JReturn JWallet) :=
  wrapped outcome (convert2JWallet lib) onBase onStd

/-- `importWallet`. -/
def importWallet (lib : LibNunchuk)
    (importWalletDescriptor : String → String → String → Except CppException Wallet)
    (filePath name description : String) : Jni (JReturn JWallet) :=
  returnJWallet lib .throwable .throwable (importWalletDescriptor filePath name description)

/-- `parseWalletDescriptor`. -/
def parseWalletDescriptor (lib : LibNunchuk)
    (nuParseWalletDescriptor : String → Except CppException Wallet) (content : String) :
    Jni (JReturn JWallet) :=
  returnJWallet lib .throwable .throwable (nuParseWalletDescriptor content)

/-- `importKeystoneWallet`, which answers `JNI_FALSE` beside a plain `std::exception`. -/
def importKeystoneWallet (lib : LibNunchuk)
    (nuImportKeystoneWallet : List String → String → Except CppException Wallet)
    (qrData : List String) (description : String) : Jni (JReturn JWallet) :=
  returnJWallet lib .throwable .null (nuImportKeystoneWallet qrData description)

/-- How an entry point may end: with a Java exception pending, or with a complete copy of the
    wallet that the library yielded. -/
def ReturnsComplete (lib : LibNunchuk) (outcome : Except CppException Wallet)
    (result : JResult JWallet) : Prop :=
  result.2.pending ≠ [] ∨
    ∃ wallet copy, outcome = .ok wallet ∧ result.1 = .ok (.object copy) ∧
      IsCopyOfWallet lib wallet copy

/-- The common shape returns a complete wallet or raises an exception exactly when the library
    call throws or every call of the conversion returns. -/
theorem returnJWallet_complete_iff {lib : LibNunchuk} (hnum : lib.NumbersAsKotlin)
    (onBase onStd : JReturn JWallet) (outcome : Except CppException Wallet) :
    ReturnsComplete lib outcome ((returnJWallet lib onBase onStd outcome).run {}) ↔
      ∀ wallet, outcome = .ok wallet → ConversionCallsReturn lib wallet := by
  cases outcome with
  | error e =>
    apply iff_of_true
    · -- either clause raises a Java exception
      apply Or.inl
      rw [returnJWallet, run_wrapped_error]
      exact List.cons_ne_nil _ _
    · intro wallet hwallet
      cases hwallet
  | ok wallet =>
    rw [returnJWallet, run_wrapped_ok]
    constructor
    · -- no exception is pending, so that the copy has to be complete
      rintro (hpending | ⟨wallet', copy, hwallet, hcopy, hcomplete⟩) w hw
      · exact absurd rfl hpending
      · cases hw
        cases hwallet
        cases hcopy
        exact (isCopyOfWallet_iff hnum wallet).mp hcomplete
    · intro h
      have hcomplete := (isCopyOfWallet_iff hnum wallet).mpr (h wallet rfl)
      exact Or.inr ⟨wallet, _, rfl, rfl, hcomplete⟩

/-! ## The entry point with two parsers -/

section Keystone

variable (lib : LibNunchuk)
  {utilsParseKeystoneWallet : Chain → List String → Except CppException Wallet}
  {utilsParseWalletDescriptor : String → Except CppException Wallet} {chain : Int}
  {qrData : List String}

/-- When the second parser is not the one that escapes, the two parsers act as one call. -/
theorem run_parseKeystoneWallet
    (h : ¬ ((∃ code what, utilsParseKeystoneWallet (convert2CChain chain) qrData =
        .error (.base code what)) ∧ FallbackEscapes utilsParseWalletDescriptor qrData)) :
    (parseKeystoneWallet lib utilsParseKeystoneWallet utilsParseWalletDescriptor chain
        qrData).run {} =
      (returnJWallet lib .null .null (keystoneOutcome utilsParseKeystoneWallet
        utilsParseWalletDescriptor chain qrData)).run {} := by
  unfold parseKeystoneWallet keystoneOutcome
  cases hfirst : utilsParseKeystoneWallet (convert2CChain chain) qrData with
  | ok wallet => rfl
  | error e =>
    cases e with
    | std what => rfl
    | base code what =>
      -- the first parser failed with a code: the second one decides
      have hescape : ¬ FallbackEscapes utilsParseWalletDescriptor qrData :=
        fun hfallback => h ⟨⟨code, what, hfirst⟩, hfallback⟩
      show (keystoneFallback lib utilsParseWalletDescriptor qrData code what).run {} =
        (returnJWallet lib .null .null
          (fallbackOutcome utilsParseWalletDescriptor qrData code what)).run {}
      unfold keystoneFallback fallbackOutcome
      match qrData with
      | [] => rfl
      | _ :: _ :: _ => rfl
      | [descriptor] =>
        rw [fallbackEscapes_singleton] at hescape
        dsimp only
        cases hsecond : utilsParseWalletDescriptor descriptor with
        | ok wallet => rfl
        | error e =>
          cases e with
          | base code' what' => rfl
          | std text => exact absurd ⟨text, hsecond⟩ hescape

/-- A second parser that escapes leaves no result and no Java exception. -/
theorem run_parseKeystoneWallet_escapes
    (hfirst : ∃ code what, utilsParseKeystoneWallet (convert2CChain chain) qrData =
      .error (.base code what)) (hescape : FallbackEscapes utilsParseWalletDescriptor qrData) :
    ∃ e, (parseKeystoneWallet lib utilsParseKeystoneWallet utilsParseWalletDescriptor chain
      qrData).run {} = (.error (.thrown e), {}) := by
  rcases hfirst with ⟨code, what, hfirst⟩
  rcases hescape with ⟨descriptor, text, rfl, hsecond⟩
  refine ⟨.std text, ?_⟩
  unfold parseKeystoneWallet
  rw [hfirst]
  show (keystoneFallback lib utilsParseWalletDescriptor [descriptor] code what).run {} = _
  unfold keystoneFallback
  dsimp only
  rw [hsecond]
  rfl

/-- `parseKeystoneWallet` has to let its second failure cross, too. -/
theorem parseKeystoneWallet_complete_iff {lib : LibNunchuk} (hnum : lib.NumbersAsKotlin) :
    ReturnsComplete lib
        (keystoneOutcome utilsParseKeystoneWallet utilsParseWalletDescriptor chain qrData)
        ((parseKeystoneWallet lib utilsParseKeystoneWallet utilsParseWalletDescriptor chain
          qrData).run {}) ↔
      ¬ ((∃ code what, utilsParseKeystoneWallet (convert2CChain chain) qrData =
          .error (.base code what)) ∧ FallbackEscapes utilsParseWalletDescriptor qrData) ∧
        ∀ wallet, keystoneOutcome utilsParseKeystoneWallet utilsParseWalletDescriptor chain
          qrData = .ok wallet → ConversionCallsReturn lib wallet := by
  by_cases hescapes : (∃ code what, utilsParseKeystoneWallet (convert2CChain chain) qrData =
      .error (.base code what)) ∧ FallbackEscapes utilsParseWalletDescriptor qrData
  · apply iff_of_false
    · -- an escaped exception is neither a result nor a Java exception
      obtain ⟨e, hrun⟩ := run_parseKeystoneWallet_escapes lib hescapes.1 hescapes.2
      rw [hrun]
      rintro (hpending | ⟨wallet, copy, -, hcopy, -⟩)
      · exact hpending rfl
      · cases hcopy
    · intro h
      exact h.1 hescapes
  · rw [run_parseKeystoneWallet lib hescapes, returnJWallet_complete_iff hnum]
    exact (and_iff_right hescapes).symm

end Keystone

/-- **An entry point is honest exactly when its conversion has nothing to log.** A native method
    that returns the conversion of a wallet returns a complete one or raises an exception, if
    and only if the library call throws or every call of the conversion returns, and, for
    `parseKeystoneWallet`, no failure of its second parser escapes. -/
theorem walletReturns_complete_iff {lib : LibNunchuk} (hnum : lib.NumbersAsKotlin) :
    (∀ onBase onStd outcome,
      ReturnsComplete lib outcome ((returnJWallet lib onBase onStd outcome).run {}) ↔
        ∀ wallet, outcome = .ok wallet → ConversionCallsReturn lib wallet) ∧
    ∀ parseKeystone parseDescriptor chain qrData,
      ReturnsComplete lib (keystoneOutcome parseKeystone parseDescriptor chain qrData)
          ((parseKeystoneWallet lib parseKeystone parseDescriptor chain qrData).run {}) ↔
        ¬ ((∃ code what, parseKeystone (convert2CChain chain) qrData =
            .error (.base code what)) ∧ FallbackEscapes parseDescriptor qrData) ∧
          ∀ wallet, keystoneOutcome parseKeystone parseDescriptor chain qrData = .ok wallet →
            ConversionCallsReturn lib wallet := by
  refine ⟨?_, ?_⟩
  · intro onBase onStd outcome
    exact returnJWallet_complete_iff hnum onBase onStd outcome
  · intro parseKeystone parseDescriptor chain qrData
    exact parseKeystoneWallet_complete_iff hnum

/-! ## A wallet without its template -/

/-- With every call returning, an import answers with a complete copy. -/
theorem import_taproot_complete :
    ReturnsComplete .plain (.ok (taprootWallet .DISABLE_KEY_PATH))
      ((returnJWallet .plain .throwable .throwable
        (.ok (taprootWallet .DISABLE_KEY_PATH))).run {}) := by
  apply ((walletReturns_complete_iff LibNunchuk.plain_numbersAsKotlin).1 _ _ _).mpr
  intro wallet hwallet
  cases hwallet
  exact
    { balances := ⟨⟨0, 0, 0⟩, rfl, ⟨_, rfl⟩, ⟨_, rfl⟩, _, rfl⟩
      signers := by
        intro signer hsigner
        rcases List.mem_pair.mp hsigner with rfl | rfl
        · exact ⟨⟨_, rfl⟩, _, rfl⟩
        · exact ⟨⟨_, rfl⟩, _, rfl⟩ }

/-- The sample wallet, in a library that cannot tell its asset balances. -/
def assetlessWallet (template : WalletTemplate) : Wallet :=
  { taprootWallet template with assetBalance := fun _ => .error (.std "no such asset") }

/-- A wallet whose asset balance cannot be read is returned as a success, with the default
    template in the place of its own. -/
theorem import_assetless_incomplete :
    LibNunchuk.plain.NumbersAsKotlin ∧
      ¬ ReturnsComplete .plain (.ok (assetlessWallet .DISABLE_KEY_PATH))
        ((importWallet .plain (fun _ _ _ => .ok (assetlessWallet .DISABLE_KEY_PATH))
          "wallet.bsms" "vault" "").run {}) := by
  refine ⟨LibNunchuk.plain_numbersAsKotlin, ?_⟩
  rintro (hpending | ⟨wallet, copy, hwallet, hcopy, hcomplete⟩)
  · exact hpending rfl
  · have hreturned : Except.ok (JReturn.object (convert2JWallet .plain
        (assetlessWallet .DISABLE_KEY_PATH))) =
        (Except.ok (JReturn.object copy) : Except (Fault CppException) (JReturn JWallet)) := hcopy
    have htemplate := hcomplete.walletTemplate
    cases hwallet
    cases hreturned
    exact absurd htemplate (by decide)

end NunchukSdk
