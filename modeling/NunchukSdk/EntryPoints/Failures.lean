import NunchukSdk.Jni.EntryPoint
import NunchukSdk.Marshal.Coin
import NunchukSdk.Marshal.Wallet

/-!
# Five Entry Points and Their Handlers

Most native methods have the shape `wrapped`, which turns every exception into one Java
exception. Five of them depart from it:

- `parseKeystoneWallet` tries a second parser inside the handler of the first, under a `catch`
  for `BaseException` alone
- `createSigner` has no `catch` for other exceptions
- `getTimelockedCoins` has one `catch` for all, which does not know of codes
- `getCoinAncestry` and `getAddressByIndex` have both clauses and return from neither

A handler is not covered by its sibling clauses, so that the first two let a C++ exception escape
into Java. A native method that ends without `return` is undefined behaviour.

## Results

One `_crosses_iff` for each method, and `failures_cross_iff` for all of them.
-/

namespace NunchukSdk

open Foundation NativeM

/-! ## parseKeystoneWallet -/

section Keystone

variable (lib : LibNunchuk)
  (utilsParseKeystoneWallet : Chain → List String → Except CppException Wallet)
  (utilsParseWalletDescriptor : String → Except CppException Wallet)

/-- The handler of the first parser: the only part is handed to the second one. -/
def keystoneFallback (cQrData : List String) (code : Int) (what : String) :
    Jni (JReturn JWallet) :=
  catchBase
    (match cQrData with
    | [descriptor] => do
      let wallet ← call (utilsParseWalletDescriptor descriptor)
      pure (.object (convert2JWallet lib wallet))
    | _ => do
      -- `cQrData.size() != 1`
      convert2JException code what
      pure .null)
    (fun code what => do
      convert2JException code what
      pure .null)

/-- `parseKeystoneWallet`. -/
def parseKeystoneWallet (chain : Int) (qrData : List String) : Jni (JReturn JWallet) :=
  catchBaseStd
    (do
      let wallet ← call (utilsParseKeystoneWallet (convert2CChain chain) qrData)
      pure (.object (convert2JWallet lib wallet)))
    (keystoneFallback lib utilsParseWalletDescriptor qrData)
    (fun e => do
      convertStdException2JException e
      pure .null)

/-- What the handler is about: the second parser where it is tried, the first failure where it
    is not. -/
def fallbackOutcome (cQrData : List String) (code : Int) (what : String) :
    Except CppException Wallet :=
  match cQrData with
  | [descriptor] => utilsParseWalletDescriptor descriptor
  | _ => .error (.base code what)

/-- What the method is about. -/
def keystoneOutcome (chain : Int) (qrData : List String) : Except CppException Wallet :=
  match utilsParseKeystoneWallet (convert2CChain chain) qrData with
  | .ok wallet => .ok wallet
  | .error (.base code what) => fallbackOutcome utilsParseWalletDescriptor qrData code what
  | .error (.std what) => .error (.std what)

/-- There is one part, and the second parser throws something other than a `BaseException`. -/
def FallbackEscapes (qrData : List String) : Prop :=
  ∃ descriptor text, qrData = [descriptor] ∧
    utilsParseWalletDescriptor descriptor = .error (.std text)

/-- With one part, only the second parser matters. -/
theorem fallbackEscapes_singleton (descriptor : String) :
    FallbackEscapes utilsParseWalletDescriptor [descriptor] ↔
      ∃ text, utilsParseWalletDescriptor descriptor = .error (.std text) := by
  simp [FallbackEscapes]

/-- With none or several, the second parser is not tried. -/
theorem not_fallbackEscapes {qrData : List String} (hsize : qrData.length ≠ 1) :
    ¬ FallbackEscapes utilsParseWalletDescriptor qrData := by
  rintro ⟨descriptor, text, rfl, -⟩
  exact hsize rfl

/-- The handler covers its own library call against a `BaseException` and nothing else. -/
theorem keystoneFallback_crosses_iff (qrData : List String) (code : Int) (what : String) :
    Crosses (fallbackOutcome utilsParseWalletDescriptor qrData code what)
        ((keystoneFallback lib utilsParseWalletDescriptor qrData code what).run {}) ↔
      ¬ FallbackEscapes utilsParseWalletDescriptor qrData := by
  unfold fallbackOutcome keystoneFallback
  match qrData with
  | [] =>
    apply iff_of_true
    · exact crosses_raised (.base code what) _
    · exact not_fallbackEscapes _ (by simp)
  | first :: second :: rest =>
    apply iff_of_true
    · exact crosses_raised (.base code what) _
    · exact not_fallbackEscapes _ (by simp)
  | [descriptor] =>
    rw [fallbackEscapes_singleton]
    dsimp only
    cases utilsParseWalletDescriptor descriptor with
    | ok wallet =>
      apply iff_of_true
      · exact crosses_returned wallet _
      · simp
    | error e =>
      cases e with
      | base code' what' =>
        apply iff_of_true
        · exact crosses_raised (.base code' what') _
        · simp
      | std text =>
        -- no clause takes it: it leaves the handler, and with it the method
        apply iff_of_false
        · exact not_crosses_of_error (.thrown (.std text)) rfl
        · simp

/-- A descriptor that the second parser rejects with a plain exception takes the process down;
    every other failure crosses. -/
theorem parseKeystoneWallet_crosses_iff (chain : Int) (qrData : List String) :
    Crosses (keystoneOutcome utilsParseKeystoneWallet utilsParseWalletDescriptor chain qrData)
        ((parseKeystoneWallet lib utilsParseKeystoneWallet utilsParseWalletDescriptor chain
          qrData).run {}) ↔
      ¬ ((∃ code what, utilsParseKeystoneWallet (convert2CChain chain) qrData =
            .error (.base code what)) ∧
          FallbackEscapes utilsParseWalletDescriptor qrData) := by
  unfold keystoneOutcome parseKeystoneWallet
  cases hfirst : utilsParseKeystoneWallet (convert2CChain chain) qrData with
  | ok wallet =>
    apply iff_of_true
    · exact crosses_returned wallet _
    · rintro ⟨⟨code, what, hbase⟩, -⟩
      cases hbase
  | error e =>
    cases e with
    | std what =>
      apply iff_of_true
      · exact crosses_raised (.std what) _
      · rintro ⟨⟨code, text, hbase⟩, -⟩
        cases hbase
    | base code what =>
      -- the handler runs from the state the body left: nothing is pending yet
      have hhandler :=
        keystoneFallback_crosses_iff lib utilsParseWalletDescriptor qrData code what
      apply Iff.trans hhandler
      apply not_congr
      exact ⟨fun h => ⟨⟨code, what, rfl⟩, h⟩, fun h => h.2⟩

end Keystone

/-! ## createSigner -/

section Signer

variable (lib : LibNunchuk)

/-- The arguments of `Nunchuk::CreateSigner`. -/
structure CreateSignerArgs where
  name : String
  xpub : String
  publicKey : String
  derivationPath : String
  masterFingerprint : String
  type : SignerType
  tags : List SignerTag
  replace : Bool
  deriving DecidableEq, Repr

/-- `createSigner`; it is passed the arguments of the Kotlin call. -/
def createSigner (nuCreateSigner : CreateSignerArgs → Except CppException SingleSigner)
    (name xpub publicKey derivationPath masterFingerprint : String) (type : SignerType)
    (tags : List SignerTag) (replace : Bool) : Jni (JReturn JSingleSigner) :=
  catchBase
    (do
      let cTags := convert2CSignerTags tags
      let signer ← call (nuCreateSigner
        { name := name
          xpub := xpub
          publicKey := publicKey
          derivationPath := derivationPath
          masterFingerprint := masterFingerprint
          type := convert2CSignerType type.ordinal
          tags := cTags
          replace := replace })
      pure (.object (convert2JSigner lib signer)))
    (fun code what => do
      convert2JException code what
      pure .throwable)

/-- Enumerations arrive as they were sent. -/
theorem createSigner_eq (nuCreateSigner : CreateSignerArgs → Except CppException SingleSigner)
    (a : CreateSignerArgs) :
    createSigner lib nuCreateSigner a.name a.xpub a.publicKey a.derivationPath
        a.masterFingerprint a.type a.tags a.replace =
      catchBase
        (do
          let signer ← call (nuCreateSigner a)
          pure (.object (convert2JSigner lib signer)))
        (fun code what => do
          convert2JException code what
          pure .throwable) := by
  have htags : convert2CSignerTags a.tags = a.tags := by
    simp [convert2CSignerTags]
  simp only [createSigner, htags, convert2CSignerType_ordinal]

/-- Without a second clause, only a `BaseException` crosses. -/
theorem createSigner_crosses_iff
    (nuCreateSigner : CreateSignerArgs → Except CppException SingleSigner)
    (a : CreateSignerArgs) :
    Crosses (nuCreateSigner a)
        ((createSigner lib nuCreateSigner a.name a.xpub a.publicKey a.derivationPath
          a.masterFingerprint a.type a.tags a.replace).run {}) ↔
      ∀ what, nuCreateSigner a ≠ .error (.std what) := by
  rw [createSigner_eq]
  cases nuCreateSigner a with
  | ok signer =>
    apply iff_of_true
    · exact crosses_returned signer _
    · simp
  | error e =>
    cases e with
    | base code what =>
      apply iff_of_true
      · -- the only clause catches it
        exact crosses_raised (.base code what) _
      · simp
    | std what =>
      apply iff_of_false
      · -- no clause for it: it leaves the method as a C++ exception
        exact not_crosses_of_error (.thrown (.std what)) rfl
      · simp

end Signer

/-! ## getTimelockedCoins -/

section Timelocked

variable (valueFromAmount : ValueFromAmount)

/-- The calls that `getTimelockedCoins` makes on the instance and on `Utils`. The last one gets
    the lock value so far and yields the new one beside the coins. -/
structure TimelockLib where
  getWallet : String → Except CppException Wallet
  getCoinsFromTxInputs : String → List TxInput → Except CppException (List UnspentOutput)
  getChainTip : Except CppException Int
  getTimelockedCoins : String → List UnspentOutput → Int → Int →
    Except CppException (List UnspentOutput × Int)

/-- The library calls of `getTimelockedCoins`, in their order. -/
def timelockedCoinsOutcome (nu : TimelockLib) (walletId : String) (inputs : List JTxInput) :
    Except CppException (List UnspentOutput × Int) := do
  let txInputs := convert2CTxInputs inputs
  let wallet ← nu.getWallet walletId
  let coins ← nu.getCoinsFromTxInputs wallet.id txInputs
  let chainTip ← nu.getChainTip
  nu.getTimelockedCoins wallet.miniscript coins 0 chainTip

/-- `getTimelockedCoins`: a pair of the lock value and the coins. -/
def getTimelockedCoins (nu : TimelockLib) (walletId : String) (inputs : List JTxInput) :
    Jni (JReturn (Int × List JUnspentOutput)) :=
  catchStd
    (do
      let txInputs := convert2CTxInputs inputs
      let wallet ← call (nu.getWallet walletId)
      let coins ← call (nu.getCoinsFromTxInputs wallet.id txInputs)
      let chainTip ← call nu.getChainTip
      let locked ← call (nu.getTimelockedCoins wallet.miniscript coins 0 chainTip)
      pure (.object (locked.2, convert2JUnspentOutputs valueFromAmount locked.1)))
    (fun e => do
      convertStdException2JException e
      pure .null)

/-- The four calls act as one. -/
theorem getTimelockedCoins_eq (nu : TimelockLib) (walletId : String) (inputs : List JTxInput) :
    getTimelockedCoins valueFromAmount nu walletId inputs =
      catchStd
        (do
          let locked ← call (timelockedCoinsOutcome nu walletId inputs)
          pure (.object (locked.2, convert2JUnspentOutputs valueFromAmount locked.1)))
        (fun e => do
          convertStdException2JException e
          pure .null) := by
  simp only [getTimelockedCoins, timelockedCoinsOutcome, call_bind, bind_assoc]

/-- The one clause drops the code of a `BaseException`; all else crosses. -/
theorem getTimelockedCoins_crosses_iff (nu : TimelockLib) (walletId : String)
    (inputs : List JTxInput) :
    Crosses (timelockedCoinsOutcome nu walletId inputs)
        ((getTimelockedCoins valueFromAmount nu walletId inputs).run {}) ↔
      ∀ code what, timelockedCoinsOutcome nu walletId inputs ≠ .error (.base code what) := by
  rw [getTimelockedCoins_eq]
  cases timelockedCoinsOutcome nu walletId inputs with
  | ok coins =>
    apply iff_of_true
    · exact crosses_returned coins _
    · simp
  | error e =>
    cases e with
    | base code what =>
      apply iff_of_false
      · -- caught as a `std::exception`, without its code
        exact not_crosses_of_message what rfl (message_base_ne code what)
      · simp
    | std what =>
      apply iff_of_true
      · -- nothing is lost of an exception that has no code
        exact crosses_raised (.std what) _
      · simp

end Timelocked

/-! ## getCoinAncestry and getAddressByIndex -/

section Unreturned

variable {α β : Type}

/-- Both clauses raise the exception, and the method ends without a `return`. -/
def wrappedUnreturned (outcome : Except CppException α) (convert : α → β) : Jni (JReturn β) :=
  catchBaseStd
    (do
      let a ← call outcome
      pure (.object (convert a)))
    (fun code what => do
      convert2JException code what
      undefinedBehaviour)
    (fun e => do
      convertStdException2JException e
      undefinedBehaviour)

theorem wrappedUnreturned_crosses_iff (outcome : Except CppException α) (convert : α → β) :
    Crosses outcome ((wrappedUnreturned outcome convert).run {}) ↔ ∃ a, outcome = .ok a := by
  cases outcome with
  | ok a =>
    apply iff_of_true
    · exact crosses_returned a _
    · exact ⟨a, rfl⟩
  | error e =>
    -- both clauses raise the exception and run off the end of the method
    have hundefined : ((wrappedUnreturned (.error e) convert).run {}).1 =
        .error .undefinedBehaviour := by
      cases e with
      | base code what => rfl
      | std what => rfl
    apply iff_of_false
    · exact not_crosses_of_error _ hundefined
    · simp

/-- `getCoinAncestry`. -/
def getCoinAncestry (valueFromAmount : ValueFromAmount)
    (nuGetCoinAncestry : String → String → Int → Except CppException (List (List UnspentOutput)))
    (walletId txId : String) (vout : Int) : Jni (JReturn (List (List JUnspentOutput))) :=
  wrappedUnreturned (nuGetCoinAncestry walletId txId vout)
    (convert2JCollectionUnspentOutputs valueFromAmount)

/-- `getAddressByIndex`; the list of addresses crosses as it is. -/
def getAddressByIndex (lib : LibNunchuk)
    (utilsDeriveAddresses : Wallet → Int → Int → Except CppException (List String))
    (wallet : WalletBridge) (first last : Int) : Jni (JReturn (List String)) :=
  wrappedUnreturned (utilsDeriveAddresses (convert2CWallet lib wallet) first last) id

end Unreturned

/-! ## All five -/

/-- **When failures cross as one typed exception.** For every input and every outcome of the
    library calls:
    - `parseKeystoneWallet` unless its second parser is tried and throws a plain exception,
    - `createSigner` unless the library throws a plain exception,
    - `getTimelockedCoins` unless the library throws a `BaseException`,
    - `getCoinAncestry` and `getAddressByIndex` only when the library does not throw. -/
theorem failures_cross_iff (lib : LibNunchuk) :
    (∀ parseKeystone parseDescriptor chain qrData,
      Crosses (keystoneOutcome parseKeystone parseDescriptor chain qrData)
          ((parseKeystoneWallet lib parseKeystone parseDescriptor chain qrData).run {}) ↔
        ¬ ((∃ code what, parseKeystone (convert2CChain chain) qrData =
              .error (.base code what)) ∧ FallbackEscapes parseDescriptor qrData)) ∧
    (∀ nuCreateSigner a,
      Crosses (nuCreateSigner a)
          ((createSigner lib nuCreateSigner a.name a.xpub a.publicKey a.derivationPath
            a.masterFingerprint a.type a.tags a.replace).run {}) ↔
        ∀ what, nuCreateSigner a ≠ .error (.std what)) ∧
    (∀ nu walletId inputs,
      Crosses (timelockedCoinsOutcome nu walletId inputs)
          ((getTimelockedCoins lib.valueFromAmount nu walletId inputs).run {}) ↔
        ∀ code what, timelockedCoinsOutcome nu walletId inputs ≠ .error (.base code what)) ∧
    (∀ nuGetCoinAncestry walletId txId vout,
      Crosses (nuGetCoinAncestry walletId txId vout)
          ((getCoinAncestry lib.valueFromAmount nuGetCoinAncestry walletId txId vout).run {}) ↔
        ∃ coins, nuGetCoinAncestry walletId txId vout = .ok coins) ∧
    ∀ deriveAddresses wallet first last,
      Crosses (deriveAddresses (convert2CWallet lib wallet) first last)
          ((getAddressByIndex lib deriveAddresses wallet first last).run {}) ↔
        ∃ addresses, deriveAddresses (convert2CWallet lib wallet) first last = .ok addresses := by
  refine ⟨?_, ?_, ?_, ?_, ?_⟩
  · intro parseKeystone parseDescriptor chain qrData
    exact parseKeystoneWallet_crosses_iff lib parseKeystone parseDescriptor chain qrData
  · intro nuCreateSigner a
    exact createSigner_crosses_iff lib nuCreateSigner a
  · intro nu walletId inputs
    exact getTimelockedCoins_crosses_iff lib.valueFromAmount nu walletId inputs
  · intro nuGetCoinAncestry walletId txId vout
    exact wrappedUnreturned_crosses_iff _ _
  · intro deriveAddresses wallet first last
    exact wrappedUnreturned_crosses_iff _ _

/-! ## Failures that do not cross -/

/-- A Keystone QR code of one part that neither parser takes. -/
def rejectedQr : List String := ["not a descriptor"]

/-- A library without the wallet that is asked for. -/
def walletlessLib : TimelockLib where
  getWallet _ := .error (.base (-2) "no wallet")
  getCoinsFromTxInputs _ _ := .ok []
  getChainTip := .ok 0
  getTimelockedCoins _ _ _ _ := .ok ([], 0)

/-- Two exceptions leave their native methods, one loses its code, and two methods do not
    return. -/
theorem failures_escape :
    ¬ Crosses
        (keystoneOutcome (fun _ _ => .error (.base (-1) "bad part"))
          (fun _ => .error (.std "bad descriptor")) 0 rejectedQr)
        ((parseKeystoneWallet .plain (fun _ _ => .error (.base (-1) "bad part"))
          (fun _ => .error (.std "bad descriptor")) 0 rejectedQr).run {}) ∧
      ¬ Crosses (.error (.std "disk full") : Except CppException SingleSigner)
        ((createSigner .plain (fun _ => .error (.std "disk full")) "key" "xpub" "" "m" "00000001"
          .AIRGAP [] false).run {}) ∧
      ¬ Crosses (timelockedCoinsOutcome walletlessLib "w" [])
        ((getTimelockedCoins LibNunchuk.plain.valueFromAmount walletlessLib "w" []).run {}) ∧
      ¬ Crosses (.error (.base (-2) "no wallet") : Except CppException (List (List UnspentOutput)))
        ((getCoinAncestry LibNunchuk.plain.valueFromAmount
          (fun _ _ _ => .error (.base (-2) "no wallet")) "w" "tx" 0).run {}) ∧
      ¬ Crosses (.error (.base (-3) "bad range") : Except CppException (List String))
        ((getAddressByIndex .plain (fun _ _ _ => .error (.base (-3) "bad range"))
          { addressType := 0 } 5 0).run {}) := by
  refine ⟨?_, ?_, ?_, ?_, ?_⟩
  · exact not_crosses_of_error (.thrown (.std "bad descriptor")) rfl
  · exact not_crosses_of_error (.thrown (.std "disk full")) rfl
  · exact not_crosses_of_message "no wallet" rfl (message_base_ne (-2) "no wallet")
  · exact not_crosses_of_error .undefinedBehaviour rfl
  · exact not_crosses_of_error .undefinedBehaviour rfl

end NunchukSdk
