import NunchukSdk.Hardware.Sessions
import NunchukSdk.Marshal.SatsCard
import NunchukSdk.Marshal.Wallet

/-!
# Ledger Sessions

`ledger-jni.cpp` keeps one `LedgerManager` for the whole process. Every entry point asks it for
the session of an id, runs one command on the session and converts the step that comes back.
Several devices can be connected at once, and the app may drive them in any order.

## Model

- `LibLedger`: the manager's calls, on any type of manager
- `LibLedger.SessionsKeyed`: what the file says of the manager, that sessions are keyed by the id
- `LedgerCall`: the entry points that reach the manager, with the arguments Kotlin gives

## Results

- `ledgerSessions_separate`: in every interleaving of calls for any number of devices, what Java
  gets for one device is what it would get if that device were the only one
-/

namespace NunchukSdk

open Foundation NativeM

/-! ## Steps on both sides -/

/-- `nunchuk::ledger::LedgerError`. -/
structure LedgerError where
  code : Int
  message : NativeString
  statusWord : UInt16

/-- `nunchuk::ledger::LedgerStep`, with the numbers of its two enumerations. -/
structure LedgerStep where
  type : Int
  interaction : Int
  writes : List (List UInt8) := []
  error : Option LedgerError := none

inductive LedgerStepType where
  | WRITE | READ_MORE | COMPLETE | FAILED | APP_SWITCH
  deriving DecidableEq, Repr

namespace LedgerStepType

def entries : List LedgerStepType := [WRITE, READ_MORE, COMPLETE, FAILED, APP_SWITCH]

def ordinal : LedgerStepType → Int
  | WRITE => 0
  | READ_MORE => 1
  | COMPLETE => 2
  | FAILED => 3
  | APP_SWITCH => 4

end LedgerStepType

/-- Kotlin `LedgerError`. -/
structure JLedgerError where
  code : Int := 0
  message : JString := []
  statusWord : Int := 0
  deriving DecidableEq, Repr

/-- Kotlin `LedgerStep`. -/
structure JLedgerStep where
  type : Int := LedgerStepType.FAILED.ordinal
  interaction : Int := 0
  writes : List (List Int8) := []
  error : Option JLedgerError := none
  deriving DecidableEq, Repr

/-- Kotlin `LedgerStep.stepType`. -/
def JLedgerStep.stepType (step : JLedgerStep) : LedgerStepType :=
  fromOrdinal LedgerStepType.entries step.type .FAILED

/-- The `LedgerError` that `convert2JLedgerStep` makes. -/
def convert2JLedgerError (error : LedgerError) : Jni JLedgerError := do
  let msg ← defined (newStringUTF error.message)
  pure { code := error.code, message := msg, statusWord := error.statusWord.toNat }

/-- `convert2JLedgerStep`. -/
def convert2JLedgerStep (step : LedgerStep) : Jni JLedgerStep := do
  let error ← match step.error with
    | none => pure none
    | some error => do
      let errInstance ← convert2JLedgerError error
      pure (some errInstance)
  pure
    { type := step.type
      interaction := step.interaction
      writes := step.writes.map convert2JByteArray
      error := error }

/-- `nunchuk::ledger::LedgerValue`. -/
inductive LedgerValue where
  | monostate
  | GetExtendedPublicKeyResult (extendedPublicKey : NativeString)
  | GetMasterFingerprintResult (masterFingerprint : NativeString)
  | SignMessageResult (signature : NativeString)
  | SignPsbtResult (psbt : NativeString)
  | RegisteredWalletResult (hmac : NativeString)
  | WalletAddressResult (address : NativeString)

/-- `ledgerResultToString`. -/
def ledgerResultToString : LedgerValue → NativeString
  | .GetExtendedPublicKeyResult extendedPublicKey => extendedPublicKey
  | .GetMasterFingerprintResult masterFingerprint => masterFingerprint
  | .SignMessageResult signature => signature
  | .SignPsbtResult psbt => psbt
  | .RegisteredWalletResult hmac => hmac
  | .WalletAddressResult address => address
  | .monostate => []

/-! ## The manager -/

/-- The methods of a `LedgerSession` that answer with a step. -/
inductive LedgerCommand where
  | getMasterFingerprint
  | getExtendedPublicKey (walletType : WalletType) (addressType : AddressType) (index : Int32)
  | signMessage (derivationPath message : NativeString)
  | registerWallet (wallet : Wallet)
  | signPsbt (wallet : Wallet) (hmac psbt : NativeString)
  | getWalletAddress (wallet : Wallet) (hmac : NativeString) (addressIndex : UInt32)
      (checkOnDevice change : Bool)
  | onData (bytes : List UInt8)
  | resume

/-- The calls of `LedgerManager` and of the sessions it keeps. -/
structure LibLedger (M : Type) where
  /-- `forSession(id, transport)`; `none` is `forSession(id)`. -/
  forSession : NativeString → Option Int → M → Except CppException Unit × M
  /-- A method of the session of an id. -/
  run : NativeString → LedgerCommand → M → Except CppException LedgerStep × M
  /-- `result()` of the session of an id. -/
  result : NativeString → M → Except CppException LedgerValue × M

/-- The sessions are keyed by their ids. -/
structure LibLedger.SessionsKeyed {M S : Type} (ledger : LibLedger M)
    (sessionOf : M → NativeString → S) : Prop where
  forSession : ∀ id transport, WorksOn sessionOf id (ledger.forSession id transport)
  run : ∀ id command, WorksOn sessionOf id (ledger.run id command)
  result : ∀ id, WorksOn sessionOf id (ledger.result id)

/-! ## The entry points -/

section EntryPoints

variable {M : Type} (ledger : LibLedger M) (lib : LibNunchuk)

/-- A native method beside the manager. -/
abbrev LedgerM (M α : Type) := NativeM CppException (M × JavaEnv) α

/-- The entry points that answer with a step: the session, one command, the step. -/
def ledgerStepMethod (sessionId : JString) (transport : Option Int32) (command : LedgerCommand) :
    LedgerM M (JReturn JLedgerStep) :=
  nativeMethod
    (sessionMethod
      (ledger.forSession (stringWrapper sessionId) (transport.map Int32.toInt))
      (ledger.run (stringWrapper sessionId) command)
      fun step => do
        let shown ← convert2JLedgerStep step
        pure (.object shown))
    .null .null

/-- `LibNunchukAndroid_ledgerGetMasterFingerprint`. -/
def ledgerGetMasterFingerprint (sessionId : JString) (transport : Int32) :
    LedgerM M (JReturn JLedgerStep) :=
  ledgerStepMethod ledger sessionId (some transport) .getMasterFingerprint

/-- `LibNunchukAndroid_ledgerGetExtendedPublicKey`. -/
def ledgerGetExtendedPublicKey (sessionId : JString)
    (transport walletType addressType index : Int32) : LedgerM M (JReturn JLedgerStep) :=
  ledgerStepMethod ledger sessionId (some transport)
    (.getExtendedPublicKey (convert2CWalletType walletType.toInt)
      (convert2CAddressType addressType.toInt) index)

/-- `LibNunchukAndroid_ledgerSignMessage`. -/
def ledgerSignMessage (sessionId : JString) (transport : Int32) (derivationPath message : JString) :
    LedgerM M (JReturn JLedgerStep) :=
  ledgerStepMethod ledger sessionId (some transport)
    (.signMessage (stringWrapper derivationPath) (stringWrapper message))

/-- `LibNunchukAndroid_ledgerRegisterWallet`. -/
def ledgerRegisterWallet (sessionId : JString) (transport : Int32) (wallet : WalletBridge) :
    LedgerM M (JReturn JLedgerStep) :=
  ledgerStepMethod ledger sessionId (some transport)
    (.registerWallet (convert2CWallet lib wallet))

/-- `LibNunchukAndroid_ledgerSignPsbt`. -/
def ledgerSignPsbt (sessionId : JString) (transport : Int32) (wallet : WalletBridge)
    (hmac psbt : JString) : LedgerM M (JReturn JLedgerStep) :=
  ledgerStepMethod ledger sessionId (some transport)
    (.signPsbt (convert2CWallet lib wallet) (stringWrapper hmac) (stringWrapper psbt))

/-- `LibNunchukAndroid_ledgerGetWalletAddress`. -/
def ledgerGetWalletAddress (sessionId : JString) (transport : Int32) (wallet : WalletBridge)
    (hmac : JString) (addressIndex : Int32) (change : Bool) : LedgerM M (JReturn JLedgerStep) :=
  ledgerStepMethod ledger sessionId (some transport)
    (.getWalletAddress (convert2CWallet lib wallet) (stringWrapper hmac) addressIndex.toUInt32
      true change)

/-- `LibNunchukAndroid_ledgerOnData`. -/
def ledgerOnData (sessionId : JString) (data : List Int8) : LedgerM M (JReturn JLedgerStep) :=
  ledgerStepMethod ledger sessionId none (.onData (convert2CByteArray data))

/-- `LibNunchukAndroid_ledgerResume`. -/
def ledgerResume (sessionId : JString) : LedgerM M (JReturn JLedgerStep) :=
  ledgerStepMethod ledger sessionId none .resume

/-- `LibNunchukAndroid_ledgerResultString`. -/
def ledgerResultString (sessionId : JString) : LedgerM M (JReturn JString) :=
  nativeMethod
    (sessionMethod (ledger.forSession (stringWrapper sessionId) none)
      (ledger.result (stringWrapper sessionId))
      fun value => do
        let text ← defined (newStringUTF (ledgerResultToString value))
        pure (.object text))
    .null .null

end EntryPoints

/-! ## Devices in any order -/

/-- A call of an entry point, but for the session id. -/
inductive LedgerCall where
  | getMasterFingerprint (transport : Int32)
  | getExtendedPublicKey (transport walletType addressType index : Int32)
  | signMessage (transport : Int32) (derivationPath message : JString)
  | registerWallet (transport : Int32) (wallet : WalletBridge)
  | signPsbt (transport : Int32) (wallet : WalletBridge) (hmac psbt : JString)
  | getWalletAddress (transport : Int32) (wallet : WalletBridge) (hmac : JString)
      (addressIndex : Int32) (change : Bool)
  | onData (data : List Int8)
  | resume
  | resultString

section Separation

variable {M S : Type} (ledger : LibLedger M) (lib : LibNunchuk)

/-- The entry point that a call reaches. It returns a step, or the text of a result. -/
def ledgerMethod (sessionId : JString) : LedgerCall → LedgerM M (JReturn (JLedgerStep ⊕ JString))
  | .getMasterFingerprint transport => do
    let returned ← ledgerGetMasterFingerprint ledger sessionId transport
    pure (returned.map .inl)
  | .getExtendedPublicKey transport walletType addressType index => do
    let returned ←
      ledgerGetExtendedPublicKey ledger sessionId transport walletType addressType index
    pure (returned.map .inl)
  | .signMessage transport derivationPath message => do
    let returned ← ledgerSignMessage ledger sessionId transport derivationPath message
    pure (returned.map .inl)
  | .registerWallet transport wallet => do
    let returned ← ledgerRegisterWallet ledger lib sessionId transport wallet
    pure (returned.map .inl)
  | .signPsbt transport wallet hmac psbt => do
    let returned ← ledgerSignPsbt ledger lib sessionId transport wallet hmac psbt
    pure (returned.map .inl)
  | .getWalletAddress transport wallet hmac addressIndex change => do
    let returned ←
      ledgerGetWalletAddress ledger lib sessionId transport wallet hmac addressIndex change
    pure (returned.map .inl)
  | .onData data => do
    let returned ← ledgerOnData ledger sessionId data
    pure (returned.map .inl)
  | .resume => do
    let returned ← ledgerResume ledger sessionId
    pure (returned.map .inl)
  | .resultString => do
    let returned ← ledgerResultString ledger sessionId
    pure (returned.map .inr)

/-- One call of a run: what Java gets and the manager after it. -/
def ledgerStep : M → JString → LedgerCall → JResult (JLedgerStep ⊕ JString) × M :=
  freshStep {} (ledgerMethod ledger lib)

variable {ledger lib} {sessionOf : M → NativeString → S}

theorem respects_ledgerStepMethod (h : ledger.SessionsKeyed sessionOf) (sessionId : JString)
    (transport : Option Int32) (command : LedgerCommand) :
    Respects (FstAlike (SameSession sessionOf sessionId))
      (ledgerStepMethod ledger sessionId transport command) :=
  Respects.nativeMethod (respects_sessionMethod (h.forSession _ _) (h.run _ _) _) _ _

theorem unnoticed_ledgerStepMethod (h : ledger.SessionsKeyed sessionOf)
    {sessionId sessionId' : JString} (hne : sessionId' ≠ sessionId) (transport : Option Int32)
    (command : LedgerCommand) :
    Unnoticed (OnFst (SameSession sessionOf sessionId))
      (ledgerStepMethod ledger sessionId' transport command) :=
  Unnoticed.nativeMethod (unnoticed_sessionMethod hne (h.forSession _ _) (h.run _ _) _) _ _

/-- Every entry point respects its own session. -/
theorem respects_ledgerMethod (h : ledger.SessionsKeyed sessionOf) (sessionId : JString)
    (call : LedgerCall) :
    Respects (FstAlike (SameSession sessionOf sessionId))
      (ledgerMethod ledger lib sessionId call) := by
  cases call with
  | resultString =>
    apply (Respects.nativeMethod
      (respects_sessionMethod (h.forSession _ _) (h.result _) _) _ _).bind
    exact fun _ => respects_pure _
  | _ => exact (respects_ledgerStepMethod h _ _ _).bind fun _ => respects_pure _

/-- No other session notices it. -/
theorem unnoticed_ledgerMethod (h : ledger.SessionsKeyed sessionOf) {sessionId sessionId' : JString}
    (hne : sessionId' ≠ sessionId) (call : LedgerCall) :
    Unnoticed (OnFst (SameSession sessionOf sessionId))
      (ledgerMethod ledger lib sessionId' call) := by
  cases call with
  | resultString =>
    apply (Unnoticed.nativeMethod
      (unnoticed_sessionMethod hne (h.forSession _ _) (h.result _) _) _ _).bind
    exact fun _ => unnoticed_pure _
  | _ => exact (unnoticed_ledgerStepMethod h hne _ _).bind fun _ => unnoticed_pure _

/-- **Devices do not interfere.** Whatever the app does with other devices, and in whatever order,
    the steps, results and exceptions for one session id are those of its own calls alone, made to
    any manager that has the same session under the id. -/
theorem ledgerSessions_separate (h : ledger.SessionsKeyed sessionOf) {sessionId : JString}
    {m m' : M} (hsame : SameSession sessionOf sessionId m m')
    (calls : List (JString × LedgerCall)) :
    ofKey sessionId (answers (ledgerStep ledger lib) m calls) =
      alone (ledgerStep ledger lib) sessionId m' (ofKey sessionId calls) := by
  have hseparated : Separated (SameSession sessionOf) (ledgerStep ledger lib) := by
    apply separated_freshStep
    · exact respects_ledgerMethod h
    · exact fun _ _ call hne => unnoticed_ledgerMethod h hne call
  exact hseparated.answersTo_eq hsame calls

/-- A session that counts its commands: it is made by a call with a transport. -/
def countingFind (transport : Option Int) : Option Nat → Except CppException Unit × Option Nat
  | some n => (.ok (), some n)
  | none =>
    match transport with
    | some _ => (.ok (), some 0)
    | none => (.error (.std "Unknown session"), none)

/-- It writes the count to the device. -/
def countingRun (session : Option Nat) : Except CppException LedgerStep × Option Nat :=
  (.ok { type := 0, interaction := 0, writes := [[(session.getD 0).toUInt8]] },
    some (session.getD 0 + 1))

/-- A library with such sessions. -/
def LibLedger.counting : LibLedger (NativeString → Option Nat) where
  forSession id transport := onOwn id (countingFind transport)
  run id _ := onOwn id countingRun
  result id := onOwn id fun session => (.ok .monostate, session)

theorem LibLedger.counting_sessionsKeyed :
    LibLedger.counting.SessionsKeyed fun m id => m id where
  forSession id transport := worksOn_onOwn id (countingFind transport)
  run id _ := worksOn_onOwn id countingRun
  result id := worksOn_onOwn id fun session => (.ok LedgerValue.monostate, session)

/-- Two devices in turn: the first one gets the frames 0 and 1. -/
theorem ledger_two_devices :
    ofKey [65] (answers (ledgerStep LibLedger.counting .plain) (fun _ => none)
        [([65], .getMasterFingerprint 0), ([66], .getMasterFingerprint 1), ([65], .onData [7]),
          ([66], .resume)]) =
      alone (ledgerStep LibLedger.counting .plain) [65] (fun _ => none)
        [.getMasterFingerprint 0, .onData [7]] :=
  ledgerSessions_separate LibLedger.counting_sessionsKeyed rfl _

end Separation

end NunchukSdk
