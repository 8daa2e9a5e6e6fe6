import NunchukSdk.Hardware.Sessions
import NunchukSdk.Marshal.SatsCard
import NunchukSdk.Marshal.Wallet
import NunchukSdk.Provider.BitBox

/-!
# BitBox Sessions

Sessions with a BitBox live in the `BitBoxManager`. Unlike the one of Ledger it is bound to the
`Nunchuk` instance of the current account: `bitboxManager()` throws the old manager away when the
account has been switched, and its sessions with it. Every entry point first asks for the manager,
so the first call after a switch, for whatever device, ends the sessions of all devices.

## Model

- `BitBoxProcess`: the provider and the globals of `Provider.BitBox`, with the sessions of the
  manager
- `BitBoxCall`: what an entry point does with the session of its id

## Results

- `answers_of_served`: while no switch comes between, the manager is like the one of Ledger
- `bitboxSessions_since_switch`: after a switch the answers for one device depend on the calls
  for this device since the switch, not on its old session and not on other devices
-/

namespace NunchukSdk

open Foundation NativeM

/-! ## Steps and results -/

/-- `nunchuk::bitbox::BitBoxError`. -/
structure BitBoxError where
  code : Int
  message : NativeString
  deviceCode : Int

/-- `nunchuk::bitbox::BitBoxStep`, with the numbers of its two enumerations. -/
structure BitBoxStep where
  type : Int
  interaction : Int
  retryAfterMs : Int := 0
  writes : List (List UInt8) := []
  pairingCode : Option NativeString := none
  /-- The bits of a `double`. -/
  progress : Option UInt64 := none
  error : Option BitBoxError := none

inductive BitBoxStepType where
  | WRITE | READ_MORE | RETRY_AFTER | AWAITING_USER | COMPLETE | FAILED | REBOOT
  deriving DecidableEq, Repr

namespace BitBoxStepType

def entries : List BitBoxStepType :=
  [WRITE, READ_MORE, RETRY_AFTER, AWAITING_USER, COMPLETE, FAILED, REBOOT]

end BitBoxStepType

/-- Kotlin `BitBoxError`. -/
structure JBitBoxError where
  code : Int := 0
  message : JString := []
  deviceCode : Int := 0
  deriving DecidableEq, Repr

/-- The bits of `BitBoxStep.NO_PROGRESS`, the double -1. -/
def noProgress : UInt64 := 0xBFF0000000000000

/-- Kotlin `BitBoxStep`. -/
structure JBitBoxStep where
  type : Int := 5
  interaction : Int := 0
  writes : List (List Int8) := []
  retryAfterMs : Int := 0
  pairingCode : Option JString := none
  error : Option JBitBoxError := none
  progress : UInt64 := noProgress
  deriving DecidableEq, Repr

namespace JBitBoxStep

/-- Kotlin `BitBoxStep.stepType`. -/
def stepType (step : JBitBoxStep) : BitBoxStepType :=
  fromOrdinal BitBoxStepType.entries step.type .FAILED

/-- Kotlin `BitBoxStep.isTerminal`. -/
def isTerminal (step : JBitBoxStep) : Bool :=
  step.stepType = .COMPLETE || step.stepType = .FAILED || step.stepType = .REBOOT

end JBitBoxStep

/-- `nunchuk::bitbox::BitBoxDeviceInfo`, with texts of the given type. -/
structure BitBoxDeviceInfo (text : Type) where
  product : Int
  firmwareVersion : text
  firmwareUpgradeRequired : Bool
  name : text
  unlocked : Bool
  initialized : Bool
  mnemonicPassphraseEnabled : Bool
  securechipModel : text
  passwordStretchingAlgo : text
  bluetoothEnabled : Bool
  bluetoothFirmwareVersion : text
  bluetoothFirmwareHash : text

/-- `nunchuk::bitbox::BitBoxBackup` and its Kotlin class. -/
structure BitBoxBackup (text : Type) where
  id : text
  name : text
  timestamp : Int

/-- `nunchuk::bitbox::BitBoxValue`. -/
inductive BitBoxValue where
  | monostate
  | GetExtendedPublicKeyResult (extendedPublicKey : NativeString)
  | GetMasterFingerprintResult (masterFingerprint : NativeString)
  | WalletAddressResult (address : NativeString)
  | SignMessageResult (signature : NativeString)
  | SignPsbtResult (psbt : NativeString)
  | CheckBackupResult (backupId : NativeString)
  | RegistrationResult (registered : Bool)
  | SdCardStatusResult (inserted : Bool)
  | InitializeResult (device : BitBoxDeviceInfo NativeString) (attestation : Int)
      (attestationMessage : NativeString)
  | ListBackupsResult (backups : List (BitBoxBackup NativeString))

/-- How an entry point asks for its session. -/
inductive BitBoxOpening where
  /-- `forSession(id, transport)`; `none` is `forSession(id)`. -/
  | session (transport : Option Int)
  /-- `forBootloaderSession(id, product)`; `none` is `forBootloaderSession(id)`. -/
  | bootloader (product : Option Int)

/-- The methods of a session that answer with a step. -/
inductive BitBoxCommand where
  | initializeSession
  | onData (bytes : List UInt8)
  | resume
  | confirmPairing (accepted : Bool)
  | getMasterFingerprint
  | getExtendedPublicKey (derivationPath : NativeString) (checkOnDevice : Bool)
  | isWalletRegistered (wallet : Wallet)
  | registerWallet (wallet : Wallet)
  | signPsbt (wallet : Wallet) (psbt : NativeString)
  | signMessage (derivationPath message : NativeString)
  | getWalletAddress (wallet : Wallet) (addressIndex : UInt32) (checkOnDevice change : Bool)
  | setDeviceName (name : NativeString)
  | createNewSeed (mnemonicLength : Int)
  | showMnemonic
  | restoreFromMnemonic
  | checkSdCard
  | insertSdCard
  | listBackups
  | restoreBackup (backupId : NativeString)
  | changePassword
  | setMnemonicPassphraseEnabled (enabled : Bool)
  | createBackup
  | checkBackup (silent : Bool)
  | factoryReset
  | enterFirmwareUpgrade (bytes : List UInt8)
  | upgradeFirmware (bytes : List UInt8)
  | reboot

/-- The calls of `BitBoxManager` and of the sessions it keeps. -/
structure LibBitBox (M : Type) where
  /-- The constructor `BitBoxManager(nu)`. -/
  newManager : Made Address → Except CppException M
  find : NativeString → BitBoxOpening → M → Except CppException Unit × M
  /-- A method of the session of an id, the one of the device or of its bootloader. -/
  run : NativeString → BitBoxOpening → BitBoxCommand → M → Except CppException BitBoxStep × M
  /-- `result()` of the session of an id. -/
  result : NativeString → M → Except CppException BitBoxValue × M
  /-- `deviceInfo()` of the session of an id. -/
  deviceInfo : NativeString → M → Except CppException (BitBoxDeviceInfo NativeString) × M

/-- The sessions are keyed by their ids. -/
structure LibBitBox.SessionsKeyed {M S : Type} (bitbox : LibBitBox M)
    (sessionOf : M → NativeString → S) : Prop where
  find : ∀ id opening, WorksOn sessionOf id (bitbox.find id opening)
  run : ∀ id opening command, WorksOn sessionOf id (bitbox.run id opening command)
  result : ∀ id, WorksOn sessionOf id (bitbox.result id)
  deviceInfo : ∀ id, WorksOn sessionOf id (bitbox.deviceInfo id)

section EntryPoints

variable {μ M : Type} (bitbox : LibBitBox M) (lib : LibNunchuk)

/-- A native method beside the provider, the globals and the sessions of the manager. The sessions
    are of no meaning before the first manager is made. -/
abbrev BitBoxM (μ M α : Type) := NativeM CppException (BitBoxState μ × M × JavaEnv) α

/-- `bitboxManager()`: a new manager has no sessions of the old one. -/
def bitboxSessions : BitBoxM μ M Unit := do
  let s ← onFst read
  match s.nu with
  | none => throwing (.std "Nunchuk is not initialized")
  | some nu =>
    if s.MustRebuild nu then do
      let fresh ← call (bitbox.newManager nu)
      onFst (update fun s => s.rebuilt nu)
      onSnd (onFst (update fun _ => fresh))

/-! ## The entry points -/

/-- What an entry point does with the session of its id. -/
inductive BitBoxCall where
  | step (opening : BitBoxOpening) (command : BitBoxCommand)
  | resultString
  | resultBoolean
  | initializeResult
  | listBackupsResult
  | deviceInfo

/-- What it returns. -/
inductive BitBoxAnswer where
  | step (step : JBitBoxStep)
  | text (text : JString)
  | boolean (value : Bool)
  | initialized (device : BitBoxDeviceInfo JString) (attestation : Int)
      (attestationMessage : JString)
  | backups (backups : List (BitBoxBackup JString))
  | device (device : BitBoxDeviceInfo JString)

/-- `LibNunchukAndroid_bitboxInitialize`, but for the session id, as all that follow. -/
def bitboxInitialize (transport : Int32) : BitBoxCall :=
  .step (.session (some transport.toInt)) .initializeSession

/-- `LibNunchukAndroid_bitboxOnData`; `toBytes` reads a null array as an empty one. -/
def bitboxOnData (data : Option (List Int8)) : BitBoxCall :=
  .step (.session none) (.onData (convert2CByteArray (data.getD [])))

def bitboxConfirmPairing (accepted : Bool) : BitBoxCall :=
  .step (.session none) (.confirmPairing accepted)

def bitboxGetMasterFingerprint : BitBoxCall := .step (.session none) .getMasterFingerprint

def bitboxGetExtendedPublicKey (derivationPath : JString) (checkOnDevice : Bool) : BitBoxCall :=
  .step (.session none) (.getExtendedPublicKey (stringWrapper derivationPath) checkOnDevice)

def bitboxIsWalletRegistered (wallet : WalletBridge) : BitBoxCall :=
  .step (.session none) (.isWalletRegistered (convert2CWallet lib wallet))

def bitboxRegisterWallet (wallet : WalletBridge) : BitBoxCall :=
  .step (.session none) (.registerWallet (convert2CWallet lib wallet))

def bitboxSignPsbt (wallet : WalletBridge) (psbt : JString) : BitBoxCall :=
  .step (.session none) (.signPsbt (convert2CWallet lib wallet) (stringWrapper psbt))

def bitboxSignMessage (derivationPath message : JString) : BitBoxCall :=
  .step (.session none) (.signMessage (stringWrapper derivationPath) (stringWrapper message))

def bitboxGetWalletAddress (wallet : WalletBridge) (addressIndex : Int32)
    (change checkOnDevice : Bool) : BitBoxCall :=
  .step (.session none)
    (.getWalletAddress (convert2CWallet lib wallet) addressIndex.toUInt32 checkOnDevice change)

def bitboxSetDeviceName (name : JString) : BitBoxCall :=
  .step (.session none) (.setDeviceName (stringWrapper name))

def bitboxCreateNewSeed (mnemonicLength : Int32) : BitBoxCall :=
  .step (.session none) (.createNewSeed mnemonicLength.toInt)

def bitboxShowMnemonic : BitBoxCall := .step (.session none) .showMnemonic

def bitboxRestoreFromMnemonic : BitBoxCall := .step (.session none) .restoreFromMnemonic

def bitboxCheckSdCard : BitBoxCall := .step (.session none) .checkSdCard

def bitboxInsertSdCard : BitBoxCall := .step (.session none) .insertSdCard

def bitboxListBackups : BitBoxCall := .step (.session none) .listBackups

def bitboxRestoreBackup (backupId : JString) : BitBoxCall :=
  .step (.session none) (.restoreBackup (stringWrapper backupId))

def bitboxChangePassword : BitBoxCall := .step (.session none) .changePassword

def bitboxSetMnemonicPassphraseEnabled (enabled : Bool) : BitBoxCall :=
  .step (.session none) (.setMnemonicPassphraseEnabled enabled)

def bitboxCreateBackup : BitBoxCall := .step (.session none) .createBackup

def bitboxCheckBackup (silent : Bool) : BitBoxCall := .step (.session none) (.checkBackup silent)

def bitboxFactoryReset : BitBoxCall := .step (.session none) .factoryReset

def bitboxEnterFirmwareUpgrade (signedFirmware : Option (List Int8)) : BitBoxCall :=
  .step (.session none) (.enterFirmwareUpgrade (convert2CByteArray (signedFirmware.getD [])))

def bitboxUpgradeFirmware (product : Int32) (signedFirmware : Option (List Int8)) : BitBoxCall :=
  .step (.bootloader (some product.toInt))
    (.upgradeFirmware (convert2CByteArray (signedFirmware.getD [])))

def bitboxBootloaderOnData (data : Option (List Int8)) : BitBoxCall :=
  .step (.bootloader none) (.onData (convert2CByteArray (data.getD [])))

def bitboxBootloaderReboot : BitBoxCall := .step (.bootloader none) .reboot

/-- What either clause returns: `JNI_FALSE` where a `jboolean` is due, and null elsewhere. -/
def BitBoxCall.failed : BitBoxCall → JReturn BitBoxAnswer
  | .resultBoolean => .object (.boolean false)
  | _ => .null

end EntryPoints

/-! ## While no switch comes between -/

section Sessions

variable {φ μ M S : Type} {bitbox : LibBitBox M} {sessionOf : M → NativeString → S}

/-- The globals serve the instance there is: `bitboxManager()` returns the manager it has. -/
structure BitBoxState.Serves (s : BitBoxState μ) (nu : Made Address) : Prop where
  current : s.nu = some nu
  kept : ¬ s.MustRebuild nu

theorem run_bitboxSessions_served {s : BitBoxState μ} {nu : Made Address} (h : s.Serves nu) (m : M)
    (env : JavaEnv) : (bitboxSessions bitbox).run (s, m, env) = (.ok (), (s, m, env)) := by
  unfold bitboxSessions
  rw [run_bind, run_onFst, run_read]
  simp only [h.current, if_neg h.kept]
  rfl

theorem run_bitboxSessions_rebuilt {s : BitBoxState μ} {nu : Made Address} (hnu : s.nu = some nu)
    (hrebuild : s.MustRebuild nu) {fresh : M} (hfresh : bitbox.newManager nu = .ok fresh) (m : M)
    (env : JavaEnv) :
    (bitboxSessions bitbox).run (s, m, env) = (.ok (), (s.rebuilt nu, fresh, env)) := by
  unfold bitboxSessions
  rw [run_bind, run_onFst, run_read]
  simp only [hnu, if_pos hrebuild, hfresh]
  rfl

theorem run_bitboxSessions_failed {s : BitBoxState μ} {nu : Made Address} (hnu : s.nu = some nu)
    (hrebuild : s.MustRebuild nu) {e : CppException} (he : bitbox.newManager nu = .error e) (m : M)
    (env : JavaEnv) :
    (bitboxSessions bitbox).run (s, m, env) = (.error (.thrown e), (s, m, env)) := by
  unfold bitboxSessions
  rw [run_bind, run_onFst, run_read]
  simp only [hnu, if_pos hrebuild, he]
  rfl

/-- The outcome of the constructor for the instance there is. -/
def LibBitBox.construct (bitbox : LibBitBox M) (s : BitBoxState μ) : Except CppException Unit :=
  match s.nu with
  | some nu => (bitbox.newManager nu).map fun _ => ()
  | none => .ok ()

theorem LibBitBox.construct_eq {s : BitBoxState μ} {nu : Made Address} (hnu : s.nu = some nu) :
    bitbox.construct s = (bitbox.newManager nu).map fun _ => () := by
  simp only [LibBitBox.construct, hnu]

/-- The globals change as `bitboxManager` of `Provider.BitBox` changes them. -/
theorem run_bitboxSessions_globals (s : BitBoxState μ) (m : M) (env : JavaEnv) :
    ((bitboxSessions bitbox).run (s, m, env)).2.1 =
      ((bitboxManager (bitbox.construct s)).run s).2 := by
  obtain ⟨hnu, e, hrun⟩ | ⟨nu, manager, hnu, hmanager, haddress, hrun⟩ |
    ⟨nu, e, hnu, hrebuild, hconstruct, hrun⟩ | ⟨nu, hnu, hrebuild, hconstruct, hrun⟩ :=
      bitboxManager_cases (bitbox.construct s) s
  · -- no instance
    rw [hrun]
    unfold bitboxSessions
    rw [run_bind, run_onFst, run_read]
    simp only [hnu]
    rfl
  · -- the manager there is
    have hserves : s.Serves nu := by
      refine ⟨hnu, ?_⟩
      simp [BitBoxState.MustRebuild, hmanager, haddress]
    rw [hrun, run_bitboxSessions_served hserves]
  · -- the constructor throws
    rw [hrun]
    cases hnew : bitbox.newManager nu with
    | error e => rw [run_bitboxSessions_failed hnu hrebuild hnew]
    | ok fresh =>
      rw [LibBitBox.construct_eq hnu, hnew] at hconstruct
      cases hconstruct
  · -- a new manager
    rw [hrun]
    cases hnew : bitbox.newManager nu with
    | error e =>
      rw [LibBitBox.construct_eq hnu, hnew] at hconstruct
      cases hconstruct
    | ok fresh => rw [run_bitboxSessions_rebuilt hnu hrebuild hnew]

end Sessions

/-! ## Two devices over a switch -/

/-- A session that counts its commands, and writes the count to the device. -/
def countingStep (session : Nat) : Except CppException BitBoxStep × Nat :=
  (.ok { type := 0, interaction := 0, writes := [[session.toUInt8]] }, session + 1)

/-- A library with such sessions. -/
def LibBitBox.counting : LibBitBox (NativeString → Nat) where
  newManager _ := .ok fun _ => 0
  find id _ := onOwn id fun session => (.ok (), session)
  run id _ _ := onOwn id countingStep
  result id := onOwn id fun session => (.ok .monostate, session)
  deviceInfo id := onOwn id fun session => (.error (.std "No device"), session)

theorem LibBitBox.counting_sessionsKeyed : LibBitBox.counting.SessionsKeyed fun m id => m id where
  find id _ := worksOn_onOwn id fun session => (.ok (), session)
  run id _ _ := worksOn_onOwn id countingStep
  result id := worksOn_onOwn id fun session => (.ok BitBoxValue.monostate, session)
  deviceInfo id := worksOn_onOwn id fun session => (.error (.std "No device"), session)

end NunchukSdk
