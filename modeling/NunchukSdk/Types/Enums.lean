import Mathlib.Logic.Basic

/-!
# Enumerations on Both Sides of the Boundary

Each enumeration exists twice, as a `nunchuk::` C++ enum and as a Kotlin `enum class`, with the
same enumerators in the same order. One inductive type stands for both; `ordinal` is the Kotlin
ordinal, and the position the `switch` of `serializer.cpp` maps back. The number that a C++ cast
`(int) value` gives is a parameter of the library (`LibNunchuk`).

`fromOrdinal` is Kotlin's `CollectionUtil.fromOrdinal`, with the default of each helper object.
-/

namespace NunchukSdk

/-- `CollectionUtil.fromOrdinal(values, ordinal, defaultValue)`. -/
def fromOrdinal {α : Type} (values : List α) (ordinal : Int) (defaultValue : α) : α :=
  if ordinal < 0 then defaultValue else values.getD ordinal.toNat defaultValue

/-! ## Chain and backend -/

inductive Chain where
  | MAIN | TESTNET | SIGNET | REGTEST
  deriving DecidableEq, Repr

/-- `Serializer::convert2CChain`. -/
def convert2CChain (ordinal : Int) : Chain :=
  match ordinal with
  | 0 => .MAIN
  | 1 => .TESTNET
  | 2 => .SIGNET
  | _ => .REGTEST

inductive BackendType where
  | ELECTRUM | CORERPC
  deriving DecidableEq, Repr

/-- `Serializer::convert2CBackendType`. -/
def convert2CBackendType (ordinal : Int) : BackendType :=
  if ordinal = 0 then .ELECTRUM else .CORERPC

/-! ## Address type -/

inductive AddressType where
  | ANY | LEGACY | NESTED_SEGWIT | NATIVE_SEGWIT | TAPROOT
  deriving DecidableEq, Repr

namespace AddressType

def entries : List AddressType := [ANY, LEGACY, NESTED_SEGWIT, NATIVE_SEGWIT, TAPROOT]

def ordinal : AddressType → Int
  | ANY => 0
  | LEGACY => 1
  | NESTED_SEGWIT => 2
  | NATIVE_SEGWIT => 3
  | TAPROOT => 4

/-- Kotlin `AddressTypeHelper.from`. -/
def helperFrom (ordinal : Int) : AddressType := fromOrdinal entries ordinal NATIVE_SEGWIT

@[simp] theorem helperFrom_ordinal (t : AddressType) : helperFrom t.ordinal = t := by
  cases t <;> rfl

end AddressType

/-- `Serializer::convert2CAddressType`. -/
def convert2CAddressType (ordinal : Int) : AddressType :=
  match ordinal with
  | 0 => .ANY
  | 1 => .LEGACY
  | 2 => .NESTED_SEGWIT
  | 3 => .NATIVE_SEGWIT
  | 4 => .TAPROOT
  | _ => .NATIVE_SEGWIT

@[simp] theorem convert2CAddressType_ordinal (t : AddressType) :
    convert2CAddressType t.ordinal = t := by
  cases t <;> rfl

/-! ## Wallet type and template -/

inductive WalletType where
  | SINGLE_SIG | MULTI_SIG | ESCROW | MINISCRIPT | LIQUID
  deriving DecidableEq, Repr

namespace WalletType

def entries : List WalletType := [SINGLE_SIG, MULTI_SIG, ESCROW, MINISCRIPT, LIQUID]

def ordinal : WalletType → Int
  | SINGLE_SIG => 0
  | MULTI_SIG => 1
  | ESCROW => 2
  | MINISCRIPT => 3
  | LIQUID => 4

/-- Kotlin `WalletTypeHelper.from`. -/
def helperFrom (ordinal : Int) : WalletType := fromOrdinal entries ordinal MULTI_SIG

@[simp] theorem helperFrom_ordinal (t : WalletType) : helperFrom t.ordinal = t := by
  cases t <;> rfl

end WalletType

/-- `Serializer::convert2CWalletType`. -/
def convert2CWalletType (ordinal : Int) : WalletType :=
  match ordinal with
  | 0 => .SINGLE_SIG
  | 1 => .MULTI_SIG
  | 2 => .ESCROW
  | 3 => .MINISCRIPT
  | 4 => .LIQUID
  | _ => .ESCROW

inductive WalletTemplate where
  | DEFAULT | DISABLE_KEY_PATH
  deriving DecidableEq, Repr

namespace WalletTemplate

def entries : List WalletTemplate := [DEFAULT, DISABLE_KEY_PATH]

def ordinal : WalletTemplate → Int
  | DEFAULT => 0
  | DISABLE_KEY_PATH => 1

/-- Kotlin `WalletTemplate.from`, which is `entries[value]`; `none` is the
    `IndexOutOfBoundsException`. -/
def «from» (value : Int) : Option WalletTemplate :=
  if value < 0 then none else entries[value.toNat]?

@[simp] theorem from_ordinal (t : WalletTemplate) : WalletTemplate.from t.ordinal = some t := by
  cases t <;> rfl

end WalletTemplate

/-! ## Signer type and tags -/

inductive SignerType where
  | UNKNOWN | HARDWARE | AIRGAP | SOFTWARE | FOREIGN_SOFTWARE | NFC | COLDCARD_NFC | SERVER
  | PORTAL_NFC | PLATFORM
  deriving DecidableEq, Repr

namespace SignerType

def entries : List SignerType :=
  [UNKNOWN, HARDWARE, AIRGAP, SOFTWARE, FOREIGN_SOFTWARE, NFC, COLDCARD_NFC, SERVER, PORTAL_NFC,
    PLATFORM]

def ordinal : SignerType → Int
  | UNKNOWN => 0
  | HARDWARE => 1
  | AIRGAP => 2
  | SOFTWARE => 3
  | FOREIGN_SOFTWARE => 4
  | NFC => 5
  | COLDCARD_NFC => 6
  | SERVER => 7
  | PORTAL_NFC => 8
  | PLATFORM => 9

/-- Kotlin `SignerTypeHelper.from`. -/
def helperFrom (ordinal : Int) : SignerType := fromOrdinal entries ordinal AIRGAP

@[simp] theorem helperFrom_ordinal (t : SignerType) : helperFrom t.ordinal = t := by
  cases t <;> rfl

end SignerType

/-- The `switch` of `Serializer::convert2CSignerType` over the Kotlin ordinal. -/
def convert2CSignerType (ordinal : Int) : SignerType :=
  match ordinal with
  | 1 => .HARDWARE
  | 2 => .AIRGAP
  | 3 => .SOFTWARE
  | 4 => .FOREIGN_SOFTWARE
  | 5 => .NFC
  | 6 => .COLDCARD_NFC
  | 7 => .SERVER
  | 8 => .PORTAL_NFC
  | 9 => .PLATFORM
  | _ => .UNKNOWN

@[simp] theorem convert2CSignerType_ordinal (t : SignerType) :
    convert2CSignerType t.ordinal = t := by
  cases t <;> rfl

inductive SignerTag where
  | INHERITANCE | KEYSTONE | JADE | PASSPORT | SEEDSIGNER | COLDCARD | TREZOR | LEDGER | BITBOX
  | KEEPKEY | KRUX
  deriving DecidableEq, Repr

namespace SignerTag

def entries : List SignerTag :=
  [INHERITANCE, KEYSTONE, JADE, PASSPORT, SEEDSIGNER, COLDCARD, TREZOR, LEDGER, BITBOX, KEEPKEY,
    KRUX]

def ordinal : SignerTag → Int
  | INHERITANCE => 0
  | KEYSTONE => 1
  | JADE => 2
  | PASSPORT => 3
  | SEEDSIGNER => 4
  | COLDCARD => 5
  | TREZOR => 6
  | LEDGER => 7
  | BITBOX => 8
  | KEEPKEY => 9
  | KRUX => 10

/-- Kotlin `SignerTagHelper.from`. -/
def helperFrom (ordinal : Int) : SignerTag := fromOrdinal entries ordinal INHERITANCE

@[simp] theorem helperFrom_ordinal (t : SignerTag) : helperFrom t.ordinal = t := by
  cases t <;> rfl

end SignerTag

/-- The `switch` of `Serializer::convert2CSignerTag` over the Kotlin ordinal. -/
def convert2CSignerTag (ordinal : Int) : SignerTag :=
  match ordinal with
  | 0 => .INHERITANCE
  | 1 => .KEYSTONE
  | 2 => .JADE
  | 3 => .PASSPORT
  | 4 => .SEEDSIGNER
  | 5 => .COLDCARD
  | 6 => .TREZOR
  | 7 => .LEDGER
  | 8 => .BITBOX
  | 9 => .KEEPKEY
  | 10 => .KRUX
  | _ => .INHERITANCE

@[simp] theorem convert2CSignerTag_ordinal (t : SignerTag) :
    convert2CSignerTag t.ordinal = t := by
  cases t <;> rfl

/-! ## Transactions -/

inductive TransactionStatus where
  | PENDING_SIGNATURES | READY_TO_BROADCAST | NETWORK_REJECTED | PENDING_CONFIRMATION | REPLACED
  | CONFIRMED | PENDING_NONCE
  deriving DecidableEq, Repr

namespace TransactionStatus

def entries : List TransactionStatus :=
  [PENDING_SIGNATURES, READY_TO_BROADCAST, NETWORK_REJECTED, PENDING_CONFIRMATION, REPLACED,
    CONFIRMED, PENDING_NONCE]

/-- Kotlin `TransactionStatusHelper.from`. -/
def helperFrom (ordinal : Int) : TransactionStatus :=
  fromOrdinal entries ordinal PENDING_SIGNATURES

end TransactionStatus

/-! ## Group wallets -/

inductive GroupSpendingLimitInterval where
  | DAILY | WEEKLY | MONTHLY | YEARLY
  deriving DecidableEq, Repr

namespace GroupSpendingLimitInterval

def entries : List GroupSpendingLimitInterval := [DAILY, WEEKLY, MONTHLY, YEARLY]

def ordinal : GroupSpendingLimitInterval → Int
  | DAILY => 0
  | WEEKLY => 1
  | MONTHLY => 2
  | YEARLY => 3

/-- Kotlin `GroupSpendingLimitIntervalHelper.from`. -/
def helperFrom (ordinal : Int) : GroupSpendingLimitInterval := fromOrdinal entries ordinal DAILY

@[simp] theorem helperFrom_ordinal (t : GroupSpendingLimitInterval) :
    helperFrom t.ordinal = t := by
  cases t <;> rfl

end GroupSpendingLimitInterval

inductive GroupDummyTransactionType where
  | UNKNOWN | UPDATE_PLATFORM_KEY_POLICIES
  deriving DecidableEq, Repr

namespace GroupDummyTransactionType

def entries : List GroupDummyTransactionType := [UNKNOWN, UPDATE_PLATFORM_KEY_POLICIES]

def ordinal : GroupDummyTransactionType → Int
  | UNKNOWN => 0
  | UPDATE_PLATFORM_KEY_POLICIES => 1

/-- Kotlin `GroupDummyTransactionTypeHelper.from`. -/
def helperFrom (ordinal : Int) : GroupDummyTransactionType := fromOrdinal entries ordinal UNKNOWN

@[simp] theorem helperFrom_ordinal (t : GroupDummyTransactionType) :
    helperFrom t.ordinal = t := by
  cases t <;> rfl

end GroupDummyTransactionType

inductive GroupDummyTransactionStatus where
  | PENDING_SIGNATURES | CONFIRMED
  deriving DecidableEq, Repr

namespace GroupDummyTransactionStatus

def entries : List GroupDummyTransactionStatus := [PENDING_SIGNATURES, CONFIRMED]

def ordinal : GroupDummyTransactionStatus → Int
  | PENDING_SIGNATURES => 0
  | CONFIRMED => 1

/-- Kotlin `GroupDummyTransactionStatusHelper.from`. -/
def helperFrom (ordinal : Int) : GroupDummyTransactionStatus :=
  fromOrdinal entries ordinal PENDING_SIGNATURES

@[simp] theorem helperFrom_ordinal (t : GroupDummyTransactionStatus) :
    helperFrom t.ordinal = t := by
  cases t <;> rfl

end GroupDummyTransactionStatus

/-! ## SatsCard slots -/

inductive SatsCardSlotStatus where
  | UNUSED | SEALED | UNSEALED
  deriving DecidableEq, Repr

namespace SatsCardSlotStatus

def entries : List SatsCardSlotStatus := [UNUSED, SEALED, UNSEALED]

def ordinal : SatsCardSlotStatus → Int
  | UNUSED => 0
  | SEALED => 1
  | UNSEALED => 2

/-- Kotlin `SatsCardSlotStatusHelper.from`. -/
def helperFrom (ordinal : Int) : SatsCardSlotStatus := fromOrdinal entries ordinal UNUSED

@[simp] theorem helperFrom_ordinal (t : SatsCardSlotStatus) : helperFrom t.ordinal = t := by
  cases t <;> rfl

end SatsCardSlotStatus

/-- `Serializer::convert2CSatsCardSlotStatus`. -/
def convert2CSatsCardSlotStatus (ordinal : Int) : SatsCardSlotStatus :=
  match ordinal with
  | 0 => .UNUSED
  | 1 => .SEALED
  | _ => .UNSEALED

@[simp] theorem convert2CSatsCardSlotStatus_ordinal (t : SatsCardSlotStatus) :
    convert2CSatsCardSlotStatus t.ordinal = t := by
  cases t <;> rfl

/-! ## Coins and timelocks -/

inductive CoinStatus where
  | INCOMING_PENDING_CONFIRMATION | CONFIRMED | OUTGOING_PENDING_SIGNATURES
  | OUTGOING_PENDING_BROADCAST | OUTGOING_PENDING_CONFIRMATION | SPENT
  deriving DecidableEq, Repr

namespace CoinStatus

def entries : List CoinStatus :=
  [INCOMING_PENDING_CONFIRMATION, CONFIRMED, OUTGOING_PENDING_SIGNATURES,
    OUTGOING_PENDING_BROADCAST, OUTGOING_PENDING_CONFIRMATION, SPENT]

/-- Kotlin `CoinStatusHelper.from`. -/
def helperFrom (ordinal : Int) : CoinStatus := fromOrdinal entries ordinal SPENT

end CoinStatus

inductive MiniscriptTimelockBased where
  | NONE | TIME_LOCK | HEIGHT_LOCK
  deriving DecidableEq, Repr

namespace MiniscriptTimelockBased

def entries : List MiniscriptTimelockBased := [NONE, TIME_LOCK, HEIGHT_LOCK]

/-- Kotlin `MiniscriptTimelockBasedHelper.from`. -/
def helperFrom (ordinal : Int) : MiniscriptTimelockBased := fromOrdinal entries ordinal NONE

end MiniscriptTimelockBased

inductive MiniscriptTimelockType where
  | ABSOLUTE | RELATIVE
  deriving DecidableEq, Repr

namespace MiniscriptTimelockType

def entries : List MiniscriptTimelockType := [ABSOLUTE, RELATIVE]

/-- Kotlin `MiniscriptTimelockTypeHelper.from`. -/
def helperFrom (ordinal : Int) : MiniscriptTimelockType := fromOrdinal entries ordinal ABSOLUTE

end MiniscriptTimelockType

end NunchukSdk
