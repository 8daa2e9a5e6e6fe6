import Mathlib.Data.Finset.Basic
import NunchukSdk.Marshal.Amount
import NunchukSdk.Types.Enums

/-!
# Coins and Transaction Inputs

`convert2JUnspentOutput` fills a Kotlin `UnspentOutput`. Its only call into the library is the
rendering of the amount, which `convert2JAmount` makes inside a `try` of its own, so that every
field of a coin is set.
-/

namespace NunchukSdk

/-- `nunchuk::UnspentOutput`, with the numbers behind its two enumerations. -/
structure UnspentOutput where
  txid : String
  address : String
  vout : Int
  height : Int
  memo : String
  isChange : Bool
  isLocked : Bool
  blocktime : Int
  scheduleTime : Int
  status : Int
  tags : List Int
  collections : List Int
  amount : Int
  lockBased : Int
  timelocks : List Int
  deriving DecidableEq, Repr

/-- Kotlin `UnspentOutput`. -/
structure JUnspentOutput where
  txid : String := ""
  address : String := ""
  vout : Int := 0
  amount : JAmount := {}
  height : Int := 0
  memo : String := ""
  isChange : Bool := false
  isLocked : Bool := false
  tags : Finset Int := ∅
  collection : Finset Int := ∅
  time : Int := 0
  scheduleTime : Int := 0
  status : CoinStatus := .SPENT
  lockBased : MiniscriptTimelockBased := .NONE
  timelocks : List Int := []
  deriving DecidableEq

/-- `Deserializer::convert2JInts`: a `HashSet`. -/
def convert2JInts (values : List Int) : Finset Int := values.toFinset

/-- `Deserializer::convert2JUnspentOutput`. -/
def convert2JUnspentOutput (valueFromAmount : ValueFromAmount) (output : UnspentOutput) :
    JUnspentOutput where
  txid := output.txid
  address := output.address
  vout := output.vout
  height := output.height
  memo := output.memo
  isChange := output.isChange
  isLocked := output.isLocked
  time := output.blocktime
  scheduleTime := output.scheduleTime
  status := CoinStatus.helperFrom output.status
  tags := convert2JInts output.tags
  collection := convert2JInts output.collections
  amount := convert2JAmount valueFromAmount output.amount
  lockBased := MiniscriptTimelockBased.helperFrom output.lockBased
  timelocks := output.timelocks

/-- `Deserializer::convert2JUnspentOutputs`. -/
def convert2JUnspentOutputs (valueFromAmount : ValueFromAmount) (outputs : List UnspentOutput) :
    List JUnspentOutput :=
  outputs.map (convert2JUnspentOutput valueFromAmount)

/-- `Deserializer::convert2JCollectionUnspentOutputs`. -/
def convert2JCollectionUnspentOutputs (valueFromAmount : ValueFromAmount)
    (outputs : List (List UnspentOutput)) : List (List JUnspentOutput) :=
  outputs.map (convert2JUnspentOutputs valueFromAmount)

/-- Kotlin `TxInput`. -/
structure JTxInput where
  first : String := ""
  second : Int := 0
  deriving DecidableEq, Repr

/-- `nunchuk::TxInput`, a pair of a transaction id and an output index. -/
abbrev TxInput := String × Int

/-- `Serializer::convert2CTxInput`. -/
def convert2CTxInput (input : JTxInput) : TxInput := (input.first, input.second)

/-- `Serializer::convert2CTxInputs`. -/
def convert2CTxInputs (inputs : List JTxInput) : List TxInput := inputs.map convert2CTxInput

end NunchukSdk
