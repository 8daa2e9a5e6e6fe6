import NunchukSdk.Foundation.ObjectEquality
import NunchukSdk.Marshal.SatsCard
import NunchukSdk.ScriptTree.ScriptNode

/-!
# Hand-Written Equality

`TapSignerStatus`, `SatsCardSlot` and `ScriptNode` hold byte arrays, which the equality of a data
class compares by identity. Each of them therefore writes its own `equals` and `hashCode`, field by
field.

## Model

- Objects are told apart by a number, and `equals` compares two of them (`this === other` first).
  The other object is `none` when it is null or of another class.
- The nodes of scripts form an object graph: a node holds nodes that were made before it, and its
  value is a `JScriptNode`.
- The `hashCode` of an enumerator is its identity's (`EnumHashes`).

## Results

- `JTapSignerStatus.equals_iff`, `JSatsCardSlot.equals_iff`, `JScriptNode.equals_iff`: what each
  `equals` compares
- `valueEquality_lawful_iff`: slots and script nodes meet the contract; statuses do where the four
  fields that `TapSignerStatus.equals` leaves out agree
-/

namespace NunchukSdk

open Foundation

/-! ## Hash codes of what the classes hold -/

/-- The hash codes of enumerators. -/
structure EnumHashes where
  satsCardSlotStatus : SatsCardSlotStatus → Int32
  coinStatus : CoinStatus → Int32
  miniscriptTimelockBased : MiniscriptTimelockBased → Int32
  miniscriptTimelockType : MiniscriptTimelockType → Int32

/-- Kotlin `Amount.hashCode`. -/
def JAmount.hashCode (amount : JAmount) : Int32 :=
  hashData [hashLong amount.value, hashString amount.formattedValue]

/-- Kotlin `UnspentOutput.hashCode`. -/
def JUnspentOutput.hashCode (enums : EnumHashes) (output : JUnspentOutput) : Int32 :=
  hashData
    [hashString output.txid, hashString output.address, Int32.ofInt output.vout,
      output.amount.hashCode, Int32.ofInt output.height, hashString output.memo,
      hashBoolean output.isChange, hashBoolean output.isLocked, hashIntSet output.tags,
      hashIntSet output.collection, hashLong output.time, hashLong output.scheduleTime,
      enums.coinStatus output.status, enums.miniscriptTimelockBased output.lockBased,
      hashList (output.timelocks.map hashLong)]

/-- Kotlin `TimeLock.hashCode`. -/
def JTimeLock.hashCode (enums : EnumHashes) (timeLock : JTimeLock) : Int32 :=
  hashData
    [enums.miniscriptTimelockBased timeLock.based, enums.miniscriptTimelockType timeLock.type,
      hashLong timeLock.value]

/-! ## Statuses of a TAPSIGNER -/

/-- Kotlin `TapSignerStatus`. -/
structure JTapSignerStatus where
  isNeedSetup : Bool := false
  isCreateSigner : Bool := false
  backupKey : Option (List Int8) := none
  masterSignerId : Option String := none
  version : Option String := none
  birthHeight : Int := 0
  isTestNet : Bool := false
  ident : Option String := none
  authDelayInSecond : Int := 0
  deriving DecidableEq, Repr

namespace JTapSignerStatus

/-- The nested comparison of two backup keys, either of which may be null: whether `equals` returns
    `false` there. -/
def backupKeyDiffers : Option (List Int8) → Option (List Int8) → Bool
  | some _, none => true
  | some backupKey, some backupKey' => !decide (backupKey = backupKey')
  | none, some _ => true
  | none, none => false

/-- Kotlin `TapSignerStatus.equals`. -/
def equals (objects : Nat → JTapSignerStatus) (x : Nat) (other : Option Nat) : Bool :=
  if some x = other then true
  else
    match other with
    | none => false
    | some y =>
      if (objects x).isNeedSetup ≠ (objects y).isNeedSetup then false
      else if (objects x).isCreateSigner ≠ (objects y).isCreateSigner then false
      else if backupKeyDiffers (objects x).backupKey (objects y).backupKey then false
      else if (objects x).ident ≠ (objects y).ident then false
      else if (objects x).authDelayInSecond ≠ (objects y).authDelayInSecond then false
      else true

/-- Kotlin `TapSignerStatus.hashCode`. -/
def hashCode (status : JTapSignerStatus) : Int32 :=
  combine (hashBoolean status.isNeedSetup)
    [hashBoolean status.isCreateSigner, hashOrZero contentHashCode status.backupKey,
      hashOrZero hashString status.ident, Int32.ofInt status.authDelayInSecond]

/-- The fields that `equals` compares; the others at their defaults. -/
def compared (status : JTapSignerStatus) : JTapSignerStatus where
  isNeedSetup := status.isNeedSetup
  isCreateSigner := status.isCreateSigner
  backupKey := status.backupKey
  ident := status.ident
  authDelayInSecond := status.authDelayInSecond

/-- The fields that `equals` leaves out. -/
def OthersAgree (status other : JTapSignerStatus) : Prop :=
  status.masterSignerId = other.masterSignerId ∧ status.version = other.version ∧
    status.birthHeight = other.birthHeight ∧ status.isTestNet = other.isTestNet

/-- Keys are compared by content, and null is a value like the others. -/
theorem backupKeyDiffers_iff {backupKey backupKey' : Option (List Int8)} :
    backupKeyDiffers backupKey backupKey' = true ↔ backupKey ≠ backupKey' := by
  cases backupKey with
  | none => cases backupKey' <;> simp [backupKeyDiffers]
  | some backupKey => cases backupKey' <;> simp [backupKeyDiffers]

/-- Statuses are equal when the compared fields agree. -/
theorem equals_iff (objects : Nat → JTapSignerStatus) (x y : Nat) :
    equals objects x (some y) = true ↔ (objects x).compared = (objects y).compared := by
  by_cases hsame : x = y
  · simp [equals, hsame]
  · simp [equals, hsame, backupKeyDiffers_iff, compared]

/-- The hash code reads compared fields only. -/
theorem hashCode_compared (status : JTapSignerStatus) :
    status.compared.hashCode = status.hashCode := rfl

/-- Compared and left out fields together are all fields. -/
theorem eq_iff (status other : JTapSignerStatus) :
    status = other ↔ status.compared = other.compared ∧ status.OthersAgree other := by
  cases status
  cases other
  simp only [compared, OthersAgree, mk.injEq]
  grind

end JTapSignerStatus

/-! ## Slots of a SATSCARD -/

namespace JSatsCardSlot

/-- Kotlin `SatsCardSlot.equals`. -/
def equals (objects : Nat → JSatsCardSlot) (x : Nat) (other : Option Nat) : Bool :=
  if some x = other then true
  else
    match other with
    | none => false
    | some y =>
      if (objects x).index ≠ (objects y).index then false
      else if (objects x).status ≠ (objects y).status then false
      else if (objects x).address ≠ (objects y).address then false
      else if (objects x).balance ≠ (objects y).balance then false
      else if (objects x).isConfirmed ≠ (objects y).isConfirmed then false
      else if (objects x).outputs ≠ (objects y).outputs then false
      else if (objects x).privateKey ≠ (objects y).privateKey then false
      else if (objects x).publicKey ≠ (objects y).publicKey then false
      else if (objects x).chainCode ≠ (objects y).chainCode then false
      else if (objects x).masterPrivateKey ≠ (objects y).masterPrivateKey then false
      else true

/-- Kotlin `SatsCardSlot.hashCode`. -/
def hashCode (enums : EnumHashes) (slot : JSatsCardSlot) : Int32 :=
  combine (Int32.ofInt slot.index)
    [enums.satsCardSlotStatus slot.status, hashOrZero hashString slot.address,
      slot.balance.hashCode, hashBoolean slot.isConfirmed,
      hashList (slot.outputs.map (JUnspentOutput.hashCode enums)),
      contentHashCode slot.privateKey, contentHashCode slot.publicKey,
      contentHashCode slot.chainCode, contentHashCode slot.masterPrivateKey]

/-- Slots are equal when all fields agree. -/
theorem equals_iff (objects : Nat → JSatsCardSlot) (x y : Nat) :
    equals objects x (some y) = true ↔ objects x = objects y := by
  by_cases hsame : x = y
  · simp [equals, hsame]
  · cases hx : objects x
    cases hy : objects y
    simp [equals, hsame, hx, hy]

end JSatsCardSlot

/-! ## Nodes of a script -/

/-- Script nodes, each of which holds nodes made before it. -/
abbrev ScriptNodes := ObjectGraph JScriptNodeFields

namespace JScriptNode

/-- Kotlin `ScriptNode.equals`. -/
def equals (objects : ScriptNodes) (x : Nat) (other : Option Nat) : Bool :=
  if some x = other then true
  else
    match other with
    | none => false
    | some y =>
      if (objects.label x).id ≠ (objects.label y).id then false
      else if (objects.label x).k ≠ (objects.label y).k then false
      else if (objects.label x).type ≠ (objects.label y).type then false
      else if (objects.label x).keys ≠ (objects.label y).keys then false
      else if listEquals (fun sub other => equals objects sub.1 (some other))
        (objects.children x).attach (objects.children y) = false then false
      else if (objects.label x).data ≠ (objects.label y).data then false
      else if (objects.label x).timeLock ≠ (objects.label y).timeLock then false
      else true
termination_by x
decreasing_by exact objects.older x sub.1 sub.2

/-- Kotlin `ScriptNode.hashCode`, from the hash codes of the `subs`. -/
def hashFrom (enums : EnumHashes) (node : JScriptNodeFields) (subs : List Int32) : Int32 :=
  combine (hashList node.id)
    [node.k, hashString node.type, hashList (node.keys.map hashString), hashList subs,
      contentHashCode node.data, hashOrZero (JTimeLock.hashCode enums) node.timeLock]

/-- Kotlin `ScriptNode.hashCode`. -/
def hashCode (enums : EnumHashes) (objects : ScriptNodes) (x : Nat) : Int32 :=
  hashFrom enums (objects.label x)
    ((objects.children x).attach.map fun sub => hashCode enums objects sub.1)
termination_by x
decreasing_by exact objects.older x sub.1 sub.2

theorem hashCode_eq (enums : EnumHashes) (objects : ScriptNodes) (x : Nat) :
    hashCode enums objects x = hashFrom enums (objects.label x)
      ((objects.children x).map (hashCode enums objects)) := by
  rw [hashCode, List.attach_map_val]

/-- One step of the comparison. -/
theorem equals_step (objects : ScriptNodes) (x y : Nat) :
    equals objects x (some y) = true ↔ x = y ∨ objects.label x = objects.label y ∧
      listEquals (fun (sub : {c // c ∈ objects.children x}) other =>
        equals objects sub.1 (some other))
        (objects.children x).attach (objects.children y) = true := by
  rw [equals]
  by_cases hsame : x = y
  · simp [hsame]
  · cases hx : objects.label x
    cases hy : objects.label y
    simp only [Option.some.injEq, hsame, ↓reduceIte, ne_eq, ite_not, Bool.if_false_right,
      Bool.and_true, Bool.if_false_left, Bool.decide_eq_false, Bool.not_not, Bool.and_eq_true,
      decide_eq_true_eq, JScriptNodeFields.mk.injEq, false_or]
    -- the comparison of the `subs` stands between those of the fields
    constructor
    · rintro ⟨hid, hk, htype, hkeys, hsubs, hdata, htimeLock⟩
      exact ⟨⟨hid, htype, hkeys, hk, hdata, htimeLock⟩, hsubs⟩
    · rintro ⟨⟨hid, htype, hkeys, hk, hdata, htimeLock⟩, hsubs⟩
      exact ⟨hid, hk, htype, hkeys, hsubs, hdata, htimeLock⟩

/-- Nodes of any depth are equal when their values are. -/
theorem equals_iff (objects : ScriptNodes) (x y : Nat) :
    equals objects x (some y) = true ↔ objects.valueOf x = objects.valueOf y :=
  ObjectGraph.equals_iff_valueOf (equals_step objects) x y

/-- The hash code of a node is one of its value. -/
theorem hashCode_eq_fold (enums : EnumHashes) (objects : ScriptNodes) (x : Nat) :
    hashCode enums objects x = (objects.valueOf x).fold (hashFrom enums) :=
  ObjectGraph.eq_fold_valueOf (hashCode_eq enums objects) x

end JScriptNode

/-! ## The contract -/

/-- **Hand-written equality.** Slots and script nodes meet the contract of `equals` and `hashCode`,
    and are equal exactly when all their fields agree. Statuses do exactly where two that agree in
    the compared fields agree in the others. -/
theorem valueEquality_lawful_iff (enums : EnumHashes) (statuses : Nat → JTapSignerStatus)
    (slots : Nat → JSatsCardSlot) (nodes : ScriptNodes) (x y z : Nat) :
    LawfulAt (JSatsCardSlot.equals slots) (fun x => (slots x).hashCode enums) slots x y z ∧
    LawfulAt (JScriptNode.equals nodes) (JScriptNode.hashCode enums nodes) nodes.valueOf x y z ∧
    (LawfulAt (JTapSignerStatus.equals statuses) (fun x => (statuses x).hashCode) statuses x y z ↔
      ((statuses x).compared = (statuses y).compared → (statuses x).OthersAgree (statuses y))) := by
  refine ⟨?_, ?_, ?_⟩
  · exact lawfulAt_of_value (JSatsCardSlot.equals_iff slots)
      (fun x y h => congrArg (JSatsCardSlot.hashCode enums) h) x y z
  · refine lawfulAt_of_value (JScriptNode.equals_iff nodes) (fun x y h => ?_) x y z
    rw [JScriptNode.hashCode_eq_fold, JScriptNode.hashCode_eq_fold, h]
  · have hhash : ∀ x y, (statuses x).compared = (statuses y).compared →
        (statuses x).hashCode = (statuses y).hashCode := by
      intro x y h
      rw [← JTapSignerStatus.hashCode_compared, h, JTapSignerStatus.hashCode_compared]
    rw [lawfulAt_iff (JTapSignerStatus.equals_iff statuses) hhash,
      JTapSignerStatus.eq_iff (statuses x) (statuses y)]
    -- the values add the other fields to what is compared
    exact iff_self_and

/-- Two cards of one kind, known under different signers. -/
def twoCards : Nat → JTapSignerStatus
  | 0 => { ident := some "TAPSIGNER", masterSignerId := some "79c4a4b8" }
  | _ => { ident := some "TAPSIGNER", masterSignerId := some "d63cd0cf" }

/-- They are taken for the same status. -/
theorem twoCards_not_lawful :
    ¬ LawfulAt (JTapSignerStatus.equals twoCards) (fun x => (twoCards x).hashCode) twoCards
      0 1 1 := by
  intro h
  exact absurd (h.complete.mp (by decide)) (by decide)

end NunchukSdk
