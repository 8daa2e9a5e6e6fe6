import NunchukSdk.Jni.EntryPoint
import NunchukSdk.Marshal.Coin
import NunchukSdk.Marshal.Transaction

/-!
# SatsCard Slots

`loadSatsCardSlotsBalance` and `getSlotKeys` are given a list of Kotlin slots, convert it, have
the library replace some of the native slots one by one, and convert the list back.

`convert2CUnspentOutput` sets six fields of a fresh native output: transaction id, address,
`vout`, amount, height and memo. What else an output holds in Kotlin, its `CoinState`, is replaced
by that of a fresh native output.

## Model

- `SatsCardCalls`: what the library calls return or throw; the outcome of a call in a loop may
  depend on its place there, since a card keeps a state of its own
- An address is null in Kotlin until it is set, and `GetStringUTFChars` on it is undefined.
- Amounts are compared by value (`unformatted`): the text is rendered again on the way back.

## Results

- `returned_exceptKeys_iff`: what a conversion there and back keeps of a slot
- `othersKept_iff`: when both methods leave the rest of every slot as it was
-/

namespace NunchukSdk

open Foundation NativeM

/-! ## Slots on both sides -/

/-- `nunchuk::SatscardSlot`. -/
structure SatscardSlot where
  status : SatsCardSlotStatus
  address : String
  index : Int
  balance : Int
  confirmed : Bool
  utxos : List UnspentOutput
  pubkey : List UInt8
  privkey : List UInt8
  chainCode : List UInt8
  masterPrivkey : List UInt8
  deriving DecidableEq, Repr

/-- Kotlin `SatsCardSlot`. -/
structure JSatsCardSlot where
  index : Int := 0
  status : SatsCardSlotStatus := .UNUSED
  address : Option String := none
  balance : JAmount := {}
  isConfirmed : Bool := false
  outputs : List JUnspentOutput := []
  privateKey : List Int8 := []
  publicKey : List Int8 := []
  chainCode : List Int8 := []
  masterPrivateKey : List Int8 := []
  deriving DecidableEq

/-- What the conversions of slots use of libnunchuk. -/
structure LibSatsCard where
  /-- `UnspentOutput()`. -/
  newUnspentOutput : UnspentOutput
  /-- `(int) status`. -/
  slotStatusNumber : SatsCardSlotStatus → Int
  valueFromAmount : ValueFromAmount

/-- The native enumeration is numbered as the Kotlin one. -/
def LibSatsCard.NumbersAsKotlin (lib : LibSatsCard) : Prop :=
  ∀ status, lib.slotStatusNumber status = status.ordinal

/-- The outcomes of the library calls; those made in a loop are told their place. -/
structure SatsCardCalls where
  createSatscard : Except CppException Unit
  getSatscardSlotKey : String → Nat → SatscardSlot → Except CppException SatscardSlot
  fetchSatscardSlotUTXOs : Nat → SatscardSlot → Except CppException SatscardSlot

/-! ## To native code -/

/-- `Serializer::convert2CUnspentOutput`. -/
def convert2CUnspentOutput (lib : LibSatsCard) (output : JUnspentOutput) : UnspentOutput :=
  { lib.newUnspentOutput with
    txid := output.txid
    vout := output.vout
    address := output.address
    amount := convert2CAmount output.amount
    height := output.height
    memo := output.memo }

/-- `Serializer::convert2CUnspentOutputs`. -/
def convert2CUnspentOutputs (lib : LibSatsCard) (outputs : List JUnspentOutput) :
    List UnspentOutput :=
  outputs.map (convert2CUnspentOutput lib)

/-- `Serializer::convert2CByteArray`: the same bits as unsigned bytes. -/
def convert2CByteArray (bytes : List Int8) : List UInt8 := bytes.map Int8.toUInt8

/-- `Serializer::convert2CSatsCardSlot`. -/
def convert2CSatsCardSlot (lib : LibSatsCard) (slot : JSatsCardSlot) : Jni SatscardSlot := do
  let address ← defined slot.address
  pure
    { status := convert2CSatsCardSlotStatus slot.status.ordinal
      address := address
      index := slot.index
      balance := convert2CAmount slot.balance
      confirmed := slot.isConfirmed
      utxos := convert2CUnspentOutputs lib slot.outputs
      pubkey := convert2CByteArray slot.publicKey
      privkey := convert2CByteArray slot.privateKey
      chainCode := convert2CByteArray slot.chainCode
      masterPrivkey := convert2CByteArray slot.masterPrivateKey }

/-- `Serializer::convert2CSatsCardSlots`. -/
def convert2CSatsCardSlots (lib : LibSatsCard) (slots : List JSatsCardSlot) :
    Jni (List SatscardSlot) :=
  slots.mapM (convert2CSatsCardSlot lib)

/-! ## To Kotlin -/

/-- The `jbyteArray` of a native byte vector, as `Deserializer::convert2JByteArray` makes it. -/
def convert2JByteArray (bytes : List UInt8) : List Int8 := bytes.map UInt8.toInt8

/-- `Deserializer::convert2JSatsCardSlotStatus`. -/
def convert2JSatsCardSlotStatus (lib : LibSatsCard) (status : SatsCardSlotStatus) :
    SatsCardSlotStatus :=
  SatsCardSlotStatus.helperFrom (lib.slotStatusNumber status)

/-- `Deserializer::convert2JSatsCardSlot`. -/
def convert2JSatsCardSlot (lib : LibSatsCard) (slot : SatscardSlot) : JSatsCardSlot where
  index := slot.index
  address := some slot.address
  status := convert2JSatsCardSlotStatus lib slot.status
  isConfirmed := slot.confirmed
  balance := convert2JAmount lib.valueFromAmount slot.balance
  outputs := convert2JUnspentOutputs lib.valueFromAmount slot.utxos
  privateKey := convert2JByteArray slot.privkey
  publicKey := convert2JByteArray slot.pubkey
  chainCode := convert2JByteArray slot.chainCode
  masterPrivateKey := convert2JByteArray slot.masterPrivkey

/-- `Deserializer::convert2JSatsCardSlots`. -/
def convert2JSatsCardSlots (lib : LibSatsCard) (slots : List SatscardSlot) :
    List JSatsCardSlot :=
  slots.map (convert2JSatsCardSlot lib)

/-! ## The two methods -/

/-- `for (auto &slot: slots) { slot = step(slot); }`, from the place `n` on. -/
def assignEach {ε σ : Type} (step : Nat → σ → Except ε σ) : Nat → List σ → Except ε (List σ)
  | _, [] => .ok []
  | n, slot :: slots => do
    let slot' ← step n slot
    let slots' ← assignEach step (n + 1) slots
    pure (slot' :: slots')

/-- Both methods return `JNI_FALSE` from both clauses. -/
def satsCardMethod (body : Jni (JReturn (List JSatsCardSlot))) :
    Jni (JReturn (List JSatsCardSlot)) :=
  catchBaseStd body
    (fun code what => do
      convert2JException code what
      pure .null)
    (fun e => do
      convertStdException2JException e
      pure .null)

/-- One round of the loop in `loadSatsCardSlotsBalance`. -/
def loadBalanceStep (calls : SatsCardCalls) (n : Nat) (slot : SatscardSlot) :
    Except CppException SatscardSlot :=
  if slot.status ≠ .UNUSED then calls.fetchSatscardSlotUTXOs n slot else .ok slot

/-- `LibNunchukAndroid_loadSatsCardSlotsBalance`. -/
def loadSatsCardSlotsBalance (lib : LibSatsCard) (calls : SatsCardCalls)
    (slots : List JSatsCardSlot) : Jni (JReturn (List JSatsCardSlot)) :=
  satsCardMethod do
    let satsCardSlots ← convert2CSatsCardSlots lib slots
    let loaded ← call (assignEach (loadBalanceStep calls) 0 satsCardSlots)
    pure (.object (convert2JSatsCardSlots lib loaded))

/-- `LibNunchukAndroid_getSlotKeys`. -/
def getSlotKeys (lib : LibSatsCard) (calls : SatsCardCalls) (cvc : String)
    (slots : List JSatsCardSlot) : Jni (JReturn (List JSatsCardSlot)) :=
  satsCardMethod do
    let satsCardSlots ← convert2CSatsCardSlots lib slots
    let _ ← call calls.createSatscard
    let withKeys ← call (assignEach (calls.getSatscardSlotKey cvc) 0 satsCardSlots)
    pure (.object (convert2JSatsCardSlots lib withKeys))

/-! ## What should stay -/

/-- An amount without its text. -/
def JAmount.unformatted (amount : JAmount) : JAmount := { value := amount.value }

/-- An output without the text of its amount. -/
def JUnspentOutput.unformatted (output : JUnspentOutput) : JUnspentOutput :=
  { output with amount := output.amount.unformatted }

/-- A slot without the texts of its amounts. -/
def JSatsCardSlot.unformatted (slot : JSatsCardSlot) : JSatsCardSlot :=
  { slot with
    balance := slot.balance.unformatted
    outputs := slot.outputs.map JUnspentOutput.unformatted }

/-- A slot without the texts of its amounts and without its keys. -/
def JSatsCardSlot.exceptKeys (slot : JSatsCardSlot) : JSatsCardSlot :=
  { slot.unformatted with
    privateKey := [], publicKey := [], chainCode := [], masterPrivateKey := [] }

/-- A native slot without its keys. -/
def SatscardSlot.exceptKeys (slot : SatscardSlot) : SatscardSlot :=
  { slot with pubkey := [], privkey := [], chainCode := [], masterPrivkey := [] }

namespace SatsCardCalls

/-- `GetSatscardSlotKey` changes only the key fields of the slot it is given. -/
def KeysOnly (calls : SatsCardCalls) : Prop :=
  ∀ cvc n slot slot', calls.getSatscardSlotKey cvc n slot = .ok slot' →
    slot'.exceptKeys = slot.exceptKeys

/-- Some call throws `e`. -/
def Throws (calls : SatsCardCalls) (e : CppException) : Prop :=
  calls.createSatscard = .error e ∨
    (∃ cvc n slot, calls.getSatscardSlotKey cvc n slot = .error e) ∨
    ∃ n slot, calls.fetchSatscardSlotUTXOs n slot = .error e

end SatsCardCalls

/-- A list with the property is returned, or what a call has thrown is raised. -/
def Yields (calls : SatsCardCalls) (result : JResult (List JSatsCardSlot))
    (P : List JSatsCardSlot → Prop) : Prop :=
  (∃ returned, result = (.ok (.object returned), {}) ∧ P returned) ∨
    ∃ e, calls.Throws e ∧ result = (.ok .null, ⟨[⟨e.message⟩]⟩)

/-- The slots returned are those given, in their order, except for the keys. -/
def ExceptKeysKept (slots returned : List JSatsCardSlot) : Prop :=
  List.Forall₂ (fun slot slot' => slot'.exceptKeys = slot.exceptKeys) slots returned

/-- As many slots are returned as given, and the unused ones are those given. -/
def UnusedKept (slots returned : List JSatsCardSlot) : Prop :=
  List.Forall₂ (fun slot slot' => slot.status = .UNUSED → slot'.unformatted = slot.unformatted)
    slots returned

/-- Fetching keys or balances leaves the rest of the slots as it was, whatever the calls do. -/
def OthersKept (lib : LibSatsCard) (slots : List JSatsCardSlot) : Prop :=
  ∀ calls : SatsCardCalls, calls.KeysOnly →
    (∀ cvc, Yields calls ((getSlotKeys lib calls cvc slots).run {}) (ExceptKeysKept slots)) ∧
    Yields calls ((loadSatsCardSlotsBalance lib calls slots).run {}) (UnusedKept slots)

/-! ## What does stay -/

/-- The fields of an output that the conversion to native code leaves out. -/
structure CoinState where
  isChange : Bool
  isLocked : Bool
  tags : Finset Int
  collection : Finset Int
  time : Int
  scheduleTime : Int
  status : CoinStatus
  lockBased : MiniscriptTimelockBased
  timelocks : List Int
  deriving DecidableEq

def JUnspentOutput.coinState (output : JUnspentOutput) : CoinState where
  isChange := output.isChange
  isLocked := output.isLocked
  tags := output.tags
  collection := output.collection
  time := output.time
  scheduleTime := output.scheduleTime
  status := output.status
  lockBased := output.lockBased
  timelocks := output.timelocks

/-- The coin state that a fresh native output shows. -/
def LibSatsCard.freshCoinState (lib : LibSatsCard) : CoinState :=
  (convert2JUnspentOutput lib.valueFromAmount lib.newUnspentOutput).coinState

/-- The slot has an address, and its outputs have the coin state of fresh ones. -/
def JSatsCardSlot.Plain (lib : LibSatsCard) (slot : JSatsCardSlot) : Prop :=
  slot.address ≠ none ∧ ∀ output ∈ slot.outputs, output.coinState = lib.freshCoinState

/-! ## Outputs and bytes there and back -/

section There

variable {lib : LibSatsCard}

theorem bytes_roundTrip (bytes : List Int8) :
    convert2JByteArray (convert2CByteArray bytes) = bytes := by
  simp [convert2JByteArray, convert2CByteArray, Function.comp_def]

theorem nativeBytes_roundTrip (bytes : List UInt8) :
    convert2CByteArray (convert2JByteArray bytes) = bytes := by
  simp [convert2JByteArray, convert2CByteArray, Function.comp_def]

/-- An output comes back with everything but its coin state. -/
theorem output_roundTrip_iff (output : JUnspentOutput) :
    (convert2JUnspentOutput lib.valueFromAmount (convert2CUnspentOutput lib output)).unformatted =
        output.unformatted ↔
      output.coinState = lib.freshCoinState := by
  rw [eq_comm (a := output.coinState)]
  -- field by field: the six that are converted agree, the others are those of the coin state
  simp only [JUnspentOutput.unformatted, JAmount.unformatted, convert2JUnspentOutput,
    convert2CUnspentOutput, convert2CAmount, convert2JAmount_value, JUnspentOutput.coinState,
    LibSatsCard.freshCoinState, JUnspentOutput.mk.injEq, CoinState.mk.injEq, true_and]

theorem outputs_roundTrip_iff (outputs : List JUnspentOutput) :
    (convert2JUnspentOutputs lib.valueFromAmount (convert2CUnspentOutputs lib outputs)).map
        JUnspentOutput.unformatted = outputs.map JUnspentOutput.unformatted ↔
      ∀ output ∈ outputs, output.coinState = lib.freshCoinState := by
  simp only [convert2JUnspentOutputs, convert2CUnspentOutputs, List.map_map]
  rw [List.map_inj_left]
  constructor
  · intro h output houtput
    exact (output_roundTrip_iff output).mp (h output houtput)
  · intro h output houtput
    exact (output_roundTrip_iff output).mpr (h output houtput)

/-! ## Slots there and back -/

/-- The native slot that a Kotlin slot with an address becomes. -/
def JSatsCardSlot.native (lib : LibSatsCard) (slot : JSatsCardSlot) : SatscardSlot where
  status := slot.status
  address := slot.address.getD ""
  index := slot.index
  balance := slot.balance.value
  confirmed := slot.isConfirmed
  utxos := convert2CUnspentOutputs lib slot.outputs
  pubkey := convert2CByteArray slot.publicKey
  privkey := convert2CByteArray slot.privateKey
  chainCode := convert2CByteArray slot.chainCode
  masterPrivkey := convert2CByteArray slot.masterPrivateKey

theorem convert2CSatsCardSlot_eq {slot : JSatsCardSlot} (h : slot.address ≠ none) :
    convert2CSatsCardSlot lib slot = pure (slot.native lib) := by
  obtain ⟨address, haddress⟩ := Option.ne_none_iff_exists'.mp h
  rw [convert2CSatsCardSlot, haddress, defined, pure_bind_eq, convert2CSatsCardSlotStatus_ordinal,
    JSatsCardSlot.native, haddress]
  rfl

theorem convert2CSatsCardSlots_eq {slots : List JSatsCardSlot}
    (h : ∀ slot ∈ slots, slot.address ≠ none) :
    convert2CSatsCardSlots lib slots = pure (slots.map (JSatsCardSlot.native lib)) := by
  have hlawful : LawfulMonad (NativeM CppException JavaEnv) := lawfulMonad
  unfold convert2CSatsCardSlots
  induction slots with
  | nil => rfl
  | cons slot slots ih =>
    rw [List.mapM_cons, convert2CSatsCardSlot_eq (h slot List.mem_cons_self), pure_bind_eq,
      ih fun other hother => h other (List.mem_cons_of_mem _ hother), pure_bind_eq]
    rfl

/-- A slot without an address stops the conversion. -/
theorem run_convert2CSatsCardSlots_null {slots : List JSatsCardSlot}
    (h : ∃ slot ∈ slots, slot.address = none) (env : JavaEnv) :
    (convert2CSatsCardSlots lib slots).run env = (.error .undefinedBehaviour, env) := by
  have hlawful : LawfulMonad (NativeM CppException JavaEnv) := lawfulMonad
  unfold convert2CSatsCardSlots
  induction slots with
  | nil =>
    obtain ⟨slot, hslot, -⟩ := h
    cases hslot
  | cons slot slots ih =>
    rw [List.mapM_cons]
    by_cases hslot : slot.address = none
    · -- the first slot stops it
      rw [convert2CSatsCardSlot, hslot]
      rfl
    · -- it is converted, and a later one stops it
      have hrest : ∃ other ∈ slots, other.address = none := by
        obtain ⟨other, hother, hnone⟩ := h
        rcases List.mem_cons.mp hother with rfl | hmem
        · exact absurd hnone hslot
        · exact ⟨other, hmem, hnone⟩
      rw [convert2CSatsCardSlot_eq hslot, pure_bind_eq, run_bind, ih hrest]

/-- What Kotlin sees of a native slot apart from the keys does not depend on them. -/
theorem exceptKeys_convert2JSatsCardSlot (slot : SatscardSlot) :
    (convert2JSatsCardSlot lib slot).exceptKeys =
      (convert2JSatsCardSlot lib slot.exceptKeys).exceptKeys :=
  rfl

/-- A slot with an address comes back with everything but the coin states of its outputs. -/
theorem returned_unformatted_iff (hnum : lib.NumbersAsKotlin) {slot : JSatsCardSlot}
    (h : slot.address ≠ none) :
    (convert2JSatsCardSlot lib (slot.native lib)).unformatted = slot.unformatted ↔
      ∀ output ∈ slot.outputs, output.coinState = lib.freshCoinState := by
  obtain ⟨address, haddress⟩ := Option.ne_none_iff_exists'.mp h
  rw [← outputs_roundTrip_iff]
  simp [JSatsCardSlot.unformatted, convert2JSatsCardSlot, JSatsCardSlot.native, haddress,
    JAmount.unformatted, convert2JSatsCardSlotStatus, hnum slot.status, bytes_roundTrip]

/-- The same for a native slot whose keys have been replaced. -/
theorem returned_exceptKeys_iff (hnum : lib.NumbersAsKotlin) {slot : JSatsCardSlot}
    (h : slot.address ≠ none) {withKey : SatscardSlot}
    (hkey : withKey.exceptKeys = (slot.native lib).exceptKeys) :
    (convert2JSatsCardSlot lib withKey).exceptKeys = slot.exceptKeys ↔
      ∀ output ∈ slot.outputs, output.coinState = lib.freshCoinState := by
  rw [exceptKeys_convert2JSatsCardSlot, hkey, ← exceptKeys_convert2JSatsCardSlot,
    ← returned_unformatted_iff hnum h]
  simp [JSatsCardSlot.exceptKeys, JSatsCardSlot.unformatted, convert2JSatsCardSlot,
    JSatsCardSlot.native, bytes_roundTrip]

end There

/-! ## The loops -/

section Loops

variable {ε σ τ ρ : Type} {step : Nat → σ → Except ε σ}

/-- A loop that ends has assigned each slot, in its place, what some call returned for it. -/
theorem assignEach_forall₂ {R : τ → ρ → Prop} {g : τ → σ} {k : σ → ρ} {slots : List τ} {n : Nat}
    {assigned : List σ} (h : assignEach step n (slots.map g) = .ok assigned)
    (hstep : ∀ slot ∈ slots, ∀ n slot', step n (g slot) = .ok slot' → R slot (k slot')) :
    List.Forall₂ R slots (assigned.map k) := by
  induction slots generalizing n assigned with
  | nil =>
    cases h
    exact List.Forall₂.nil
  | cons slot slots ih =>
    obtain ⟨slot', hslot, hrest⟩ := bind_eq_ok.mp h
    obtain ⟨slots', hslots, hcons⟩ := bind_eq_ok.mp hrest
    cases hcons
    -- the place of a call plays no role for the relation
    apply List.Forall₂.cons
    · exact hstep slot List.mem_cons_self n slot' hslot
    · exact ih hslots fun other hother => hstep other (List.mem_cons_of_mem _ hother)

/-- A loop that throws throws what some call has thrown. -/
theorem assignEach_error {slots : List σ} {n : Nat} {e : ε}
    (h : assignEach step n slots = .error e) : ∃ n slot, step n slot = .error e := by
  induction slots generalizing n with
  | nil => cases h
  | cons slot slots ih =>
    rw [assignEach] at h
    cases hslot : step n slot with
    | error e' =>
      rw [hslot] at h
      cases h
      exact ⟨n, slot, hslot⟩
    | ok slot' =>
      cases hrest : assignEach step (n + 1) slots with
      | error e' =>
        rw [hslot, hrest] at h
        cases h
        exact ih hrest
      | ok slots' =>
        rw [hslot, hrest] at h
        cases h

/-- Calls that return what they are given change nothing. -/
theorem assignEach_same (hstep : ∀ n slot, step n slot = .ok slot) (slots : List σ) (n : Nat) :
    assignEach step n slots = .ok slots := by
  induction slots generalizing n with
  | nil => rfl
  | cons slot slots ih =>
    rw [assignEach, hstep, ih]
    rfl

end Loops

/-! ## The methods -/

section Methods

variable {lib : LibSatsCard} {calls : SatsCardCalls} {slots : List JSatsCardSlot}

/-- `getSlotKeys` with addresses is one sequence of calls and a conversion. -/
theorem getSlotKeys_eq (cvc : String) (h : ∀ slot ∈ slots, slot.address ≠ none) :
    getSlotKeys lib calls cvc slots =
      wrapped
        (calls.createSatscard >>= fun _ =>
          assignEach (calls.getSatscardSlotKey cvc) 0 (slots.map (JSatsCardSlot.native lib)))
        (convert2JSatsCardSlots lib) .null .null := by
  rw [getSlotKeys, convert2CSatsCardSlots_eq h, pure_bind_eq, wrapped, call_bind,
    NativeM.bind_assoc]
  rfl

theorem loadSatsCardSlotsBalance_eq (h : ∀ slot ∈ slots, slot.address ≠ none) :
    loadSatsCardSlotsBalance lib calls slots =
      wrapped (assignEach (loadBalanceStep calls) 0 (slots.map (JSatsCardSlot.native lib)))
        (convert2JSatsCardSlots lib) .null .null := by
  rw [loadSatsCardSlotsBalance, convert2CSatsCardSlots_eq h, pure_bind_eq]
  rfl

/-- Such a method raises what was thrown or returns the list it has built. -/
theorem yields_wrapped {outcome : Except CppException (List SatscardSlot)}
    {P : List JSatsCardSlot → Prop} (hthrown : ∀ e, outcome = .error e → calls.Throws e)
    (hreturned : ∀ assigned, outcome = .ok assigned → P (convert2JSatsCardSlots lib assigned)) :
    Yields calls ((wrapped outcome (convert2JSatsCardSlots lib) .null .null).run {}) P := by
  cases outcome with
  | ok assigned =>
    rw [run_wrapped_ok]
    exact Or.inl ⟨_, rfl, hreturned assigned rfl⟩
  | error e =>
    rw [run_wrapped_error, ite_self]
    exact Or.inr ⟨e, hthrown e rfl, rfl⟩

/-- Plain slots keep everything but their keys. -/
theorem getSlotKeys_yields (hnum : lib.NumbersAsKotlin) (hcalls : calls.KeysOnly)
    (hplain : ∀ slot ∈ slots, slot.Plain lib) (cvc : String) :
    Yields calls ((getSlotKeys lib calls cvc slots).run {}) (ExceptKeysKept slots) := by
  rw [getSlotKeys_eq cvc fun slot hslot => (hplain slot hslot).1]
  apply yields_wrapped
  · -- an exception is that of the card or of one of the calls in the loop
    intro e he
    cases hcreate : calls.createSatscard with
    | error e' =>
      rw [hcreate] at he
      cases he
      exact Or.inl hcreate
    | ok u =>
      rw [hcreate] at he
      obtain ⟨n, slot, hslot⟩ := assignEach_error he
      exact Or.inr (Or.inl ⟨cvc, n, slot, hslot⟩)
  · -- each slot comes back from its own call
    intro assigned h
    obtain ⟨u, -, hloop⟩ := bind_eq_ok.mp h
    apply assignEach_forall₂ hloop
    intro slot hslot n slot' hcall
    obtain ⟨haddress, houtputs⟩ := hplain slot hslot
    exact (returned_exceptKeys_iff hnum haddress (hcalls cvc n _ _ hcall)).mpr houtputs

/-- Plain slots that are unused stay as they are. -/
theorem loadSatsCardSlotsBalance_yields (hnum : lib.NumbersAsKotlin)
    (hplain : ∀ slot ∈ slots, slot.Plain lib) :
    Yields calls ((loadSatsCardSlotsBalance lib calls slots).run {}) (UnusedKept slots) := by
  rw [loadSatsCardSlotsBalance_eq fun slot hslot => (hplain slot hslot).1]
  apply yields_wrapped
  · intro e he
    obtain ⟨n, slot, hslot⟩ := assignEach_error he
    rw [loadBalanceStep] at hslot
    split at hslot
    · exact Or.inr (Or.inr ⟨n, slot, hslot⟩)
    · cases hslot
  · -- an unused slot is skipped, and converted back as it was
    intro assigned hloop
    apply assignEach_forall₂ hloop
    intro slot hslot n slot' hcall hunused
    obtain ⟨haddress, houtputs⟩ := hplain slot hslot
    have hskipped : loadBalanceStep calls n (slot.native lib) = .ok (slot.native lib) :=
      if_neg fun hne => hne hunused
    rw [hskipped] at hcall
    cases hcall
    exact (returned_unformatted_iff hnum haddress).mpr houtputs

/-- Calls that succeed and change nothing. -/
def SatsCardCalls.quiet : SatsCardCalls where
  createSatscard := .ok ()
  getSatscardSlotKey := fun _ _ slot => .ok slot
  fetchSatscardSlotUTXOs := fun _ slot => .ok slot

theorem SatsCardCalls.quiet_keysOnly : SatsCardCalls.quiet.KeysOnly := by
  intro cvc n slot slot' h
  cases h
  rfl

theorem SatsCardCalls.quiet_not_throws (e : CppException) : ¬ SatsCardCalls.quiet.Throws e := by
  rintro (h | ⟨cvc, n, slot, h⟩ | ⟨n, slot, h⟩)
  · cases h
  · cases h
  · cases h

/-- With such calls the slots are only converted there and back. -/
theorem run_getSlotKeys_quiet (cvc : String) (h : ∀ slot ∈ slots, slot.address ≠ none) :
    (getSlotKeys lib .quiet cvc slots).run {} =
      (.ok (.object (convert2JSatsCardSlots lib (slots.map (JSatsCardSlot.native lib)))), {}) := by
  have hloop : assignEach (SatsCardCalls.quiet.getSatscardSlotKey cvc) 0
      (slots.map (JSatsCardSlot.native lib)) = .ok (slots.map (JSatsCardSlot.native lib)) :=
    assignEach_same (fun _ _ => rfl) _ 0
  rw [getSlotKeys_eq cvc h, hloop]
  exact run_wrapped_ok _ _ _ _ _

/-- A slot without an address is no input of either method. -/
theorem run_getSlotKeys_null (cvc : String) (h : ∃ slot ∈ slots, slot.address = none) :
    (getSlotKeys lib calls cvc slots).run {} = (.error .undefinedBehaviour, {}) := by
  apply run_catching_undefined
  rw [run_bind, run_convert2CSatsCardSlots_null h]

/-- Even calls that change nothing keep only plain slots. -/
theorem plain_of_yields_quiet (hnum : lib.NumbersAsKotlin) {cvc : String}
    (h : Yields .quiet ((getSlotKeys lib .quiet cvc slots).run {}) (ExceptKeysKept slots)) :
    ∀ slot ∈ slots, slot.Plain lib := by
  obtain ⟨returned, hrun, hkept⟩ | ⟨e, he, -⟩ := h
  · -- a null address would have stopped the conversion
    have haddress : ∀ slot ∈ slots, slot.address ≠ none := by
      intro slot hslot hnone
      rw [run_getSlotKeys_null cvc ⟨slot, hslot, hnone⟩] at hrun
      cases hrun
    rw [run_getSlotKeys_quiet cvc haddress] at hrun
    cases hrun
    rw [ExceptKeysKept, convert2JSatsCardSlots, List.map_map, List.forall₂_map_right_iff,
      List.forall₂_same] at hkept
    intro slot hslot
    exact ⟨haddress slot hslot,
      (returned_exceptKeys_iff hnum (haddress slot hslot) rfl).mp (hkept slot hslot)⟩
  · exact absurd he (SatsCardCalls.quiet_not_throws e)

/-- **The rest of the slots is left as it was exactly when every slot has an address and no
    output a coin state of its own.** -/
theorem othersKept_iff (hnum : lib.NumbersAsKotlin) (slots : List JSatsCardSlot) :
    OthersKept lib slots ↔ ∀ slot ∈ slots, slot.Plain lib := by
  constructor
  · intro h
    exact plain_of_yields_quiet hnum ((h .quiet SatsCardCalls.quiet_keysOnly).1 "")
  · intro hplain calls hcalls
    constructor
    · exact getSlotKeys_yields hnum hcalls hplain
    · exact loadSatsCardSlotsBalance_yields hnum hplain

end Methods

/-! ## Two cards -/

/-- A library whose fresh output is a coin that is still coming in. -/
def LibSatsCard.plain : LibSatsCard where
  newUnspentOutput :=
    { txid := "", address := "", vout := 0, height := 0, memo := "", isChange := false
      isLocked := false, blocktime := 0, scheduleTime := 0, status := 0, tags := []
      collections := [], amount := 0, lockBased := 0, timelocks := [] }
  slotStatusNumber := SatsCardSlotStatus.ordinal
  valueFromAmount := fun _ => .ok "0.00"

theorem LibSatsCard.plain_numbersAsKotlin : LibSatsCard.plain.NumbersAsKotlin := fun _ => rfl

/-- A sealed slot that holds one incoming coin. -/
def sealedSlot : JSatsCardSlot :=
  { index := 1, status := .SEALED, address := some "bc1qslot", balance := { value := 5000 }
    isConfirmed := true, publicKey := [2, -7]
    outputs :=
      [{ txid := "a0", address := "bc1qslot", vout := 1, amount := { value := 5000 }
         height := 800000, status := .INCOMING_PENDING_CONFIRMATION }] }

/-- The same slot after its coin was locked. -/
def lockedSlot : JSatsCardSlot :=
  { sealedSlot with outputs := sealedSlot.outputs.map fun output =>
      { output with isLocked := true, status := .CONFIRMED, tags := {1} } }

/-- A card whose coin has no state of its own. -/
theorem sealedSlot_othersKept : OthersKept LibSatsCard.plain [sealedSlot, { sealedSlot with
    index := 2, status := .UNUSED, outputs := [] }] :=
  (othersKept_iff LibSatsCard.plain_numbersAsKotlin _).mpr (by
    intro slot hslot
    rcases List.mem_cons.mp hslot with rfl | hmem
    · refine ⟨Option.some_ne_none _, fun output houtput => ?_⟩
      rw [List.mem_singleton.mp houtput]
      decide
    · rw [List.mem_singleton.mp hmem]
      exact ⟨Option.some_ne_none _, fun output houtput => absurd houtput List.not_mem_nil⟩)

/-- A locked coin is returned unlocked. -/
theorem lockedSlot_not_othersKept : ¬ OthersKept LibSatsCard.plain [lockedSlot] := by
  intro h
  have hplain := plain_of_yields_quiet LibSatsCard.plain_numbersAsKotlin
    ((h .quiet SatsCardCalls.quiet_keysOnly).1 "")
  have hcoin := (hplain lockedSlot List.mem_cons_self).2 _ List.mem_cons_self
  exact absurd (congrArg CoinState.isLocked hcoin) (by decide)

end NunchukSdk
