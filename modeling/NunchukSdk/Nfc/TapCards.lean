import NunchukSdk.EntryPoints.MessageText
import NunchukSdk.Jni.EntryPoint
import NunchukSdk.Marshal.SatsCard
import NunchukSdk.Marshal.ValueEquality
import NunchukSdk.Nfc.Transport

/-!
# Methods that Talk to a Card

The methods of `tap-protocol-jni.cpp` and `nfc.cpp` that are given an `IsoDep` make a card object
over a fresh transport, use it in one or more library calls, convert what these return, and have
both `catch` clauses.

## Model

- A card object is whatever the library makes of the first exchanges; the types of the three kinds
  are parameters.
- Library calls that do not use the card are outcomes (`ofOutcome`).

## Results

- `run_cardMethod`: a method over the transport is `wrapped` around what its calls come to on the
  card itself
- `cardMethods_refine`: so are the methods with a branch or with several calls
- `tagLost_reported`: a card that leaves the field ends the method, and Java is told so
-/

namespace NunchukSdk

open Foundation NativeM

/-! ## Statuses -/

/-- `nunchuk::TapsignerStatus`. -/
structure TapsignerStatus where
  needSetup : Bool
  isMasterSigner : Bool
  backupData : Bytes
  authDelay : Int
  birthHeight : Int
  cardIdent : String
  masterSignerId : String
  version : String
  isTestnet : Bool
  deriving DecidableEq, Repr

/-- `nunchuk::SatscardStatus`. -/
structure SatscardStatus where
  needSetup : Bool
  activeSlotIndex : Int
  numberOfSlots : Int
  isUsedUp : Bool
  cardIdent : String
  authDelay : Int
  slots : List SatscardSlot
  deriving DecidableEq, Repr

/-- Kotlin `SatsCardStatus`. -/
structure JSatsCardStatus where
  isNeedSetup : Bool := false
  activeSlotIndex : Int := -1
  numberOfSlot : Int := -1
  isUsedUp : Bool := false
  ident : Option String := none
  authDelayInSecond : Int := 0
  slots : List JSatsCardSlot := []
  deriving DecidableEq

/-- Kotlin `CardStatus`, as `getAutoCardStatus` returns it. -/
inductive JCardStatus where
  | tapSigner (status : JTapSignerStatus)
  | satsCard (status : JSatsCardStatus)

/-- `Deserializer::convert2JTapSignerStatus`. -/
def convert2JTapSignerStatus (status : TapsignerStatus) : JTapSignerStatus where
  isNeedSetup := status.needSetup
  isCreateSigner := status.isMasterSigner
  backupKey := some (convert2JByteArray status.backupData)
  authDelayInSecond := status.authDelay
  birthHeight := status.birthHeight
  ident := some status.cardIdent
  masterSignerId := some status.masterSignerId
  version := some status.version
  isTestNet := status.isTestnet

/-- `Deserializer::convert2JSatsCardStatus`. -/
def convert2JSatsCardStatus (lib : LibSatsCard) (status : SatscardStatus) : JSatsCardStatus where
  isNeedSetup := status.needSetup
  activeSlotIndex := status.activeSlotIndex
  numberOfSlot := status.numberOfSlots
  isUsedUp := status.isUsedUp
  ident := some status.cardIdent
  authDelayInSecond := status.authDelay
  slots := convert2JSatsCardSlots lib status.slots

/-! ## Library calls -/

/-- A library call over the transport. -/
abbrev CardCall (α : Type) := Program Bytes Bytes CppException α

/-- A library call that does not use the card. -/
def ofOutcome {α : Type} : Except CppException α → CardCall α
  | .ok a => .done a
  | .error e => .raise e

/-- What the methods use of libnunchuk; `C`, `T` and `S` are `CKTapCard`, `Tapsigner` and
    `Satscard`. -/
structure LibTapCards (C T S : Type) where
  createCKTapCard : CardCall C
  createTapsigner : CardCall T
  createSatscard : CardCall S
  isTapsigner : C → Bool
  toTapsigner : C → T
  toSatscard : C → S
  getTapsignerStatus : T → CardCall TapsignerStatus
  waitTapsigner : T → CardCall TapsignerStatus
  /-- `BackupTapsigner` with a CVC and a master signer id. -/
  backupTapsigner : T → NativeString → NativeString → CardCall TapsignerStatus
  /-- `InitTapsigner` with a CVC and a chain code. -/
  initTapsigner : T → NativeString → NativeString → CardCall Unit
  /-- `ChangeTapsignerCVC` with both CVCs and a master signer id. -/
  changeTapsignerCVC : T → NativeString → NativeString → NativeString → CardCall Bool
  /-- `GetSignerFromTapsignerMasterSigner` with a CVC, a master signer id and a path. -/
  getSignerFromTapsignerMasterSigner :
    T → NativeString → NativeString → NativeString → CardCall SingleSigner
  /-- `SignTapsignerMessage` with a CVC, a signer and a message. -/
  signTapsignerMessage : T → NativeString → SingleSigner → NativeString → CardCall NativeString
  getSatscardStatus : S → CardCall SatscardStatus
  /-- `SetupSatscard` with a CVC and a chain code. -/
  setupSatscard : S → NativeString → NativeString → CardCall SatscardStatus
  getSignerAddress : SingleSigner → Except CppException NativeString
  /-- `ExportBitcoinSignedMessage` of a message, an address and a signature. -/
  exportBitcoinSignedMessage :
    NativeString → NativeString → NativeString → Except CppException NativeString

/-! ## Methods -/

/-- Code of a method: the thread with its card, and the exceptions it has raised. -/
abbrev CardM (κ α : Type) := NativeM CppException (NfcThread κ × JavaEnv) α

section Methods

variable {κ α β γ : Type} (card : Card κ) (tagLost : Int)

/-- A library call with the transport of the method. -/
def overCard (program : CardCall α) : CardM κ α :=
  onFst (program.runOver (makeTransport card tagLost))

/-- A method with both `catch` clauses. -/
def cardMethod (body : CardM κ (JReturn β)) (onBase onStd : JReturn β) : CardM κ (JReturn β) :=
  catchBaseStd body
    (fun code what => do
      onSnd (convert2JException code what)
      pure onBase)
    (fun e => do
      onSnd (convertStdException2JException e)
      pure onStd)

variable {C T S : Type} (lib : LibTapCards C T S) (satsCards : LibSatsCard)

/-- A method that makes a `Tapsigner`, makes one call with it and converts the result. -/
def tapsignerMethod (use : T → CardCall α) (convert : α → β) (onBase onStd : JReturn β) :
    CardM κ (JReturn β) :=
  cardMethod
    (do
      let ts ← overCard card tagLost lib.createTapsigner
      let a ← overCard card tagLost (use ts)
      pure (.object (convert a)))
    onBase onStd

/-- A method that makes a `Satscard`, makes one call with it and converts the result. -/
def satscardMethod (use : S → CardCall α) (convert : α → β) : CardM κ (JReturn β) :=
  cardMethod
    (do
      let ts ← overCard card tagLost lib.createSatscard
      let a ← overCard card tagLost (use ts)
      pure (.object (convert a)))
    .null .null

/-- `LibNunchukAndroid_tapSignerStatus`. -/
def tapSignerStatus : CardM κ (JReturn JTapSignerStatus) :=
  tapsignerMethod card tagLost lib lib.getTapsignerStatus convert2JTapSignerStatus .null .null

/-- `LibNunchukAndroid_waitTapSigner`. -/
def waitTapSigner : CardM κ (JReturn JTapSignerStatus) :=
  tapsignerMethod card tagLost lib lib.waitTapsigner convert2JTapSignerStatus .null .null

/-- `LibNunchukAndroid_getBackupTapSignerKey`. -/
def getBackupTapSignerKey (cvc masterSignerId : JString) : CardM κ (JReturn JTapSignerStatus) :=
  tapsignerMethod card tagLost lib
    (fun ts => lib.backupTapsigner ts (stringWrapper cvc) (stringWrapper masterSignerId))
    convert2JTapSignerStatus .null .null

/-- `LibNunchukAndroid_initTapSigner`. -/
def initTapSigner (oldCvc chainCode : JString) : CardM κ (JReturn Unit) :=
  tapsignerMethod card tagLost lib
    (fun ts => lib.initTapsigner ts (stringWrapper oldCvc) (stringWrapper chainCode)) id
    (.object ()) (.object ())

/-- `LibNunchukAndroid_changeCvcTapSigner`. -/
def changeCvcTapSigner (oldCvc newCvc masterSignerId : JString) : CardM κ (JReturn Bool) :=
  tapsignerMethod card tagLost lib
    (fun ts => lib.changeTapsignerCVC ts (stringWrapper oldCvc) (stringWrapper newCvc)
      (stringWrapper masterSignerId)) id
    (.object false) (.object false)

/-- `LibNunchukAndroid_getSatsCardStatus`. -/
def getSatsCardStatus : CardM κ (JReturn JSatsCardStatus) :=
  satscardMethod card tagLost lib lib.getSatscardStatus (convert2JSatsCardStatus satsCards)

/-- `LibNunchukAndroid_setupSatsCard`. -/
def setupSatsCard (cvc chainCode : JString) : CardM κ (JReturn JSatsCardStatus) :=
  satscardMethod card tagLost lib
    (fun ts => lib.setupSatscard ts (stringWrapper cvc) (stringWrapper chainCode))
    (convert2JSatsCardStatus satsCards)

/-- `LibNunchukAndroid_getAutoCardStatus`. -/
def getAutoCardStatus : CardM κ (JReturn JCardStatus) :=
  cardMethod
    (do
      let ckTapCard ← overCard card tagLost lib.createCKTapCard
      if lib.isTapsigner ckTapCard then do
        let status ← overCard card tagLost (lib.getTapsignerStatus (lib.toTapsigner ckTapCard))
        pure (.object (.tapSigner (convert2JTapSignerStatus status)))
      else do
        let status ← overCard card tagLost (lib.getSatscardStatus (lib.toSatscard ckTapCard))
        pure (.object (.satsCard (convert2JSatsCardStatus satsCards status))))
    .null .null

/-- `LibNunchukAndroid_signMessageByTapSigner`. -/
def signMessageByTapSigner (cvc message path masterSignerId : JString) :
    CardM κ (JReturn JSignedMessage) :=
  cardMethod
    (do
      let ts ← overCard card tagLost lib.createTapsigner
      let signer ← overCard card tagLost
        (lib.getSignerFromTapsignerMasterSigner ts (stringWrapper cvc)
          (stringWrapper masterSignerId) (stringWrapper path))
      let signature ← overCard card tagLost
        (lib.signTapsignerMessage ts (stringWrapper cvc) signer (stringWrapper message))
      let address ← call (lib.getSignerAddress signer)
      let rfc2440 ← call (lib.exportBitcoinSignedMessage (stringWrapper message) address signature)
      let signed ← onSnd (convert2JSignedMessage address signature rfc2440)
      pure (.object signed))
    .null .null

/-! ## What the calls of a method come to -/

/-- The calls of `getAutoCardStatus`. -/
def autoCardStatus : CardCall JCardStatus :=
  lib.createCKTapCard.andThen fun ckTapCard =>
    if lib.isTapsigner ckTapCard then
      (lib.getTapsignerStatus (lib.toTapsigner ckTapCard)).andThen fun status =>
        .done (.tapSigner (convert2JTapSignerStatus status))
    else
      (lib.getSatscardStatus (lib.toSatscard ckTapCard)).andThen fun status =>
        .done (.satsCard (convert2JSatsCardStatus satsCards status))

/-- The calls of `signMessageByTapSigner`, up to the address, the signature and its text. -/
def tapSignerSignature (cvc message path masterSignerId : NativeString) :
    CardCall (NativeString × NativeString × NativeString) :=
  lib.createTapsigner.andThen fun ts =>
    (lib.getSignerFromTapsignerMasterSigner ts cvc masterSignerId path).andThen fun signer =>
      (lib.signTapsignerMessage ts cvc signer message).andThen fun signature =>
        (ofOutcome (lib.getSignerAddress signer)).andThen fun address =>
          (ofOutcome (lib.exportBitcoinSignedMessage message address signature)).andThen
            fun rfc2440 => .done (address, signature, rfc2440)

/-- A method without a card: an outcome, a conversion and both `catch` clauses. -/
def methodOn (outcome : Except CppException α) (convert : α → Jni (JReturn β))
    (onBase onStd : JReturn β) : Jni (JReturn β) :=
  catchBaseStd
    (do
      let a ← call outcome
      convert a)
    (fun code what => do
      convert2JException code what
      pure onBase)
    (fun e => do
      convertStdException2JException e
      pure onStd)

theorem methodOn_object (outcome : Except CppException α) (convert : α → β)
    (onBase onStd : JReturn β) :
    methodOn outcome (fun a => pure (.object (convert a))) onBase onStd =
      wrapped outcome convert onBase onStd := rfl

/-! ## The calls of a method, one after another -/

theorem overCard_done (a : α) : overCard card tagLost (.done a) = pure a := rfl

theorem overCard_ofOutcome (outcome : Except CppException α) :
    overCard card tagLost (ofOutcome outcome) = call outcome := by
  cases outcome with
  | ok a => rfl
  | error e => rfl

theorem overCard_andThen (p : CardCall α) (f : α → CardCall β) :
    overCard card tagLost (p.andThen f) =
      overCard card tagLost p >>= fun a => overCard card tagLost (f a) := by
  unfold overCard
  rw [Program.runOver_andThen, onFst_bind]

/-- `overCard` of one call after another, with what the method does last. -/
theorem overCard_andThen_bind (p : CardCall α) (f : α → CardCall β)
    (last : β → CardM κ (JReturn γ)) :
    (overCard card tagLost (p.andThen f) >>= last) =
      overCard card tagLost p >>= fun a => overCard card tagLost (f a) >>= last := by
  rw [overCard_andThen, bind_assoc]

theorem tapsignerMethod_eq (use : T → CardCall α) (convert : α → β) (onBase onStd : JReturn β) :
    tapsignerMethod card tagLost lib use convert onBase onStd =
      cardMethod
        (do
          let a ← overCard card tagLost (lib.createTapsigner.andThen use)
          onSnd (pure (.object (convert a))))
        onBase onStd := by
  rw [overCard_andThen_bind]
  rfl

theorem satscardMethod_eq (use : S → CardCall α) (convert : α → β) :
    satscardMethod card tagLost lib use convert =
      cardMethod
        (do
          let a ← overCard card tagLost (lib.createSatscard.andThen use)
          onSnd (pure (.object (convert a))))
        .null .null := by
  rw [overCard_andThen_bind]
  rfl

theorem getAutoCardStatus_eq :
    getAutoCardStatus card tagLost lib satsCards =
      cardMethod
        (do
          let status ← overCard card tagLost (autoCardStatus lib satsCards)
          onSnd (pure (.object status)))
        .null .null := by
  unfold autoCardStatus getAutoCardStatus
  rw [overCard_andThen_bind]
  congr 2
  funext ckTapCard
  -- both kinds of card: a status, converted
  by_cases h : lib.isTapsigner ckTapCard
  · rw [if_pos h, if_pos h, overCard_andThen_bind]
    rfl
  · rw [if_neg h, if_neg h, overCard_andThen_bind]
    rfl

theorem signMessageByTapSigner_eq (cvc message path masterSignerId : JString) :
    signMessageByTapSigner card tagLost lib cvc message path masterSignerId =
      cardMethod
        (do
          let texts ← overCard card tagLost
            (tapSignerSignature lib (stringWrapper cvc) (stringWrapper message)
              (stringWrapper path) (stringWrapper masterSignerId))
          onSnd (do
            let signed ← convert2JSignedMessage texts.1 texts.2.1 texts.2.2
            pure (.object signed)))
        .null .null := by
  unfold tapSignerSignature signMessageByTapSigner
  simp only [overCard_andThen_bind, overCard_ofOutcome, overCard_done, pure_bind_eq, onSnd_bind]
  rfl

/-! ## Methods on the card itself -/

/-- A call over the transport, on the thread of a method. -/
theorem run_overCard (program : CardCall α) (k : κ) (refs : Nat) (env : JavaEnv) :
    (overCard card tagLost program).run (⟨k, none, refs⟩, env) =
      ((program.against (tagDevice card tagLost) k).1.mapError Fault.thrown,
        (⟨(program.against (tagDevice card tagLost) k).2, none,
          refs + 2 * program.failed (tagDevice card tagLost) k⟩, env)) := by
  unfold overCard
  rw [run_onFst, transport_refines_card]

/-- The handlers of a method use its exceptions only. -/
theorem cardMethod_onSnd (body : Jni (JReturn β)) (onBase onStd : JReturn β) :
    (cardMethod (onSnd body) onBase onStd : CardM κ (JReturn β)) =
      onSnd (catchBaseStd body
        (fun code what => do
          convert2JException code what
          pure onBase)
        (fun e => do
          convertStdException2JException e
          pure onStd)) := by
  apply catching_onSnd
  intro e
  cases e with
  | base code what => rfl
  | std what => rfl

/-- **A method over the transport.** It returns and raises what a method without a card does with
    the outcome that its calls have on the card itself, and no throwable of `transceive` is left. -/
theorem run_cardMethod (program : CardCall α) (convert : α → Jni (JReturn β))
    (onBase onStd : JReturn β) (k : κ) (refs : Nat) (env : JavaEnv) :
    (cardMethod
        (do
          let a ← overCard card tagLost program
          onSnd (convert a))
        onBase onStd).run (⟨k, none, refs⟩, env) =
      (((methodOn (program.against (tagDevice card tagLost) k).1 convert onBase onStd).run env).1,
        (⟨(program.against (tagDevice card tagLost) k).2, none,
            refs + 2 * program.failed (tagDevice card tagLost) k⟩,
          ((methodOn (program.against (tagDevice card tagLost) k).1 convert onBase onStd).run
            env).2)) := by
  have hcalls := run_overCard card tagLost program k refs env
  generalize program.against (tagDevice card tagLost) k = final at hcalls ⊢
  -- the body goes on from the thread that the calls have left
  have hbody : (do
      let a ← overCard card tagLost program
      onSnd (convert a) : CardM κ (JReturn β)).run (⟨k, none, refs⟩, env) =
        (onSnd (call final.1 >>= convert) : CardM κ (JReturn β)).run
          (⟨final.2, none, refs + 2 * program.failed (tagDevice card tagLost) k⟩, env) := by
    rw [run_bind, hcalls]
    cases final.1 with
    | ok a => rfl
    | error e => rfl
  have hmethod := cardMethod_onSnd (κ := κ) (call final.1 >>= convert) onBase onStd
  unfold cardMethod catchBaseStd at hmethod ⊢
  rw [run_catching_congr hbody, hmethod]
  rfl

/-- Over the transport, `method` does what `ideal` does with the outcome that the calls of
    `program` have on the card itself. It leaves the card as they leave it, no throwable pending,
    and two local references for each exchange that failed. -/
def RefinesOn (method : CardM κ (JReturn β)) (program : CardCall α)
    (ideal : Except CppException α → Jni (JReturn β)) : Prop :=
  ∀ k refs env,
    method.run (⟨k, none, refs⟩, env) =
      (((ideal (program.against (tagDevice card tagLost) k).1).run env).1,
        (⟨(program.against (tagDevice card tagLost) k).2, none,
            refs + 2 * program.failed (tagDevice card tagLost) k⟩,
          ((ideal (program.against (tagDevice card tagLost) k).1).run env).2))

theorem refinesOn_wrapped (program : CardCall α) (convert : α → β) (onBase onStd : JReturn β) :
    RefinesOn card tagLost
      (cardMethod
        (do
          let a ← overCard card tagLost program
          onSnd (pure (.object (convert a))))
        onBase onStd)
      program (fun outcome => wrapped outcome convert onBase onStd) := by
  intro k refs env
  rw [run_cardMethod]
  simp only [methodOn_object]

/-- **The methods refine their calls on the card.** Every method that makes a `Tapsigner` or a
    `Satscard` and uses it, the status of a card of either kind, and the signature of a message:
    whatever the card answers and whenever it leaves the field, Java sees what it would see if
    libnunchuk had the card itself. -/
theorem cardMethods_refine :
    (∀ {α β : Type} (use : T → CardCall α) (convert : α → β) (onBase onStd : JReturn β),
      RefinesOn card tagLost (tapsignerMethod card tagLost lib use convert onBase onStd)
        (lib.createTapsigner.andThen use)
        fun outcome => wrapped outcome convert onBase onStd) ∧
    (∀ {α β : Type} (use : S → CardCall α) (convert : α → β),
      RefinesOn card tagLost (satscardMethod card tagLost lib use convert)
        (lib.createSatscard.andThen use) fun outcome => wrapped outcome convert .null .null) ∧
    RefinesOn card tagLost (getAutoCardStatus card tagLost lib satsCards)
      (autoCardStatus lib satsCards) (fun outcome => wrapped outcome id .null .null) ∧
    ∀ cvc message path masterSignerId,
      RefinesOn card tagLost
        (signMessageByTapSigner card tagLost lib cvc message path masterSignerId)
        (tapSignerSignature lib (stringWrapper cvc) (stringWrapper message) (stringWrapper path)
          (stringWrapper masterSignerId))
        fun outcome =>
          methodOn outcome
            (fun texts => do
              let signed ← convert2JSignedMessage texts.1 texts.2.1 texts.2.2
              pure (.object signed))
            .null .null := by
  refine ⟨?_, ?_, ?_, ?_⟩
  · intro α β use convert onBase onStd
    rw [tapsignerMethod_eq]
    exact refinesOn_wrapped card tagLost _ convert onBase onStd
  · intro α β use convert
    rw [satscardMethod_eq]
    exact refinesOn_wrapped card tagLost _ convert .null .null
  · rw [getAutoCardStatus_eq]
    exact refinesOn_wrapped card tagLost _ id .null .null
  · intro cvc message path masterSignerId k refs env
    rw [signMessageByTapSigner_eq, run_cardMethod]

/-! ## A card that leaves the field -/

/-- Either every exchange of the method was answered and it keeps no local reference of them, or
    the last one failed, the ones before were answered, and the method returns `returned` and
    raises `TAG_LOST` with the text that `transceive` threw. -/
def ReportsLoss (method : CardM κ (JReturn β)) (program : CardCall α) (returned : JReturn β) :
    Prop :=
  ∀ k refs,
    ((∀ exchange ∈ program.exchanges (tagDevice card tagLost) k,
        Program.isFailure exchange.2 = false) ∧
      (method.run (⟨k, none, refs⟩, {})).2.1.localRefs = refs) ∨
    ∃ front request text,
      program.exchanges (tagDevice card tagLost) k =
        front ++ [(request, .error (.base tagLost text))] ∧
      (∀ exchange ∈ front, Program.isFailure exchange.2 = false) ∧
      method.run (⟨k, none, refs⟩, {}) =
        (.ok returned,
          (⟨(program.against (tagDevice card tagLost) k).2, none, refs + 2⟩,
            ⟨[⟨toString tagLost ++ ":" ++ text⟩]⟩))

/-- What a card fails with is `TAG_LOST`. -/
theorem error_of_tagDevice {k : κ} {program : CardCall α} {request : Bytes} {e : CppException}
    (h : (request, .error e) ∈ program.exchanges (tagDevice card tagLost) k) :
    ∃ text, e = .base tagLost text := by
  induction program generalizing k with
  | done a => cases h
  | raise e => cases h
  | send request next ih =>
    unfold Program.exchanges at h
    rcases List.mem_cons.mp h with hhere | hlater
    · have hanswer := (Prod.mk.inj hhere).2
      unfold tagDevice at hanswer
      cases hcard : (card k request).1 with
      | ok answer =>
        rw [hcard] at hanswer
        cases hanswer
      | error text =>
        rw [hcard] at hanswer
        exact ⟨text, Except.error.inj hanswer⟩
    · exact ih _ hlater

/-- Calls that catch nothing have their method report the loss. -/
theorem reportsLoss_of_propagates {program : CardCall α} (hp : program.Propagates)
    {method : CardM κ (JReturn β)} (convert : α → Jni (JReturn β)) (onBase onStd : JReturn β)
    (hmethod : RefinesOn card tagLost method program
      fun outcome => methodOn outcome convert onBase onStd) :
    ReportsLoss card tagLost method program onBase := by
  intro k refs
  rw [hmethod k refs {}]
  obtain hall | ⟨front, request, e, hexchanges, hfront, hthrown⟩ :=
    hp.exchanges_eq (tagDevice card tagLost) k
  · refine Or.inl ⟨hall, ?_⟩
    -- no exchange is counted
    have hnone : program.failed (tagDevice card tagLost) k = 0 := Program.countP_answered hall
    rw [hnone]
    rfl
  · have hlast : (request, .error e) ∈ program.exchanges (tagDevice card tagLost) k := by
      rw [hexchanges]
      exact List.mem_append_right front (List.mem_singleton_self _)
    obtain ⟨text, rfl⟩ := error_of_tagDevice card tagLost hlast
    have hone : program.failed (tagDevice card tagLost) k = 1 := by
      unfold Program.failed
      rw [hexchanges, List.countP_append, Program.countP_answered hfront]
      rfl
    refine Or.inr ⟨front, request, text, hexchanges, hfront, ?_⟩
    rw [hone, hthrown]
    rfl

/-- What is assumed of libnunchuk here: its calls let the exception of the transport through. -/
structure LibTapCards.CatchesNothing (lib : LibTapCards C T S) : Prop where
  createCKTapCard : lib.createCKTapCard.Propagates
  createTapsigner : lib.createTapsigner.Propagates
  getTapsignerStatus : ∀ ts, (lib.getTapsignerStatus ts).Propagates
  getSatscardStatus : ∀ ts, (lib.getSatscardStatus ts).Propagates
  getSigner : ∀ ts cvc masterSignerId path,
    (lib.getSignerFromTapsignerMasterSigner ts cvc masterSignerId path).Propagates
  signTapsignerMessage : ∀ ts cvc signer message,
    (lib.signTapsignerMessage ts cvc signer message).Propagates

theorem propagates_ofOutcome (outcome : Except CppException α) :
    (ofOutcome outcome).Propagates := by
  cases outcome with
  | ok a => trivial
  | error e => trivial

variable {lib}

theorem propagates_autoCardStatus (h : lib.CatchesNothing) :
    (autoCardStatus lib satsCards).Propagates := by
  apply h.createCKTapCard.andThen
  intro ckTapCard
  by_cases hkind : lib.isTapsigner ckTapCard
  · rw [if_pos hkind]
    exact (h.getTapsignerStatus _).andThen fun _ => trivial
  · rw [if_neg hkind]
    exact (h.getSatscardStatus _).andThen fun _ => trivial

theorem propagates_tapSignerSignature (h : lib.CatchesNothing)
    (cvc message path masterSignerId : NativeString) :
    (tapSignerSignature lib cvc message path masterSignerId).Propagates := by
  apply h.createTapsigner.andThen
  intro ts
  apply (h.getSigner ts cvc masterSignerId path).andThen
  intro signer
  apply (h.signTapsignerMessage ts cvc signer message).andThen
  intro signature
  apply (propagates_ofOutcome _).andThen
  intro address
  exact (propagates_ofOutcome _).andThen fun _ => trivial

/-- **A lost tag ends the method and is reported.** When libnunchuk lets the exception through, the
    first exchange that fails is the last one: nothing more is sent, the method returns null, and
    Java finds one exception, `TAG_LOST` with the text that `transceive` threw. -/
theorem tagLost_reported (h : lib.CatchesNothing) :
    (∀ {α β : Type} (use : T → CardCall α) (convert : α → β) (onBase onStd : JReturn β),
      (∀ ts, (use ts).Propagates) →
        ReportsLoss card tagLost (tapsignerMethod card tagLost lib use convert onBase onStd)
          (lib.createTapsigner.andThen use) onBase) ∧
    ReportsLoss card tagLost (getAutoCardStatus card tagLost lib satsCards)
      (autoCardStatus lib satsCards) .null ∧
    ∀ cvc message path masterSignerId,
      ReportsLoss card tagLost
        (signMessageByTapSigner card tagLost lib cvc message path masterSignerId)
        (tapSignerSignature lib (stringWrapper cvc) (stringWrapper message) (stringWrapper path)
          (stringWrapper masterSignerId)) .null := by
  refine ⟨?_, ?_, ?_⟩
  · intro α β use convert onBase onStd huse
    apply reportsLoss_of_propagates card tagLost (h.createTapsigner.andThen huse)
      (fun a => pure (.object (convert a))) onBase onStd
    intro k refs env
    rw [tapsignerMethod_eq, run_cardMethod]
  · apply reportsLoss_of_propagates card tagLost (propagates_autoCardStatus satsCards h)
      (fun status => pure (.object status)) .null .null
    intro k refs env
    rw [getAutoCardStatus_eq, run_cardMethod]
  · intro cvc message path masterSignerId
    apply reportsLoss_of_propagates card tagLost (propagates_tapSignerSignature h _ _ _ _)
      (fun texts => do
        let signed ← convert2JSignedMessage texts.1 texts.2.1 texts.2.2
        pure (.object signed))
      .null .null
    intro k refs env
    rw [signMessageByTapSigner_eq, run_cardMethod]

/-- One command to the card, with what the library makes of the answer. -/
def command (bytes : Bytes) (parse : Bytes → Except CppException α) : CardCall α :=
  .send bytes fun
    | .ok answer => ofOutcome (parse answer)
    | .error e => .raise e

theorem propagates_command (bytes : Bytes) (parse : Bytes → Except CppException α) :
    (command bytes parse).Propagates :=
  ⟨fun _ => rfl, fun answer => propagates_ofOutcome (parse answer)⟩

/-- A library that sends one command for each call and reads nothing but errors. -/
def LibTapCards.refusing : LibTapCards Unit Unit Unit where
  createCKTapCard := command [0, 164, 4, 0] fun _ => .ok ()
  createTapsigner := command [0, 164, 4, 0] fun _ => .ok ()
  createSatscard := command [0, 164, 4, 0] fun _ => .ok ()
  isTapsigner := fun _ => true
  toTapsigner := id
  toSatscard := id
  getTapsignerStatus := fun _ => command [0, 203] fun _ => .error (.base (-1) "bad answer")
  waitTapsigner := fun _ => command [0, 203] fun _ => .error (.base (-1) "bad answer")
  backupTapsigner := fun _ _ _ => command [0, 203] fun _ => .error (.base (-1) "bad answer")
  initTapsigner := fun _ _ _ => command [0, 203] fun _ => .ok ()
  changeTapsignerCVC := fun _ _ _ _ => command [0, 203] fun _ => .ok true
  getSignerFromTapsignerMasterSigner := fun _ _ _ _ =>
    command [0, 203] fun _ => .error (.base (-1) "bad answer")
  signTapsignerMessage := fun _ _ _ _ => command [0, 203] fun _ => .ok [65]
  getSatscardStatus := fun _ => command [0, 203] fun _ => .error (.base (-1) "bad answer")
  setupSatscard := fun _ _ _ => command [0, 203] fun _ => .error (.base (-1) "bad answer")
  getSignerAddress := fun _ => .ok [65]
  exportBitcoinSignedMessage := fun _ _ _ => .ok [65]

/-- A card that answers one command and is gone then. -/
def leavingCard : Card Bool
  | true, _ => (.ok [144, 0], false)
  | false, _ => (.error "android.nfc.TagLostException: Tag was lost.", false)

/-- Its loss is reported. -/
theorem leavingCard_loss_reported :
    ReportsLoss leavingCard (-6100)
      (getAutoCardStatus leavingCard (-6100) LibTapCards.refusing .plain)
      (autoCardStatus LibTapCards.refusing .plain) .null :=
  (tagLost_reported leavingCard (-6100) .plain
    { createCKTapCard := propagates_command _ _
      createTapsigner := propagates_command _ _
      getTapsignerStatus := fun _ => propagates_command _ _
      getSatscardStatus := fun _ => propagates_command _ _
      getSigner := fun _ _ _ _ => propagates_command _ _
      signTapsignerMessage := fun _ _ _ _ => propagates_command _ _ }).2.1

end Methods

end NunchukSdk
