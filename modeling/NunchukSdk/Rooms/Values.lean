import NunchukSdk.Jni.Strings
import NunchukSdk.Liquid.Outputs

/-!
# Events, Shared Wallets and Transactions of a Room

The values that the messaging methods exchange with Kotlin. All their texts go through
`GetStringUTFChars` and `NewStringUTF`.

## Results

- `convert2CMatrixEvent_shown`: an event of texts comes back as it was shown
- `convert2JMatrixEvent_native`: an event from Kotlin is shown as it was sent
-/

namespace NunchukSdk

/-! ## Texts -/

/-- A byte string that is the modified UTF-8 of some Java string. -/
def IsText (bytes : NativeString) : Prop := ∃ s, stringWrapper s = bytes

theorem newStringUTF_stringWrapper (s : JString) : newStringUTF (stringWrapper s) = some s := by
  unfold newStringUTF
  rw [stringWrapper_eq, cString_of_zero_not_mem (Foundation.ModifiedUtf8.zero_not_mem_encode s),
    Foundation.ModifiedUtf8.decode_encode]

theorem isText_stringWrapper (s : JString) : IsText (stringWrapper s) := ⟨s, rfl⟩

/-- A text is shown, and what is shown comes back as the text. -/
theorem IsText.shown {bytes : NativeString} (h : IsText bytes) :
    ∃ s, newStringUTF bytes = some s ∧ stringWrapper s = bytes := by
  obtain ⟨s, rfl⟩ := h
  exact ⟨s, newStringUTF_stringWrapper s, rfl⟩

/-! ## Events -/

/-- `nunchuk::NunchukMatrixEvent`. -/
structure NunchukMatrixEvent where
  type : NativeString
  content : NativeString
  eventId : NativeString
  roomId : NativeString
  sender : NativeString
  ts : Int
  deriving DecidableEq, Repr

/-- Kotlin `NunchukMatrixEvent`. -/
structure JMatrixEvent where
  type : JString := []
  content : JString := []
  eventId : JString := []
  roomId : JString := []
  sender : JString := []
  time : Int := 0
  deriving DecidableEq, Repr

/-- `Serializer::convert2CMatrixEvent`. -/
def convert2CMatrixEvent (event : JMatrixEvent) : NunchukMatrixEvent where
  type := stringWrapper event.type
  content := stringWrapper event.content
  eventId := stringWrapper event.eventId
  roomId := stringWrapper event.roomId
  sender := stringWrapper event.sender
  ts := event.time

/-- `Deserializer::convert2JMatrixEvent`. -/
def convert2JMatrixEvent (event : NunchukMatrixEvent) : Option JMatrixEvent := do
  let type ← newStringUTF event.type
  let content ← newStringUTF event.content
  let eventId ← newStringUTF event.eventId
  let roomId ← newStringUTF event.roomId
  let sender ← newStringUTF event.sender
  some
    { type := type
      content := content
      eventId := eventId
      roomId := roomId
      sender := sender
      time := event.ts }

/-- An event whose texts are texts. -/
structure NunchukMatrixEvent.OfTexts (event : NunchukMatrixEvent) : Prop where
  type : IsText event.type
  content : IsText event.content
  eventId : IsText event.eventId
  roomId : IsText event.roomId
  sender : IsText event.sender

theorem convert2JMatrixEvent_native (event : JMatrixEvent) :
    convert2JMatrixEvent (convert2CMatrixEvent event) = some event := by
  simp only [convert2JMatrixEvent, convert2CMatrixEvent, newStringUTF_stringWrapper]
  rfl

theorem convert2CMatrixEvent_shown {event : NunchukMatrixEvent} (h : event.OfTexts) :
    ∃ shown, convert2JMatrixEvent event = some shown ∧ convert2CMatrixEvent shown = event := by
  obtain ⟨⟨type, htype⟩, ⟨content, hcontent⟩, ⟨eventId, heventId⟩, ⟨roomId, hroomId⟩,
    ⟨sender, hsender⟩⟩ := h
  -- it is the native event of a Kotlin one
  have hnative :
      convert2CMatrixEvent ⟨type, content, eventId, roomId, sender, event.ts⟩ = event := by
    simp only [convert2CMatrixEvent, htype, hcontent, heventId, hroomId, hsender]
  refine ⟨_, ?_, hnative⟩
  rw [← hnative, convert2JMatrixEvent_native]
  rfl

/-! ## Shared wallets and transactions -/

/-- `Deserializer::convert2JListString`. -/
def convert2JListString (values : List NativeString) : Option (List JString) :=
  values.mapM newStringUTF

/-- `nunchuk::RoomWallet`. -/
structure RoomWallet where
  roomId : NativeString
  walletId : NativeString
  initEventId : NativeString
  joinEventIds : List NativeString
  leaveEventIds : List NativeString
  finalizeEventId : NativeString
  cancelEventId : NativeString
  readyEventId : NativeString
  deleteEventId : NativeString
  jsonContent : NativeString
  deriving DecidableEq, Repr

/-- Kotlin `RoomWallet`. -/
structure JRoomWallet where
  roomId : JString := []
  walletId : JString := []
  initEventId : JString := []
  joinEventIds : List JString := []
  leaveEventIds : List JString := []
  finalizeEventId : JString := []
  cancelEventId : JString := []
  readyEventId : JString := []
  deleteEventId : JString := []
  jsonContent : JString := []
  deriving DecidableEq, Repr

/-- `Deserializer::convert2JRoomWallet`. -/
def convert2JRoomWallet (wallet : RoomWallet) : Option JRoomWallet := do
  let roomId ← newStringUTF wallet.roomId
  let walletId ← newStringUTF wallet.walletId
  let initEventId ← newStringUTF wallet.initEventId
  let joinEventIds ← convert2JListString wallet.joinEventIds
  let leaveEventIds ← convert2JListString wallet.leaveEventIds
  let finalizeEventId ← newStringUTF wallet.finalizeEventId
  let cancelEventId ← newStringUTF wallet.cancelEventId
  let readyEventId ← newStringUTF wallet.readyEventId
  let deleteEventId ← newStringUTF wallet.deleteEventId
  let jsonContent ← newStringUTF wallet.jsonContent
  some
    { roomId := roomId
      walletId := walletId
      initEventId := initEventId
      joinEventIds := joinEventIds
      leaveEventIds := leaveEventIds
      finalizeEventId := finalizeEventId
      cancelEventId := cancelEventId
      readyEventId := readyEventId
      deleteEventId := deleteEventId
      jsonContent := jsonContent }

/-- `Deserializer::convert2JRoomWallets`. -/
def convert2JRoomWallets (wallets : List RoomWallet) : Option (List JRoomWallet) :=
  wallets.mapM convert2JRoomWallet

/-- `nunchuk::RoomTransaction`. -/
structure RoomTransaction where
  roomId : NativeString
  walletId : NativeString
  txId : NativeString
  initEventId : NativeString
  signEventIds : List NativeString
  rejectEventIds : List NativeString
  broadcastEventId : NativeString
  cancelEventId : NativeString
  readyEventId : NativeString
  deriving DecidableEq, Repr

/-- Kotlin `RoomTransaction`. -/
structure JRoomTransaction where
  roomId : JString := []
  walletId : JString := []
  txId : JString := []
  initEventId : JString := []
  signEventIds : List JString := []
  rejectEventIds : List JString := []
  broadcastEventId : JString := []
  cancelEventId : JString := []
  readyEventId : JString := []
  deriving DecidableEq, Repr

/-- `Deserializer::convert2JRoomTransaction`. -/
def convert2JRoomTransaction (transaction : RoomTransaction) : Option JRoomTransaction := do
  let roomId ← newStringUTF transaction.roomId
  let walletId ← newStringUTF transaction.walletId
  let txId ← newStringUTF transaction.txId
  let initEventId ← newStringUTF transaction.initEventId
  let signEventIds ← convert2JListString transaction.signEventIds
  let rejectEventIds ← convert2JListString transaction.rejectEventIds
  let broadcastEventId ← newStringUTF transaction.broadcastEventId
  let cancelEventId ← newStringUTF transaction.cancelEventId
  let readyEventId ← newStringUTF transaction.readyEventId
  some
    { roomId := roomId
      walletId := walletId
      txId := txId
      initEventId := initEventId
      signEventIds := signEventIds
      rejectEventIds := rejectEventIds
      broadcastEventId := broadcastEventId
      cancelEventId := cancelEventId
      readyEventId := readyEventId }

/-- `Deserializer::convert2JRoomTransactions`. -/
def convert2JRoomTransactions (transactions : List RoomTransaction) :
    Option (List JRoomTransaction) :=
  transactions.mapM convert2JRoomTransaction

/-! ## Arguments -/

/-- `nunchuk::Device`. -/
structure NativeDevice where
  type : NativeString
  model : NativeString
  path : NativeString
  masterFingerprint : NativeString
  connected : Bool
  needsPassPhraseSent : Bool
  needsPinSent : Bool
  deriving DecidableEq, Repr

/-- Kotlin `Device`. -/
structure JDevice where
  type : JString
  model : JString
  path : JString
  masterFingerprint : JString
  connected : Bool
  needPassPhraseSent : Bool
  needPinSet : Bool
  deriving DecidableEq, Repr

/-- `Serializer::convert2CDevice`. -/
def convert2CDevice (device : JDevice) : NativeDevice where
  type := stringWrapper device.type
  model := stringWrapper device.model
  path := stringWrapper device.path
  masterFingerprint := stringWrapper device.masterFingerprint
  connected := device.connected
  needsPassPhraseSent := device.needPassPhraseSent
  needsPinSent := device.needPinSet

end NunchukSdk
