import NunchukSdk.Jni.EntryPoint
import NunchukSdk.Marshal.Signer
import NunchukSdk.Rooms.Executors
import NunchukSdk.Rooms.Values

/-!
# The Messaging Methods

The methods of `room-wallet-jni.cpp`, `room-transaction-jni.cpp`, `room-jni.cpp` and `sync-jni.cpp`
each make one call on `nuMatrix`, in the course of which the library may send events and files
through the callbacks, and convert what it yields. They differ in what they return and in their
`catch` clauses.

## Model

- `nuMatrix` and `nu` have been made. Their state is `ν`; a call yields an outcome and a new state.
- A method runs on a thread of Java, which is attached. What an executor threw in a callback stays
  pending, so that the conversion of a result and the clauses are undefined then.

## Results

- `follows_roomMethod`: what every method does, for every library and all executors
- `roomMethod_returns_iff`: a method returns exactly when its texts can be shown and no executor
  throws, or only in the last call of a method that has nothing to convert; it is undefined
  otherwise, and so is `getMatrixEvent` when the library throws
-/

namespace NunchukSdk

open Foundation NativeM

/-! ## Library calls -/

/-- A call of `nuMatrix`, up to its outcome and the state it leaves. -/
abbrev MatrixCall (ν α : Type) :=
  Program MatrixRequest MatrixReply CppException (Except CppException α × ν)

/-- What the methods use of `nuMatrix`. -/
structure LibMatrix (ν : Type) where
  /-- `InitWallet` with a room, a name, `m`, `n`, an address type, escrow, a description and the
      signers. -/
  initWallet : NativeString → NativeString → Int → Int → AddressType → Bool → NativeString →
    List SingleSigner → ν → MatrixCall ν NunchukMatrixEvent
  joinWallet : NativeString → SingleSigner → ν → MatrixCall ν NunchukMatrixEvent
  /-- `LeaveWallet` with a room, the event of joining and a reason. -/
  leaveWallet :
    NativeString → NativeString → NativeString → ν → MatrixCall ν NunchukMatrixEvent
  cancelWallet : NativeString → NativeString → ν → MatrixCall ν NunchukMatrixEvent
  createWallet : NativeString → ν → MatrixCall ν NunchukMatrixEvent
  hasRoomWallet : NativeString → ν → MatrixCall ν Bool
  getRoomWallet : NativeString → ν → MatrixCall ν RoomWallet
  getAllRoomWallets : ν → MatrixCall ν (List RoomWallet)
  consumeEvent : NunchukMatrixEvent → ν → MatrixCall ν Unit
  /-- `InitTransaction` with a room, outputs, a memo, inputs, a fee rate and who pays the fee. -/
  initTransaction : NativeString → AmountsMap → NativeString → List UnspentOutput → Int → Bool →
    ν → MatrixCall ν NunchukMatrixEvent
  signTransaction : NativeString → NativeDevice → ν → MatrixCall ν NunchukMatrixEvent
  rejectTransaction : NativeString → NativeString → ν → MatrixCall ν NunchukMatrixEvent
  cancelTransaction : NativeString → NativeString → ν → MatrixCall ν NunchukMatrixEvent
  broadcastTransaction : NativeString → ν → MatrixCall ν NunchukMatrixEvent
  getRoomTransaction : NativeString → ν → MatrixCall ν RoomTransaction
  getPendingTransactions : NativeString → ν → MatrixCall ν (List RoomTransaction)
  getTransactionId : NativeString → ν → MatrixCall ν NativeString
  /-- `SendErrorEvent` with a room, a platform, a code and a message. -/
  sendErrorEvent :
    NativeString → NativeString → NativeString → NativeString → ν → MatrixCall ν Unit
  getEvent : NativeString → ν → MatrixCall ν NunchukMatrixEvent
  consumeSyncEvent : NunchukMatrixEvent → ν → MatrixCall ν Unit
  downloadFileCallback : NativeString → List UInt8 → ν → MatrixCall ν Unit
  writeFileCallback : NativeString → NativeString → ν → MatrixCall ν Unit
  uploadFileCallback : NativeString → NativeString → ν → MatrixCall ν Unit
  enableAutoBackup : Bool → ν → MatrixCall ν Unit
  registerAutoBackup : NativeString → NativeString → ν → MatrixCall ν Unit
  backup : ν → MatrixCall ν Unit
  registerFileFunc : ν → MatrixCall ν Unit

/-- What the methods return to Java. -/
inductive JRoomValue where
  | event (event : JMatrixEvent)
  | wallet (wallet : JRoomWallet)
  | wallets (wallets : List JRoomWallet)
  | transaction (transaction : JRoomTransaction)
  | transactions (transactions : List JRoomTransaction)
  | flag (b : Bool)
  | text (s : JString)
  deriving DecidableEq

/-! ## The shapes of the methods -/

/-- A method: its library call, and what it makes of the outcome. -/
inductive RoomMethod (ν : Type) : Type 1 where
  /-- The result is converted; both clauses return the throwable. -/
  | returning {α : Type} (convert : α → Option JRoomValue) (libCall : ν → MatrixCall ν α)
  /-- The result is converted; both clauses end without `return`. -/
  | unreturned {α : Type} (convert : α → Option JRoomValue) (libCall : ν → MatrixCall ν α)
  /-- Nothing is returned; both clauses. -/
  | void (libCall : ν → MatrixCall ν Unit)
  /-- Nothing is returned; one clause for all exceptions. -/
  | sync (libCall : ν → MatrixCall ν Unit)
  /-- A boolean is returned; both clauses return `JNI_FALSE`. -/
  | flag (libCall : ν → MatrixCall ν Bool)
  /-- A text is returned; both clauses return an empty one and raise nothing. -/
  | textOrEmpty (libCall : ν → MatrixCall ν NativeString)

/-- Code of a method: the thread, the library, and the exceptions it has raised. -/
abbrev MatrixM (σ θ ν α : Type) := NativeM CppException ((RoomThread σ θ × ν) × JavaEnv) α

section Code

variable {σ θ ν α : Type} (vm : VmAnswers) (executors : Executors σ θ)

/-- A library call over the callbacks. -/
def callMatrix (libCall : ν → MatrixCall ν α) : MatrixM σ θ ν α := do
  let s ← read
  let ended ← onFst (onFst ((libCall s.1.2).runOver (matrixCallback vm executors)))
  update fun s => ((s.1.1, ended.2), s.2)
  call ended.1

/-- JNI functions after the library call. -/
def javaStep (m : Jni α) : MatrixM σ θ ν α := do
  let s ← read
  match s.1.1.throwable with
  -- what an executor threw is still pending
  | some _ => undefinedBehaviour
  | none => onSnd m

/-- The code of a method. A method that returns nothing returns `null` here. -/
def RoomMethod.run : RoomMethod ν → MatrixM σ θ ν (JReturn JRoomValue)
  | .returning convert libCall =>
    catchBaseStd
      (do
        let result ← callMatrix vm executors libCall
        let shown ← javaStep (defined (convert result))
        pure (.object shown))
      (fun code what => do
        javaStep (convert2JException code what)
        pure .throwable)
      (fun e => do
        javaStep (convertStdException2JException e)
        pure .throwable)
  | .unreturned convert libCall =>
    catchBaseStd
      (do
        let result ← callMatrix vm executors libCall
        let shown ← javaStep (defined (convert result))
        pure (.object shown))
      -- control flows off the end of a function that returns a value
      (fun code what => do
        javaStep (convert2JException code what)
        undefinedBehaviour)
      (fun e => do
        javaStep (convertStdException2JException e)
        undefinedBehaviour)
  | .void libCall =>
    catchBaseStd
      (do
        callMatrix vm executors libCall
        pure .null)
      (fun code what => do
        javaStep (convert2JException code what)
        pure .null)
      (fun e => do
        javaStep (convertStdException2JException e)
        pure .null)
  | .sync libCall =>
    catchStd
      (do
        callMatrix vm executors libCall
        pure .null)
      -- a `BaseException` is caught here too, and loses its code
      (fun e => do
        javaStep (convertStdException2JException e)
        pure .null)
  | .flag libCall =>
    catchBaseStd
      (do
        let b ← callMatrix vm executors libCall
        pure (.object (.flag b)))
      (fun code what => do
        javaStep (convert2JException code what)
        pure (.object (.flag false)))
      (fun e => do
        javaStep (convertStdException2JException e)
        pure (.object (.flag false)))
  | .textOrEmpty libCall =>
    catchBaseStd
      (do
        let text ← callMatrix vm executors libCall
        let shown ← javaStep (defined (newStringUTF text))
        pure (.object (.text shown)))
      -- Java cannot tell a failure from an empty text
      (fun _ _ => do
        let empty ← javaStep (defined (newStringUTF []))
        pure (.object (.text empty)))
      (fun _ => do
        let empty ← javaStep (defined (newStringUTF []))
        pure (.object (.text empty)))

end Code

/-! ## The methods -/

section Methods

variable {ν : Type} (lib : LibNunchuk) (coinLib : LibSatsCard) (matrix : LibMatrix ν)

/-- `LibNunchukAndroid_initSharedWallet`. -/
def initSharedWallet (roomId name : JString) (requireSigns totalSigns addressType : Int)
    (isEscrow : Bool) (des : JString) (signers : List JSingleSigner) : RoomMethod ν :=
  .returning (fun event => (convert2JMatrixEvent event).map .event)
    (matrix.initWallet (stringWrapper roomId) (stringWrapper name) requireSigns totalSigns
      (convert2CAddressType addressType) isEscrow (stringWrapper des)
      (convert2CSigners lib signers))

/-- `LibNunchukAndroid_joinSharedWallet`. -/
def joinSharedWallet (roomId : JString) (signer : JSingleSigner) : RoomMethod ν :=
  .returning (fun event => (convert2JMatrixEvent event).map .event)
    (matrix.joinWallet (stringWrapper roomId) (convert2CSigner lib signer))

/-- `LibNunchukAndroid_leaveSharedWallet`. -/
def leaveSharedWallet (roomId joinEventId reason : JString) : RoomMethod ν :=
  .returning (fun event => (convert2JMatrixEvent event).map .event)
    (matrix.leaveWallet (stringWrapper roomId) (stringWrapper joinEventId) (stringWrapper reason))

/-- `LibNunchukAndroid_cancelSharedWallet`. -/
def cancelSharedWallet (roomId reason : JString) : RoomMethod ν :=
  .returning (fun event => (convert2JMatrixEvent event).map .event)
    (matrix.cancelWallet (stringWrapper roomId) (stringWrapper reason))

/-- `LibNunchukAndroid_createSharedWallet`. -/
def createSharedWallet (roomId : JString) : RoomMethod ν :=
  .returning (fun event => (convert2JMatrixEvent event).map .event)
    (matrix.createWallet (stringWrapper roomId))

/-- `LibNunchukAndroid_consumeEvent`. -/
def consumeEvent (event : JMatrixEvent) : RoomMethod ν :=
  .void (matrix.consumeEvent (convert2CMatrixEvent event))

/-- `LibNunchukAndroid_hasRoomWallet`. -/
def hasRoomWallet (roomId : JString) : RoomMethod ν :=
  .flag (matrix.hasRoomWallet (stringWrapper roomId))

/-- `LibNunchukAndroid_getRoomWallet`. -/
def getRoomWallet (roomId : JString) : RoomMethod ν :=
  .returning (fun wallet => (convert2JRoomWallet wallet).map .wallet)
    (matrix.getRoomWallet (stringWrapper roomId))

/-- `LibNunchukAndroid_getAllRoomWallets`. -/
def getAllRoomWallets : RoomMethod ν :=
  .returning (fun wallets => (convert2JRoomWallets wallets).map .wallets) matrix.getAllRoomWallets

/-- `LibNunchukAndroid_initRoomTransaction`. -/
def initRoomTransaction (roomId : JString) (outputs : JavaMap JAmount) (memo : JString)
    (inputs : List JUnspentOutput) (feeRate : JAmount) (subtractFeeFromAmount : Bool) :
    RoomMethod ν :=
  .returning (fun event => (convert2JMatrixEvent event).map .event)
    (matrix.initTransaction (stringWrapper roomId) (convert2CAmountsMap outputs)
      (stringWrapper memo) (convert2CUnspentOutputs coinLib inputs)
      (convert2CAmount feeRate) subtractFeeFromAmount)

/-- `LibNunchukAndroid_signRoomTransaction`. -/
def signRoomTransaction (initEventId : JString) (device : JDevice) : RoomMethod ν :=
  .returning (fun event => (convert2JMatrixEvent event).map .event)
    (matrix.signTransaction (stringWrapper initEventId) (convert2CDevice device))

/-- `LibNunchukAndroid_rejectRoomTransaction`. -/
def rejectRoomTransaction (initEventId reason : JString) : RoomMethod ν :=
  .returning (fun event => (convert2JMatrixEvent event).map .event)
    (matrix.rejectTransaction (stringWrapper initEventId) (stringWrapper reason))

/-- `LibNunchukAndroid_cancelRoomTransaction`. -/
def cancelRoomTransaction (initEventId reason : JString) : RoomMethod ν :=
  .returning (fun event => (convert2JMatrixEvent event).map .event)
    (matrix.cancelTransaction (stringWrapper initEventId) (stringWrapper reason))

/-- `LibNunchukAndroid_broadcastRoomTransaction`. -/
def broadcastRoomTransaction (initEventId : JString) : RoomMethod ν :=
  .returning (fun event => (convert2JMatrixEvent event).map .event)
    (matrix.broadcastTransaction (stringWrapper initEventId))

/-- `LibNunchukAndroid_getRoomTransaction`. -/
def getRoomTransaction (initEventId : JString) : RoomMethod ν :=
  .returning (fun transaction => (convert2JRoomTransaction transaction).map .transaction)
    (matrix.getRoomTransaction (stringWrapper initEventId))

/-- `LibNunchukAndroid_getPendingTransactions`. -/
def getPendingTransactions (roomId : JString) : RoomMethod ν :=
  .returning (fun transactions => (convert2JRoomTransactions transactions).map .transactions)
    (matrix.getPendingTransactions (stringWrapper roomId))

/-- `LibNunchukAndroid_getTransactionId`. -/
def getTransactionId (eventId : JString) : RoomMethod ν :=
  .textOrEmpty (matrix.getTransactionId (stringWrapper eventId))

/-- `LibNunchukAndroid_sendErrorEvent`. -/
def sendErrorEvent (roomId platform code message : JString) : RoomMethod ν :=
  .void (matrix.sendErrorEvent (stringWrapper roomId) (stringWrapper platform)
    (stringWrapper code) (stringWrapper message))

/-- `LibNunchukAndroid_getMatrixEvent`. -/
def getMatrixEvent (eventId : JString) : RoomMethod ν :=
  .unreturned (fun event => (convert2JMatrixEvent event).map .event)
    (matrix.getEvent (stringWrapper eventId))

/-- `LibNunchukAndroid_consumeSyncEvent`. -/
def consumeSyncEvent (event : JMatrixEvent) : RoomMethod ν :=
  .sync (matrix.consumeSyncEvent (convert2CMatrixEvent event))

/-- `LibNunchukAndroid_downloadFileCallback`. -/
def downloadFileCallback (fileJsonInfo : JString) (fileData : List Int8) : RoomMethod ν :=
  .sync (matrix.downloadFileCallback (stringWrapper fileJsonInfo) (convert2CByteArray fileData))

/-- `LibNunchukAndroid_writeFileCallback`. -/
def writeFileCallback (fileJsonInfo filePath : JString) : RoomMethod ν :=
  .sync (matrix.writeFileCallback (stringWrapper fileJsonInfo) (stringWrapper filePath))

/-- `LibNunchukAndroid_uploadFileCallback`. -/
def uploadFileCallback (fileJsonInfo fileUrl : JString) : RoomMethod ν :=
  .sync (matrix.uploadFileCallback (stringWrapper fileJsonInfo) (stringWrapper fileUrl))

/-- `LibNunchukAndroid_enableAutoBackUp`. -/
def enableAutoBackUp (enable : Bool) : RoomMethod ν := .sync (matrix.enableAutoBackup enable)

/-- `LibNunchukAndroid_registerAutoBackUp`. -/
def registerAutoBackUp (syncRoomId accessToken : JString) : RoomMethod ν :=
  .sync (matrix.registerAutoBackup (stringWrapper syncRoomId) (stringWrapper accessToken))

/-- `LibNunchukAndroid_backup`. -/
def backup : RoomMethod ν := .sync matrix.backup

/-- `LibNunchukAndroid_registerDownloadFileBackup`. -/
def registerDownloadFileBackup : RoomMethod ν := .sync matrix.registerFileFunc

end Methods

/-! ## What a method comes to -/

/-- What Java gets: what is returned, and the exceptions that are raised. -/
abbrev RoomAnswer := JReturn JRoomValue × List NCNativeException

/-- The end of a method: whether it uses JNI functions, and the answer if they are defined. -/
structure RoomEnd where
  usesJni : Bool
  answer : Option RoomAnswer

/-- What a method makes of the library. -/
structure RoomTold (ν : Type) where
  requests : List MatrixRequest
  next : ν
  ended : RoomEnd

/-- The outcome of a library call. -/
def callOutcome {ν α : Type} :
    Except CppException (Except CppException α × ν) → Except CppException α
  | .ok (outcome, _) => outcome
  | .error e => .error e

/-- The state that a library call leaves. -/
def callNext {ν α : Type} (s : ν) : Except CppException (Except CppException α × ν) → ν
  | .ok (_, next) => next
  | .error _ => s

/-- What a library call comes to, with the end that its outcome leads to. -/
def toldBy {ν α : Type} (libCall : ν → MatrixCall ν α) (onResult : α → RoomEnd)
    (onFailure : CppException → RoomEnd) (s : ν) : RoomTold ν where
  requests := (libCall s).asked MatrixRequest.reply
  next := callNext s ((libCall s).ending MatrixRequest.reply)
  ended :=
    match callOutcome ((libCall s).ending MatrixRequest.reply) with
    | .ok a => onResult a
    | .error e => onFailure e

/-- What a method comes to. -/
def RoomMethod.told {ν : Type} : RoomMethod ν → ν → RoomTold ν
  | .returning convert libCall =>
    toldBy libCall (fun a => ⟨true, (convert a).map fun shown => (.object shown, [])⟩)
      fun e => ⟨true, some (.throwable, [⟨e.message⟩])⟩
  | .unreturned convert libCall =>
    toldBy libCall (fun a => ⟨true, (convert a).map fun shown => (.object shown, [])⟩)
      fun _ => ⟨true, none⟩
  | .void libCall =>
    toldBy libCall (fun _ => ⟨false, some (.null, [])⟩)
      fun e => ⟨true, some (.null, [⟨e.message⟩])⟩
  | .sync libCall =>
    toldBy libCall (fun _ => ⟨false, some (.null, [])⟩)
      fun e => ⟨true, some (.null, [⟨e.what⟩])⟩
  | .flag libCall =>
    toldBy libCall (fun b => ⟨false, some (.object (.flag b), [])⟩)
      fun e => ⟨true, some (.object (.flag false), [⟨e.message⟩])⟩
  | .textOrEmpty libCall =>
    toldBy libCall (fun text => ⟨true, (newStringUTF text).map fun s => (.object (.text s), [])⟩)
      fun _ => ⟨true, some (.object (.text []), [])⟩

section Runs

variable {σ θ ν α : Type} {vm : VmAnswers} {executors : Executors σ θ}

/-- Code at the end of a method. -/
structure EndsIn (m : MatrixM σ θ ν (JReturn JRoomValue)) (ended : RoomEnd) : Prop where
  returns : ∀ {thread s env answer}, (ended.usesJni = true → thread.throwable = none) →
    ended.answer = some answer →
    m.run ((thread, s), env) = (.ok answer.1, ((thread, s), ⟨env.pending ++ answer.2⟩))
  undefined : ∀ {thread s env},
    (ended.usesJni = true ∧ thread.throwable ≠ none) ∨ ended.answer = none →
    ∃ after, m.run ((thread, s), env) = (.error .undefinedBehaviour, after)

/-- The calls and the answer of a method that is entered while the app is in some state: the texts
    are shown, and nothing is pending when a JNI function is used. -/
structure RoomTold.Works (executors : Executors σ θ) (app : σ) (told : RoomTold ν)
    (calls : List ExecutorCall) (answer : RoomAnswer) : Prop where
  shown : told.requests.mapM MatrixRequest.shown = some calls
  quiet : QuietUntilLast (thrownBy executors app calls)
  clear : told.ended.usesJni = true → (thrownBy executors app calls).getLast?.join = none
  answers : told.ended.answer = some answer

/-- Code that does what is told, on the thread of a native method. -/
structure Follows (executors : Executors σ θ) (m : MatrixM σ θ ν (JReturn JRoomValue))
    (told : ν → RoomTold ν) : Prop where
  returns : ∀ {thread s env calls answer}, thread.vm.Attached → thread.throwable = none →
    (told s).Works executors thread.app calls answer →
    m.run ((thread, s), env) =
      (.ok answer.1, ((thread.heard executors calls, (told s).next), ⟨env.pending ++ answer.2⟩))
  undefined : ∀ {thread s env}, thread.vm.Attached → thread.throwable = none →
    (∀ calls answer, ¬ (told s).Works executors thread.app calls answer) →
    ∃ after, m.run ((thread, s), env) = (.error .undefinedBehaviour, after)

theorem run_javaStep {m : Jni α} {thread : RoomThread σ θ} (h : thread.throwable = none) (s : ν)
    (env : JavaEnv) :
    (javaStep m).run ((thread, s), env) =
      ((m.run env).1, ((thread, s), (m.run env).2)) := by
  unfold javaStep
  rw [run_read_bind]
  simp only [h]
  rfl

theorem run_javaStep_pending {m : Jni α} {thread : RoomThread σ θ} (h : thread.throwable ≠ none)
    (s : ν) (env : JavaEnv) :
    (javaStep m).run ((thread, s), env) = (.error .undefinedBehaviour, ((thread, s), env)) := by
  obtain ⟨t, ht⟩ := Option.ne_none_iff_exists'.mp h
  unfold javaStep
  rw [run_read_bind]
  simp only [ht]
  rfl

/-- A value that is returned without JNI functions. -/
theorem endsIn_pure (returned : JReturn JRoomValue) :
    EndsIn (pure returned : MatrixM σ θ ν (JReturn JRoomValue)) ⟨false, some (returned, [])⟩ where
  returns {thread s env answer} _ hanswer := by
    cases hanswer
    rw [run_pure, List.append_nil]
  undefined {thread s env} h := by
    rcases h with ⟨husesJni, -⟩ | hanswer
    · cases husesJni
    · cases hanswer

/-- A result that is converted. -/
theorem endsIn_convert {β : Type} (converted : Option β) (value : β → JRoomValue) :
    EndsIn (σ := σ) (θ := θ) (ν := ν)
      (do
        let shown ← javaStep (defined converted)
        pure (.object (value shown)))
      ⟨true, converted.map fun shown => (.object (value shown), [])⟩ where
  returns {thread s env answer} hclear hanswer := by
    obtain ⟨shown, rfl, rfl⟩ := Option.map_eq_some_iff.mp hanswer
    rw [run_bind, run_javaStep (hclear rfl)]
    show (Except.ok _, ((thread, s), env)) = _
    rw [List.append_nil]
  undefined {thread s env} h := by
    by_cases hclear : thread.throwable = none
    · rcases h with ⟨-, hpending⟩ | hanswer
      · exact absurd hclear hpending
      · cases Option.map_eq_none_iff.mp hanswer
        refine ⟨((thread, s), env), ?_⟩
        rw [run_bind, run_javaStep hclear]
        rfl
    · refine ⟨((thread, s), env), ?_⟩
      rw [run_bind, run_javaStep_pending hclear]

/-- A clause that raises an exception and returns, or forgets to. -/
theorem endsIn_raise {raise : Jni Unit} (raised : List NCNativeException)
    (hraise : ∀ env, raise.run env = (.ok (), ⟨env.pending ++ raised⟩))
    (returned : Option (JReturn JRoomValue)) :
    EndsIn (σ := σ) (θ := θ) (ν := ν)
      (do
        javaStep raise
        defined returned)
      ⟨true, returned.map fun returned => (returned, raised)⟩ where
  returns {thread s env answer} hclear hanswer := by
    obtain ⟨returned, rfl, rfl⟩ := Option.map_eq_some_iff.mp hanswer
    rw [run_bind, run_javaStep (hclear rfl), hraise]
    rfl
  undefined {thread s env} h := by
    by_cases hclear : thread.throwable = none
    · rcases h with ⟨-, hpending⟩ | hanswer
      · exact absurd hclear hpending
      · cases Option.map_eq_none_iff.mp hanswer
        refine ⟨((thread, s), ⟨env.pending ++ raised⟩), ?_⟩
        rw [run_bind, run_javaStep hclear, hraise]
        rfl
    · refine ⟨((thread, s), env), ?_⟩
      rw [run_bind, run_javaStep_pending hclear]

/-- A library call over the callbacks, where these are defined. -/
theorem run_callMatrix (hvm : vm.getEnvFailure = none) (libCall : ν → MatrixCall ν α)
    {thread : RoomThread σ θ} (hattached : thread.vm.Attached) (hclear : thread.throwable = none)
    (s : ν) (env : JavaEnv) {calls : List ExecutorCall}
    (hcalls : ((libCall s).asked MatrixRequest.reply).mapM MatrixRequest.shown = some calls)
    (hquiet : QuietUntilLast (thrownBy executors thread.app calls)) :
    (callMatrix vm executors libCall).run ((thread, s), env) =
      ((callOutcome ((libCall s).ending MatrixRequest.reply)).mapError Fault.thrown,
        ((thread.heard executors calls,
          callNext s ((libCall s).ending MatrixRequest.reply)), env)) := by
  unfold callMatrix
  rw [run_read_bind, run_bind, run_onFst, run_onFst,
    (run_onCallingThread hvm (libCall s) hattached hclear).1 hcalls hquiet]
  rcases (libCall s).ending MatrixRequest.reply with e | ⟨outcome, next⟩
  · rfl
  · cases outcome with
    | error e => rfl
    | ok a => rfl

/-- What comes after a library call that returns. -/
theorem run_callMatrix_bind_ok (hvm : vm.getEnvFailure = none) {libCall : ν → MatrixCall ν α}
    {finish : α → MatrixM σ θ ν (JReturn JRoomValue)} {thread : RoomThread σ θ}
    (hattached : thread.vm.Attached) (hclear : thread.throwable = none) {s : ν} {env : JavaEnv}
    {calls : List ExecutorCall}
    (hcalls : ((libCall s).asked MatrixRequest.reply).mapM MatrixRequest.shown = some calls)
    (hquiet : QuietUntilLast (thrownBy executors thread.app calls)) {a : α}
    (houtcome : callOutcome ((libCall s).ending MatrixRequest.reply) = .ok a) :
    (callMatrix vm executors libCall >>= finish).run ((thread, s), env) =
      (finish a).run ((thread.heard executors calls,
        callNext s ((libCall s).ending MatrixRequest.reply)), env) := by
  rw [run_bind, run_callMatrix hvm libCall hattached hclear s env hcalls hquiet, houtcome]
  rfl

/-- Nothing comes after one that throws. -/
theorem run_callMatrix_bind_error (hvm : vm.getEnvFailure = none) {libCall : ν → MatrixCall ν α}
    {finish : α → MatrixM σ θ ν (JReturn JRoomValue)} {thread : RoomThread σ θ}
    (hattached : thread.vm.Attached) (hclear : thread.throwable = none) {s : ν} {env : JavaEnv}
    {calls : List ExecutorCall}
    (hcalls : ((libCall s).asked MatrixRequest.reply).mapM MatrixRequest.shown = some calls)
    (hquiet : QuietUntilLast (thrownBy executors thread.app calls)) {e : CppException}
    (houtcome : callOutcome ((libCall s).ending MatrixRequest.reply) = .error e) :
    (callMatrix vm executors libCall >>= finish).run ((thread, s), env) =
      (.error (.thrown e), ((thread.heard executors calls,
        callNext s ((libCall s).ending MatrixRequest.reply)), env)) := by
  rw [run_bind, run_callMatrix hvm libCall hattached hclear s env hcalls hquiet, houtcome]
  rfl

/-- Where they are not defined. -/
theorem run_callMatrix_undefined (hvm : vm.getEnvFailure = none) (libCall : ν → MatrixCall ν α)
    {thread : RoomThread σ θ} (hattached : thread.vm.Attached) (hclear : thread.throwable = none)
    (s : ν) (env : JavaEnv)
    (hcalls : ∀ {calls},
      ((libCall s).asked MatrixRequest.reply).mapM MatrixRequest.shown = some calls →
        ¬ QuietUntilLast (thrownBy executors thread.app calls)) :
    ∃ after, (callMatrix vm executors libCall).run ((thread, s), env) =
      (.error .undefinedBehaviour, after) := by
  obtain ⟨after, hundefined⟩ :=
    (run_onCallingThread hvm (libCall s) hattached hclear).2 hcalls
  refine ⟨((after, s), env), ?_⟩
  unfold callMatrix
  rw [run_read_bind, run_bind, run_onFst, run_onFst, hundefined]

/-- The common shape of the methods: a library call with an end, and clauses that end too. -/
theorem follows_catching (hvm : vm.getEnvFailure = none) {libCall : ν → MatrixCall ν α}
    {finish : α → MatrixM σ θ ν (JReturn JRoomValue)}
    {handlers : CppException → Option (MatrixM σ θ ν (JReturn JRoomValue))}
    {onResult : α → RoomEnd} {onFailure : CppException → RoomEnd}
    (hfinish : ∀ a, EndsIn (finish a) (onResult a))
    (hclause : ∀ e, ∃ clause, handlers e = some clause ∧ EndsIn clause (onFailure e)) :
    Follows executors (catching (callMatrix vm executors libCall >>= finish) handlers)
      (toldBy libCall onResult onFailure) where
  returns {thread s env calls answer} hattached hclear hworks := by
    obtain ⟨hshown, hquiet, hlater, hanswer⟩ := hworks
    unfold toldBy at hlater hanswer ⊢
    cases houtcome : callOutcome ((libCall s).ending MatrixRequest.reply) with
    | ok a =>
      simp only [houtcome] at hlater hanswer
      apply run_catching_ok
      rw [run_callMatrix_bind_ok hvm hattached hclear hshown hquiet houtcome]
      exact (hfinish a).returns hlater hanswer
    | error e =>
      simp only [houtcome] at hlater hanswer
      obtain ⟨clause, hhandler, hends⟩ := hclause e
      rw [run_catching_caught
        (run_callMatrix_bind_error hvm hattached hclear hshown hquiet houtcome) hhandler]
      exact hends.returns hlater hanswer
  undefined {thread s env} hattached hclear hfails := by
    by_cases hmade : ∃ calls,
        ((libCall s).asked MatrixRequest.reply).mapM MatrixRequest.shown = some calls ∧
          QuietUntilLast (thrownBy executors thread.app calls)
    · -- the library call returns or throws, so that the method fails at its end
      obtain ⟨calls, hshown, hquiet⟩ := hmade
      have hend : ∀ ended, (toldBy libCall onResult onFailure s).ended = ended →
          (ended.usesJni = true ∧ (thread.heard executors calls).throwable ≠ none) ∨
            ended.answer = none := by
        rintro ended rfl
        by_contra hnot
        obtain ⟨hjni, hsome⟩ := not_or.mp hnot
        obtain ⟨answer, hanswer⟩ := Option.ne_none_iff_exists'.mp hsome
        refine hfails calls answer ⟨hshown, hquiet, ?_, hanswer⟩
        intro huses
        by_contra hpending
        exact hjni ⟨huses, hpending⟩
      unfold toldBy at hend
      cases houtcome : callOutcome ((libCall s).ending MatrixRequest.reply) with
      | ok a =>
        simp only [houtcome] at hend
        obtain ⟨after, hundefined⟩ := (hfinish a).undefined (hend _ rfl)
        refine ⟨after, ?_⟩
        apply run_catching_undefined
        rw [run_callMatrix_bind_ok hvm hattached hclear hshown hquiet houtcome]
        exact hundefined
      | error e =>
        simp only [houtcome] at hend
        obtain ⟨clause, hhandler, hends⟩ := hclause e
        obtain ⟨after, hundefined⟩ := hends.undefined (hend _ rfl)
        refine ⟨after, ?_⟩
        rw [run_catching_caught
          (run_callMatrix_bind_error hvm hattached hclear hshown hquiet houtcome) hhandler]
        exact hundefined
    · obtain ⟨after, hundefined⟩ :=
        run_callMatrix_undefined hvm libCall hattached hclear s env fun hshown hquiet =>
          hmade ⟨_, hshown, hquiet⟩
      refine ⟨after, ?_⟩
      apply run_catching_undefined
      rw [run_bind, hundefined]

/-- **Every method.** It makes its calls and returns its answer where the texts can be shown and
    nothing is pending when a JNI function is used, and is undefined otherwise. -/
theorem follows_roomMethod (hvm : vm.getEnvFailure = none) (method : RoomMethod ν) :
    Follows executors (method.run vm executors) method.told := by
  cases method with
  | returning convert libCall =>
    apply follows_catching hvm fun a => endsIn_convert (convert a) fun shown => shown
    intro e
    cases e with
    | base code what => exact ⟨_, rfl, endsIn_raise _ (fun _ => rfl) (some .throwable)⟩
    | std what => exact ⟨_, rfl, endsIn_raise _ (fun _ => rfl) (some .throwable)⟩
  | unreturned convert libCall =>
    apply follows_catching hvm fun a => endsIn_convert (convert a) fun shown => shown
    intro e
    cases e with
    | base code what =>
      exact ⟨_, rfl, endsIn_raise [⟨toString code ++ ":" ++ what⟩] (fun _ => rfl) none⟩
    | std what => exact ⟨_, rfl, endsIn_raise [⟨what⟩] (fun _ => rfl) none⟩
  | void libCall =>
    apply follows_catching hvm fun _ => endsIn_pure .null
    intro e
    cases e with
    | base code what => exact ⟨_, rfl, endsIn_raise _ (fun _ => rfl) (some .null)⟩
    | std what => exact ⟨_, rfl, endsIn_raise _ (fun _ => rfl) (some .null)⟩
  | sync libCall =>
    exact follows_catching hvm (fun _ => endsIn_pure .null) fun e =>
      ⟨_, rfl, endsIn_raise _ (fun _ => rfl) (some .null)⟩
  | flag libCall =>
    apply follows_catching hvm fun b => endsIn_pure (.object (.flag b))
    intro e
    cases e with
    | base code what => exact ⟨_, rfl, endsIn_raise _ (fun _ => rfl) (some (.object (.flag false)))⟩
    | std what => exact ⟨_, rfl, endsIn_raise _ (fun _ => rfl) (some (.object (.flag false)))⟩
  | textOrEmpty libCall =>
    apply follows_catching hvm fun text => endsIn_convert (newStringUTF text) .text
    intro e
    cases e with
    | base code what => exact ⟨_, rfl, endsIn_convert (newStringUTF []) .text⟩
    | std what => exact ⟨_, rfl, endsIn_convert (newStringUTF []) .text⟩

/-! ## Executors that throw -/

/-- The executors may throw in the last call of a method that uses no JNI functions after it, and
    in no other. -/
def MayThrow (ended : RoomEnd) (thrown : List (Option θ)) : Prop :=
  if ended.usesJni then ∀ t ∈ thrown, t = none else QuietUntilLast thrown

theorem forall_none_iff {thrown : List (Option θ)} :
    (∀ t ∈ thrown, t = none) ↔ QuietUntilLast thrown ∧ thrown.getLast?.join = none := by
  induction thrown with
  | nil => simp [QuietUntilLast]
  | cons t rest ih =>
    cases t with
    | none =>
      rw [quietUntilLast_cons_none, join_getLast?_cons_none, ← ih]
      simp
    | some t =>
      rw [quietUntilLast_cons_some]
      constructor
      · intro h
        cases h (some t) List.mem_cons_self
      · rintro ⟨rfl, hjoin⟩
        cases hjoin

/-- The texts can be shown, the method has an answer, and the executors throw only where they may.
    `getMatrixEvent` has no answer for a library call that throws. -/
def RoomTold.Returns (executors : Executors σ θ) (app : σ) (told : RoomTold ν) : Prop :=
  ∃ calls answer, told.requests.mapM MatrixRequest.shown = some calls ∧
    told.ended.answer = some answer ∧ MayThrow told.ended (thrownBy executors app calls)

/-- What it takes for a method to return. -/
theorem exists_works_iff {app : σ} {told : RoomTold ν} :
    (∃ calls answer, told.Works executors app calls answer) ↔ told.Returns executors app := by
  unfold RoomTold.Returns MayThrow
  constructor
  · rintro ⟨calls, answer, hshown, hquiet, hclear, hanswer⟩
    refine ⟨calls, answer, hshown, hanswer, ?_⟩
    split
    · exact forall_none_iff.mpr ⟨hquiet, hclear ‹_›⟩
    · exact hquiet
  · rintro ⟨calls, answer, hshown, hanswer, hthrow⟩
    split at hthrow
    · obtain ⟨hquiet, hjoin⟩ := forall_none_iff.mp hthrow
      exact ⟨calls, answer, hshown, hquiet, fun _ => hjoin, hanswer⟩
    · exact ⟨calls, answer, hshown, hthrow, fun h => absurd h ‹_›, hanswer⟩

/-- **Where executors may throw.** A method returns exactly when its texts can be shown, its result
    can be converted, and no executor throws, but in the last call of a method that then has
    nothing to convert and nothing to raise. Otherwise its run is undefined. When it returns, the
    executors got every call in order, and Java gets the throwable of the last one as it is. -/
theorem roomMethod_returns_iff (hvm : vm.getEnvFailure = none) (method : RoomMethod ν)
    {thread : RoomThread σ θ} (hattached : thread.vm.Attached) (hclear : thread.throwable = none)
    (s : ν) (env : JavaEnv) :
    ((∃ returned, ((method.run vm executors).run ((thread, s), env)).1 = .ok returned) ↔
      (method.told s).Returns executors thread.app) ∧
    (¬ (method.told s).Returns executors thread.app →
      ∃ after, (method.run vm executors).run ((thread, s), env) =
        (.error .undefinedBehaviour, after)) ∧
    ∀ returned after, (method.run vm executors).run ((thread, s), env) = (.ok returned, after) →
      ∃ calls, (method.told s).requests.mapM MatrixRequest.shown = some calls ∧
        after.1.1.app = afterCalls executors thread.app calls ∧
        after.1.1.throwable = (thrownBy executors thread.app calls).getLast?.join := by
  have hfollows : Follows executors (method.run vm executors) method.told :=
    follows_roomMethod hvm method
  rw [← exists_works_iff]
  have hundefined : (¬ ∃ calls answer, (method.told s).Works executors thread.app calls answer) →
      ∃ after, (method.run vm executors).run ((thread, s), env) =
        (.error .undefinedBehaviour, after) :=
    fun hnone => hfollows.undefined hattached hclear fun calls answer hworks =>
      hnone ⟨calls, answer, hworks⟩
  -- a method that returns has what it takes
  have hworks : ∀ returned after,
      (method.run vm executors).run ((thread, s), env) = (.ok returned, after) →
      ∃ calls answer, (method.told s).Works executors thread.app calls answer := by
    intro returned after hrun
    by_contra hnone
    obtain ⟨after', hfails⟩ := hundefined hnone
    rw [hfails] at hrun
    cases hrun
  refine ⟨⟨?_, ?_⟩, hundefined, ?_⟩
  · rintro ⟨returned, hreturned⟩
    exact hworks returned _ (Prod.ext hreturned rfl)
  · rintro ⟨calls, answer, hworks⟩
    rw [hfollows.returns hattached hclear hworks]
    exact ⟨answer.1, rfl⟩
  · intro returned after hrun
    obtain ⟨calls, answer, hworks⟩ := hworks returned after hrun
    rw [hfollows.returns hattached hclear hworks] at hrun
    cases hrun
    exact ⟨calls, hworks.shown, rfl, rfl⟩

end Runs

/-- A file is half done, and then done. -/
def twoReports : RoomMethod Unit :=
  .sync fun _ => .send (.progress 50) fun _ => .send (.progress 100) fun _ => .done (.ok (), ())

/-- An executor that throws when a file is finished. -/
def throwsWhenFinished : Executors Nat String := fun reports c =>
  match c with
  | .syncFileEvent true _ => (.error "finished", reports + 1)
  | _ => (.ok (), reports + 1)

/-- The throwable of the last report reaches Java. Where every report throws, the second one is
    undefined. -/
theorem twoReports_thrown :
    (∃ returned after,
      (twoReports.run ⟨none, 0⟩ throwsWhenFinished).run
        ((⟨0, javaThread, none, []⟩, ()), {}) = (.ok returned, after) ∧
      after.1.1.app = 2 ∧ after.1.1.throwable = some "finished") ∧
    ∃ after, (twoReports.run ⟨none, 0⟩ alwaysThrows).run ((⟨0, javaThread, none, []⟩, ()), {}) =
      (.error .undefinedBehaviour, after) := by
  constructor
  · obtain ⟨hreturns, -, hheard⟩ :=
      @roomMethod_returns_iff Nat String Unit ⟨none, 0⟩ throwsWhenFinished rfl twoReports
        ⟨0, javaThread, none, []⟩ (Option.some_ne_none 0) rfl () {}
    obtain ⟨returned, hreturned⟩ := hreturns.mpr ⟨_, _, rfl, rfl, fun t ht => by
      cases List.mem_singleton.mp ht
      rfl⟩
    obtain ⟨calls, hcalls, happ, hthrowable⟩ := hheard returned _ (Prod.ext hreturned rfl)
    refine ⟨returned, _, Prod.ext hreturned rfl, ?_, ?_⟩
    · rw [happ]
      cases hcalls
      rfl
    · rw [hthrowable]
      cases hcalls
      rfl
  · obtain ⟨-, hundefined, -⟩ :=
      @roomMethod_returns_iff Nat String Unit ⟨none, 0⟩ alwaysThrows rfl twoReports
        ⟨0, javaThread, none, []⟩ (Option.some_ne_none 0) rfl () {}
    apply hundefined
    rintro ⟨calls, answer, hcalls, -, hthrow⟩
    cases hcalls
    -- the first report has thrown
    exact nomatch hthrow (some "busy") List.mem_cons_self

end NunchukSdk
