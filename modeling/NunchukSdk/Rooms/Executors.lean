import Mathlib.Data.List.ReduceOption
import NunchukSdk.Foundation.OneWay
import NunchukSdk.Jni.EnvGuard
import NunchukSdk.Jni.Numbers
import NunchukSdk.Jni.Strings
import NunchukSdk.Marshal.SatsCard

/-!
# What the Messaging Library Asks of the App

`nuMatrix` has no network of its own. It is given callbacks, which call the static methods of
`SendEventHelper` and `SyncFileEventHelper`: to send an event to a room, to upload and to download
a file, and to show the progress of a file. Behind the helpers stand the executors of the app.

## Model

- The callbacks are lambdas that capture nothing and return the same value whatever the executors
  do, so that a call of the library is a `Program` that learns nothing.
- An executor is a method in Kotlin that may throw. While what it threw is pending, the JNI
  functions used here are undefined, but for those that free a reference.
- A callback may run on the thread of a native method or on a thread of the library. The latter is
  detached at the end, and what is pending then goes to the handler of uncaught exceptions. The VM
  answers the guard of every callback anew.
- References are not counted.

## Results

- `run_onCallingThread`: a program on the thread of a native method is a list of calls, up to the
  first one that throws; any further call is undefined
- `run_onLibraryThread`: on a thread of the library a call is made whenever the thread can be
  attached, and what was thrown is reported as uncaught
- `ownThread_heard`: all that a thread of the library may come to
-/

namespace NunchukSdk

open Foundation NativeM

/-! ## Requests and calls -/

/-- What `nuMatrix` asks of the app. -/
inductive MatrixRequest where
  | sendEvent (roomId type content : NativeString) (ignoreError : Bool)
  | uploadFile (fileName mineType fileJsonInfo : NativeString) (data : List UInt8)
  | downloadFile (fileName mineType jsonInfo mxcUri : NativeString)
  | progress (percent : Int)
  deriving DecidableEq, Repr

/-- What a callback returns to `nuMatrix`. -/
inductive MatrixReply where
  | text (s : NativeString)
  | file (data : List UInt8)
  | finished (b : Bool)
  deriving DecidableEq, Repr

/-- A call of a static method of `SendEventHelper` or `SyncFileEventHelper`. -/
inductive ExecutorCall where
  | sendEvent (roomId type content : JString) (ignoreError : Bool)
  | uploadFileEvent (fileName mineType fileJsonInfo : JString) (data : List Int8)
      (dataLength : Int)
  | downloadFileEvent (fileName mineType fileJsonInfo fileUrl : JString)
  | syncFileEvent (finished : Bool) (progress : Int)
  deriving DecidableEq

/-- The executors that the app has installed. -/
abbrev Executors (σ θ : Type) := Device σ ExecutorCall Unit θ

/-- What the callbacks return: no text, the byte `'0'`, and whether a file is complete. -/
def MatrixRequest.reply : MatrixRequest → MatrixReply
  | .sendEvent _ _ _ _ => .text []
  | .uploadFile _ _ _ _ => .text []
  | .downloadFile _ _ _ _ => .file [48]
  | .progress percent => .finished (percent == 100)

/-- `env->NewByteArray((int) data_length)`, filled with `SetByteArrayRegion`; `none` where the
    length is negative as an `int`, so that there is no array to fill. -/
def newFilledArray (data : List UInt8) : Option (List Int8) :=
  if (castToJint data.length).toInt < 0 then none
  else some (convert2JByteArray (data.take (castToJint data.length).toInt.toNat))

/-- The call that a request becomes; `none` where making its arguments is undefined. -/
def MatrixRequest.shown : MatrixRequest → Option ExecutorCall
  | .sendEvent roomId type content ignoreError => do
    let jRoomId ← newStringUTF roomId
    let jType ← newStringUTF type
    let jContent ← newStringUTF content
    some (.sendEvent jRoomId jType jContent ignoreError)
  | .uploadFile fileName mineType fileJsonInfo data => do
    let byteData ← newFilledArray data
    let jFileName ← newStringUTF fileName
    let jMineType ← newStringUTF mineType
    let jFileJsonInfo ← newStringUTF fileJsonInfo
    some (.uploadFileEvent jFileName jMineType jFileJsonInfo byteData
      (castToJint data.length).toInt)
  | .downloadFile fileName mineType jsonInfo mxcUri => do
    let jFileName ← newStringUTF fileName
    let jMineType ← newStringUTF mineType
    let jJsonInfo ← newStringUTF jsonInfo
    let jMxcUri ← newStringUTF mxcUri
    some (.downloadFileEvent jFileName jMineType jJsonInfo jMxcUri)
  | .progress percent => some (.syncFileEvent (percent == 100) percent)

/-! ## Threads -/

/-- A thread after some more attachments, all of which have ended. -/
def VmThread.detachedAfter (thread : VmThread) (n : Nat) : VmThread :=
  ⟨thread.attachments + n, none, fun _ h => nomatch h⟩

/-- A thread on which the callbacks run. -/
structure RoomThread (σ θ : Type) where
  /-- The app, as far as the executors change it. -/
  app : σ
  vm : VmThread
  /-- What an executor threw and is pending. -/
  throwable : Option θ
  /-- What the handler of uncaught exceptions was given. -/
  uncaught : List θ

/-- Native code on such a thread. -/
abbrev RoomM (σ θ α : Type) := NativeM CppException (RoomThread σ θ) α

section Thread

variable {σ θ α : Type}

/-- An executor is called. -/
def RoomThread.hear (executors : Executors σ θ) (thread : RoomThread σ θ) (c : ExecutorCall) :
    RoomThread σ θ where
  app := (executors thread.app c).2
  vm := thread.vm
  throwable :=
    match (executors thread.app c).1 with
    | .ok () => thread.throwable
    | .error t => some t
  uncaught := thread.uncaught

/-- `JNIEnvGuard::~JNIEnvGuard`. A thread is detached without its throwable. -/
def RoomThread.leave (guard : JNIEnvGuard) (thread : RoomThread σ θ) : RoomThread σ θ where
  app := thread.app
  vm := guard.destruct thread.vm
  throwable := if guard.needsDetach then none else thread.throwable
  uncaught := if guard.needsDetach then thread.uncaught ++ thread.throwable.toList
    else thread.uncaught

/-- JNI functions that are undefined while a throwable is pending. -/
def whenClear (m : RoomM σ θ α) : RoomM σ θ α := do
  let thread ← read
  match thread.throwable with
  | some _ => undefinedBehaviour
  | none => m

/-- `JNIEnvGuard guard; if (!guard) return otherwise;` before the body of a callback. -/
def guarded (vm : VmAnswers) (otherwise : α) (body : RoomM σ θ α) : RoomM σ θ α := do
  let found ← read
  update fun thread => { thread with vm := (JNIEnvGuard.construct vm found.vm).2 }
  let result ← if (JNIEnvGuard.construct vm found.vm).1.test then body else pure otherwise
  update (RoomThread.leave (JNIEnvGuard.construct vm found.vm).1)
  pure result

/-- `g_env->NewStringUTF`. -/
def newStringOn (text : NativeString) : RoomM σ θ JString := whenClear (defined (newStringUTF text))

/-- `g_env->NewByteArray` and `g_env->SetByteArrayRegion`. -/
def newArrayOn (data : List UInt8) : RoomM σ θ (List Int8) :=
  whenClear (defined (newFilledArray data))

/-- `g_env->CallStaticVoidMethod` for a method of the helpers. -/
def callStaticVoidMethod (executors : Executors σ θ) (c : ExecutorCall) : RoomM σ θ Unit :=
  whenClear (update fun thread => thread.hear executors c)

end Thread

/-! ## The callbacks -/

section Callbacks

variable {σ θ : Type} (vm : VmAnswers) (executors : Executors σ θ)

/-- The lambda of `initNunchuk` that sends an event. -/
def sendEventFunc (roomId type content : NativeString) (ignoreError : Bool) :
    RoomM σ θ MatrixReply :=
  guarded vm (.text []) do
    let jRoomId ← newStringOn roomId
    let jType ← newStringOn type
    let jContent ← newStringOn content
    callStaticVoidMethod executors (.sendEvent jRoomId jType jContent ignoreError)
    pure (.text [])

/-- The first lambda of `registerDownloadFileBackup`. -/
def uploadFileFunc (fileName mineType fileJsonInfo : NativeString) (data : List UInt8) :
    RoomM σ θ MatrixReply :=
  guarded vm (.text []) do
    let byteData ← newArrayOn data
    let jFileName ← newStringOn fileName
    let jMineType ← newStringOn mineType
    let jFileJsonInfo ← newStringOn fileJsonInfo
    callStaticVoidMethod executors (.uploadFileEvent jFileName jMineType jFileJsonInfo byteData
      (castToJint data.length).toInt)
    pure (.text [])

/-- The second lambda of `registerDownloadFileBackup`. -/
def downloadFileFunc (fileName mineType jsonInfo mxcUri : NativeString) : RoomM σ θ MatrixReply :=
  guarded vm (.file [48]) do
    let jFileName ← newStringOn fileName
    let jMineType ← newStringOn mineType
    let jJsonInfo ← newStringOn jsonInfo
    let jMxcUri ← newStringOn mxcUri
    callStaticVoidMethod executors (.downloadFileEvent jFileName jMineType jJsonInfo jMxcUri)
    pure (.file [48])

/-- The lambda of `consumeSyncEvent`, `downloadFileCallback` and `writeFileCallback`. -/
def progressFunc (percent : Int) : RoomM σ θ MatrixReply :=
  guarded vm (.finished (percent == 100)) do
    callStaticVoidMethod executors (.syncFileEvent (percent == 100) percent)
    pure (.finished (percent == 100))

/-- The callback for a request. -/
def matrixCallback : MatrixRequest → RoomM σ θ MatrixReply
  | .sendEvent roomId type content ignoreError =>
    sendEventFunc vm executors roomId type content ignoreError
  | .uploadFile fileName mineType fileJsonInfo data =>
    uploadFileFunc vm executors fileName mineType fileJsonInfo data
  | .downloadFile fileName mineType jsonInfo mxcUri =>
    downloadFileFunc vm executors fileName mineType jsonInfo mxcUri
  | .progress percent => progressFunc vm executors percent

/-- The JNI functions of a callback for a request, without its guard; `none` where one of them is
    undefined. -/
def RoomThread.tell (thread : RoomThread σ θ) (request : MatrixRequest) :
    Option (RoomThread σ θ) :=
  match thread.throwable with
  | some _ => none
  | none => request.shown.map (thread.hear executors)

/-- A callback whose JNI functions come to `told`. -/
def RoomThread.answer (thread : RoomThread σ θ) (reply : MatrixReply) :
    Option (RoomThread σ θ) → Except (Fault CppException) MatrixReply × RoomThread σ θ
  | some told => (.ok reply, told)
  | none => (.error .undefinedBehaviour, thread)

/-- A callback on a thread of the library. The VM answers the guard of each by itself; the number
    is how many it has answered. -/
def ownCallback (answers : Nat → VmAnswers) (executors : Executors σ θ) (request : MatrixRequest) :
    NativeM CppException (RoomThread σ θ × Nat) MatrixReply := do
  let s ← read
  let reply ← onFst (matrixCallback (answers s.2) executors request)
  update fun s => (s.1, s.2 + 1)
  pure reply

variable {α : Type}

theorem run_whenClear_pending {m : RoomM σ θ α} {thread : RoomThread σ θ} {t : θ}
    (h : thread.throwable = some t) :
    (whenClear m).run thread = (.error .undefinedBehaviour, thread) := by
  unfold whenClear
  rw [run_read_bind, h]
  rfl

theorem run_whenClear {m : RoomM σ θ α} {thread : RoomThread σ θ}
    (h : thread.throwable = none) : (whenClear m).run thread = m.run thread := by
  unfold whenClear
  rw [run_read_bind, h]

/-- An argument is made, or the callback ends here. -/
theorem run_newStringOn_bind {β : Type} {thread : RoomThread σ θ} (h : thread.throwable = none)
    (text : NativeString) (k : JString → RoomM σ θ β) :
    (newStringOn text >>= k).run thread =
      match newStringUTF text with
      | some s => (k s).run thread
      | none => (.error .undefinedBehaviour, thread) := by
  rw [run_bind, newStringOn, run_whenClear h]
  cases newStringUTF text with
  | none => rfl
  | some s => rfl

theorem run_newArrayOn_bind {β : Type} {thread : RoomThread σ θ} (h : thread.throwable = none)
    (data : List UInt8) (k : List Int8 → RoomM σ θ β) :
    (newArrayOn data >>= k).run thread =
      match newFilledArray data with
      | some array => (k array).run thread
      | none => (.error .undefinedBehaviour, thread) := by
  rw [run_bind, newArrayOn, run_whenClear h]
  cases newFilledArray data with
  | none => rfl
  | some array => rfl

theorem run_callStaticVoidMethod_bind {β : Type} {thread : RoomThread σ θ}
    (h : thread.throwable = none) (c : ExecutorCall) (k : Unit → RoomM σ θ β) :
    (callStaticVoidMethod executors c >>= k).run thread =
      (k ()).run (thread.hear executors c) := by
  rw [run_bind, callStaticVoidMethod, run_whenClear h]
  rfl

/-- Each callback is a guard around the same few JNI functions. -/
theorem matrixCallback_eq (request : MatrixRequest) :
    ∃ body : RoomM σ θ MatrixReply,
      matrixCallback vm executors request = guarded vm request.reply body ∧
      ∀ thread, body.run thread =
        thread.answer request.reply (thread.tell executors request) := by
  cases request with
  | sendEvent roomId type content ignoreError =>
    refine ⟨_, rfl, ?_⟩
    intro thread
    unfold RoomThread.tell
    -- with something pending, the first JNI function is undefined
    cases hthrowable : thread.throwable with
    | some t => rw [run_bind, newStringOn, run_whenClear_pending hthrowable]; rfl
    | none =>
      simp only [MatrixRequest.shown, run_newStringOn_bind hthrowable,
        run_callStaticVoidMethod_bind executors hthrowable]
      cases newStringUTF roomId <;> cases newStringUTF type <;> cases newStringUTF content <;> rfl
  | uploadFile fileName mineType fileJsonInfo data =>
    refine ⟨_, rfl, ?_⟩
    intro thread
    unfold RoomThread.tell
    cases hthrowable : thread.throwable with
    | some t => rw [run_bind, newArrayOn, run_whenClear_pending hthrowable]; rfl
    | none =>
      simp only [MatrixRequest.shown, run_newArrayOn_bind hthrowable,
        run_newStringOn_bind hthrowable, run_callStaticVoidMethod_bind executors hthrowable]
      cases newFilledArray data <;> cases newStringUTF fileName <;>
        cases newStringUTF mineType <;> cases newStringUTF fileJsonInfo <;> rfl
  | downloadFile fileName mineType jsonInfo mxcUri =>
    refine ⟨_, rfl, ?_⟩
    intro thread
    unfold RoomThread.tell
    cases hthrowable : thread.throwable with
    | some t => rw [run_bind, newStringOn, run_whenClear_pending hthrowable]; rfl
    | none =>
      simp only [MatrixRequest.shown, run_newStringOn_bind hthrowable,
        run_callStaticVoidMethod_bind executors hthrowable]
      cases newStringUTF fileName <;> cases newStringUTF mineType <;>
        cases newStringUTF jsonInfo <;> cases newStringUTF mxcUri <;> rfl
  | progress percent =>
    refine ⟨_, rfl, ?_⟩
    intro thread
    unfold RoomThread.tell
    cases hthrowable : thread.throwable with
    | some t => rw [run_bind, callStaticVoidMethod, run_whenClear_pending hthrowable]; rfl
    | none =>
      rw [run_callStaticVoidMethod_bind executors hthrowable]
      rfl

end Callbacks

/-! ## Where a callback runs -/

section Guards

variable {σ θ α : Type} {vm : VmAnswers} {executors : Executors σ θ}

/-- On an attached thread a guard changes nothing. -/
theorem run_guarded_attached (hvm : vm.getEnvFailure = none) {thread : RoomThread σ θ}
    (h : thread.vm.Attached) (otherwise : α) (body : RoomM σ θ α) :
    (guarded vm otherwise body).run thread = body.run thread := by
  obtain ⟨env, henv⟩ := Option.ne_none_iff_exists'.mp h
  have hguard : JNIEnvGuard.construct vm thread.vm = (⟨some env, false⟩, thread.vm) := by
    unfold JNIEnvGuard.construct getEnv
    rw [henv, hvm]
  unfold guarded
  rw [run_read_bind, hguard, run_update_bind]
  show (body >>= fun result => update (RoomThread.leave ⟨some env, false⟩) >>=
    fun _ => pure result).run thread = _
  rw [run_bind]
  rcases body.run thread with ⟨r, after⟩
  cases r with
  | ok a => rfl
  | error e => rfl

/-- On a thread of the library it attaches the thread for the length of the callback. -/
theorem run_guarded_detached (hvm : vm.attachResult = 0) {thread : RoomThread σ θ}
    (h : thread.vm.env = none) (otherwise : α) (body : RoomM σ θ α) :
    (guarded vm otherwise body).run thread =
      match body.run { thread with vm := thread.vm.attach } with
      | (.ok a, after) => (.ok a, after.leave ⟨some thread.vm.attachments, true⟩)
      | (.error e, after) => (.error e, after) := by
  have hguard : JNIEnvGuard.construct vm thread.vm =
      (⟨some thread.vm.attachments, true⟩, thread.vm.attach) := by
    unfold JNIEnvGuard.construct getEnv
    rw [h]
    simp only [hvm, ne_eq, not_true_eq_false, if_false, VmThread.env_attach]
  unfold guarded
  rw [run_read_bind, hguard, run_update_bind]
  show (body >>= fun result =>
    update (RoomThread.leave ⟨some thread.vm.attachments, true⟩) >>= fun _ => pure result).run
      { thread with vm := thread.vm.attach } = _
  rw [run_bind]
  rcases body.run { thread with vm := thread.vm.attach } with ⟨r, after⟩
  cases r with
  | ok a => rfl
  | error e => rfl

/-- A guard that fails tells nobody. -/
theorem run_guarded_failed (hvm : vm.attachResult ≠ 0) {thread : RoomThread σ θ}
    (h : thread.vm.env = none) (otherwise : α) (body : RoomM σ θ α) :
    (guarded vm otherwise body).run thread = (.ok otherwise, thread) := by
  have hguard : JNIEnvGuard.construct vm thread.vm = (⟨none, false⟩, thread.vm) := by
    unfold JNIEnvGuard.construct getEnv
    rw [h]
    exact if_pos hvm
  unfold guarded
  rw [run_read_bind, hguard]
  rfl

end Guards

/-! ## Programs of the library -/

section Programs

variable {σ θ α : Type} {vm : VmAnswers} {executors : Executors σ θ}

/-- What the executors make of some calls, if each is made. -/
def afterCalls (executors : Executors σ θ) (app : σ) (calls : List ExecutorCall) : σ :=
  calls.foldl (fun app c => (executors app c).2) app

/-- What they throw, call by call. -/
def thrownBy (executors : Executors σ θ) : σ → List ExecutorCall → List (Option θ)
  | _, [] => []
  | app, c :: rest =>
    (match (executors app c).1 with
      | .ok () => none
      | .error t => some t) :: thrownBy executors (executors app c).2 rest

/-- The thread of a native method after some calls, if each is made. -/
def RoomThread.heard (executors : Executors σ θ) (thread : RoomThread σ θ)
    (calls : List ExecutorCall) : RoomThread σ θ where
  app := afterCalls executors thread.app calls
  vm := thread.vm
  throwable := (thrownBy executors thread.app calls).getLast?.join
  uncaught := thread.uncaught

/-- A throwable leaves room for no further call. -/
def QuietUntilLast (thrown : List (Option θ)) : Prop := ∀ t ∈ thrown.dropLast, t = none

/-- The callbacks on the thread of a native method. -/
theorem answers_attached (hvm : vm.getEnvFailure = none) :
    Program.Answers (matrixCallback vm executors) MatrixRequest.reply
      (fun thread => thread.vm.Attached) (fun thread => thread.tell executors) where
  run_some {thread told request} hready htold := by
    obtain ⟨body, heq, hbody⟩ := matrixCallback_eq vm executors request
    rw [heq, run_guarded_attached hvm hready, hbody, htold]
    rfl
  run_none {thread request} hready htold := by
    obtain ⟨body, heq, hbody⟩ := matrixCallback_eq vm executors request
    refine ⟨thread, ?_⟩
    rw [heq, run_guarded_attached hvm hready, hbody, htold]
    rfl
  ready {thread told request} hready htold := by
    unfold RoomThread.tell at htold
    cases hthrowable : thread.throwable with
    | some t =>
      rw [hthrowable] at htold
      cases htold
    | none =>
      rw [hthrowable] at htold
      obtain ⟨c, -, rfl⟩ := Option.map_eq_some_iff.mp htold
      exact hready

/-- A request on a thread of the library, which is attached for it. -/
def RoomThread.tellDetached (executors : Executors σ θ) (thread : RoomThread σ θ)
    (request : MatrixRequest) : Option (RoomThread σ θ) :=
  request.shown.map fun c =>
    (RoomThread.hear executors { thread with vm := thread.vm.attach } c).leave
      ⟨some thread.vm.attachments, true⟩

/-- The callbacks on a thread of the library. -/
theorem answers_detached (hvm : vm.attachResult = 0) :
    Program.Answers (matrixCallback vm executors) MatrixRequest.reply
      (fun thread => thread.vm.env = none ∧ thread.throwable = none)
      (RoomThread.tellDetached executors) where
  run_some {thread told request} hready htold := by
    obtain ⟨body, heq, hbody⟩ := matrixCallback_eq vm executors request
    obtain ⟨c, hshown, rfl⟩ := Option.map_eq_some_iff.mp htold
    rw [heq, run_guarded_detached hvm hready.1, hbody]
    simp only [RoomThread.tell, hready.2, hshown]
    rfl
  run_none {thread request} hready htold := by
    obtain ⟨body, heq, hbody⟩ := matrixCallback_eq vm executors request
    have hshown : request.shown = none := Option.map_eq_none_iff.mp htold
    refine ⟨{ thread with vm := thread.vm.attach }, ?_⟩
    rw [heq, run_guarded_detached hvm hready.1, hbody]
    simp only [RoomThread.tell, hready.2, hshown]
    rfl
  ready {thread told request} hready htold := by
    obtain ⟨c, -, rfl⟩ := Option.map_eq_some_iff.mp htold
    exact ⟨rfl, rfl⟩

/-- A call that threw nothing may be followed by others. -/
theorem quietUntilLast_cons_none {thrown : List (Option θ)} :
    QuietUntilLast (none :: thrown) ↔ QuietUntilLast thrown := by
  unfold QuietUntilLast
  cases thrown with
  | nil => simp
  | cons t rest => simp [List.dropLast_cons_of_ne_nil]

/-- A call that threw is the last one. -/
theorem quietUntilLast_cons_some {t : θ} {thrown : List (Option θ)} :
    QuietUntilLast (some t :: thrown) ↔ thrown = [] := by
  unfold QuietUntilLast
  cases thrown with
  | nil => simp
  | cons t' rest => simp [List.dropLast_cons_of_ne_nil]

/-- What is pending after a call that threw nothing and the others. -/
theorem join_getLast?_cons_none (thrown : List (Option θ)) :
    (none :: thrown).getLast?.join = thrown.getLast?.join := by
  rw [List.getLast?_cons]
  cases thrown.getLast? with
  | none => rfl
  | some t => rfl

theorem shown_cons {request : MatrixRequest} {rest : List MatrixRequest}
    {calls : List ExecutorCall} :
    (request :: rest).mapM MatrixRequest.shown = some calls ↔
      ∃ c later, request.shown = some c ∧ rest.mapM MatrixRequest.shown = some later ∧
        calls = c :: later := by
  rw [List.mapM_cons]
  constructor
  · intro h
    obtain ⟨c, hc, h⟩ := Option.bind_eq_some_iff.mp h
    obtain ⟨later, hlater, h⟩ := Option.bind_eq_some_iff.mp h
    exact ⟨c, later, hc, hlater, (Option.some.inj h).symm⟩
  · rintro ⟨c, later, hc, hlater, rfl⟩
    rw [hc, hlater]
    rfl

theorem tell_shown {thread : RoomThread σ θ} {request : MatrixRequest} {c : ExecutorCall}
    (hclear : thread.throwable = none) (hshown : request.shown = some c) :
    thread.tell executors request = some (thread.hear executors c) := by
  unfold RoomThread.tell
  rw [hclear, hshown]
  rfl

theorem throwable_hear_ok {thread : RoomThread σ θ} {c : ExecutorCall}
    (h : (executors thread.app c).1 = .ok ()) :
    (thread.hear executors c).throwable = thread.throwable := by
  unfold RoomThread.hear
  rw [h]

/-- Some requests on the thread of a native method, whose arguments can be made. -/
theorem foldlM_tell {requests : List MatrixRequest} {calls : List ExecutorCall}
    (hcalls : requests.mapM MatrixRequest.shown = some calls) {thread : RoomThread σ θ}
    (hclear : thread.throwable = none)
    (hquiet : QuietUntilLast (thrownBy executors thread.app calls)) :
    requests.foldlM (fun thread => RoomThread.tell executors thread) thread =
      some (thread.heard executors calls) := by
  induction requests generalizing thread calls with
  | nil =>
    cases hcalls
    obtain ⟨app, vm, throwable, uncaught⟩ := thread
    cases hclear
    rfl
  | cons request rest ih =>
    obtain ⟨c, later, hshown, hlater, rfl⟩ := shown_cons.mp hcalls
    rw [List.foldlM_cons, tell_shown hclear hshown]
    show rest.foldlM (fun thread => RoomThread.tell executors thread)
      (thread.hear executors c) = _
    cases hthrown : (executors thread.app c).1 with
    | ok u =>
      have hnext : (thread.hear executors c).throwable = none :=
        (throwable_hear_ok hthrown).trans hclear
      simp only [thrownBy, hthrown, quietUntilLast_cons_none] at hquiet
      rw [ih hlater hnext hquiet]
      simp only [RoomThread.heard, thrownBy, hthrown, join_getLast?_cons_none]
      rfl
    | error t =>
      simp only [thrownBy, hthrown, quietUntilLast_cons_some] at hquiet
      -- nothing follows
      cases later with
      | cons c' later => cases hquiet
      | nil =>
        cases rest with
        | cons request' rest =>
          obtain ⟨_, _, -, -, habsurd⟩ := shown_cons.mp hlater
          cases habsurd
        | nil =>
          simp only [RoomThread.heard, thrownBy, hthrown, RoomThread.hear]
          rfl

/-- A throwable is pending when there is another call to make. -/
theorem foldlM_tell_noisy {requests : List MatrixRequest} {calls : List ExecutorCall}
    (hcalls : requests.mapM MatrixRequest.shown = some calls) {thread : RoomThread σ θ}
    (hclear : thread.throwable = none)
    (hnoisy : ¬ QuietUntilLast (thrownBy executors thread.app calls)) :
    requests.foldlM (fun thread => RoomThread.tell executors thread) thread = none := by
  induction requests generalizing thread calls with
  | nil =>
    cases hcalls
    exact absurd (fun _ h => nomatch h) hnoisy
  | cons request rest ih =>
    obtain ⟨c, later, hshown, hlater, rfl⟩ := shown_cons.mp hcalls
    rw [List.foldlM_cons, tell_shown hclear hshown]
    show rest.foldlM (fun thread => RoomThread.tell executors thread)
      (thread.hear executors c) = _
    cases hthrown : (executors thread.app c).1 with
    | ok u =>
      have hnext : (thread.hear executors c).throwable = none :=
        (throwable_hear_ok hthrown).trans hclear
      simp only [thrownBy, hthrown, quietUntilLast_cons_none] at hnoisy
      exact ih hlater hnext hnoisy
    | error t =>
      simp only [thrownBy, hthrown, quietUntilLast_cons_some] at hnoisy
      cases rest with
      | nil =>
        cases hlater
        exact absurd rfl hnoisy
      | cons request' rest =>
        rw [List.foldlM_cons]
        simp only [RoomThread.tell, RoomThread.hear, hthrown]
        rfl

/-- An argument cannot be made. -/
theorem foldlM_tell_none {requests : List MatrixRequest}
    (hcalls : requests.mapM MatrixRequest.shown = none) (thread : RoomThread σ θ) :
    requests.foldlM (fun thread => RoomThread.tell executors thread) thread = none := by
  induction requests generalizing thread with
  | nil => cases hcalls
  | cons request rest ih =>
    rw [List.foldlM_cons]
    cases htell : thread.tell executors request with
    | none => rfl
    | some told =>
      refine ih ?_ told
      -- the first argument was made
      cases hthrowable : thread.throwable with
      | some t => simp only [RoomThread.tell, hthrowable, reduceCtorEq] at htell
      | none =>
        simp only [RoomThread.tell, hthrowable] at htell
        obtain ⟨c, hshown, -⟩ := Option.map_eq_some_iff.mp htell
        rw [List.mapM_cons, hshown] at hcalls
        cases hrest : rest.mapM MatrixRequest.shown with
        | none => rfl
        | some later =>
          rw [hrest] at hcalls
          cases hcalls

/-- **On the thread of a native method.** A program makes its calls where their arguments can be
    made and no executor throws but in the last of them; what it threw is pending then. Otherwise
    the program is undefined. -/
theorem run_onCallingThread (hvm : vm.getEnvFailure = none)
    (program : Program MatrixRequest MatrixReply CppException α) {thread : RoomThread σ θ}
    (hattached : thread.vm.Attached) (hclear : thread.throwable = none) :
    (∀ {calls}, (program.asked MatrixRequest.reply).mapM MatrixRequest.shown = some calls →
      QuietUntilLast (thrownBy executors thread.app calls) →
      (program.runOver (matrixCallback vm executors)).run thread =
        ((program.ending MatrixRequest.reply).mapError Fault.thrown,
          thread.heard executors calls)) ∧
    ((∀ {calls}, (program.asked MatrixRequest.reply).mapM MatrixRequest.shown = some calls →
        ¬ QuietUntilLast (thrownBy executors thread.app calls)) →
      ∃ after, (program.runOver (matrixCallback vm executors)).run thread =
        (.error .undefinedBehaviour, after)) := by
  constructor
  · intro calls hcalls hquiet
    exact ((answers_attached hvm).run_runOver_some program hattached
      (foldlM_tell hcalls hclear hquiet)).1
  · intro hnoisy
    apply (answers_attached hvm).run_runOver_none program hattached
    cases hcalls : (program.asked MatrixRequest.reply).mapM MatrixRequest.shown with
    | none => exact foldlM_tell_none hcalls thread
    | some calls => exact foldlM_tell_noisy hcalls hclear (hnoisy hcalls)

/-- Where the thread cannot be attached, a callback returns its value and does nothing else. -/
theorem run_matrixCallback_unattached (hvm : vm.attachResult ≠ 0) {thread : RoomThread σ θ}
    (h : thread.vm.env = none) (request : MatrixRequest) :
    (matrixCallback vm executors request).run thread = (.ok request.reply, thread) := by
  obtain ⟨body, heq, -⟩ := matrixCallback_eq vm executors request
  rw [heq, run_guarded_failed hvm h]

/-- A request on a thread of the library. -/
def ownTell (answers : Nat → VmAnswers) (executors : Executors σ θ) (s : RoomThread σ θ × Nat)
    (request : MatrixRequest) : Option (RoomThread σ θ × Nat) :=
  if (answers s.2).attachResult = 0 then
    (s.1.tellDetached executors request).map fun told => (told, s.2 + 1)
  else some (s.1, s.2 + 1)

/-- The callbacks, when the VM answers each by itself. -/
theorem answers_own (answers : Nat → VmAnswers) :
    Program.Answers (ownCallback answers executors) MatrixRequest.reply
      (fun s => s.1.vm.env = none ∧ s.1.throwable = none) (ownTell answers executors) where
  run_some {s s' request} hready htold := by
    unfold ownTell at htold
    unfold ownCallback
    rw [run_read_bind, run_bind, run_onFst]
    split at htold
    · next hvm =>
      obtain ⟨told, htell, rfl⟩ := Option.map_eq_some_iff.mp htold
      rw [(answers_detached hvm).run_some hready htell]
      rfl
    · next hvm =>
      rw [run_matrixCallback_unattached hvm hready.1, ← Option.some.inj htold]
      rfl
  run_none {s request} hready htold := by
    unfold ownTell at htold
    unfold ownCallback
    rw [run_read_bind, run_bind, run_onFst]
    split at htold
    · next hvm =>
      obtain ⟨after, hundefined⟩ :=
        (answers_detached hvm).run_none hready (Option.map_eq_none_iff.mp htold)
      refine ⟨(after, s.2), ?_⟩
      rw [hundefined]
    · cases htold
  ready {s s' request} hready htold := by
    unfold ownTell at htold
    split at htold
    · next hvm =>
      obtain ⟨told, htell, rfl⟩ := Option.map_eq_some_iff.mp htold
      exact (answers_detached hvm).ready hready htell
    · rw [← Option.some.inj htold]
      exact hready

/-- The requests for which the thread is attached. -/
def attachedRequests (answers : Nat → VmAnswers) : Nat → List MatrixRequest → List MatrixRequest
  | _, [] => []
  | n, request :: rest =>
    if (answers n).attachResult = 0 then request :: attachedRequests answers (n + 1) rest
    else attachedRequests answers (n + 1) rest

theorem attachedRequests_all {answers : Nat → VmAnswers}
    (hvm : ∀ n, (answers n).attachResult = 0) (n : Nat) (requests : List MatrixRequest) :
    attachedRequests answers n requests = requests := by
  induction requests generalizing n with
  | nil => rfl
  | cons request rest ih => rw [attachedRequests, if_pos (hvm n), ih]

theorem attachedRequests_none {answers : Nat → VmAnswers}
    (hvm : ∀ n, (answers n).attachResult ≠ 0) (n : Nat) (requests : List MatrixRequest) :
    attachedRequests answers n requests = [] := by
  induction requests generalizing n with
  | nil => rfl
  | cons request rest ih => rw [attachedRequests, if_neg (hvm n), ih]

/-- A thread of the library after some calls: what was thrown in them is reported. -/
def RoomThread.afterOwn (executors : Executors σ θ) (thread : RoomThread σ θ)
    (calls : List ExecutorCall) : RoomThread σ θ where
  app := afterCalls executors thread.app calls
  vm := thread.vm.detachedAfter calls.length
  throwable := none
  uncaught := thread.uncaught ++ (thrownBy executors thread.app calls).reduceOption

theorem afterOwn_nil {thread : RoomThread σ θ} (hdetached : thread.vm.env = none)
    (hclear : thread.throwable = none) : thread.afterOwn executors [] = thread := by
  obtain ⟨app, ⟨attachments, env, older⟩, throwable, uncaught⟩ := thread
  cases hdetached
  cases hclear
  simp only [RoomThread.afterOwn, thrownBy, List.reduceOption_nil, List.append_nil]
  rfl

/-- What one call throws is reported before what the others throw. -/
theorem afterOwn_cons {thread told : RoomThread σ θ} (hclear : thread.throwable = none)
    {request : MatrixRequest} {c : ExecutorCall} (hshown : request.shown = some c)
    (htold : thread.tellDetached executors request = some told) (calls : List ExecutorCall) :
    told.afterOwn executors calls = thread.afterOwn executors (c :: calls) := by
  unfold RoomThread.tellDetached at htold
  rw [hshown] at htold
  cases htold
  have hvm : (thread.vm.attach.detach).detachedAfter calls.length =
      thread.vm.detachedAfter (c :: calls).length := by
    simp only [VmThread.detachedAfter, VmThread.detach, VmThread.attach, List.length_cons,
      VmThread.mk.injEq, and_true]
    omega
  cases hthrown : (executors thread.app c).1 with
  | ok u =>
    simp only [RoomThread.afterOwn, RoomThread.hear, RoomThread.leave, hthrown, hclear, thrownBy,
      List.reduceOption_cons_of_none, Option.toList_none, List.append_nil]
    exact congrArg (fun vm => RoomThread.mk _ vm _ _) hvm
  | error t =>
    simp only [RoomThread.afterOwn, RoomThread.hear, RoomThread.leave, hthrown, thrownBy,
      List.reduceOption_cons_of_some, Option.toList_some, if_true, List.append_assoc]
    exact congrArg (fun vm => RoomThread.mk _ vm _ _) hvm

/-- Some requests on a thread of the library, whose arguments can be made. -/
theorem foldlM_ownTell {answers : Nat → VmAnswers} {n : Nat} {requests : List MatrixRequest}
    {calls : List ExecutorCall}
    (hcalls : (attachedRequests answers n requests).mapM MatrixRequest.shown = some calls)
    {thread : RoomThread σ θ} (hdetached : thread.vm.env = none)
    (hclear : thread.throwable = none) :
    requests.foldlM (ownTell answers executors) (thread, n) =
      some (thread.afterOwn executors calls, n + requests.length) := by
  induction requests generalizing thread n calls with
  | nil =>
    rw [attachedRequests, List.mapM_nil] at hcalls
    cases hcalls
    rw [afterOwn_nil hdetached hclear]
    rfl
  | cons request rest ih =>
    have hlength : n + 1 + rest.length = n + (request :: rest).length := by
      rw [List.length_cons]
      omega
    rw [List.foldlM_cons]
    unfold ownTell
    rw [attachedRequests] at hcalls
    split at hcalls
    · next hvm =>
      obtain ⟨c, later, hshown, hlater, rfl⟩ := shown_cons.mp hcalls
      obtain ⟨told, htold⟩ : ∃ told, thread.tellDetached executors request = some told := by
        unfold RoomThread.tellDetached
        rw [hshown]
        exact ⟨_, rfl⟩
      have hready := (answers_detached hvm).ready ⟨hdetached, hclear⟩ htold
      have hrest := ih hlater hready.1 hready.2
      rw [if_pos hvm, htold]
      rw [afterOwn_cons hclear hshown htold, hlength] at hrest
      exact hrest
    · next hvm =>
      rw [if_neg hvm, ← hlength]
      exact ih hcalls hdetached hclear

/-- An argument cannot be made. -/
theorem foldlM_ownTell_none {answers : Nat → VmAnswers} {n : Nat} {requests : List MatrixRequest}
    (hcalls : (attachedRequests answers n requests).mapM MatrixRequest.shown = none)
    (thread : RoomThread σ θ) :
    requests.foldlM (ownTell answers executors) (thread, n) = none := by
  induction requests generalizing thread n with
  | nil =>
    rw [attachedRequests, List.mapM_nil] at hcalls
    cases hcalls
  | cons request rest ih =>
    rw [List.foldlM_cons]
    unfold ownTell
    rw [attachedRequests] at hcalls
    split at hcalls
    · next hvm =>
      rw [if_pos hvm]
      unfold RoomThread.tellDetached
      cases hshown : request.shown with
      | none => rfl
      | some c =>
        -- it is one of a later request
        apply ih
        rw [List.mapM_cons, hshown] at hcalls
        cases hrest : (attachedRequests answers (n + 1) rest).mapM MatrixRequest.shown with
        | none => rfl
        | some later =>
          rw [hrest] at hcalls
          cases hcalls
    · next hvm =>
      rw [if_neg hvm]
      exact ih hcalls thread

/-- **On a thread of the library.** Every call is made for which the thread is attached, whatever
    the executors throw: it is detached after each of them, and what was thrown is reported as
    uncaught, in order. -/
theorem run_onLibraryThread {answers : Nat → VmAnswers}
    (program : Program MatrixRequest MatrixReply CppException α) {thread : RoomThread σ θ}
    (hdetached : thread.vm.env = none) (hclear : thread.throwable = none)
    {calls : List ExecutorCall}
    (hcalls : (attachedRequests answers 0 (program.asked MatrixRequest.reply)).mapM
      MatrixRequest.shown = some calls) :
    (program.runOver (ownCallback answers executors)).run (thread, 0) =
      ((program.ending MatrixRequest.reply).mapError Fault.thrown,
        (thread.afterOwn executors calls, (program.asked MatrixRequest.reply).length)) := by
  have hsteps : (program.asked MatrixRequest.reply).foldlM (ownTell answers executors) (thread, 0) =
      some (thread.afterOwn executors calls, 0 + (program.asked MatrixRequest.reply).length) :=
    foldlM_ownTell hcalls hdetached hclear
  rw [Nat.zero_add] at hsteps
  exact ((answers_own answers).run_runOver_some program ⟨hdetached, hclear⟩ hsteps).1

/-- **Threads of the library.** Whatever the executors throw, the app gets the calls of the library
    in order, but for those of the callbacks for which the VM could not attach the thread; what was
    thrown is reported in order as uncaught, and the thread is detached again. The library ends in
    the same way. Only a text that cannot be shown leaves the callbacks undefined. -/
theorem ownThread_heard (answers : Nat → VmAnswers)
    (program : Program MatrixRequest MatrixReply CppException α) {thread : RoomThread σ θ}
    (hdetached : thread.vm.env = none) (hclear : thread.throwable = none) :
    (∀ {calls}, (attachedRequests answers 0 (program.asked MatrixRequest.reply)).mapM
        MatrixRequest.shown = some calls →
      (program.runOver (ownCallback answers executors)).run (thread, 0) =
        ((program.ending MatrixRequest.reply).mapError Fault.thrown,
          ({ app := afterCalls executors thread.app calls
             vm := thread.vm.detachedAfter calls.length
             throwable := none
             uncaught :=
               thread.uncaught ++ (thrownBy executors thread.app calls).reduceOption },
            (program.asked MatrixRequest.reply).length))) ∧
    ((attachedRequests answers 0 (program.asked MatrixRequest.reply)).mapM
        MatrixRequest.shown = none →
      ∃ after, (program.runOver (ownCallback answers executors)).run (thread, 0) =
        (.error .undefinedBehaviour, after)) ∧
    ((∀ n, (answers n).attachResult = 0) →
      attachedRequests answers 0 (program.asked MatrixRequest.reply) =
        program.asked MatrixRequest.reply) ∧
    ((∀ n, (answers n).attachResult ≠ 0) →
      (program.runOver (ownCallback answers executors)).run (thread, 0) =
        ((program.ending MatrixRequest.reply).mapError Fault.thrown,
          (thread, (program.asked MatrixRequest.reply).length))) := by
  refine ⟨?_, ?_, ?_, ?_⟩
  · intro calls hcalls
    exact run_onLibraryThread program hdetached hclear hcalls
  · intro hcalls
    exact (answers_own answers).run_runOver_none program ⟨hdetached, hclear⟩
      (foldlM_ownTell_none hcalls thread)
  · intro hvm
    exact attachedRequests_all hvm 0 _
  · intro hvm
    have hcalls : (attachedRequests answers 0 (program.asked MatrixRequest.reply)).mapM
        MatrixRequest.shown = some [] := by
      rw [attachedRequests_none hvm]
      rfl
    rw [run_onLibraryThread program hdetached hclear hcalls, afterOwn_nil hdetached hclear]

end Programs

/-- A file is half done, and then done. -/
def twoProgresses : Program MatrixRequest MatrixReply CppException Unit :=
  .send (.progress 50) fun _ => .send (.progress 100) fun _ => .done ()

/-- An executor that counts the calls and throws each time. -/
def alwaysThrows : Executors Nat String := fun heard _ => (.error "busy", heard + 1)

/-- Both are heard, and both throwables are reported; or only the second, where the VM cannot attach
    the thread for the first. -/
theorem twoProgresses_heard :
    (twoProgresses.runOver (ownCallback (fun _ => ⟨none, 0⟩) alwaysThrows)).run
        (⟨0, libraryThread, none, []⟩, 0) =
      (.ok (), (⟨2, libraryThread.detachedAfter 2, none, ["busy", "busy"]⟩, 2)) ∧
    (twoProgresses.runOver
        (ownCallback (fun n => ⟨none, if n = 0 then -1 else 0⟩) alwaysThrows)).run
        (⟨0, libraryThread, none, []⟩, 0) =
      (.ok (), (⟨1, libraryThread.detachedAfter 1, none, ["busy"]⟩, 2)) := by
  constructor
  · obtain ⟨hheard, -, -, -⟩ :=
      @ownThread_heard _ _ _ alwaysThrows (fun _ => ⟨none, 0⟩) twoProgresses
        ⟨0, libraryThread, none, []⟩ rfl rfl
    exact @hheard [.syncFileEvent false 50, .syncFileEvent true 100] rfl
  · obtain ⟨hheard, -, -, -⟩ :=
      @ownThread_heard _ _ _ alwaysThrows (fun n => ⟨none, if n = 0 then -1 else 0⟩)
        twoProgresses ⟨0, libraryThread, none, []⟩ rfl rfl
    exact @hheard [.syncFileEvent true 100] rfl

end NunchukSdk
