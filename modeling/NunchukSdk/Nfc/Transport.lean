import NunchukSdk.Foundation.Interaction
import NunchukSdk.Jni.Env
import NunchukSdk.Marshal.Transaction

/-!
# The NFC Transport

libnunchuk talks to a TAPSIGNER or SATSCARD through a transport that `NFC::makeTransport` builds
around an `IsoDep`. Each exchange copies the bytes into a Java array, has `IsoDepCaller.transceive`
send them, and copies the answer back. A throwable that `transceive` raises, such as the
`IOException` of a card that leaves the field, becomes a `TapProtocolException` with the code
`TAG_LOST`.

## Model

- A `Card` answers octets, or makes `transceive` throw; only the `toString()` of what is thrown
  is read.
- While a throwable is pending, the JNI functions used here are undefined but for those that
  inspect or clear it and those that free a reference.
- `localRefs` counts the local references that the transport holds, which the VM frees only when
  the native method returns. Those of conversions and of `FindClass` are not counted.
- What libnunchuk does with the transport is any `Program`: it may depend on every answer, and may
  catch the exception.

## Results

- `run_makeTransport`: what one exchange does, and what it leaves behind
- `transport_refines_card`: over the transport, every program comes to what it comes to on the
  card itself
-/

namespace NunchukSdk

open Foundation NativeM

/-! ## Cards and threads -/

/-- `tap_protocol::Bytes`. -/
abbrev Bytes := List UInt8

/-- A card in the field of the reader, with what `transceive` throws instead of an answer. -/
abbrev Card (κ : Type) := Device κ Bytes Bytes String

/-- `IsoDepCaller.transceive`, on Java arrays. -/
def transceive {κ : Type} (card : Card κ) (k : κ) (data : List Int8) :
    Except String (List Int8) × κ :=
  ((card k (data.map Int8.toUInt8)).1.map (List.map UInt8.toInt8),
    (card k (data.map Int8.toUInt8)).2)

/-- The thread in a native method that talks to a card. -/
structure NfcThread (κ : Type) where
  card : κ
  /-- The pending throwable, by its `toString()`. -/
  throwable : Option String
  /-- The local references that exchanges have made and not freed, apart from all others. -/
  localRefs : Nat

/-- Native code on such a thread. -/
abbrev NfcM (κ α : Type) := NativeM CppException (NfcThread κ) α

section Jni

variable {κ α : Type}

/-- A JNI function that is undefined while a throwable is pending. -/
def jniCall (f : NfcThread κ → α × NfcThread κ) : NfcM κ α := do
  let thread ← read
  match thread.throwable with
  | some _ => undefinedBehaviour
  | none => do
    update fun _ => (f thread).2
    pure (f thread).1

@[simp] theorem run_jniCall (f : NfcThread κ → α × NfcThread κ) (k : κ) (refs : Nat) :
    (jniCall f).run ⟨k, none, refs⟩ = (.ok (f ⟨k, none, refs⟩).1, (f ⟨k, none, refs⟩).2) := rfl

/-- `env->NewByteArray` and `env->SetByteArrayRegion`. -/
def newByteArray (bytes : Bytes) : NfcM κ (List Int8) :=
  jniCall fun thread =>
    (bytes.map UInt8.toInt8, { thread with localRefs := thread.localRefs + 1 })

/-- `env->CallStaticObjectMethod(isoDepCallerClass, transceiveMethodID, iso_dep, bytesToSend)`:
    null with a pending throwable when the method throws. -/
def callTransceive (card : Card κ) (bytesToSend : List Int8) : NfcM κ (Option (List Int8)) :=
  jniCall fun thread =>
    match transceive card thread.card bytesToSend with
    | (.ok answer, k) => (some answer, ⟨k, none, thread.localRefs + 1⟩)
    | (.error text, k) => (none, ⟨k, some text, thread.localRefs⟩)

/-- `env->ExceptionOccurred()`. -/
def exceptionOccurred : NfcM κ (Option String) := do
  let thread ← read
  match thread.throwable with
  | some ex => do
    update fun thread => { thread with localRefs := thread.localRefs + 1 }
    pure (some ex)
  | none => pure none

/-- `env->ExceptionClear()`. -/
def exceptionClear : NfcM κ Unit :=
  update fun thread => { thread with throwable := none }

/-- `env->CallObjectMethod(ex, toStringMethodID)` and `env->GetStringUTFChars`. -/
def callToString (ex : String) : NfcM κ String :=
  jniCall fun thread => (ex, { thread with localRefs := thread.localRefs + 1 })

/-- `env->GetByteArrayElements` and the copy into a `Bytes`; undefined for a null array. -/
def getByteArrayElements (array : Option (List Int8)) : NfcM κ Bytes := do
  let elements ← defined array
  jniCall fun thread => (elements.map Int8.toUInt8, thread)

/-- `env->DeleteLocalRef`. -/
def deleteLocalRef : NfcM κ Unit :=
  update fun thread => { thread with localRefs := thread.localRefs - 1 }

end Jni

/-! ## The transport -/

section Transport

variable {κ α : Type} (card : Card κ) (tagLost : Int)

/-- The lambda of `NFC::makeTransport`; `tagLost` is `TapProtocolException::TAG_LOST`. -/
def makeTransport (bytes : Bytes) : NfcM κ Bytes := do
  let bytesToSend ← newByteArray bytes
  let bytesReceive ← callTransceive card bytesToSend
  let ex ← exceptionOccurred
  match ex with
  | some ex => do
    exceptionClear
    let exMessage ← callToString ex
    -- the string is freed, the array and the throwable are not
    deleteLocalRef
    throwing (.base tagLost exMessage)
  | none => do
    deleteLocalRef
    let result ← getByteArrayElements bytesReceive
    deleteLocalRef
    pure result

/-- The card as libnunchuk should see it: its octets, and `TAG_LOST` with the text of what was
    thrown. -/
def tagDevice : Device κ Bytes Bytes CppException := fun k bytes =>
  ((card k bytes).1.mapError (CppException.base tagLost), (card k bytes).2)

theorem octets_roundTrip (bytes : Bytes) :
    (bytes.map UInt8.toInt8).map Int8.toUInt8 = bytes := by
  simp [Function.comp_def]

/-- What `transceive` does with the array of some octets. -/
theorem transceive_octets (k : κ) (bytes : Bytes) :
    transceive card k (bytes.map UInt8.toInt8) =
      ((card k bytes).1.map (List.map UInt8.toInt8), (card k bytes).2) := by
  unfold transceive
  rw [octets_roundTrip]

/-- A call whose bytes the card answers yields the array of the answer. -/
theorem run_callTransceive_ok {k : κ} {bytes answer : Bytes} (h : (card k bytes).1 = .ok answer)
    (refs : Nat) :
    (callTransceive card (bytes.map UInt8.toInt8)).run ⟨k, none, refs⟩ =
      (.ok (some (answer.map UInt8.toInt8)), ⟨(card k bytes).2, none, refs + 1⟩) := by
  unfold callTransceive
  rw [run_jniCall]
  simp only [transceive_octets, h]
  rfl

/-- A call that throws yields null and leaves the throwable pending. -/
theorem run_callTransceive_error {k : κ} {bytes : Bytes} {text : String}
    (h : (card k bytes).1 = .error text) (refs : Nat) :
    (callTransceive card (bytes.map UInt8.toInt8)).run ⟨k, none, refs⟩ =
      (.ok none, ⟨(card k bytes).2, some text, refs⟩) := by
  unfold callTransceive
  rw [run_jniCall]
  simp only [transceive_octets, h]
  rfl

/-- An array that was filled from octets is copied back to them. -/
theorem run_getByteArrayElements (answer : Bytes) (k : κ) (refs : Nat) :
    (getByteArrayElements (some (answer.map UInt8.toInt8))).run ⟨k, none, refs⟩ =
      (.ok answer, ⟨k, none, refs⟩) := by
  unfold getByteArrayElements
  rw [defined, run_pure_bind, run_jniCall, octets_roundTrip]

/-- **One exchange.** The card gets the octets and its answer is returned, or what was thrown is
    cleared and thrown again as `TAG_LOST`; a failure keeps two local references. -/
theorem run_makeTransport (bytes : Bytes) (k : κ) (refs : Nat) :
    (makeTransport card tagLost bytes).run ⟨k, none, refs⟩ =
      ((tagDevice card tagLost k bytes).1.mapError Fault.thrown,
        ⟨(tagDevice card tagLost k bytes).2, none,
          refs + 2 * (Program.isFailure (tagDevice card tagLost k bytes).1).toNat⟩) := by
  unfold makeTransport newByteArray tagDevice
  rw [run_bind, run_jniCall]
  dsimp only
  rw [run_bind]
  cases hanswer : (card k bytes).1 with
  | error text =>
    rw [run_callTransceive_error card hanswer]
    rfl
  | ok answer =>
    rw [run_callTransceive_ok card hanswer]
    -- the reference of the array that was sent is deleted before the answer is read
    show ((getByteArrayElements (some (answer.map UInt8.toInt8)) >>= fun result =>
      deleteLocalRef >>= fun _ => pure result).run ⟨(card k bytes).2, none, refs + 1⟩) = _
    rw [run_bind, run_getByteArrayElements]
    rfl

/-- **The transport refines the card.** Whatever a library call sends and whatever it catches, over
    the transport it ends as it would on the card itself, leaves the card in the same state and no
    throwable pending, and keeps two local references for each exchange that failed. -/
theorem transport_refines_card (program : Program Bytes Bytes CppException α) (k : κ)
    (refs : Nat) :
    (program.runOver (makeTransport card tagLost)).run ⟨k, none, refs⟩ =
      ((program.against (tagDevice card tagLost) k).1.mapError Fault.thrown,
        ⟨(program.against (tagDevice card tagLost) k).2, none,
          refs + 2 * program.failed (tagDevice card tagLost) k⟩) := by
  have hsimulates : Program.Simulates (makeTransport card tagLost)
      (Program.counting (tagDevice card tagLost))
      fun thread (d : κ × Nat) => thread = ⟨d.1, none, refs + 2 * d.2⟩ := by
    rintro thread ⟨k, n⟩ bytes rfl
    refine ⟨_, run_makeTransport card tagLost bytes k (refs + 2 * n), ?_⟩
    simp only [Program.counting, Nat.mul_add, Nat.add_assoc]
  -- the device that counts its failures starts with none
  obtain ⟨thread, hrun, hthread⟩ := hsimulates.run_runOver program (d := (k, 0)) rfl
  rw [Program.against_counting] at hrun hthread
  rw [hthread] at hrun
  rw [Nat.zero_add] at hrun
  exact hrun

end Transport

end NunchukSdk
