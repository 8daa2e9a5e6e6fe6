import NunchukSdk.Jni.Methods
import NunchukSdk.Jni.Strings

/-!
# Sessions with Hardware Wallets

A Ledger or a BitBox is driven step by step: a native method starts a command or hands over what
the device sent, and answers with a step that says what to write to the device next. The library
keeps what it must remember between two steps in a session, under the id that the app gives:
the BLE address or the name of the USB device.

This file has what both devices share: the conditions under which a call on one session concerns
no other.

- `WorksOn`: a library call works on one session
- `sessionMethod`: the body that most entry points have
- `respects_sessionMethod`, `unnoticed_sessionMethod`: calls for Kotlin's session ids. Different
  ids are different texts for the library, because `StringWrapper` is injective.
-/

namespace NunchukSdk

open Foundation NativeM

/-! ## Calls on one session -/

section Sessions

variable {M S α : Type} (sessionOf : M → NativeString → S)

/-- The call works on the session `id`: what it returns and makes of the session depends on the
    session alone, and the other sessions stay. -/
structure WorksOn (id : NativeString) (f : M → Except CppException α × M) : Prop where
  own : ∀ m m', sessionOf m id = sessionOf m' id →
    (f m).1 = (f m').1 ∧ sessionOf (f m).2 id = sessionOf (f m').2 id
  others : ∀ m id', id' ≠ id → sessionOf (f m).2 id' = sessionOf m id'

/-- A call that works on one entry of a table of sessions. -/
def onOwn (id : NativeString) (g : S → Except CppException α × S) (m : NativeString → S) :
    Except CppException α × (NativeString → S) :=
  ((g (m id)).1, fun id' => if id' = id then (g (m id)).2 else m id')

theorem worksOn_onOwn (id : NativeString) (g : S → Except CppException α × S) :
    WorksOn (fun m id => m id) id (onOwn id g) where
  own := by
    intro m m' hsame
    simp only [onOwn, hsame, if_true, and_self]
  others := by
    intro m id' hne
    simp only [onOwn, if_neg hne]

/-- Two states of the manager have the same session for one of Kotlin's ids. -/
def SameSession (sessionId : JString) (m m' : M) : Prop :=
  sessionOf m (stringWrapper sessionId) = sessionOf m' (stringWrapper sessionId)

variable {sessionOf} {f : M → Except CppException α × M}

theorem respects_sessionCall {sessionId : JString}
    (hf : WorksOn sessionOf (stringWrapper sessionId) f) :
    Respects (SameSession sessionOf sessionId) (callOn f) := by
  intro m m' hsame
  obtain ⟨hresult, hsession⟩ := hf.own m m' hsame
  rw [run_callOn, run_callOn]
  exact ⟨congrArg (Except.mapError Fault.thrown) hresult, hsession⟩

/-- A call for another id does not change the session. -/
theorem unnoticed_sessionCall {sessionId sessionId' : JString} (hne : sessionId' ≠ sessionId)
    (hf : WorksOn sessionOf (stringWrapper sessionId') f) :
    Unnoticed (SameSession sessionOf sessionId) (callOn f) := by
  intro m m' hsame
  rw [run_callOn]
  -- the ids differ as texts too
  have hid : stringWrapper sessionId ≠ stringWrapper sessionId' := by
    intro heq
    exact hne (stringWrapper_injective heq).symm
  exact (hf.others m _ hid).trans hsame

/-- The body of an entry point: look a session up, run one of its methods, convert what it
    returns. -/
def sessionMethod {β : Type} (find : M → Except CppException Unit × M)
    (f : M → Except CppException α × M) (convert : α → Jni (JReturn β)) :
    NativeM CppException (M × JavaEnv) (JReturn β) := do
  onFst (callOn find)
  let a ← onFst (callOn f)
  onSnd (convert a)

variable {β : Type} {find : M → Except CppException Unit × M}

theorem respects_sessionMethod {sessionId : JString}
    (hfind : WorksOn sessionOf (stringWrapper sessionId) find)
    (hf : WorksOn sessionOf (stringWrapper sessionId) f) (convert : α → Jni (JReturn β)) :
    Respects (FstAlike (SameSession sessionOf sessionId)) (sessionMethod find f convert) := by
  apply (respects_sessionCall hfind).onFst.bind
  intro u
  apply (respects_sessionCall hf).onFst.bind
  exact fun a => respects_onSnd _

theorem unnoticed_sessionMethod {sessionId sessionId' : JString} (hne : sessionId' ≠ sessionId)
    (hfind : WorksOn sessionOf (stringWrapper sessionId') find)
    (hf : WorksOn sessionOf (stringWrapper sessionId') f) (convert : α → Jni (JReturn β)) :
    Unnoticed (OnFst (SameSession sessionOf sessionId)) (sessionMethod find f convert) := by
  apply (unnoticed_sessionCall hne hfind).onFst.bind
  intro u
  apply (unnoticed_sessionCall hne hf).onFst.bind
  exact fun a => unnoticed_onSnd _

end Sessions

end NunchukSdk
