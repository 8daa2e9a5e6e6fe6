import NunchukSdk.Jni.Env

/-!
# Class Lookup on Java and on Attached Threads

Native code names Java classes in two ways. `env->FindClass(name)` asks the class loader of the
calling Java method; on a thread that libnunchuk created and `JNIEnvGuard` attached there is no
such method, and only the bootstrap classes are found. `Initializer::getClass`, and the converters
that call `loadClass` themselves, ask the class loader cached in `JNI_OnLoad`, which knows every
class.

## Model

- `JniThread`: which names the two lookups of a thread resolve; `JniThread.java` and
  `JniThread.attached` are the two kinds there are
- `findClass`, `loadClass`: a lookup; `none` is the null class of a failed one
- `needClass`: the use of a class. A null class handed to `GetMethodID` or `NewObject` is
  undefined behaviour.
- `JniThread.Resolves`: what both kinds of threads resolve

A converter that only finds bootstrap classes and loads all others returns the same on both
kinds: each of its lookups disappears by `needClass_findClass` or `needClass_loadClass`.
-/

namespace NunchukSdk

open Foundation NativeM

/-! ## Threads -/

/-- The classes that `FindClass` resolves without a calling Java method: the comment on the
    balances callback names `java.util.HashMap` and `java.lang.Long`. -/
def isBootstrapClass (name : String) : Bool :=
  "java/util/".toList.isPrefixOf name.toList || "java/lang/".toList.isPrefixOf name.toList

/-- A thread, as far as class lookups go. -/
structure JniThread where
  /-- `env->FindClass(name)` gives a class. -/
  findsClass : String → Bool
  /-- `loadClass(name)` on the cached class loader gives a class. -/
  loadsClass : String → Bool

namespace JniThread

/-- A thread that entered native code from Java. -/
def java : JniThread where
  findsClass _ := true
  loadsClass _ := true

/-- A native thread that `JNIEnvGuard` has just attached. -/
def attached : JniThread where
  findsClass := isBootstrapClass
  loadsClass _ := true

/-- Bootstrap classes are found and every class is loaded. -/
structure Resolves (thread : JniThread) : Prop where
  finds : ∀ name, isBootstrapClass name = true → thread.findsClass name = true
  loads : ∀ name, thread.loadsClass name = true

theorem java_resolves : java.Resolves where
  finds _ _ := rfl
  loads _ := rfl

theorem attached_resolves : attached.Resolves where
  finds _ h := h
  loads _ := rfl

end JniThread

/-! ## Lookups -/

/-- A resolved `jclass`. -/
structure JClass where
  name : String
  deriving DecidableEq, Repr

/-- `env->FindClass(name)`. -/
def findClass (thread : JniThread) (name : String) : Option JClass :=
  if thread.findsClass name then some ⟨name⟩ else none

/-- `Initializer::getClass`, and `loadClass` called on the cached loader. -/
def loadClass (thread : JniThread) (name : String) : Option JClass :=
  if thread.loadsClass name then some ⟨name⟩ else none

/-- Look up a member of a class, or create an instance. -/
def needClass {ε σ : Type} (clazz : Option JClass) : NativeM ε σ JClass :=
  match clazz with
  | some clazz => pure clazz
  | none => undefinedBehaviour

section Resolved

variable {thread : JniThread} {ε σ : Type}

theorem findClass_eq (hthread : thread.Resolves) {name : String}
    (hname : isBootstrapClass name = true) : findClass thread name = some ⟨name⟩ :=
  if_pos (hthread.finds name hname)

theorem loadClass_eq (hthread : thread.Resolves) (name : String) :
    loadClass thread name = some ⟨name⟩ :=
  if_pos (hthread.loads name)

/-- A bootstrap class can be used on either kind of thread. -/
theorem needClass_findClass (hthread : thread.Resolves) {name : String}
    (hname : isBootstrapClass name = true) :
    (needClass (findClass thread name) : NativeM ε σ JClass) = pure ⟨name⟩ := by
  rw [findClass_eq hthread hname]
  rfl

/-- A class of the cached loader can be used on either kind of thread. -/
theorem needClass_loadClass (hthread : thread.Resolves) (name : String) :
    (needClass (loadClass thread name) : NativeM ε σ JClass) = pure ⟨name⟩ := by
  rw [loadClass_eq hthread]
  rfl

/-- The bootstrap classes that converters find. -/
theorem isBootstrapClass_arrayList : isBootstrapClass "java/util/ArrayList" = true := by decide

theorem isBootstrapClass_hashMap : isBootstrapClass "java/util/HashMap" = true := by decide

theorem isBootstrapClass_integer : isBootstrapClass "java/lang/Integer" = true := by decide

theorem isBootstrapClass_long : isBootstrapClass "java/lang/Long" = true := by decide

end Resolved

/-- An application class is not found on an attached thread. -/
example : findClass .attached "com/nunchuk/android/model/Amount" = none := by decide

/-! ## Lists and objects built with lookups -/

section Build

variable {ε σ τ α β : Type}

/-- `ArrayList()` filled with `add(element)`: the list class is looked up once, the elements are
    converted one by one. -/
def buildArrayList (thread : JniThread) (convert : α → NativeM ε σ β) (values : List α) :
    NativeM ε σ (List β) := do
  let _ ← needClass (findClass thread "java/util/ArrayList")
  values.mapM convert

/-- Converters that return build the list of their values. -/
theorem buildArrayList_eq {thread : JniThread} (hthread : thread.Resolves)
    {convert : α → NativeM ε σ β} {f : α → β} (hconvert : ∀ a, convert a = pure (f a))
    (values : List α) : buildArrayList thread convert values = pure (values.map f) := by
  have hfun : convert = fun a => pure (f a) := funext hconvert
  have hlawful : LawfulMonad (NativeM ε σ) := lawfulMonad
  rw [buildArrayList, needClass_findClass hthread isBootstrapClass_arrayList, pure_bind_eq, hfun]
  exact List.mapM_pure

/-- `fillLogged` on a thread where a lookup in the `try` block may give a null class: the block's
    exceptions are logged, its undefined behaviour is not. -/
def fillLoggedOn (fresh : τ) (body : NativeM ε τ Unit) : NativeM ε σ τ := fun s =>
  match body.run fresh with
  | (.error .undefinedBehaviour, _) => (.error .undefinedBehaviour, s)
  | (_, object) => (.ok object, s)

/-- Without undefined behaviour the object is returned as far as it got. -/
theorem fillLoggedOn_eq {fresh : τ} {body : NativeM ε τ Unit}
    (h : (body.run fresh).1 ≠ .error .undefinedBehaviour) :
    (fillLoggedOn fresh body : NativeM ε σ τ) = pure (fillLogged fresh body) := by
  apply NativeM.ext
  intro s
  have hrun : (fillLoggedOn fresh body : NativeM ε σ τ).run s =
      match body.run fresh with
      | (.error .undefinedBehaviour, _) => (.error .undefinedBehaviour, s)
      | (_, object) => (.ok object, s) := rfl
  rw [hrun, run_pure, fillLogged]
  -- the three ends of the block
  rcases hbody : body.run fresh with ⟨r, object⟩
  rw [hbody] at h
  match r, h with
  | .ok (), _ => rfl
  | .error (.thrown e), _ => rfl
  | .error .undefinedBehaviour, h => exact absurd rfl h

end Build

end NunchukSdk
