import NunchukSdk.Foundation.NativeExec

/-!
# The JNI Boundary: C++ Exceptions and Pending Java Exceptions

A native method talks to two exception mechanisms. A C++ exception unwinds the native stack; a
Java exception raised with `ThrowNew` is only *pending* and is delivered when the native method
returns. `deserializer.cpp` turns the first into the second with `convert2JException` and
`convertStdException2JException`.

Text crosses the boundary unchanged in this file; the byte-level encoding of Java strings is
`Foundation/ModifiedUtf8.lean`.
-/

namespace NunchukSdk

open Foundation NativeM

/-! ## Exceptions of the wrapped library -/

/-- What the `catch` clauses of the native code tell apart. `BaseException` is itself a
    `std::exception`. -/
inductive CppException where
  /-- `nunchuk::BaseException`: an error code and a text. -/
  | base (code : Int) (what : String)
  /-- Any other `std::exception`. -/
  | std (what : String)
  deriving DecidableEq, Repr

namespace CppException

/-- `e.what()`. -/
def what : CppException → String
  | base _ what => what
  | std what => what

/-- `e` is caught by `catch (BaseException &e)`. -/
def isBase : CppException → Bool
  | base _ _ => true
  | std _ => false

end CppException

/-! ## Pending Java exceptions -/

/-- `com.nunchuk.android.exception.NCNativeException`. -/
structure NCNativeException where
  message : String
  deriving DecidableEq, Repr

/-- The part of the Java thread a native method changes: what `ThrowNew` has raised since the
    method was entered. -/
structure JavaEnv where
  pending : List NCNativeException := []
  deriving DecidableEq, Repr

/-- Native code with a `JNIEnv`. -/
abbrev Jni (α : Type) := NativeM CppException JavaEnv α

/-- `env->ThrowNew(clazz, msg)` for the class `NCNativeException`. -/
def throwNew (message : String) : Jni Unit :=
  update fun env => { env with pending := env.pending ++ [⟨message⟩] }

/-- `Deserializer::convert2JException`. -/
def convert2JException (code : Int) (what : String) : Jni Unit :=
  throwNew (toString code ++ ":" ++ what)

/-- `Deserializer::convertStdException2JException`. -/
def convertStdException2JException (e : CppException) : Jni Unit :=
  throwNew e.what

/-- The value a native method returns to Java. -/
inductive JReturn (α : Type) where
  /-- `nullptr`, and the `0` that `JNI_FALSE` is as a `jobject`. -/
  | null
  /-- A converted result. -/
  | object (a : α)
  /-- `env->ExceptionOccurred()`: the pending throwable itself. -/
  | throwable
  deriving DecidableEq, Repr

/-! ## The handler sets used by the entry points -/

section Handlers

variable {σ α : Type}

/-- `catch (BaseException &e) { ... }` alone. -/
def catchBase (body : NativeM CppException σ α)
    (onBase : Int → String → NativeM CppException σ α) : NativeM CppException σ α :=
  catching body fun
    | .base code what => some (onBase code what)
    | .std _ => none

/-- `catch (std::exception &e) { ... }` alone: it takes a `BaseException` too. -/
def catchStd (body : NativeM CppException σ α)
    (onStd : CppException → NativeM CppException σ α) : NativeM CppException σ α :=
  catching body fun e => some (onStd e)

/-- `catch (BaseException &e) { ... } catch (std::exception &e) { ... }`. -/
def catchBaseStd (body : NativeM CppException σ α)
    (onBase : Int → String → NativeM CppException σ α)
    (onStd : CppException → NativeM CppException σ α) : NativeM CppException σ α :=
  catching body fun
    | .base code what => some (onBase code what)
    | .std what => some (onStd (.std what))

variable {body : NativeM CppException σ α} {onBase : Int → String → NativeM CppException σ α}
  {onStd : CppException → NativeM CppException σ α} {s s' : σ}

theorem run_catchBaseStd_ok {a : α} (h : body.run s = (.ok a, s')) :
    (catchBaseStd body onBase onStd).run s = (.ok a, s') :=
  run_catching_ok h

theorem run_catchBaseStd_base {code : Int} {what : String}
    (h : body.run s = (.error (.thrown (.base code what)), s')) :
    (catchBaseStd body onBase onStd).run s = (onBase code what).run s' :=
  run_catching_caught h rfl

theorem run_catchBaseStd_std {what : String}
    (h : body.run s = (.error (.thrown (.std what)), s')) :
    (catchBaseStd body onBase onStd).run s = (onStd (.std what)).run s' :=
  run_catching_caught h rfl

end Handlers

/-! ## Handlers that only raise a Java exception -/

section Frames

variable {σ τ α : Type} {body : NativeM CppException (σ × τ) α}

theorem run_catchStd_fst {onStd : CppException → NativeM CppException (σ × τ) α}
    (hstd : ∀ e, KeepsFst (onStd e)) (s : σ × τ) :
    ((catchStd body onStd).run s).2.1 = (body.run s).2.1 := by
  apply KeepsFst.run_catching_fst
  intro e clause hclause
  rw [← Option.some.inj hclause]
  exact hstd e

theorem run_catchBaseStd_fst {onBase : Int → String → NativeM CppException (σ × τ) α}
    {onStd : CppException → NativeM CppException (σ × τ) α}
    (hbase : ∀ code what, KeepsFst (onBase code what)) (hstd : ∀ e, KeepsFst (onStd e))
    (s : σ × τ) : ((catchBaseStd body onBase onStd).run s).2.1 = (body.run s).2.1 := by
  apply KeepsFst.run_catching_fst
  intro e clause hclause
  cases e with
  | base code what =>
    rw [← Option.some.inj hclause]
    exact hbase code what
  | std what =>
    rw [← Option.some.inj hclause]
    exact hstd (.std what)

end Frames

end NunchukSdk
