import NunchukSdk.Foundation.Unwinding
import NunchukSdk.Jni.EntryPoint

/-!
# Methods Beside a State of the Library

Where a property is about what libnunchuk remembers between two calls, a native method runs beside
a state of the library, and its calls are functions on that state. `nativeMethod` is the shape of
such a method, with both `catch` clauses.
-/

namespace NunchukSdk

open Foundation NativeM

variable {σ α β : Type}

/-- A native method with both `catch` clauses, beside a state of the library. -/
def nativeMethod (body : NativeM CppException (σ × JavaEnv) (JReturn β))
    (onBase onStd : JReturn β) : NativeM CppException (σ × JavaEnv) (JReturn β) :=
  catchBaseStd body
    (fun code what => do
      onSnd (convert2JException code what)
      pure onBase)
    (fun e => do
      onSnd (convertStdException2JException e)
      pure onStd)

/-- The clauses turn a C++ exception into a Java one, and leave the library as it is. -/
theorem run_nativeMethod (body : NativeM CppException (σ × JavaEnv) (JReturn β))
    (onBase onStd : JReturn β) (s : σ × JavaEnv) :
    (nativeMethod body onBase onStd).run s =
      match body.run s with
      | (.error (.thrown e), (state, env)) =>
        (.ok (if e.isBase then onBase else onStd), (state, ⟨env.pending ++ [⟨e.message⟩]⟩))
      | ended => ended := by
  rcases hbody : body.run s with ⟨r, state, env⟩
  match r, hbody with
  | .ok returned, hbody => exact run_catchBaseStd_ok hbody
  | .error .undefinedBehaviour, hbody => exact run_catching_undefined hbody
  | .error (.thrown (.base code what)), hbody => exact run_catchBaseStd_base hbody
  | .error (.thrown (.std what)), hbody => exact run_catchBaseStd_std hbody

/-- A result seen as a result of another kind. -/
def JReturn.map (f : α → β) : JReturn α → JReturn β
  | .null => .null
  | .object a => .object (f a)
  | .throwable => .throwable

variable {R : σ → σ → Prop} {body : NativeM CppException (σ × JavaEnv) (JReturn β)}

/-- The clauses raise an exception that depends on the one they caught. -/
theorem Respects.nativeMethod (hbody : Respects (FstAlike R) body) (onBase onStd : JReturn β) :
    Respects (FstAlike R) (nativeMethod body onBase onStd) := by
  apply hbody.catching
  intro e clause hclause
  cases e with
  | base code what =>
    rw [← Option.some.inj hclause]
    exact (respects_onSnd _).bind fun _ => respects_pure _
  | std what =>
    rw [← Option.some.inj hclause]
    exact (respects_onSnd _).bind fun _ => respects_pure _

/-- They leave the library alone. -/
theorem Unnoticed.nativeMethod (hbody : Unnoticed (OnFst R) body) (onBase onStd : JReturn β) :
    Unnoticed (OnFst R) (nativeMethod body onBase onStd) := by
  apply hbody.catching
  intro e clause hclause
  cases e with
  | base code what =>
    rw [← Option.some.inj hclause]
    exact (unnoticed_onSnd _).bind fun _ => unnoticed_pure _
  | std what =>
    rw [← Option.some.inj hclause]
    exact (unnoticed_onSnd _).bind fun _ => unnoticed_pure _

end NunchukSdk
