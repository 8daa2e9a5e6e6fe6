import NunchukSdk.Jni.Env

/-!
# How a Native Method May End

Java sees the value a native method returns and the exceptions pending at that moment. A method
that wraps library calls should return in every case, with no exception when the calls succeed
and with one `NCNativeException` about the call that failed when they do not.

- `Crosses`: that contract, for the outcome of the wrapped calls
- `wrapped`: the shape most entry points have, with both `catch` clauses
- `wrapped_crosses`: the shape meets the contract whatever the calls do
-/

namespace NunchukSdk

open Foundation NativeM

/-- The message that Java should see: the code, a colon and the text of a `BaseException`, the
    text of any other exception. -/
def CppException.message : CppException → String
  | base code what => toString code ++ ":" ++ what
  | std what => what

/-- What Java observes of a call. -/
abbrev JResult (β : Type) := Except (Fault CppException) (JReturn β) × JavaEnv

/-- The method has returned, and pending is nothing if the calls succeeded and the one exception
    that describes their failure otherwise. -/
def Crosses {α β : Type} (outcome : Except CppException α) (result : JResult β) : Prop :=
  (∃ returned, result.1 = .ok returned) ∧
    result.2.pending =
      match outcome with
      | .ok _ => []
      | .error e => [⟨e.message⟩]

section

variable {α β : Type}

theorem crosses_returned (a : α) (returned : JReturn β) :
    Crosses (.ok a : Except CppException α) (.ok returned, {}) :=
  ⟨⟨returned, rfl⟩, rfl⟩

theorem crosses_raised (e : CppException) (returned : JReturn β) :
    Crosses (.error e : Except CppException α) (.ok returned, ⟨[⟨e.message⟩]⟩) :=
  ⟨⟨returned, rfl⟩, rfl⟩

/-- A method that does not return does not meet the contract. -/
theorem not_crosses_of_error {outcome : Except CppException α} {result : JResult β}
    (fault : Fault CppException) (h : result.1 = .error fault) : ¬ Crosses outcome result := by
  rintro ⟨⟨returned, hreturned⟩, -⟩
  rw [h] at hreturned
  cases hreturned

/-- Nor does one that raises another message. -/
theorem not_crosses_of_message {e : CppException} {result : JResult β} (message : String)
    (h : result.2.pending = [⟨message⟩]) (hne : message ≠ e.message) :
    ¬ Crosses (.error e : Except CppException α) result := by
  rintro ⟨-, hpending⟩
  rw [h] at hpending
  exact hne (NCNativeException.mk.inj (List.cons.inj hpending).1)

/-- Library calls with a conversion of what they yield, and both `catch` clauses; the clauses
    return `onBase` and `onStd` beside the exception they raise. -/
def wrapped (outcome : Except CppException α) (convert : α → β) (onBase onStd : JReturn β) :
    Jni (JReturn β) :=
  catchBaseStd
    (do
      let a ← call outcome
      pure (.object (convert a)))
    (fun code what => do
      convert2JException code what
      pure onBase)
    (fun e => do
      convertStdException2JException e
      pure onStd)

@[simp] theorem run_wrapped_ok (a : α) (convert : α → β) (onBase onStd : JReturn β)
    (env : JavaEnv) :
    (wrapped (.ok a) convert onBase onStd).run env = (.ok (.object (convert a)), env) :=
  run_catchBaseStd_ok rfl

/-- What either clause leaves behind. -/
theorem run_wrapped_error (e : CppException) (convert : α → β) (onBase onStd : JReturn β)
    (env : JavaEnv) :
    (wrapped (.error e) convert onBase onStd).run env =
      (.ok (if e.isBase then onBase else onStd), ⟨env.pending ++ [⟨e.message⟩]⟩) := by
  cases e with
  | base code what => exact run_catchBaseStd_base rfl
  | std what => exact run_catchBaseStd_std rfl

/-- **Both clauses suffice.** Whatever the calls do, the method meets the contract. -/
theorem wrapped_crosses (outcome : Except CppException α) (convert : α → β)
    (onBase onStd : JReturn β) :
    Crosses outcome ((wrapped outcome convert onBase onStd).run {}) := by
  cases outcome with
  | ok a =>
    rw [run_wrapped_ok]
    exact crosses_returned a _
  | error e =>
    rw [run_wrapped_error]
    exact crosses_raised e _

end

/-- A message with a code is never the bare text. -/
theorem message_base_ne (code : Int) (what : String) :
    what ≠ (CppException.base code what).message := by
  intro h
  have hlength := congrArg String.length h
  simp only [CppException.message, String.length_append] at hlength
  have hcolon : (":" : String).length = 1 := rfl
  omega

end NunchukSdk
