import NunchukSdk.Jni.EntryPoint

/-!
# Requests to the Library

Some properties of an entry point are about what it hands to libnunchuk. `Asking R` is native
code whose state lists, beside the Java thread, the requests made so far; `ask` makes one and goes
on with the outcome the library gives. `asking` is the shape of an entry point with both `catch`
clauses, which make no request of their own.
-/

namespace NunchukSdk

open Foundation NativeM

/-- Native code that makes requests of type `R`. -/
abbrev Asking (R α : Type) := NativeM CppException (List R × JavaEnv) α

section

variable {R α β : Type}

/-- A call into the library. -/
def ask (request : R) (outcome : Except CppException α) : Asking R α := do
  onFst (update fun requests => requests ++ [request])
  call outcome

/-- Library calls and conversions with both `catch` clauses, each of which raises a Java
    exception and returns. -/
def asking (body : Asking R (JReturn β)) (onBase onStd : JReturn β) : Asking R (JReturn β) :=
  catchBaseStd body
    (fun code what => do
      onSnd (convert2JException code what)
      pure onBase)
    (fun e => do
      onSnd (convertStdException2JException e)
      pure onStd)

@[simp] theorem run_ask_ok_bind (request : R) (a : α) (k : α → Asking R β) (requests : List R)
    (env : JavaEnv) :
    (ask request (.ok a) >>= k).run (requests, env) = (k a).run (requests ++ [request], env) :=
  rfl

@[simp] theorem run_ask_error_bind (request : R) (e : CppException) (k : α → Asking R β)
    (requests : List R) (env : JavaEnv) :
    (ask request (.error e) >>= k).run (requests, env) =
      (.error (.thrown e), (requests ++ [request], env)) :=
  rfl

/-- The clauses turn a C++ exception into a Java one, and see nothing else. -/
theorem run_asking (body : Asking R (JReturn β)) (onBase onStd : JReturn β)
    (s : List R × JavaEnv) :
    (asking body onBase onStd).run s =
      match body.run s with
      | (.error (.thrown e), (requests, env)) =>
        (.ok (if e.isBase then onBase else onStd), (requests, ⟨env.pending ++ [⟨e.message⟩]⟩))
      | ended => ended := by
  rcases hbody : body.run s with ⟨r, requests, env⟩
  match r, hbody with
  | .ok returned, hbody => exact run_catchBaseStd_ok hbody
  | .error .undefinedBehaviour, hbody => exact run_catching_undefined hbody
  | .error (.thrown (.base code what)), hbody => exact run_catchBaseStd_base hbody
  | .error (.thrown (.std what)), hbody => exact run_catchBaseStd_std hbody

/-- What Java sees of a method that is entered afresh. -/
def javaResult (method : Asking R (JReturn β)) : JResult β :=
  ((method.run ([], {})).1, (method.run ([], {})).2.2)

/-- The requests that a method makes when it is entered afresh. -/
def requestsOf (method : Asking R α) : List R := (method.run ([], {})).2.1

/-- A call followed by conversions is the one request. -/
theorem requestsOf_ask_bind {request : R} {outcome : Except CppException α}
    {k : α → Asking R β} (hk : ∀ a, KeepsFst (k a)) :
    requestsOf (ask request outcome >>= k) = [request] := by
  unfold requestsOf
  rw [KeepsFst.run_bind_fst hk]
  cases outcome with
  | ok a => rfl
  | error e => rfl

/-- The handlers ask nothing. -/
theorem requestsOf_asking (body : Asking R (JReturn β)) (onBase onStd : JReturn β) :
    requestsOf (asking body onBase onStd) = requestsOf body := by
  apply run_catchBaseStd_fst
  · intro code what
    exact (keepsFst_onSnd _).bind fun _ => keepsFst_pure _
  · intro e
    exact (keepsFst_onSnd _).bind fun _ => keepsFst_pure _

end

end NunchukSdk
