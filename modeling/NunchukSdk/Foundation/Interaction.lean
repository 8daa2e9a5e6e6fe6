import Mathlib.Data.List.Basic
import NunchukSdk.Foundation.NativeExec

/-!
# Programs that Talk to a Device

Library code that is handed a transport sends requests over it, one at a time, and goes on with
what comes back. What it sends next may depend on every earlier reply, and it may catch what the
transport throws and try again. A `Program` is such code as the transport sees it.

A program has two meanings:

- `against`: the abstract one, in which a device answers each request at once
- `runOver`: native code, in which each request is a call of the transport

## Main results

- `Simulates`: the transport does for each single request what the device does
- `Simulates.run_runOver`: then every program does over the transport what it does against the
  device, whatever it sends and whatever it catches
- `Propagates.exchanges_eq`: a program that catches nothing sends nothing after a failure
-/

namespace NunchukSdk.Foundation

open NativeM

variable {Q R ε σ δ α β : Type}

/-! ## Programs and devices -/

/-- Code that sends requests of type `Q` and gets replies of type `R`. -/
inductive Program (Q R ε α : Type) where
  /-- It returns. -/
  | done (a : α)
  /-- It throws. -/
  | raise (e : ε)
  /-- It sends a request and goes on with the reply, or with what the transport throws. -/
  | send (request : Q) (next : Except ε R → Program Q R ε α)

/-- A device answers a request or fails, and is in another state then. -/
abbrev Device (δ Q R ε : Type) := δ → Q → Except ε R × δ

namespace Program

/-- One program after another. -/
def andThen : Program Q R ε α → (α → Program Q R ε β) → Program Q R ε β
  | done a, f => f a
  | raise e, _ => raise e
  | send request next, f => send request fun reply => (next reply).andThen f

/-- What the program comes to when a device answers its requests, and the state it leaves the
    device in. -/
def against (device : Device δ Q R ε) : Program Q R ε α → δ → Except ε α × δ
  | done a, d => (.ok a, d)
  | raise e, d => (.error e, d)
  | send request next, d =>
    (next (device d request).1).against device (device d request).2

/-- The requests of the program with what came back. -/
def exchanges (device : Device δ Q R ε) : Program Q R ε α → δ → List (Q × Except ε R)
  | done _, _ => []
  | raise _, _ => []
  | send request next, d =>
    (request, (device d request).1) ::
      (next (device d request).1).exchanges device (device d request).2

@[simp] theorem against_done (device : Device δ Q R ε) (a : α) (d : δ) :
    (done a : Program Q R ε α).against device d = (.ok a, d) := rfl

@[simp] theorem against_raise (device : Device δ Q R ε) (e : ε) (d : δ) :
    (raise e : Program Q R ε α).against device d = (.error e, d) := rfl

@[simp] theorem against_send (device : Device δ Q R ε) (request : Q)
    (next : Except ε R → Program Q R ε α) (d : δ) :
    (send request next).against device d =
      (next (device d request).1).against device (device d request).2 := rfl

/-- The second program starts from the state that the first one leaves. -/
theorem against_andThen (device : Device δ Q R ε) (p : Program Q R ε α)
    (f : α → Program Q R ε β) (d : δ) :
    (p.andThen f).against device d =
      match p.against device d with
      | (.ok a, d') => (f a).against device d'
      | (.error e, d') => (.error e, d') := by
  induction p generalizing d with
  | done a => rfl
  | raise e => rfl
  | send request next ih => exact ih _ _

/-! ## Programs as native code -/

/-- Run code inside a `try` that keeps what is thrown as a value. -/
def attempt (m : NativeM ε σ α) : NativeM ε σ (Except ε α) :=
  catching (m >>= fun a => pure (.ok a)) fun e => some (pure (.error e))

/-- The program as native code over a transport. -/
def runOver (transport : Q → NativeM ε σ R) : Program Q R ε α → NativeM ε σ α
  | done a => pure a
  | raise e => throwing e
  | send request next =>
    attempt (transport request) >>= fun reply => (next reply).runOver transport

/-- An attempt at code that ends in an outcome returns this outcome. -/
theorem run_attempt {m : NativeM ε σ α} {outcome : Except ε α} {s s' : σ}
    (h : m.run s = (outcome.mapError Fault.thrown, s')) :
    (attempt m).run s = (.ok outcome, s') := by
  unfold attempt
  cases outcome with
  | ok a =>
    apply run_catching_ok
    rw [run_bind, h]
    rfl
  | error e =>
    have hthrown : (m >>= fun a => pure (Except.ok (ε := ε) a)).run s =
        (.error (.thrown e), s') := by
      rw [run_bind, h]
      rfl
    rw [run_catching_caught hthrown rfl, run_pure]

theorem runOver_andThen (transport : Q → NativeM ε σ R) (p : Program Q R ε α)
    (f : α → Program Q R ε β) :
    (p.andThen f).runOver transport = p.runOver transport >>= fun a => (f a).runOver transport := by
  induction p with
  | done a => rfl
  | raise e => rfl
  | send request next ih =>
    -- the rest of the program is bound after the same attempt
    have hrest : (fun reply => ((next reply).andThen f).runOver transport) =
        fun reply => (next reply).runOver transport >>= fun a => (f a).runOver transport :=
      funext ih
    show (attempt (transport request) >>= fun reply => ((next reply).andThen f).runOver transport) =
      (attempt (transport request) >>= fun reply => (next reply).runOver transport) >>=
        fun a => (f a).runOver transport
    rw [hrest, bind_assoc]

/-! ## Simulation -/

section Simulation

variable {transport : Q → NativeM ε σ R} {device : Device δ Q R ε} {related : σ → δ → Prop}

/-- From related states, a call of the transport ends as the device answers, and related states
    are reached again. -/
def Simulates (transport : Q → NativeM ε σ R) (device : Device δ Q R ε)
    (related : σ → δ → Prop) : Prop :=
  ∀ s d request, related s d → ∃ s',
    (transport request).run s = ((device d request).1.mapError Fault.thrown, s') ∧
      related s' (device d request).2

/-- **Programs preserve simulation.** A program over the transport ends as it does against the
    device. -/
theorem Simulates.run_runOver (h : Simulates transport device related) (p : Program Q R ε α)
    {s : σ} {d : δ} (hrelated : related s d) : ∃ s',
    (p.runOver transport).run s = ((p.against device d).1.mapError Fault.thrown, s') ∧
      related s' (p.against device d).2 := by
  induction p generalizing s d with
  | done a => exact ⟨s, rfl, hrelated⟩
  | raise e => exact ⟨s, rfl, hrelated⟩
  | send request next ih =>
    -- the call, then the rest of the program from the states that the call has reached
    obtain ⟨s', hcall, hrelated'⟩ := h s d request hrelated
    obtain ⟨s'', hrest, hrelated''⟩ := ih (device d request).1 hrelated'
    refine ⟨s'', ?_, hrelated''⟩
    show (attempt (transport request) >>= fun reply => (next reply).runOver transport).run s = _
    rw [run_bind, run_attempt hcall]
    exact hrest

end Simulation

/-! ## A device that counts its failures -/

/-- Nothing came back for a request. -/
def isFailure : Except ε R → Bool
  | .ok _ => false
  | .error _ => true

/-- The device, beside the number of requests that it has failed so far. -/
def counting (device : Device δ Q R ε) : Device (δ × Nat) Q R ε := fun d request =>
  ((device d.1 request).1,
    ((device d.1 request).2, d.2 + (isFailure (device d.1 request).1).toNat))

/-- How many requests of the program the device fails. -/
def failed (device : Device δ Q R ε) (p : Program Q R ε α) (d : δ) : Nat :=
  (p.exchanges device d).countP fun exchange => isFailure exchange.2

/-- Exchanges that were all answered count for nothing. -/
theorem countP_answered {exchanges : List (Q × Except ε R)}
    (h : ∀ exchange ∈ exchanges, isFailure exchange.2 = false) :
    exchanges.countP (fun exchange => isFailure exchange.2) = 0 := by
  rw [List.countP_eq_zero]
  intro exchange hexchange
  rw [h exchange hexchange]
  exact Bool.false_ne_true

/-- Counting changes neither the outcome nor the device. -/
theorem against_counting (device : Device δ Q R ε) (p : Program Q R ε α) (d : δ) (n : Nat) :
    p.against (counting device) (d, n) =
      ((p.against device d).1, ((p.against device d).2, n + p.failed device d)) := by
  induction p generalizing d n with
  | done a => rfl
  | raise e => rfl
  | send request next ih =>
    rw [against_send, against_send]
    simp only [counting]
    rw [ih]
    unfold failed
    rw [exchanges, List.countP_cons]
    cases (device d request).1 with
    | ok reply =>
      simp only [isFailure, Bool.toNat_false, Nat.add_zero, Bool.false_eq_true, if_false]
    | error e => simp only [isFailure, Bool.toNat_true, if_true, Nat.add_assoc, Nat.add_comm]

/-! ## Programs that catch nothing -/

/-- What the transport throws leaves the program. -/
def Propagates : Program Q R ε α → Prop
  | done _ => True
  | raise _ => True
  | send _ next => (∀ e, next (.error e) = raise e) ∧ ∀ reply, (next (.ok reply)).Propagates

theorem Propagates.andThen {p : Program Q R ε α} {f : α → Program Q R ε β} (hp : p.Propagates)
    (hf : ∀ a, (f a).Propagates) : (p.andThen f).Propagates := by
  induction p with
  | done a => exact hf a
  | raise e => trivial
  | send request next ih =>
    refine ⟨fun e => ?_, fun reply => ih (.ok reply) (hp.2 reply)⟩
    show (next (.error e)).andThen f = raise e
    rw [hp.1 e]
    rfl

/-- **A failure is the last exchange.** Either every request was answered, or the last one failed,
    the ones before it were answered, and the program throws this failure. -/
theorem Propagates.exchanges_eq {p : Program Q R ε α} (hp : p.Propagates)
    (device : Device δ Q R ε) (d : δ) :
    (∀ exchange ∈ p.exchanges device d, isFailure exchange.2 = false) ∨
      ∃ front request e, p.exchanges device d = front ++ [(request, .error e)] ∧
        (∀ exchange ∈ front, isFailure exchange.2 = false) ∧ (p.against device d).1 = .error e := by
  induction p generalizing d with
  | done a => exact Or.inl (List.forall_mem_nil _)
  | raise e => exact Or.inl (List.forall_mem_nil _)
  | send request next ih =>
    rw [against_send]
    unfold exchanges
    cases hanswer : (device d request).1 with
    | error e =>
      refine Or.inr ⟨[], request, e, ?_, List.forall_mem_nil _, ?_⟩
      · rw [hp.1 e]
        rfl
      · rw [hp.1 e, against_raise]
    | ok reply =>
      have hanswered : isFailure (.ok reply : Except ε R) = false := rfl
      obtain hall | ⟨front, last, e, heq, hfront, hthrown⟩ :=
        ih (.ok reply) (hp.2 reply) (device d request).2
      · exact Or.inl (List.forall_mem_cons.mpr ⟨hanswered, hall⟩)
      · refine Or.inr ⟨(request, .ok reply) :: front, last, e, ?_, ?_, hthrown⟩
        · rw [heq, List.cons_append]
        · exact List.forall_mem_cons.mpr ⟨hanswered, hfront⟩

end Program

end NunchukSdk.Foundation
