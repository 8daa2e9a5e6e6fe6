import Mathlib.Logic.Basic
import Mathlib.Tactic.Basic

/-!
# Native Execution: State, Exceptions, Undefined Behaviour

Semantics for straight-line native code that reads and writes a state and may stop early.
A computation ends in one of three ways:

- it **returns** a value,
- it **throws** an exception, which an enclosing `try` may catch,
- it runs into **undefined behaviour** (an empty pointer, a missing return), which nothing
  catches.

In every case the effects made before that point stay in the state: a `catch` block starts
from the state the `try` block had reached, not from the state it started in.

## Main declarations

- `NativeM`: the monad, with one run equation per operation (`run_pure`, `run_bind`, ...)
- `catching`: a `try` with its `catch` clauses
- `onFst`, `onSnd`: code that uses one part of a state, with `KeepsFst` as its frame condition
- `fillLogged`: the idiom "fill an object setter by setter, log what is thrown, return it"
-/

namespace NunchukSdk.Foundation

/-! ## Outcomes -/

/-- The two ways native code ends without returning. -/
inductive Fault (ε : Type) where
  /-- An exception leaves the computation. -/
  | thrown (e : ε)
  /-- Undefined behaviour: no handler sees it. -/
  | undefinedBehaviour
  deriving DecidableEq, Repr

/-- A sequence of foreign calls returns exactly when each call does. -/
theorem bind_eq_ok {ε α β : Type} {x : Except ε α} {f : α → Except ε β} {b : β} :
    (x >>= f) = .ok b ↔ ∃ a, x = .ok a ∧ f a = .ok b := by
  cases x with
  | error e => simp [bind, Except.bind]
  | ok a => simp [bind, Except.bind]

/-- Native code over the state `σ` that throws exceptions of type `ε`. -/
def NativeM (ε σ α : Type) := σ → Except (Fault ε) α × σ

namespace NativeM

variable {ε σ α β : Type}

/-- Run a computation from a state. -/
def run (m : NativeM ε σ α) (s : σ) : Except (Fault ε) α × σ := m s

/-- Return without touching the state. -/
def ret (a : α) : NativeM ε σ α := fun s => (.ok a, s)

/-- Run `m`, then `f` from the state `m` reached; stop where `m` stopped. -/
def seq (m : NativeM ε σ α) (f : α → NativeM ε σ β) : NativeM ε σ β := fun s =>
  match m s with
  | (.ok a, s') => f a s'
  | (.error e, s') => (.error e, s')

instance : Monad (NativeM ε σ) where
  pure := ret
  bind := seq

@[ext] theorem ext {m n : NativeM ε σ α} (h : ∀ s, m.run s = n.run s) : m = n := funext h

@[simp] theorem run_pure (a : α) (s : σ) : (pure a : NativeM ε σ α).run s = (.ok a, s) := rfl

theorem run_bind (m : NativeM ε σ α) (f : α → NativeM ε σ β) (s : σ) :
    (m >>= f).run s = match m.run s with
      | (.ok a, s') => (f a).run s'
      | (.error e, s') => (.error e, s') := rfl

@[simp] theorem run_pure_bind (a : α) (k : α → NativeM ε σ β) (s : σ) :
    (pure a >>= k : NativeM ε σ β).run s = (k a).run s := rfl

/-! ## Primitive operations -/

/-- Read the state. -/
def read : NativeM ε σ σ := fun s => (.ok s, s)

/-- Change the state: a setter call, an assignment. -/
def update (f : σ → σ) : NativeM ε σ Unit := fun s => (.ok (), f s)

/-- `throw e`. -/
def throwing (e : ε) : NativeM ε σ α := fun s => (.error (.thrown e), s)

/-- Undefined behaviour. -/
def undefinedBehaviour : NativeM ε σ α := fun s => (.error .undefinedBehaviour, s)

/-- Call foreign code with a known outcome; it does not touch our state. -/
def call : Except ε α → NativeM ε σ α
  | .ok a => ret a
  | .error e => throwing e

/-- Call foreign code that changes the state. -/
def callOn (f : σ → Except ε α × σ) : NativeM ε σ α := fun s =>
  ((f s).1.mapError Fault.thrown, (f s).2)

@[simp] theorem run_read (s : σ) : (read : NativeM ε σ σ).run s = (.ok s, s) := rfl

@[simp] theorem run_update (f : σ → σ) (s : σ) :
    (update f : NativeM ε σ Unit).run s = (.ok (), f s) := rfl

@[simp] theorem run_throwing (e : ε) (s : σ) :
    (throwing e : NativeM ε σ α).run s = (.error (.thrown e), s) := rfl

@[simp] theorem run_undefinedBehaviour (s : σ) :
    (undefinedBehaviour : NativeM ε σ α).run s = (.error .undefinedBehaviour, s) := rfl

@[simp] theorem run_call_ok (a : α) (s : σ) :
    (call (.ok a) : NativeM ε σ α).run s = (.ok a, s) := rfl

@[simp] theorem run_call_error (e : ε) (s : σ) :
    (call (.error e) : NativeM ε σ α).run s = (.error (.thrown e), s) := rfl

@[simp] theorem run_callOn (f : σ → Except ε α × σ) (s : σ) :
    (callOn f).run s = ((f s).1.mapError Fault.thrown, (f s).2) := rfl

@[simp] theorem run_update_bind (f : σ → σ) (k : Unit → NativeM ε σ β) (s : σ) :
    (update f >>= k).run s = (k ()).run (f s) := rfl

@[simp] theorem run_read_bind (k : σ → NativeM ε σ β) (s : σ) :
    (read >>= k).run s = (k s).run s := rfl

@[simp] theorem run_call_ok_bind (a : α) (k : α → NativeM ε σ β) (s : σ) :
    (call (.ok a) >>= k).run s = (k a).run s := rfl

@[simp] theorem run_call_error_bind (e : ε) (k : α → NativeM ε σ β) (s : σ) :
    (call (.error e) >>= k).run s = (.error (.thrown e), s) := rfl

/-- Several calls in a row act as one. -/
theorem call_bind (r : Except ε α) (f : α → Except ε β) :
    (call (r >>= f) : NativeM ε σ β) = (call r >>= fun a => call (f a)) := by
  cases r with
  | ok a => rfl
  | error e => rfl

theorem bind_assoc {γ : Type} (m : NativeM ε σ α) (f : α → NativeM ε σ β)
    (g : β → NativeM ε σ γ) : (m >>= f) >>= g = m >>= fun a => f a >>= g := by
  apply ext
  intro s
  rw [run_bind, run_bind, run_bind]
  rcases m.run s with ⟨r, s'⟩
  cases r with
  | ok a => rfl
  | error e => rfl

/-- A value that is returned at once is handed on. -/
theorem pure_bind_eq (a : α) (k : α → NativeM ε σ β) : (pure a >>= k) = k a := rfl

theorem bind_pure_self (m : NativeM ε σ α) : (m >>= fun a => pure a) = m := by
  apply ext
  intro s
  rw [run_bind]
  rcases m.run s with ⟨r, s'⟩
  cases r with
  | ok a => rfl
  | error e => rfl

/-- The monad laws together. This is no instance: `simp` would rewrite every run by them. -/
theorem lawfulMonad : LawfulMonad (NativeM ε σ) :=
  LawfulMonad.mk' _ bind_pure_self (fun _ _ => rfl) bind_assoc

/-! ## Handlers -/

/-- `try { body } catch ...`: `handlers e` is the clause that takes `e`, if one does. What a
    clause itself throws is not seen by its sibling clauses. -/
def catching (body : NativeM ε σ α) (handlers : ε → Option (NativeM ε σ α)) :
    NativeM ε σ α := fun s =>
  match body s with
  | (.error (.thrown e), s') =>
    match handlers e with
    | some clause => clause s'
    | none => (.error (.thrown e), s')
  | r => r

theorem run_catching_ok {body : NativeM ε σ α} {handlers : ε → Option (NativeM ε σ α)}
    {s s' : σ} {a : α} (h : body.run s = (.ok a, s')) :
    (catching body handlers).run s = (.ok a, s') := by
  simp only [run] at h
  simp only [run, catching, h]

theorem run_catching_caught {body : NativeM ε σ α} {handlers : ε → Option (NativeM ε σ α)}
    {s s' : σ} {e : ε} {clause : NativeM ε σ α}
    (h : body.run s = (.error (.thrown e), s')) (hc : handlers e = some clause) :
    (catching body handlers).run s = clause.run s' := by
  simp only [run] at h
  simp only [run, catching, h, hc]

theorem run_catching_uncaught {body : NativeM ε σ α} {handlers : ε → Option (NativeM ε σ α)}
    {s s' : σ} {e : ε}
    (h : body.run s = (.error (.thrown e), s')) (hc : handlers e = none) :
    (catching body handlers).run s = (.error (.thrown e), s') := by
  simp only [run] at h
  simp only [run, catching, h, hc]

/-- No clause sees undefined behaviour. -/
theorem run_catching_undefined {body : NativeM ε σ α}
    {handlers : ε → Option (NativeM ε σ α)} {s s' : σ}
    (h : body.run s = (.error .undefinedBehaviour, s')) :
    (catching body handlers).run s = (.error .undefinedBehaviour, s') := by
  simp only [run] at h
  simp only [run, catching, h]

/-- A `try` depends on its body only through the run of the body. -/
theorem run_catching_congr {body body' : NativeM ε σ α} {handlers : ε → Option (NativeM ε σ α)}
    {s s' : σ} (h : body.run s = body'.run s') :
    (catching body handlers).run s = (catching body' handlers).run s' := by
  simp only [run] at h
  simp only [run, catching, h]

/-! ## Two parts of one state -/

section Zoom

variable {τ : Type}

/-- Run code that only uses the first part of the state. -/
def onFst (m : NativeM ε σ α) : NativeM ε (σ × τ) α := fun s =>
  ((m.run s.1).1, ((m.run s.1).2, s.2))

/-- Run code that only uses the second part of the state. -/
def onSnd (m : NativeM ε τ α) : NativeM ε (σ × τ) α := fun s =>
  ((m.run s.2).1, (s.1, (m.run s.2).2))

@[simp] theorem run_onFst (m : NativeM ε σ α) (s : σ) (t : τ) :
    (onFst m).run (s, t) = ((m.run s).1, ((m.run s).2, t)) := rfl

@[simp] theorem run_onSnd (m : NativeM ε τ α) (s : σ) (t : τ) :
    (onSnd m : NativeM ε (σ × τ) α).run (s, t) = ((m.run t).1, (s, (m.run t).2)) := rfl

/-- Code in a row on the first part of the state. -/
theorem onFst_bind (m : NativeM ε σ α) (f : α → NativeM ε σ β) :
    (onFst (m >>= f) : NativeM ε (σ × τ) β) = onFst m >>= fun a => onFst (f a) := by
  apply ext
  rintro ⟨s, t⟩
  rw [run_onFst, run_bind, run_bind, run_onFst]
  rcases m.run s with ⟨r, s'⟩
  cases r with
  | ok a => rfl
  | error e => rfl

/-- Code in a row on the second part of the state. -/
theorem onSnd_bind (m : NativeM ε τ α) (f : α → NativeM ε τ β) :
    (onSnd (m >>= f) : NativeM ε (σ × τ) β) = onSnd m >>= fun a => onSnd (f a) := by
  apply ext
  rintro ⟨s, t⟩
  rw [run_onSnd, run_bind, run_bind, run_onSnd]
  rcases m.run t with ⟨r, t'⟩
  cases r with
  | ok a => rfl
  | error e => rfl

/-- A `try` over code that only uses the second part of the state, with clauses that do so too. -/
theorem catching_onSnd {body : NativeM ε τ α} {handlers : ε → Option (NativeM ε τ α)}
    {handlers' : ε → Option (NativeM ε (σ × τ) α)}
    (h : ∀ e, handlers' e = (handlers e).map onSnd) :
    catching (onSnd body) handlers' = onSnd (catching body handlers) := by
  apply ext
  rintro ⟨s, t⟩
  rcases hbody : body.run t with ⟨r, t'⟩
  have hbody' : (onSnd body : NativeM ε (σ × τ) α).run (s, t) = (r, (s, t')) := by
    rw [run_onSnd, hbody]
  rw [run_onSnd]
  match r, hbody, hbody' with
  | .ok a, hbody, hbody' => rw [run_catching_ok hbody, run_catching_ok hbody']
  | .error .undefinedBehaviour, hbody, hbody' =>
    rw [run_catching_undefined hbody, run_catching_undefined hbody']
  | .error (.thrown e), hbody, hbody' =>
    have he := h e
    cases hclause : handlers e with
    | none =>
      rw [hclause] at he
      rw [run_catching_uncaught hbody hclause, run_catching_uncaught hbody' he]
    | some clause =>
      rw [hclause] at he
      rw [run_catching_caught hbody hclause, run_catching_caught hbody' he]
      rfl

/-- Code that leaves the first part of the state as it is. -/
def KeepsFst (m : NativeM ε (σ × τ) α) : Prop := ∀ s, (m.run s).2.1 = s.1

theorem keepsFst_pure (a : α) : KeepsFst (pure a : NativeM ε (σ × τ) α) := fun _ => rfl

theorem keepsFst_onSnd (m : NativeM ε τ α) : KeepsFst (onSnd m : NativeM ε (σ × τ) α) :=
  fun _ => rfl

theorem keepsFst_undefinedBehaviour :
    KeepsFst (undefinedBehaviour : NativeM ε (σ × τ) α) := fun _ => rfl

theorem keepsFst_call (r : Except ε α) : KeepsFst (call r : NativeM ε (σ × τ) α) := by
  intro s
  cases r with
  | ok a => rfl
  | error e => rfl

/-- After the first part of a computation, code that keeps the state's first part adds nothing
    to it. -/
theorem KeepsFst.run_bind_fst {f : α → NativeM ε (σ × τ) β} (hf : ∀ a, KeepsFst (f a))
    (m : NativeM ε (σ × τ) α) (s : σ × τ) : ((m >>= f).run s).2.1 = (m.run s).2.1 := by
  rw [run_bind]
  rcases m.run s with ⟨r, s'⟩
  cases r with
  | ok a => exact hf a s'
  | error e => rfl

theorem KeepsFst.bind {m : NativeM ε (σ × τ) α} {f : α → NativeM ε (σ × τ) β}
    (hm : KeepsFst m) (hf : ∀ a, KeepsFst (f a)) : KeepsFst (m >>= f) := by
  intro s
  rw [KeepsFst.run_bind_fst hf]
  exact hm s

/-- Handlers that keep the first part of the state leave it as the body did. -/
theorem KeepsFst.run_catching_fst {handlers : ε → Option (NativeM ε (σ × τ) α)}
    (hh : ∀ e clause, handlers e = some clause → KeepsFst clause)
    (body : NativeM ε (σ × τ) α) (s : σ × τ) :
    ((catching body handlers).run s).2.1 = (body.run s).2.1 := by
  rcases hbody : body.run s with ⟨r, s'⟩
  match r, hbody with
  | .ok a, hbody => rw [run_catching_ok hbody]
  | .error (.thrown e), hbody =>
    cases hclause : handlers e with
    | none => rw [run_catching_uncaught hbody hclause]
    | some clause =>
      rw [run_catching_caught hbody hclause]
      exact hh e clause hclause s'
  | .error .undefinedBehaviour, hbody => rw [run_catching_undefined hbody]

end Zoom

/-! ## Objects filled setter by setter -/

/-- Create an object with its defaults, run the setters of `body` inside a `try`, log what is
    thrown, and return the object as far as it got. A `body` with undefined behaviour has no
    defined object; what a result says about one rests on its runs having none. -/
def fillLogged (fresh : σ) (body : NativeM ε σ Unit) : σ := (body.run fresh).2

end NativeM

end NunchukSdk.Foundation
