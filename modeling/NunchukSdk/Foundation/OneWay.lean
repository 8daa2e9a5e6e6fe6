import NunchukSdk.Foundation.Interaction

/-!
# Programs that Learn Nothing

A callback may return the same value whatever becomes of the call. Code that uses such callbacks
learns nothing from them: its requests and its outcome are fixed before the first request is sent,
and for the receiver the program is a list of requests.

## Main definitions

- `asked`, `ending`: the requests and the outcome of a program that is answered by `reply`

## Main results

- `Answers.run_runOver_some`, `Answers.run_runOver_none`: over a transport that answers by `reply`
  where it is defined, a program is defined exactly when the transport is, request by request
-/

namespace NunchukSdk.Foundation

open NativeM

variable {Q R ε σ α : Type}

namespace Program

variable (reply : Q → R)

/-- The requests of a program. -/
def asked : Program Q R ε α → List Q
  | done _ => []
  | raise _ => []
  | send request next => request :: asked (next (.ok (reply request)))

/-- The outcome of a program. -/
def ending : Program Q R ε α → Except ε α
  | done a => .ok a
  | raise e => .error e
  | send request next => ending (next (.ok (reply request)))

/-- A transport that answers by `reply` and changes its state by `step`. Where `step` has no next
    state, the transport is undefined. `Ready` is what it keeps. -/
structure Answers (transport : Q → NativeM ε σ R) (reply : Q → R) (Ready : σ → Prop)
    (step : σ → Q → Option σ) : Prop where
  run_some : ∀ {s s' request}, Ready s → step s request = some s' →
    (transport request).run s = (.ok (reply request), s')
  run_none : ∀ {s request}, Ready s → step s request = none →
    ∃ s', (transport request).run s = (.error .undefinedBehaviour, s')
  ready : ∀ {s s' request}, Ready s → step s request = some s' → Ready s'

/-- An attempt at code that is undefined is undefined. -/
theorem run_attempt_undefined {m : NativeM ε σ α} {s s' : σ}
    (h : m.run s = (.error .undefinedBehaviour, s')) :
    (attempt m).run s = (.error .undefinedBehaviour, s') := by
  apply run_catching_undefined
  rw [run_bind, h]

variable {reply} {transport : Q → NativeM ε σ R} {Ready : σ → Prop} {step : σ → Q → Option σ}

/-- The transport is defined at every request. -/
theorem Answers.run_runOver_some (h : Answers transport reply Ready step) (p : Program Q R ε α)
    {s s' : σ} (hready : Ready s) (hsteps : (p.asked reply).foldlM step s = some s') :
    (p.runOver transport).run s = ((p.ending reply).mapError Fault.thrown, s') ∧ Ready s' := by
  induction p generalizing s with
  | done a =>
    cases hsteps
    exact ⟨rfl, hready⟩
  | raise e =>
    cases hsteps
    exact ⟨rfl, hready⟩
  | send request next ih =>
    rw [asked, List.foldlM_cons] at hsteps
    obtain ⟨middle, hstep, hrest⟩ := Option.bind_eq_some_iff.mp hsteps
    have hreply : (transport request).run s =
        ((Except.ok (reply request) : Except ε R).mapError Fault.thrown, middle) :=
      h.run_some hready hstep
    rw [runOver, run_bind, run_attempt hreply]
    exact ih _ (h.ready hready hstep) hrest

/-- The transport is undefined at some request. -/
theorem Answers.run_runOver_none (h : Answers transport reply Ready step) (p : Program Q R ε α)
    {s : σ} (hready : Ready s) (hsteps : (p.asked reply).foldlM step s = none) :
    ∃ s', (p.runOver transport).run s = (.error .undefinedBehaviour, s') := by
  induction p generalizing s with
  | done a => cases hsteps
  | raise e => cases hsteps
  | send request next ih =>
    rw [asked, List.foldlM_cons] at hsteps
    cases hstep : step s request with
    | none =>
      obtain ⟨s', hundefined⟩ := h.run_none hready hstep
      refine ⟨s', ?_⟩
      rw [runOver, run_bind, run_attempt_undefined hundefined]
    | some middle =>
      have hrest : ((next (.ok (reply request))).asked reply).foldlM step middle = none := by
        rw [hstep] at hsteps
        exact hsteps
      have hreply : (transport request).run s =
          ((Except.ok (reply request) : Except ε R).mapError Fault.thrown, middle) :=
        h.run_some hready hstep
      rw [runOver, run_bind, run_attempt hreply]
      exact ih _ (h.ready hready hstep) hrest

end Program

end NunchukSdk.Foundation
