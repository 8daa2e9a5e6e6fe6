import Mathlib.Data.List.Basic
import NunchukSdk.Foundation.NativeExec

/-!
# Parties That Do Not Interfere

Several parties call one machine, each under its own key. `looks k s s'` says that the party of
the key `k` cannot tell the states `s` and `s'` apart. Two conditions on a single call are enough
for whole runs: a party that cannot tell two states apart is answered alike in both and still
cannot tell them apart, and it does not notice the call of another party. Then, in every
interleaving, each party is answered as if it were alone.

`looks` need not be an equivalence. A relation that holds between good states only has the
parties separated as long as the states stay good.

## Results

- `Separated.answersTo_eq`: the answers to one party in an interleaved run
- `Respects`, `Unnoticed`: both conditions for native code, and how they compose
-/

namespace NunchukSdk.Foundation

variable {κ σ ι ο : Type}

/-! ## Runs of several parties -/

/-- The answers to a list of calls, each with the key of its party. -/
def answers (step : σ → κ → ι → ο × σ) : σ → List (κ × ι) → List (κ × ο)
  | _, [] => []
  | s, (k, i) :: calls => (k, (step s k i).1) :: answers step (step s k i).2 calls

/-- The answers to one party that makes all the calls. -/
def alone (step : σ → κ → ι → ο × σ) (k : κ) : σ → List ι → List ο
  | _, [] => []
  | s, i :: is => (step s k i).1 :: alone step k (step s k i).2 is

/-- What a list of pairs has for one key. -/
def ofKey {α : Type} [DecidableEq κ] (k : κ) : List (κ × α) → List α
  | [] => []
  | (k', a) :: l => if k' = k then a :: ofKey k l else ofKey k l

section OfKey

variable {α : Type} [DecidableEq κ]

@[simp] theorem ofKey_nil (k : κ) : ofKey k ([] : List (κ × α)) = [] := rfl

@[simp] theorem ofKey_cons_self (k : κ) (a : α) (l : List (κ × α)) :
    ofKey k ((k, a) :: l) = a :: ofKey k l := if_pos rfl

@[simp] theorem ofKey_cons_ne {k k' : κ} (h : k' ≠ k) (a : α) (l : List (κ × α)) :
    ofKey k ((k', a) :: l) = ofKey k l := if_neg h

end OfKey

/-- One call separates the parties. -/
structure Separated (looks : κ → σ → σ → Prop) (step : σ → κ → ι → ο × σ) : Prop where
  /-- A party is answered alike in states it cannot tell apart. -/
  own : ∀ {k : κ} {s s' : σ} (i : ι), looks k s s' →
    (step s k i).1 = (step s' k i).1 ∧ looks k (step s k i).2 (step s' k i).2
  /-- It does not notice the calls of the others. -/
  other : ∀ {k k' : κ} {s s' : σ} (i : ι), k' ≠ k → looks k s s' → looks k (step s k' i).2 s'

/-- **Every party is answered as if it were alone.** -/
theorem Separated.answersTo_eq [DecidableEq κ] {looks : κ → σ → σ → Prop}
    {step : σ → κ → ι → ο × σ} (h : Separated looks step) {k : κ} {s s' : σ}
    (hlooks : looks k s s') (calls : List (κ × ι)) :
    ofKey k (answers step s calls) = alone step k s' (ofKey k calls) := by
  induction calls generalizing s s' with
  | nil => rfl
  | cons call calls ih =>
    obtain ⟨k', i⟩ := call
    by_cases hkey : k' = k
    · -- its own call is answered alike, and both runs go on
      subst hkey
      obtain ⟨hanswer, hnext⟩ := h.own i hlooks
      simp only [answers, ofKey_cons_self, alone, hanswer, ih hnext]
    · -- the call of another party is in one run only
      simp only [answers, ofKey_cons_ne hkey]
      exact ih (h.other i hkey hlooks)

/-! ## Native code -/

namespace NativeM

variable {ε α β : Type} {R : σ → σ → Prop}

/-- From related states the code ends alike, in related states. -/
def Respects (R : σ → σ → Prop) (m : NativeM ε σ α) : Prop :=
  ∀ s s', R s s' → (m.run s).1 = (m.run s').1 ∧ R (m.run s).2 (m.run s').2

/-- The code does not lead out of a relation to another state. -/
def Unnoticed (R : σ → σ → Prop) (m : NativeM ε σ α) : Prop :=
  ∀ s s', R s s' → R (m.run s).2 s'

theorem respects_pure (a : α) : Respects R (pure a : NativeM ε σ α) :=
  fun _ _ h => ⟨rfl, h⟩

theorem Respects.bind {m : NativeM ε σ α} {f : α → NativeM ε σ β} (hm : Respects R m)
    (hf : ∀ a, Respects R (f a)) : Respects R (m >>= f) := by
  intro s s' h
  obtain ⟨hresult, hstate⟩ := hm s s' h
  rw [run_bind, run_bind]
  rcases hrun : m.run s with ⟨r, t⟩
  rcases hrun' : m.run s' with ⟨r', t'⟩
  rw [hrun, hrun'] at hresult hstate
  -- both runs stop here, or both go on with the same value
  have hsame : r = r' := hresult
  subst hsame
  cases r with
  | ok a => exact hf a t t' hstate
  | error e => exact ⟨rfl, hstate⟩

theorem Respects.catching {body : NativeM ε σ α} {handlers : ε → Option (NativeM ε σ α)}
    (hbody : Respects R body) (hhandlers : ∀ e clause, handlers e = some clause →
      Respects R clause) :
    Respects R (NativeM.catching body handlers) := by
  intro s s' h
  obtain ⟨hresult, hstate⟩ := hbody s s' h
  rcases hrun : body.run s with ⟨r, t⟩
  rcases hrun' : body.run s' with ⟨r', t'⟩
  rw [hrun, hrun'] at hresult hstate
  have hsame : r = r' := hresult
  subst hsame
  match r, hrun, hrun' with
  | .ok a, hrun, hrun' =>
    rw [run_catching_ok hrun, run_catching_ok hrun']
    exact ⟨rfl, hstate⟩
  | .error .undefinedBehaviour, hrun, hrun' =>
    rw [run_catching_undefined hrun, run_catching_undefined hrun']
    exact ⟨rfl, hstate⟩
  | .error (.thrown e), hrun, hrun' =>
    cases hclause : handlers e with
    | none =>
      rw [run_catching_uncaught hrun hclause, run_catching_uncaught hrun' hclause]
      exact ⟨rfl, hstate⟩
    | some clause =>
      rw [run_catching_caught hrun hclause, run_catching_caught hrun' hclause]
      exact hhandlers e clause hclause t t' hstate

theorem unnoticed_pure (a : α) : Unnoticed R (pure a : NativeM ε σ α) := fun _ _ h => h

theorem Unnoticed.bind {m : NativeM ε σ α} {f : α → NativeM ε σ β} (hm : Unnoticed R m)
    (hf : ∀ a, Unnoticed R (f a)) : Unnoticed R (m >>= f) := by
  intro s s' h
  have hstate := hm s s' h
  rw [run_bind]
  rcases hrun : m.run s with ⟨r, t⟩
  rw [hrun] at hstate
  cases r with
  | ok a => exact hf a t s' hstate
  | error e => exact hstate

theorem Unnoticed.catching {body : NativeM ε σ α} {handlers : ε → Option (NativeM ε σ α)}
    (hbody : Unnoticed R body) (hhandlers : ∀ e clause, handlers e = some clause →
      Unnoticed R clause) :
    Unnoticed R (NativeM.catching body handlers) := by
  intro s s' h
  have hstate := hbody s s' h
  rcases hrun : body.run s with ⟨r, t⟩
  rw [hrun] at hstate
  match r, hrun with
  | .ok a, hrun => rwa [run_catching_ok hrun]
  | .error .undefinedBehaviour, hrun => rwa [run_catching_undefined hrun]
  | .error (.thrown e), hrun =>
    cases hclause : handlers e with
    | none => rwa [run_catching_uncaught hrun hclause]
    | some clause =>
      rw [run_catching_caught hrun hclause]
      exact hhandlers e clause hclause t s' hstate

/-! ### Two parts of one state -/

section Zoom

variable {τ : Type}

/-- The first parts are related and the second parts equal. -/
def FstAlike (R : σ → σ → Prop) (s s' : σ × τ) : Prop := R s.1 s'.1 ∧ s.2 = s'.2

/-- The first parts are related. -/
def OnFst (R : σ → σ → Prop) (s s' : σ × τ) : Prop := R s.1 s'.1

theorem Respects.onFst {m : NativeM ε σ α} (hm : Respects R m) :
    Respects (FstAlike R) (NativeM.onFst m : NativeM ε (σ × τ) α) :=
  fun s s' h => ⟨(hm s.1 s'.1 h.1).1, (hm s.1 s'.1 h.1).2, h.2⟩

theorem respects_onSnd (m : NativeM ε τ α) :
    Respects (FstAlike R) (NativeM.onSnd m : NativeM ε (σ × τ) α) := by
  intro s s' h
  refine ⟨congrArg (fun t => (m.run t).1) h.2, h.1, ?_⟩
  exact congrArg (fun t => (m.run t).2) h.2

theorem Unnoticed.onFst {m : NativeM ε σ α} (hm : Unnoticed R m) :
    Unnoticed (OnFst R) (NativeM.onFst m : NativeM ε (σ × τ) α) :=
  fun s s' h => hm s.1 s'.1 h

theorem unnoticed_onSnd (m : NativeM ε τ α) :
    Unnoticed (OnFst R) (NativeM.onSnd m : NativeM ε (σ × τ) α) := fun _ _ h => h

/-- One call of native code whose second part starts afresh each time. -/
def freshStep (t : τ) (method : κ → ι → NativeM ε (σ × τ) α) (s : σ) (k : κ) (i : ι) :
    (Except (Fault ε) α × τ) × σ :=
  ((((method k i).run (s, t)).1, ((method k i).run (s, t)).2.2), ((method k i).run (s, t)).2.1)

/-- Native code separates the parties when it respects what its own party sees, and the others
    do not notice it. -/
theorem separated_freshStep {looks : κ → σ → σ → Prop} {t : τ}
    {method : κ → ι → NativeM ε (σ × τ) α}
    (hown : ∀ k i, Respects (FstAlike (looks k)) (method k i))
    (hother : ∀ k k' i, k' ≠ k → Unnoticed (OnFst (looks k)) (method k' i)) :
    Separated looks (freshStep t method) where
  own := by
    intro k s s' i h
    obtain ⟨hresult, hstate, henv⟩ := hown k i (s, t) (s', t) ⟨h, rfl⟩
    exact ⟨Prod.ext hresult henv, hstate⟩
  other := fun i hkey h => hother _ _ i hkey (_, t) (_, t) h

end Zoom

end NativeM

end NunchukSdk.Foundation
