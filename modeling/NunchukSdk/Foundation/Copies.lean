import Mathlib.Data.Finset.Lattice.Fold
import NunchukSdk.Foundation.EventRun

/-!
# A Record and Its Copies

Several parties contribute to one record. A party is given a copy of it and adds its own part; at
some later time the copy is merged into the record. In between, other parties are given copies and
have theirs merged, so a copy may be out of date when it comes back.

What a record contains is an element of a semilattice, and merging joins. Then nothing is lost: the
record is the first one with the parts of the parties whose copies were merged, in whatever order
they were handed out and collected.

- `CopyStep`, `Sharing`: what a step of a system does to the record and to the copies
- `Current`: the invariant of the copies
- `value_runFrom`: the record after a run
-/

namespace NunchukSdk.Foundation

variable {σ ε ι L : Type*} [SemilatticeSup L]

/-! ## Copies -/

/-- Each copy has the part of its party, and nothing else that the record does not have. -/
def Current (value : σ → L) (copy : σ → ι → Option L) (own : ι → L) (s : σ) : Prop :=
  ∀ i c, copy s i = some c → own i ≤ c ∧ c ≤ value s ⊔ own i

variable {value : σ → L} {copy : σ → ι → Option L} {own : ι → L}

theorem current_of_none {s : σ} (h : ∀ i, copy s i = none) : Current value copy own s := by
  intro i c hc
  rw [h i] at hc
  cases hc

/-- A copy that is out of date brings no more than the part of its party. -/
theorem Current.sup_eq {s : σ} (h : Current value copy own s) {i : ι} {c : L}
    (hc : copy s i = some c) : value s ⊔ c = value s ⊔ own i := by
  obtain ⟨hown, hle⟩ := h i c hc
  apply le_antisymm
  · exact sup_le le_sup_left hle
  · exact sup_le_sup_left hown (value s)

/-- When the record grows, old copies stay as good as they were. -/
theorem Current.of_le {s s' : σ} (h : Current value copy own s) (hcopy : copy s' = copy s)
    (hvalue : value s ≤ value s') : Current value copy own s' := by
  intro i c hc
  rw [hcopy] at hc
  obtain ⟨hown, hle⟩ := h i c hc
  exact ⟨hown, hle.trans (sup_le_sup_right hvalue (own i))⟩

/-! ## Steps and runs -/

/-- What a step does: nothing to the record or the copies, a copy for a party, or a merge of the
    copy of a party. -/
inductive CopyStep (ι : Type*) where
  | idle
  | take (i : ι)
  | merge (i : ι)

/-- The parties whose copies were merged, in order. -/
def mergedBy (step : σ → ε → σ) (kind : σ → ε → CopyStep ι) : σ → List ε → List ι
  | _, [] => []
  | s, e :: es =>
    match kind s e with
    | .merge i => i :: mergedBy step kind (step s e) es
    | _ => mergedBy step kind (step s e) es

variable {step : σ → ε → σ} {kind : σ → ε → CopyStep ι}

/-- Systems in step with each other merge the same copies. -/
theorem mergedBy_eq_of_rel {τ : Type*} {step' : τ → ε → τ} {kind' : τ → ε → CopyStep ι}
    {R : σ → τ → Prop} (hkind : ∀ s t e, R s t → kind s e = kind' t e)
    (hstep : ∀ s t e, R s t → R (step s e) (step' t e)) {s : σ} {t : τ} (h : R s t)
    (es : List ε) : mergedBy step kind s es = mergedBy step' kind' t es := by
  induction es generalizing s t with
  | nil => rfl
  | cons e es ih => rw [mergedBy, mergedBy, hkind s t e h, ih (hstep s t e h)]

variable [DecidableEq ι]

/-- What a step of this kind makes of the record, `value`, and of the copies, to which each party
    adds its part `own`. -/
def CopyStep.Describes (value : σ → L) (copy : σ → ι → Option L) (own : ι → L) (s s' : σ) :
    CopyStep ι → Prop
  | .idle => value s' = value s ∧ copy s' = copy s
  | .take i =>
    value s' = value s ∧ copy s' = Function.update (copy s) i (some (value s ⊔ own i))
  | .merge i => ∃ c, copy s i = some c ∧ value s' = value s ⊔ c ∧ copy s' = copy s

/-- A system with a record and copies of it. -/
def Sharing (step : σ → ε → σ) (value : σ → L) (copy : σ → ι → Option L) (own : ι → L)
    (kind : σ → ε → CopyStep ι) : Prop :=
  ∀ s e, (kind s e).Describes value copy own s (step s e)

theorem Sharing.current_step (h : Sharing step value copy own kind) {s : σ}
    (hs : Current value copy own s) (e : ε) : Current value copy own (step s e) := by
  have hstep := h s e
  cases hkind : kind s e with
  | idle =>
    rw [hkind] at hstep
    obtain ⟨hvalue, hcopy⟩ := hstep
    exact hs.of_le hcopy hvalue.ge
  | take i =>
    rw [hkind] at hstep
    obtain ⟨hvalue, hcopy⟩ := hstep
    intro j c hc
    rw [hcopy] at hc
    by_cases hj : j = i
    · subst hj
      rw [Function.update_self] at hc
      rw [← Option.some.inj hc, hvalue]
      exact ⟨le_sup_right, le_rfl⟩
    · rw [Function.update_of_ne hj] at hc
      rw [hvalue]
      exact hs j c hc
  | merge i =>
    rw [hkind] at hstep
    obtain ⟨c, -, hvalue, hcopy⟩ := hstep
    apply hs.of_le hcopy
    rw [hvalue]
    exact le_sup_left

variable [OrderBot L]

/-- **The record after a run.** It is the first one with the parts of the parties whose copies were
    merged: each of them counts, and no other. -/
theorem Sharing.value_runFrom (h : Sharing step value copy own kind) {s : σ}
    (hs : Current value copy own s) (es : List ε) :
    value (runFrom step s es) = value s ⊔ (mergedBy step kind s es).toFinset.sup own := by
  induction es generalizing s with
  | nil =>
    show value s = value s ⊔ (∅ : Finset ι).sup own
    rw [Finset.sup_empty, sup_bot_eq]
  | cons e es ih =>
    show value (runFrom step (step s e) es) = _
    rw [ih (h.current_step hs e), mergedBy]
    have hstep := h s e
    cases hkind : kind s e with
    | idle =>
      rw [hkind] at hstep
      rw [hstep.1]
    | take i =>
      rw [hkind] at hstep
      rw [hstep.1]
    | merge i =>
      rw [hkind] at hstep
      obtain ⟨c, hc, hvalue, -⟩ := hstep
      -- the copy may be old; what it adds is the part of its party
      rw [hvalue, hs.sup_eq hc, List.toFinset_cons, Finset.sup_insert, sup_assoc]

end NunchukSdk.Foundation
