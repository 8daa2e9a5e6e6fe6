import Mathlib.Data.List.Basic

/-!
# Event Runs: Conditions Along a Run

A deterministic system is a step function `σ → ε → σ`. For a list of events, `states` lists
every state the run visits, and `Along P` says that `P` holds at each step, of the state
before the step and the event taken.

The induction over a run is done once here. Its main form is an **equivalence**: when an
invariant makes `P` and `Q` agree at a step, and `Q` keeps the invariant, then `P` holds along
the run exactly when `Q` does (`along_iff_of_inv`). A run may first break `P` and then lose the
invariant; both sides are false from that point on.
-/

namespace NunchukSdk.Foundation

variable {σ τ ε : Type*}

/-! ## Runs -/

/-- The state after a list of events. -/
def runFrom (step : σ → ε → σ) : σ → List ε → σ :=
  List.foldl step

/-- Every state of a run: the first one and the one after each event. -/
def states (step : σ → ε → σ) : σ → List ε → List σ
  | s, [] => [s]
  | s, e :: es => s :: states step (step s e) es

/-- `P` holds at every step of the run. -/
def Along (step : σ → ε → σ) (P : σ → ε → Prop) : σ → List ε → Prop
  | _, [] => True
  | s, e :: es => P s e ∧ Along step P (step s e) es

@[simp] theorem along_nil (step : σ → ε → σ) (P : σ → ε → Prop) (s : σ) :
    Along step P s [] := trivial

@[simp] theorem along_cons (step : σ → ε → σ) (P : σ → ε → Prop) (s : σ) (e : ε)
    (es : List ε) :
    Along step P s (e :: es) ↔ P s e ∧ Along step P (step s e) es := Iff.rfl

instance decidableAlong (step : σ → ε → σ) (P : σ → ε → Prop) [∀ s e, Decidable (P s e)] :
    ∀ s es, Decidable (Along step P s es)
  | _, [] => .isTrue trivial
  | s, e :: es =>
    haveI := decidableAlong step P (step s e) es
    inferInstanceAs (Decidable (P s e ∧ Along step P (step s e) es))

@[simp] theorem mem_states_nil (step : σ → ε → σ) (s t : σ) :
    t ∈ states step s [] ↔ t = s := by
  simp [states]

theorem mem_states_cons (step : σ → ε → σ) (s t : σ) (e : ε) (es : List ε) :
    t ∈ states step s (e :: es) ↔ t = s ∨ t ∈ states step (step s e) es := by
  simp [states]

/-- The last state of a run is one of its states. -/
theorem runFrom_mem_states (step : σ → ε → σ) (s : σ) (es : List ε) :
    runFrom step s es ∈ states step s es := by
  induction es generalizing s with
  | nil => simp [runFrom]
  | cons e es ih =>
    -- a longer run ends where its tail ends
    rw [mem_states_cons]
    exact Or.inr (ih (step s e))

/-- The states of a run are the ends of its first parts. -/
theorem mem_states_iff_prefix {step : σ → ε → σ} {s t : σ} {es : List ε} :
    t ∈ states step s es ↔ ∃ front, front <+: es ∧ t = runFrom step s front := by
  induction es generalizing s with
  | nil =>
    rw [mem_states_nil]
    constructor
    · rintro rfl
      exact ⟨[], List.prefix_refl [], rfl⟩
    · rintro ⟨front, hfront, rfl⟩
      rw [List.prefix_nil.mp hfront]
      rfl
  | cons e es ih =>
    rw [mem_states_cons, ih]
    constructor
    · rintro (rfl | ⟨front, hfront, rfl⟩)
      · exact ⟨[], List.nil_prefix, rfl⟩
      · exact ⟨e :: front, List.prefix_cons_inj e |>.mpr hfront, rfl⟩
    · rintro ⟨front, hfront, rfl⟩
      cases front with
      | nil => exact Or.inl rfl
      | cons e' front =>
        obtain ⟨rfl, hrest⟩ := List.cons_prefix_cons.mp hfront
        exact Or.inr ⟨front, hrest, rfl⟩

/-! ## Induction over a run -/

/-- Two systems driven by the same events and kept in a relation: when the relation makes `P`
    and `Q` agree at a step, and a step that satisfies `Q` keeps the relation, the two
    conditions agree along whole runs. `V` is what is known of every step of the run. -/
theorem along_iff_of_rel {step : σ → ε → σ} {step' : τ → ε → τ}
    {V P : σ → ε → Prop} {Q : τ → ε → Prop} {R : σ → τ → Prop}
    (hiff : ∀ s t e, R s t → V s e → (P s e ↔ Q t e))
    (hkeep : ∀ s t e, R s t → V s e → Q t e → R (step s e) (step' t e))
    {s : σ} {t : τ} {es : List ε} (hR : R s t) (hV : Along step V s es) :
    Along step P s es ↔ Along step' Q t es := by
  induction es generalizing s t with
  | nil => simp
  | cons e es ih =>
    -- from a step that breaks `Q` on, both sides are false and the relation is no longer needed
    obtain ⟨hVe, hVes⟩ := hV
    rw [along_cons, along_cons, hiff s t e hR hVe]
    exact and_congr_right fun hQ => ih (hkeep s t e hR hVe hQ) hVes

/-- Two systems that each step keeps in a relation, are in it after every run. -/
theorem runFrom_rel {step : σ → ε → σ} {step' : τ → ε → τ} {V : σ → ε → Prop}
    {R : σ → τ → Prop} (hkeep : ∀ s t e, R s t → V s e → R (step s e) (step' t e))
    {s : σ} {t : τ} {es : List ε} (hR : R s t) (hV : Along step V s es) :
    R (runFrom step s es) (runFrom step' t es) := by
  induction es generalizing s t with
  | nil => exact hR
  | cons e es ih => exact ih (hkeep s t e hR hV.1) hV.2

/-- One system and an invariant: `P` and `Q` agree along every run that starts in it. -/
theorem along_iff_of_inv {step : σ → ε → σ} {V P Q : σ → ε → Prop} {I : σ → Prop}
    (hiff : ∀ s e, I s → V s e → (P s e ↔ Q s e))
    (hkeep : ∀ s e, I s → V s e → Q s e → I (step s e))
    {s : σ} {es : List ε} (hs : I s) (hV : Along step V s es) :
    Along step P s es ↔ Along step Q s es :=
  -- the system against itself: related means equal, and in the invariant
  along_iff_of_rel (R := fun s t => s = t ∧ I s)
    (fun s _ e h hv => h.1 ▸ hiff s e h.2 hv)
    (fun s _ e h hv hq => ⟨by rw [h.1], hkeep s e h.2 hv (h.1 ▸ hq)⟩) ⟨rfl, hs⟩ hV

/-- A condition that asks nothing holds along every run. -/
theorem along_true (step : σ → ε → σ) (s : σ) (es : List ε) :
    Along step (fun _ _ => True) s es := by
  induction es generalizing s with
  | nil => simp
  | cons e es ih => exact ⟨trivial, ih (step s e)⟩

/-- A condition on the events alone holds along a run exactly when every event satisfies it. -/
theorem along_const_iff (step : σ → ε → σ) (P : ε → Prop) (s : σ) (es : List ε) :
    Along step (fun _ e => P e) s es ↔ ∀ e ∈ es, P e := by
  induction es generalizing s with
  | nil => simp
  | cons e es ih => rw [along_cons, ih (step s e), List.forall_mem_cons]

/-- An invariant of the steps of a run holds in all its states. -/
theorem forall_states_of_inv {step : σ → ε → σ} {V : σ → ε → Prop} {I : σ → Prop}
    (hkeep : ∀ s e, I s → V s e → I (step s e)) {s : σ} {es : List ε} (hs : I s)
    (hV : Along step V s es) : ∀ t ∈ states step s es, I t := by
  induction es generalizing s with
  | nil =>
    intro t ht
    rwa [(mem_states_nil step s t).mp ht]
  | cons e es ih =>
    intro t ht
    rcases (mem_states_cons step s t e es).mp ht with rfl | hlater
    · exact hs
    · exact ih (hkeep s e hs hV.1) hV.2 t hlater

theorem runFrom_append (step : σ → ε → σ) (s : σ) (es es' : List ε) :
    runFrom step s (es ++ es') = runFrom step (runFrom step s es) es' :=
  List.foldl_append

/-- A predicate holds in every state of a run exactly when it holds in the first state and
    after every step. -/
theorem forall_states_iff (step : σ → ε → σ) (P : σ → Prop) (s : σ) (es : List ε) :
    (∀ t ∈ states step s es, P t) ↔ P s ∧ Along step (fun s e => P (step s e)) s es := by
  induction es generalizing s with
  | nil => simp
  | cons e es ih =>
    simp only [mem_states_cons, forall_eq_or_imp, along_cons, ih (step s e)]

/-! ## One system seen through another -/

section Image

variable {ε' : Type*} {step : σ → ε → σ} {step' : τ → ε' → τ} {f : σ → τ} {g : ε → ε'}

/-- When every step commutes with a projection, so do runs. -/
theorem states_image (h : ∀ s e, f (step s e) = step' (f s) (g e)) (s : σ) (es : List ε) :
    states step' (f s) (es.map g) = (states step s es).map f := by
  induction es generalizing s with
  | nil => rfl
  | cons e es ih =>
    rw [List.map_cons, states, states, List.map_cons, ← h, ih]

/-- So does a condition on the steps. -/
theorem along_image (h : ∀ s e, f (step s e) = step' (f s) (g e)) (P : τ → ε' → Prop) (s : σ)
    (es : List ε) :
    Along step (fun s e => P (f s) (g e)) s es ↔ Along step' P (f s) (es.map g) := by
  induction es generalizing s with
  | nil => rfl
  | cons e es ih =>
    rw [List.map_cons, along_cons, along_cons, ← h, ih]

end Image

end NunchukSdk.Foundation
