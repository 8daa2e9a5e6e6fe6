import Mathlib.Logic.Function.Basic
import NunchukSdk.Foundation.EventRun

/-!
# Two Operations on One Record

Two callers work on one stored record. Each makes an operation of one or two atomic calls: it
changes the record in one call, or it reads the record and then writes one that it has worked out
from what it read. Nothing is held between the two calls, so those of the other caller may fall
between them.

An operation has its `effect` when it runs alone. A run is **serial** when the record it leaves
is that of the two effects one after the other.

- `serial_iff_fresh`: a run is serial exactly when every write is `Fresh`: it writes what it
  would have written had it read the record just then. Asked of the operations is `ShowsTrace`:
  an effect that does not show after the other does not show before it either.
- `fresh_always_iff`: every run is, exactly when neither operation writes back a record that the
  other has changed (`Unseen`)
- `losesNoUpdate_iff`, `losesNoUpdate_always_iff`: the same for two given operations
-/

namespace NunchukSdk.Foundation

variable {σ : Type*}

/-! ## Operations -/

/-- An operation on a record. -/
inductive Operation (σ : Type*) where
  /-- One call that changes the record. -/
  | modify (f : σ → σ)
  /-- A call that reads the record, and one that writes what `decide` makes of it, if it makes
      anything of it. -/
  | readWrite (decide : σ → Option σ)

/-- How far an operation has got. -/
inductive Phase (σ : Type*) where
  | ready
  /-- It has read the record and is going to write. -/
  | holding (record : σ)
  | finished

/-- Who is going to write has not finished. -/
theorem Phase.ne_finished {phase : Phase σ} {record : σ} (h : phase = .holding record) :
    phase ≠ .finished := by
  rw [h]
  intro hfinished
  cases hfinished

namespace Operation

/-- What the operation makes of the record when it runs alone. -/
def effect : Operation σ → σ → σ
  | modify f, record => f record
  | readWrite decide, record => (decide record).getD record

/-- The next call of the operation. -/
def call (op : Operation σ) (record : σ) : Phase σ → σ × Phase σ
  | .ready =>
    match op with
    | modify f => (f record, .finished)
    | readWrite decide =>
      match decide record with
      | some _ => (record, .holding record)
      | none => (record, .finished)
  | .holding read => (op.effect read, .finished)
  | .finished => (record, .finished)

/-- A call that writes, if it does, what it would write for the present record, ends the operation
    with its effect or only reads. -/
theorem call_cases (op : Operation σ) (record : σ) {phase : Phase σ} (hphase : phase ≠ .finished)
    (hfresh : ∀ read, phase = .holding read → op.effect read = op.effect record) :
    op.call record phase = (op.effect record, .finished) ∨
      op.call record phase = (record, .holding record) := by
  cases phase with
  | ready =>
    cases op with
    | modify f => exact Or.inl rfl
    | readWrite decide =>
      cases hdecide : decide record with
      | none =>
        left
        simp only [call, effect, hdecide, Option.getD_none]
      | some x =>
        right
        simp only [call, hdecide]
  | holding read =>
    left
    rw [call, hfresh read rfl]
  | finished => exact absurd rfl hphase

/-- Started on the record, the operation is going to make a second call. -/
def Holds : Operation σ → σ → Prop
  | modify _, _ => False
  | readWrite decide, record => decide record ≠ none

theorem call_ready_of_holds {op : Operation σ} {record : σ} (h : op.Holds record) :
    op.call record .ready = (record, .holding record) := by
  cases op with
  | modify f => exact absurd h not_false
  | readWrite decide =>
    obtain ⟨x, hx⟩ := Option.ne_none_iff_exists'.mp h
    simp only [call, hx]

theorem call_ready_of_not_holds {op : Operation σ} {record : σ} (h : ¬ op.Holds record) :
    op.call record .ready = (op.effect record, .finished) := by
  cases op with
  | modify f => rfl
  | readWrite decide =>
    have hnone : decide record = none := not_not.mp h
    simp only [call, effect, hnone, Option.getD_none]

/-- What `q` leaves unchanged after `p`, it leaves unchanged before. -/
def ShowsTrace (p q : Operation σ) : Prop :=
  ∀ record, q.effect (p.effect record) = p.effect record →
    p.effect (q.effect record) = p.effect record

theorem showsTrace_of_commute {p q : Operation σ}
    (h : ∀ record, p.effect (q.effect record) = q.effect (p.effect record)) : ShowsTrace p q := by
  intro record hq
  rw [h, hq]

/-- Writing a given record shows after an operation that would do the same twice. -/
theorem showsTrace_overwrite {p : Operation σ}
    (h : ∀ record, p.effect (p.effect record) = p.effect record) (x : σ) :
    ShowsTrace p (modify fun _ => x) := by
  intro record hx
  have hsame : x = p.effect record := hx
  calc p.effect x = p.effect (p.effect record) := by rw [hsame]
    _ = p.effect record := h record

theorem overwrite_showsTrace (x : σ) (q : Operation σ) : ShowsTrace (modify fun _ => x) q :=
  fun _ _ => rfl

end Operation

/-! ## Two callers -/

inductive Side where
  | left | right
  deriving DecidableEq, Repr

def Side.other : Side → Side
  | left => right
  | right => left

theorem Side.other_ne (side : Side) : side.other ≠ side := by
  cases side <;> decide

@[simp] theorem Side.other_other (side : Side) : side.other.other = side := by
  cases side <;> rfl

theorem Side.eq_or_eq_other (side side' : Side) : side' = side ∨ side' = side.other := by
  cases side <;> cases side' <;> decide

/-- The operations of the left and of the right caller. -/
def pair (p q : Operation σ) : Side → Operation σ
  | .left => p
  | .right => q

/-- The stored record and how far each operation has got. -/
structure Shared (σ : Type*) where
  record : σ
  phase : Side → Phase σ

/-- A stored record before either operation. -/
def Shared.start (record : σ) : Shared σ := ⟨record, fun _ => .ready⟩

/-- The next call of one caller. -/
def advance (ops : Side → Operation σ) (s : Shared σ) (side : Side) : Shared σ where
  record := ((ops side).call s.record (s.phase side)).1
  phase := Function.update s.phase side ((ops side).call s.record (s.phase side)).2

/-- A call that gives `next` changes the record and the caller's own phase. -/
theorem advance_call {ops : Side → Operation σ} {s : Shared σ} {side : Side}
    {next : σ × Phase σ} (h : (ops side).call s.record (s.phase side) = next) :
    (advance ops s side).record = next.1 ∧ (advance ops s side).phase side = next.2 ∧
      (advance ops s side).phase side.other = s.phase side.other := by
  subst h
  refine ⟨rfl, ?_, ?_⟩
  · exact Function.update_self side _ s.phase
  · exact Function.update_of_ne side.other_ne _ s.phase

/-- The record is that of the two effects in some order. -/
def Serial (ops : Side → Operation σ) (stored record : σ) : Prop :=
  ∃ side, record = (ops side).effect ((ops side.other).effect stored)

/-- Once both operations have finished, the record is that of some order of them. -/
def Shared.Consistent (ops : Side → Operation σ) (stored : σ) (s : Shared σ) : Prop :=
  (∀ side, s.phase side = .finished) → Serial ops stored s.record

/-- If the caller is going to write, it writes what it would write for the present record: what
    it has read differs from it at most in what the write replaces. -/
def Fresh (ops : Side → Operation σ) (s : Shared σ) (side : Side) : Prop :=
  ∀ read, s.phase side = .holding read →
    (ops side).effect read = (ops side).effect s.record

/-! ## Runs with fresh writes -/

/-- What is known of a state that was reached with fresh writes. -/
structure Explained (ops : Side → Operation σ) (stored : σ) (s : Shared σ) : Prop where
  none_finished : (∀ side, s.phase side ≠ .finished) → s.record = stored
  one_finished : ∀ side, s.phase side = .finished → s.phase side.other ≠ .finished →
    s.record = (ops side).effect stored
  both_finished : s.Consistent ops stored
  held : ∀ side read, s.phase side = .holding read → read = stored ∨ read = s.record

variable {ops : Side → Operation σ} {stored : σ} {s : Shared σ}

theorem explained_start (ops : Side → Operation σ) (stored : σ) :
    Explained ops stored (.start stored) where
  none_finished := fun _ => rfl
  one_finished := fun _ h => by cases h
  both_finished := fun h => by cases h .left
  held := fun _ _ h => by cases h

/-- With neither operation finished, the record is the one that was stored. -/
theorem Explained.record_eq (h : Explained ops stored s) {side : Side}
    (hside : s.phase side ≠ .finished) (hother : s.phase side.other ≠ .finished) :
    s.record = stored := by
  apply h.none_finished
  intro side'
  rcases Side.eq_or_eq_other side side' with rfl | rfl
  · exact hside
  · exact hother

/-- An operation ends with its effect. -/
theorem Explained.ended (h : Explained ops stored s) {side : Side}
    (hside : s.phase side ≠ .finished) {t : Shared σ}
    (hrecord : t.record = (ops side).effect s.record) (hself : t.phase side = .finished)
    (hkept : t.phase side.other = s.phase side.other) : Explained ops stored t := by
  constructor
  · intro hnone
    exact absurd hself (hnone side)
  · intro side' hside' hother'
    rcases Side.eq_or_eq_other side side' with rfl | rfl
    · -- the other one has not ended, so this one wrote the stored record
      rw [hkept] at hother'
      rw [hrecord, h.record_eq hside hother']
    · rw [Side.other_other] at hother'
      exact absurd hself hother'
  · intro hboth
    have hother : s.phase side.other = .finished := by
      rw [← hkept]
      exact hboth side.other
    refine ⟨side, ?_⟩
    rw [hrecord, h.one_finished side.other hother (by rwa [Side.other_other])]
  · intro side' read hread
    rcases Side.eq_or_eq_other side side' with rfl | rfl
    · rw [hself] at hread
      cases hread
    · -- what the other holds it has read before this operation ended
      rw [hkept] at hread
      have hstored := h.record_eq hside (Phase.ne_finished hread)
      rcases h.held side.other read hread with hold | hnow
      · exact Or.inl hold
      · exact Or.inl (hnow.trans hstored)

/-- An operation reads. -/
theorem Explained.read (h : Explained ops stored s) {side : Side}
    (hside : s.phase side ≠ .finished) {t : Shared σ} (hrecord : t.record = s.record)
    (hself : t.phase side = .holding s.record)
    (hkept : t.phase side.other = s.phase side.other) : Explained ops stored t := by
  -- the read finishes nothing
  have hfinished : ∀ side', t.phase side' = .finished ↔ s.phase side' = .finished := by
    intro side'
    rcases Side.eq_or_eq_other side side' with rfl | rfl
    · rw [hself]
      exact iff_of_false (Phase.ne_finished rfl) hside
    · rw [hkept]
  constructor
  · intro hnone
    rw [hrecord]
    exact h.none_finished fun side' => (not_congr (hfinished side')).mp (hnone side')
  · intro side' hside' hother'
    rw [hrecord]
    exact h.one_finished side' ((hfinished side').mp hside')
      ((not_congr (hfinished side'.other)).mp hother')
  · intro hboth
    rw [hrecord]
    exact h.both_finished fun side' => (hfinished side').mp (hboth side')
  · intro side' read hread
    rw [hrecord]
    rcases Side.eq_or_eq_other side side' with rfl | rfl
    · rw [hself, Phase.holding.injEq] at hread
      exact Or.inr hread.symm
    · rw [hkept] at hread
      exact h.held side.other read hread

/-- Fresh writes keep states explained. -/
theorem Explained.next (h : Explained ops stored s) {side : Side} (hfresh : Fresh ops s side) :
    Explained ops stored (advance ops s side) := by
  by_cases hside : s.phase side = .finished
  · have hsame : advance ops s side = s := by
      simp only [advance, hside, Operation.call]
      rw [← hside, Function.update_eq_self]
    rwa [hsame]
  · rcases Operation.call_cases (ops side) s.record hside hfresh with hcall | hcall
    · obtain ⟨hrecord, hself, hkept⟩ := advance_call hcall
      exact h.ended hside hrecord hself hkept
    · obtain ⟨hrecord, hself, hkept⟩ := advance_call hcall
      exact h.read hside hrecord hself hkept

/-- A write that is not fresh leaves a record of no order. -/
theorem Explained.consistent_iff (h : Explained ops stored s) {side : Side}
    (htrace : (ops side).ShowsTrace (ops side.other)) :
    (advance ops s side).Consistent ops stored ↔ Fresh ops s side := by
  constructor
  · intro hconsistent read hread
    have hside := Phase.ne_finished hread
    by_cases hother : s.phase side.other = .finished
    · rcases h.held side read hread with rfl | rfl
      · -- the other operation came in between, so this write is the last call of the run
        have hcall : (ops side).call s.record (s.phase side) =
            ((ops side).effect read, .finished) := by
          rw [hread, Operation.call]
        obtain ⟨hrecord, hself, hkept⟩ := advance_call hcall
        have hserial : Serial ops read ((ops side).effect read) := by
          rw [Shared.Consistent, hrecord] at hconsistent
          apply hconsistent
          intro side'
          rcases Side.eq_or_eq_other side side' with rfl | rfl
          · exact hself
          · rw [hkept, hother]
        rw [h.one_finished side.other hother (by rwa [Side.other_other])]
        obtain ⟨side', hside'⟩ := hserial
        rcases Side.eq_or_eq_other side side' with rfl | rfl
        · exact hside'
        · rw [Side.other_other] at hside'
          exact (htrace read hside'.symm).symm
      · rfl
    · -- nothing has been written yet
      have hstored := h.record_eq hside hother
      rcases h.held side read hread with rfl | rfl
      · rw [hstored]
      · rfl
  · intro hfresh
    exact (h.next hfresh).both_finished

/-- **No update is lost exactly when every write is fresh.** -/
theorem serial_iff_fresh (htrace : ∀ side, (ops side).ShowsTrace (ops side.other)) (stored : σ)
    (calls : List Side) :
    (∀ t ∈ states (advance ops) (.start stored) calls, t.Consistent ops stored) ↔
      Along (advance ops) (Fresh ops) (.start stored) calls := by
  rw [forall_states_iff]
  have hiff : Along (advance ops) (fun s side => (advance ops s side).Consistent ops stored)
      (.start stored) calls ↔ Along (advance ops) (Fresh ops) (.start stored) calls := by
    apply along_iff_of_inv (I := Explained ops stored) (V := fun _ _ => True)
    · exact fun s side h _ => h.consistent_iff (htrace side)
    · exact fun s side h _ hfresh => h.next hfresh
    · exact explained_start ops stored
    · exact along_true _ _ _
  rw [hiff]
  exact and_iff_right (explained_start ops stored).both_finished

/-! ## Which records are safe -/

/-- The operation does not write back a record that the other has changed. -/
def Operation.Unseen (p q : Operation σ) (stored : σ) : Prop :=
  p.Holds stored → p.effect stored = p.effect (q.effect stored)

/-- One call holds nothing. -/
theorem Operation.unseen_modify (f : σ → σ) (q : Operation σ) (stored : σ) :
    (Operation.modify f).Unseen q stored :=
  False.elim

theorem Operation.unseen_iff_of_holds {p : Operation σ} {stored : σ} (h : p.Holds stored)
    (q : Operation σ) :
    p.Unseen q stored ↔ p.effect stored = p.effect (q.effect stored) :=
  forall_prop_of_true h

/-- An operation that has not started runs to its end in two calls, the second of which may find
    it finished. -/
theorem advance_twice (ops : Side → Operation σ) {s : Shared σ} {side : Side}
    (h : s.phase side = .ready) :
    (advance ops (advance ops s side) side).record = (ops side).effect s.record ∧
      (advance ops (advance ops s side) side).phase side.other = s.phase side.other := by
  by_cases hholds : (ops side).Holds s.record
  · -- read, then write what was read
    have hfirst : (ops side).call s.record (s.phase side) = (s.record, .holding s.record) := by
      rw [h, Operation.call_ready_of_holds hholds]
    obtain ⟨-, hself, hkept⟩ := advance_call hfirst
    have hsecond : (ops side).call (advance ops s side).record ((advance ops s side).phase side) =
        ((ops side).effect s.record, .finished) := by
      rw [hself, Operation.call]
    obtain ⟨hrecord, -, hkept'⟩ := advance_call hsecond
    exact ⟨hrecord, hkept'.trans hkept⟩
  · -- done at once; the second call finds it finished
    have hfirst : (ops side).call s.record (s.phase side) =
        ((ops side).effect s.record, .finished) := by
      rw [h, Operation.call_ready_of_not_holds hholds]
    obtain ⟨hrecord, hself, hkept⟩ := advance_call hfirst
    have hsecond : (ops side).call (advance ops s side).record ((advance ops s side).phase side) =
        ((ops side).effect s.record, .finished) := by
      rw [hself, hrecord, Operation.call]
    obtain ⟨hrecord', -, hkept'⟩ := advance_call hsecond
    exact ⟨hrecord', hkept'.trans hkept⟩

/-- With the other operation between the two calls of one, the write is fresh only if it was not
    seen. -/
theorem unseen_of_fresh {side : Side}
    (h : Along (advance ops) (Fresh ops) (.start stored) [side, side.other, side.other, side]) :
    (ops side).Unseen (ops side.other) stored := by
  intro hholds
  obtain ⟨-, -, -, hfresh, -⟩ := h
  have hcall : (ops side).call (Shared.start stored).record ((Shared.start stored).phase side) =
      (stored, .holding stored) := Operation.call_ready_of_holds hholds
  obtain ⟨hrecord, hself, hkept⟩ := advance_call hcall
  obtain ⟨hother, hheld⟩ := advance_twice ops (s := advance ops (.start stored) side) hkept
  rw [Side.other_other, hself] at hheld
  rw [hfresh stored hheld, hother, hrecord]

/-- What an operation holds is a record that it is going to write back. -/
def HeldToWrite (ops : Side → Operation σ) (s : Shared σ) : Prop :=
  ∀ side read, s.phase side = .holding read → (ops side).Holds read

theorem HeldToWrite.next (h : HeldToWrite ops s) (side : Side) :
    HeldToWrite ops (advance ops s side) := by
  intro side' read hread
  obtain ⟨-, hself, hkept⟩ := advance_call (rfl : (ops side).call s.record (s.phase side) = _)
  rcases Side.eq_or_eq_other side side' with rfl | rfl
  · -- the side that called: only a read leaves it holding a record
    rw [hself] at hread
    cases hphase : s.phase side' with
    | ready =>
      rw [hphase] at hread
      by_cases hholds : (ops side').Holds s.record
      · rw [Operation.call_ready_of_holds hholds, Phase.holding.injEq] at hread
        rwa [← hread]
      · rw [Operation.call_ready_of_not_holds hholds] at hread
        cases hread
    | holding read' =>
      rw [hphase, Operation.call] at hread
      cases hread
    | finished =>
      rw [hphase, Operation.call] at hread
      cases hread
  · -- the other side is where it was
    rw [hkept] at hread
    exact h side.other read hread

/-- A change that is not seen leaves every write fresh. -/
theorem Explained.fresh_of_unseen (h : Explained ops stored s) (hheld : HeldToWrite ops s)
    {side : Side} (hunseen : (ops side).Unseen (ops side.other) stored) : Fresh ops s side := by
  intro read hread
  have hside := Phase.ne_finished hread
  rcases h.held side read hread with rfl | rfl
  · by_cases hother : s.phase side.other = .finished
    · have hback : side.other.other = side := by cases side <;> rfl
      rw [h.one_finished side.other hother (by rwa [Side.other_other])]
      exact hunseen (hheld side read hread)
    · rw [h.record_eq hside hother]
  · rfl

/-- Every run of two operations is fresh exactly when neither sees the other. -/
theorem fresh_always_iff (ops : Side → Operation σ) (stored : σ) :
    (∀ calls, Along (advance ops) (Fresh ops) (.start stored) calls) ↔
      ∀ side, (ops side).Unseen (ops side.other) stored := by
  constructor
  · intro h side
    exact unseen_of_fresh (h _)
  · intro hunseen calls
    have hheld : HeldToWrite ops (.start stored) := fun _ _ hread => by cases hread
    rw [along_iff_of_inv (V := fun _ _ => True) (Q := fun _ _ => True)
      (I := fun s => Explained ops stored s ∧ HeldToWrite ops s)
      (fun s side h _ => iff_of_true (h.1.fresh_of_unseen h.2 (hunseen side)) trivial)
      (fun s side h _ _ =>
        ⟨h.1.next (h.1.fresh_of_unseen h.2 (hunseen side)), h.2.next side⟩)
      ⟨explained_start ops stored, hheld⟩ (along_true _ _ _)]
    exact along_true _ _ _

/-! ## Two given operations -/

/-- In every state of the run, both operations count once they have finished. -/
def LosesNoUpdate (p q : Operation σ) (stored : σ) (calls : List Side) : Prop :=
  ∀ t ∈ states (advance (pair p q)) (.start stored) calls, t.Consistent (pair p q) stored

/-- Whenever the record is written back in the run, what was read and what is stored differ at
    most in what the write replaces. -/
def WritesFresh (p q : Operation σ) (stored : σ) (calls : List Side) : Prop :=
  Along (advance (pair p q)) (Fresh (pair p q)) (.start stored) calls

theorem losesNoUpdate_iff {p q : Operation σ} (hp : p.ShowsTrace q) (hq : q.ShowsTrace p)
    (stored : σ) (calls : List Side) :
    LosesNoUpdate p q stored calls ↔ WritesFresh p q stored calls := by
  apply serial_iff_fresh
  intro side
  cases side with
  | left => exact hp
  | right => exact hq

/-- Whatever the schedule, no update is lost exactly when neither operation sees the other. -/
theorem losesNoUpdate_always_iff {p q : Operation σ} (hp : p.ShowsTrace q) (hq : q.ShowsTrace p)
    (stored : σ) :
    (∀ calls, LosesNoUpdate p q stored calls) ↔ p.Unseen q stored ∧ q.Unseen p stored := by
  simp only [losesNoUpdate_iff hp hq, WritesFresh, fresh_always_iff]
  constructor
  · intro h
    exact ⟨h .left, h .right⟩
  · intro h side
    cases side with
    | left => exact h.1
    | right => exact h.2

end NunchukSdk.Foundation
