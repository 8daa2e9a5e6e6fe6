import NunchukSdk.Foundation.EventRun

/-!
# Guards of a Thread's Environment

A native callback needs a `JNIEnv`, which only a thread attached to the VM has. `JNIEnvGuard` asks
for it with `GetEnv`, attaches the thread when it is detached, and detaches it again in its
destructor when it was the one that attached it. Callbacks may call into Java and be called again
from there, so that guards nest on one thread.

## Model

- A `JNIEnv *` is the number of the attachment that it belongs to, and is valid as long as that
  attachment lasts. Attachments are numbered in the order in which they are made.
- `GetEnv` reports `JNI_EDETACHED` exactly on a detached thread; on an attached one it may fail in
  another way, and `AttachCurrentThread` may fail as well.
- Guards are automatic variables: the one that ends is the last one that began.
- Beside each live guard stands the thread that its constructor found, which no code reads.

## Results

- `Nested`: what the guards on the stack say of the thread below each of them, kept by every step
- `guards_restore_thread`: no run of guards leaves a thread attached or detached that was not, and
  no guard that tests true loses its environment
-/

namespace NunchukSdk

open Foundation

/-! ## Threads -/

/-- A thread as the VM knows it. -/
structure VmThread where
  /-- How many attachments it has had. -/
  attachments : Nat
  /-- The attachment it has now. -/
  env : Option Nat
  older : ∀ e, env = some e → e < attachments

namespace VmThread

/-- The thread is attached. -/
def Attached (thread : VmThread) : Prop := thread.env ≠ none

/-- The thread with a new attachment. -/
def attach (thread : VmThread) : VmThread where
  attachments := thread.attachments + 1
  env := some thread.attachments
  older := by
    intro e he
    rw [← Option.some.inj he]
    exact Nat.lt_succ_self _

/-- `DetachCurrentThread`. -/
def detach (thread : VmThread) : VmThread where
  attachments := thread.attachments
  env := none
  older := by
    intro e he
    cases he

@[simp] theorem env_attach (thread : VmThread) : thread.attach.env = some thread.attachments := rfl

@[simp] theorem env_detach (thread : VmThread) : thread.detach.env = none := rfl

end VmThread

/-- A thread that the VM does not know. -/
def libraryThread : VmThread := ⟨0, none, fun _ h => nomatch h⟩

/-- A thread that has been attached once, as those are on which Java calls native methods. -/
def javaThread : VmThread := libraryThread.attach

/-- What `GetEnv` returns. -/
inductive GetEnvState where
  | JNI_OK
  | JNI_EDETACHED
  /-- Any other state, such as `JNI_EVERSION`. -/
  | other (state : Int)
  deriving DecidableEq, Repr

/-- How the VM answers the constructor of a guard. -/
structure VmAnswers where
  /-- The failure of `GetEnv` on an attached thread, if it fails. -/
  getEnvFailure : Option Int
  /-- What `AttachCurrentThread` returns, 0 for success. -/
  attachResult : Int
  deriving DecidableEq, Repr

/-- `GetEnv`: its state and the environment it writes. -/
def getEnv (vm : VmAnswers) (thread : VmThread) : GetEnvState × Option Nat :=
  match thread.env, vm.getEnvFailure with
  | none, _ => (.JNI_EDETACHED, none)
  | some env, none => (.JNI_OK, some env)
  | some _, some state => (.other state, none)

/-! ## Guards -/

/-- `JNIEnvGuard`. -/
structure JNIEnvGuard where
  /-- `env_`; `none` is `nullptr`. -/
  env : Option Nat
  needsDetach : Bool
  deriving DecidableEq, Repr

namespace JNIEnvGuard

/-- `explicit operator bool`. -/
def test (guard : JNIEnvGuard) : Bool := guard.env.isSome

/-- `JNIEnvGuard::JNIEnvGuard`. -/
def construct (vm : VmAnswers) (thread : VmThread) : JNIEnvGuard × VmThread :=
  match getEnv vm thread with
  | (.JNI_EDETACHED, _) =>
    if vm.attachResult ≠ 0 then (⟨none, false⟩, thread)
    else (⟨thread.attach.env, true⟩, thread.attach)
  | (.JNI_OK, env) => (⟨env, false⟩, thread)
  | (.other _, _) => (⟨none, false⟩, thread)

/-- `JNIEnvGuard::~JNIEnvGuard`. -/
def destruct (guard : JNIEnvGuard) (thread : VmThread) : VmThread :=
  if guard.needsDetach then thread.detach else thread

/-- **Step lemma.** A constructor fails and changes nothing, finds the environment there is, or
    attaches a detached thread. -/
theorem construct_cases (vm : VmAnswers) (thread : VmThread) :
    construct vm thread = (⟨none, false⟩, thread) ∨
    (∃ env, thread.env = some env ∧ construct vm thread = (⟨some env, false⟩, thread)) ∨
    (thread.env = none ∧
      construct vm thread = (⟨some thread.attachments, true⟩, thread.attach)) := by
  unfold construct getEnv
  cases henv : thread.env with
  | none =>
    by_cases hattach : vm.attachResult ≠ 0
    · exact Or.inl (by simp only [if_pos hattach])
    · exact Or.inr (Or.inr ⟨rfl, by simp only [if_neg hattach, VmThread.env_attach]⟩)
  | some env =>
    cases vm.getEnvFailure with
    | none => exact Or.inr (Or.inl ⟨env, rfl, rfl⟩)
    | some state => exact Or.inl rfl

/-- A guard tests true exactly on an attached thread whose environment can be got and on a detached
    one that can be attached. -/
theorem test_construct_iff (vm : VmAnswers) (thread : VmThread) :
    (construct vm thread).1.test = true ↔
      (thread.Attached → vm.getEnvFailure = none) ∧
        (¬ thread.Attached → vm.attachResult = 0) := by
  unfold construct getEnv VmThread.Attached
  cases thread.env with
  | none =>
    by_cases hattach : vm.attachResult = 0
    · simp [hattach, test]
    · simp [hattach, test]
  | some env =>
    cases vm.getEnvFailure with
    | none => simp [test]
    | some state => simp [test]

end JNIEnvGuard

/-! ## Nested scopes -/

/-- A live guard, beside the thread that its constructor found. -/
structure LiveGuard where
  guard : JNIEnvGuard
  found : VmThread

/-- A thread with its live guards, the innermost first. -/
structure GuardedThread where
  thread : VmThread
  guards : List LiveGuard

/-- What happens on the thread. -/
inductive GuardEvent where
  /-- A guard is constructed. -/
  | enter (vm : VmAnswers)
  /-- The innermost guard is destroyed. -/
  | leave

/-- One event. Without a live guard there is none to leave. -/
def guardStep (s : GuardedThread) : GuardEvent → GuardedThread
  | .enter vm =>
    ⟨(JNIEnvGuard.construct vm s.thread).2,
      ⟨(JNIEnvGuard.construct vm s.thread).1, s.thread⟩ :: s.guards⟩
  | .leave =>
    match s.guards with
    | [] => s
    | live :: rest => ⟨live.guard.destruct s.thread, rest⟩

/-- Every live guard that tests true holds the environment that the thread has. -/
def GuardedThread.EnvsValid (s : GuardedThread) : Prop :=
  ∀ live ∈ s.guards, live.guard.test = true →
    ∃ env, live.guard.env = some env ∧ s.thread.env = some env

/-- An event that detaches the thread is the end of a guard that found it detached, and what it
    ends is the attachment that came next then. -/
def DetachesOwn (s : GuardedThread) (e : GuardEvent) : Prop :=
  s.thread.Attached → ¬ (guardStep s e).thread.Attached →
    ∃ live rest, e = .leave ∧ s.guards = live :: rest ∧ ¬ live.found.Attached ∧
      s.thread.env = some live.found.attachments

/-! ## The invariant -/

/-- The environment `env` that a live guard sees, against the one that its constructor found: the
    same, or that of an attachment which the guard made. -/
def LiveGuard.Explains (live : LiveGuard) (env : Option Nat) : Prop :=
  (live.guard.needsDetach = false ∧ env = live.found.env ∧
      (live.guard.env = none ∨ live.guard.env = env)) ∨
    (live.guard.needsDetach = true ∧ live.found.env = none ∧
      live.guard.env = some live.found.attachments ∧ env = live.guard.env)

/-- Below the guards of a stack stands a thread with the environment `initial`, and each guard
    explains what the ones above it found. -/
def Nested (initial : Option Nat) : List LiveGuard → Option Nat → Prop
  | [], env => env = initial
  | live :: rest, env => live.Explains env ∧ Nested initial rest live.found.env

/-- What a constructor leaves is explained by the guard it makes. -/
theorem explains_construct (vm : VmAnswers) (thread : VmThread) :
    LiveGuard.Explains ⟨(JNIEnvGuard.construct vm thread).1, thread⟩
      (JNIEnvGuard.construct vm thread).2.env := by
  obtain h | ⟨env, henv, h⟩ | ⟨henv, h⟩ := JNIEnvGuard.construct_cases vm thread
  · rw [h]
    exact Or.inl ⟨rfl, rfl, Or.inl rfl⟩
  · rw [h]
    exact Or.inl ⟨rfl, rfl, Or.inr henv.symm⟩
  · rw [h]
    exact Or.inr ⟨rfl, henv, rfl, rfl⟩

/-- A destructor brings back what its constructor found. -/
theorem LiveGuard.Explains.env_destruct {live : LiveGuard} {thread : VmThread}
    (h : live.Explains thread.env) : (live.guard.destruct thread).env = live.found.env := by
  unfold JNIEnvGuard.destruct
  obtain ⟨hneeds, henv, -⟩ | ⟨hneeds, hfound, -, -⟩ := h
  · rw [if_neg (by rw [hneeds]; exact Bool.false_ne_true)]
    exact henv
  · rw [if_pos hneeds, hfound]
    rfl

/-- Every event keeps the guards nested. -/
theorem nested_guardStep {initial : Option Nat} (s : GuardedThread) (e : GuardEvent)
    (h : Nested initial s.guards s.thread.env) :
    Nested initial (guardStep s e).guards (guardStep s e).thread.env := by
  cases e with
  | enter vm => exact ⟨explains_construct vm s.thread, h⟩
  | leave =>
    obtain ⟨thread, guards⟩ := s
    cases guards with
    | nil => exact h
    | cons live rest =>
      obtain ⟨hexplains, hrest⟩ := h
      show Nested initial rest (live.guard.destruct thread).env
      rw [hexplains.env_destruct]
      exact hrest

/-- A guard sees the environment it holds, however many guards began after it. -/
theorem Nested.env_eq {initial env : Option Nat} {guards : List LiveGuard}
    (h : Nested initial guards env) {live : LiveGuard} (hlive : live ∈ guards)
    (htest : live.guard.env ≠ none) : env = live.guard.env := by
  induction guards generalizing env with
  | nil => cases hlive
  | cons top rest ih =>
    obtain ⟨hexplains, hrest⟩ := h
    rcases List.mem_cons.mp hlive with rfl | hbelow
    · obtain ⟨-, -, hnone | hsame⟩ | ⟨-, -, -, henv⟩ := hexplains
      · exact absurd hnone htest
      · exact hsame.symm
      · exact henv
    · -- the guard on top found an environment, so that it attached nothing
      have hfound : top.found.env = live.guard.env := ih hrest hbelow
      obtain ⟨-, henv, -⟩ | ⟨-, hdetached, -, -⟩ := hexplains
      · rw [henv, hfound]
      · rw [hdetached] at hfound
        exact absurd hfound.symm htest

theorem Nested.envsValid {initial : Option Nat} {s : GuardedThread}
    (h : Nested initial s.guards s.thread.env) : s.EnvsValid := by
  intro live hlive htest
  obtain ⟨env, henv⟩ := Option.isSome_iff_exists.mp htest
  have hne : live.guard.env ≠ none := by
    rw [henv]
    exact Option.some_ne_none env
  exact ⟨env, henv, by rw [h.env_eq hlive hne, henv]⟩

/-- Only a guard that attached the thread detaches it. -/
theorem Nested.detachesOwn {initial : Option Nat} {s : GuardedThread}
    (h : Nested initial s.guards s.thread.env) (e : GuardEvent) : DetachesOwn s e := by
  intro hattached hdetached
  obtain ⟨thread, guards⟩ := s
  cases e with
  | enter vm =>
    -- a constructor detaches nothing
    refine absurd ?_ hdetached
    show (JNIEnvGuard.construct vm thread).2.env ≠ none
    obtain hc | ⟨env, henv, hc⟩ | ⟨henv, hc⟩ := JNIEnvGuard.construct_cases vm thread
    · rw [hc]
      exact hattached
    · rw [hc]
      exact hattached
    · exact absurd henv hattached
  | leave =>
    cases guards with
    | nil => exact absurd hattached hdetached
    | cons live rest =>
      refine ⟨live, rest, rfl, rfl, ?_⟩
      obtain ⟨hneeds, henv, -⟩ | ⟨-, hfound, hguard, henv⟩ := h.1
      · -- a guard that did not attach the thread leaves it as it is
        refine absurd ?_ hdetached
        show (live.guard.destruct thread).env ≠ none
        rw [LiveGuard.Explains.env_destruct h.1, ← henv]
        exact hattached
      · exact ⟨fun hfoundAttached => hfoundAttached hfound, henv.trans hguard⟩

/-! ## Runs of guards -/

/-- **Guards restore the thread.** In every run of nested guards, whatever the VM answers, a
    thread without live guards is attached exactly when it was at the start, every live guard that
    tests true holds a valid environment, and no guard ends an attachment that it did not make. -/
theorem guards_restore_thread (thread : VmThread) (es : List GuardEvent) :
    (∀ s ∈ states guardStep ⟨thread, []⟩ es,
      (s.guards = [] → (s.thread.Attached ↔ thread.Attached)) ∧ s.EnvsValid) ∧
    Along guardStep DetachesOwn ⟨thread, []⟩ es := by
  have hstart : Nested thread.env [] thread.env := rfl
  refine ⟨?_, ?_⟩
  · intro s hs
    have hnested : Nested thread.env s.guards s.thread.env :=
      forall_states_of_inv (fun s e h _ => nested_guardStep s e h) hstart
        (along_true guardStep ⟨thread, []⟩ es) s hs
    refine ⟨?_, hnested.envsValid⟩
    intro hnone
    rw [hnone] at hnested
    have henv : s.thread.env = thread.env := hnested
    unfold VmThread.Attached
    rw [henv]
  · -- the invariant makes the condition hold at every step
    have hiff : Along guardStep DetachesOwn ⟨thread, []⟩ es ↔
        Along guardStep (fun _ _ => True) ⟨thread, []⟩ es :=
      along_iff_of_inv (V := fun _ _ => True) (I := fun s => Nested thread.env s.guards s.thread.env)
        (fun s e h _ => iff_of_true (h.detachesOwn e) trivial)
        (fun s e h _ _ => nested_guardStep s e h) hstart (along_true guardStep ⟨thread, []⟩ es)
    exact hiff.mpr (along_true guardStep ⟨thread, []⟩ es)

/-- A guard inside another one on a detached thread: the inner one finds the environment of the
    outer one and leaves it there. -/
example :
    (runFrom guardStep ⟨⟨0, none, by simp⟩, []⟩
      [.enter ⟨none, 0⟩, .enter ⟨none, 0⟩, .leave]).thread.env = some 0 := rfl

end NunchukSdk
