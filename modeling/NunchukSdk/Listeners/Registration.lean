import Mathlib.Data.List.Nodup
import NunchukSdk.Jni.EntryPoint
import NunchukSdk.Provider.Init

/-!
# Listeners and Account Switches

A listener is registered on one `Nunchuk` instance, and an account switch replaces the instance.
`initNunchuk` registers five listeners on the instance it has made; `registerGlobalListener` adds
the five listeners for group wallets to the instance there is, each time the app calls it.

Each registration has a `try` of its own that catches only `BaseException`. In `initNunchuk`
another exception goes to the outer clause, and what follows is left out; in
`registerGlobalListener` it leaves the native method and ends the process.

## Model

- `Listened`: an instance with the listeners that were added to it, in order
- `initNunchukListening` is `libInitNunchuk` with these instances.
- A run is a list of calls; `none` is a process that has ended. `currentListeners` forgets
  everything of a process but the listeners of the current instance.

## Results

- `run_registerAll`: what a row of registrations does
- `basicListeners_once_iff`: the current instance has each of its own five listeners once, in
  every state of a run, exactly when every switch that replaces the instance succeeds in full
- `listeners_since_switch`: the group listeners of the current instance are those of the calls of
  `registerGlobalListener` since the switch, once for each call
-/

namespace NunchukSdk

open Foundation NativeM

/-! ## Listeners -/

/-- What a listener listens to. -/
inductive ListenerKind where
  | blockchainConnection
  | block
  | balances
  | transaction
  | invalidTransaction
  | groupUpdate
  | groupMessage
  | groupOnline
  | groupDelete
  | replaceRequest
  deriving DecidableEq, Repr

namespace ListenerKind

/-- The listeners that `initNunchuk` registers. -/
def basic : List ListenerKind :=
  [blockchainConnection, block, balances, transaction, invalidTransaction]

/-- The listeners that `registerGlobalListener` registers. -/
def global : List ListenerKind :=
  [groupUpdate, groupMessage, groupOnline, groupDelete, replaceRequest]

end ListenerKind

/-- A `Nunchuk` with the listeners added to it. -/
structure Listened (ν : Type) where
  val : ν
  listeners : List ListenerKind := []
  deriving DecidableEq, Repr

/-- A registration: what is listened to, and how `Add...Listener` ends. -/
abbrev Registration := ListenerKind × Except CppException Unit

section Registering

variable {φ ν μ : Type}

/-- `NunchukProvider::get()->nu->Add...Listener(...)`; without an instance it is undefined. -/
def addListener (registration : Registration) :
    NativeM CppException (NunchukProvider (Listened ν) μ × JavaEnv) Unit := do
  let s ← read
  match s.1.nu with
  | none => undefinedBehaviour
  | some nu => do
    call registration.2
    update fun s =>
      ({ s.1 with nu := some { nu with listeners := nu.listeners ++ [registration.1] } }, s.2)

/-- A registration with its own `catch (BaseException &e)`. -/
def registerOn (registration : Registration) :
    NativeM CppException (NunchukProvider (Listened ν) μ × JavaEnv) Unit :=
  catchBase (addListener registration) fun code what => onSnd (convert2JException code what)

/-- Registrations in a row. -/
def registerAll : List Registration →
    NativeM CppException (NunchukProvider (Listened ν) μ × JavaEnv) Unit
  | [] => pure ()
  | registration :: rest => do
    registerOn registration
    registerAll rest

/-! ## The two entry points -/

/-- The registrations of `initNunchuk`, in the order of the code. -/
def ListenerOutcomes.registrations (outcomes : ListenerOutcomes) : List Registration :=
  [(.blockchainConnection, outcomes.addBlockchainConnectionListener),
    (.block, outcomes.addBlockListener),
    (.balances, outcomes.addBalancesListener),
    (.transaction, outcomes.addTransactionListener),
    (.invalidTransaction, outcomes.addInvalidTransactionListener)]

/-- The library calls of `registerGlobalListener`. -/
structure GlobalListenerOutcomes where
  addGroupUpdateListener : Except CppException Unit
  addGroupMessageListener : Except CppException Unit
  addGroupOnlineListener : Except CppException Unit
  addGroupDeleteListener : Except CppException Unit
  addReplaceRequestListener : Except CppException Unit

/-- The registrations of `registerGlobalListener`, in the order of the code. -/
def GlobalListenerOutcomes.registrations (outcomes : GlobalListenerOutcomes) :
    List Registration :=
  [(.groupUpdate, outcomes.addGroupUpdateListener),
    (.groupMessage, outcomes.addGroupMessageListener),
    (.groupOnline, outcomes.addGroupOnlineListener),
    (.groupDelete, outcomes.addGroupDeleteListener),
    (.replaceRequest, outcomes.addReplaceRequestListener)]

/-- The factories, whose instances have no listeners yet. -/
def Factories.listening (factories : Factories φ ν μ) : Factories φ (Listened ν) μ where
  makeNunchukForAccount := fun settings passPhrase accountId =>
    (factories.makeNunchukForAccount settings passPhrase accountId).map fun n => ⟨n, []⟩
  makeNunchukForDecoyPin := fun settings decoyPin =>
    (factories.makeNunchukForDecoyPin settings decoyPin).map fun n => ⟨n, []⟩
  makeNunchukMatrixForAccount := factories.makeNunchukMatrixForAccount

/-- `LibNunchukAndroid_initNunchuk` on instances that keep their listeners. -/
def initNunchukListening (a : InitNunchukJArgs) (sendEvent : φ) (factories : Factories φ ν μ)
    (outcomes : ListenerOutcomes) :
    NativeM CppException (NunchukProvider (Listened ν) μ × JavaEnv) Unit :=
  catchStd
    (do
      onFst (initNunchuk ⟨a.initArgs sendEvent, factories.listening⟩)
      registerAll outcomes.registrations
      call outcomes.enableGenerateReceiveEvent)
    fun e => onSnd (convertStdException2JException e)

/-- `LibNunchukAndroid_registerGlobalListener`. -/
def registerGlobalListener (outcomes : GlobalListenerOutcomes) :
    NativeM CppException (NunchukProvider (Listened ν) μ × JavaEnv) Unit :=
  registerAll outcomes.registrations

/-! ## Registrations in a row -/

/-- The listeners that are added: those whose registration succeeds, up to one that throws
    something else than a `BaseException`. -/
def registered : List Registration → List ListenerKind
  | [] => []
  | (kind, .ok _) :: rest => kind :: registered rest
  | (_, .error (.base _ _)) :: rest => registered rest
  | (_, .error (.std _)) :: _ => []

/-- The exceptions that are raised. -/
def raised : List Registration → List NCNativeException
  | [] => []
  | (_, .ok _) :: rest => raised rest
  | (_, .error (.base code what)) :: rest => ⟨(CppException.base code what).message⟩ :: raised rest
  | (_, .error (.std _)) :: _ => []

/-- How the row ends. -/
def rowOutcome : List Registration → Except CppException Unit
  | [] => .ok ()
  | (_, .ok _) :: rest => rowOutcome rest
  | (_, .error (.base _ _)) :: rest => rowOutcome rest
  | (_, .error (.std what)) :: _ => .error (.std what)

/-- **Registrations in a row.** -/
theorem run_registerAll (registrations : List Registration) (nu : Listened ν)
    (matrix : Option μ) (env : JavaEnv) :
    (registerAll registrations).run (⟨some nu, matrix⟩, env) =
      ((rowOutcome registrations).mapError Fault.thrown,
        (⟨some ⟨nu.val, nu.listeners ++ registered registrations⟩, matrix⟩,
          ⟨env.pending ++ raised registrations⟩)) := by
  induction registrations generalizing nu env with
  | nil =>
    simp only [registered, raised, List.append_nil]
    rfl
  | cons registration rest ih =>
    obtain ⟨kind, outcome⟩ := registration
    unfold registerAll
    rw [run_bind]
    match outcome with
    | .ok () =>
      show (registerAll rest).run (⟨some ⟨nu.val, nu.listeners ++ [kind]⟩, matrix⟩, env) = _
      rw [ih]
      simp only [registered, raised, rowOutcome, List.append_assoc, List.singleton_append]
    | .error (.base code what) =>
      -- the exception is raised and the row goes on
      show (registerAll rest).run (⟨some nu, matrix⟩, ⟨env.pending ++ [_]⟩) = _
      rw [ih]
      simp only [registered, raised, rowOutcome, List.append_assoc, List.singleton_append]
      rfl
    | .error (.std what) =>
      simp only [registered, raised, List.append_nil]
      rfl

/-- Only a registration that succeeded adds a listener. -/
theorem mem_of_mem_registered {registrations : List Registration} {kind : ListenerKind}
    (h : kind ∈ registered registrations) : (kind, .ok ()) ∈ registrations := by
  induction registrations with
  | nil => cases h
  | cons registration rest ih =>
    obtain ⟨other, outcome⟩ := registration
    match outcome, h with
    | .ok (), h =>
      rcases List.mem_cons.mp h with rfl | hrest
      · exact List.mem_cons_self
      · exact List.mem_cons_of_mem _ (ih hrest)
    | .error (.base code what), h => exact List.mem_cons_of_mem _ (ih h)
    | .error (.std what), h => cases h

/-- When every registration succeeds, every listener is added. -/
theorem registered_of_forall_ok {registrations : List Registration}
    (h : ∀ registration ∈ registrations, registration.2 = .ok ()) :
    registered registrations = registrations.map Prod.fst := by
  induction registrations with
  | nil => rfl
  | cons registration rest ih =>
    obtain ⟨kind, outcome⟩ := registration
    obtain ⟨hok, hrest⟩ := List.forall_mem_cons.mp h
    have houtcome : outcome = .ok () := hok
    rw [houtcome, registered, ih hrest, List.map_cons]

/-! ## The entry points, step by step -/

theorem nuOutcome_listening (args : InitArgs φ) (factories : Factories φ ν μ) :
    InitCall.nuOutcome ⟨args, factories.listening⟩ =
      (InitCall.nuOutcome ⟨args, factories⟩).map fun n => (⟨n, []⟩ : Listened ν) := by
  unfold InitCall.nuOutcome
  by_cases h : args.decoyPin.isEmpty
  · simp only [if_pos h]
    rfl
  · simp only [if_neg h]
    rfl

/-- The outer clause of `initNunchuk` raises what the body throws, and the method returns. -/
theorem run_catchStd_raising {σ : Type} {body : NativeM CppException (σ × JavaEnv) Unit}
    {s : σ × JavaEnv} (outcome : Except CppException Unit) {t : σ} {env : JavaEnv}
    (h : body.run s = (outcome.mapError Fault.thrown, (t, env))) :
    ∃ env', (catchStd body fun e => onSnd (convertStdException2JException e)).run s =
      (.ok (), (t, env')) := by
  unfold catchStd
  cases outcome with
  | ok u => exact ⟨env, run_catching_ok h⟩
  | error e =>
    refine ⟨⟨env.pending ++ [⟨e.what⟩]⟩, ?_⟩
    rw [run_catching_caught h rfl]
    rfl

/-- **Step lemma.** What one switch can do to the provider: nothing, put in a new instance without
    a listener, or put in both new objects, with the listeners of the row. The method returns. -/
theorem initNunchukListening_cases (a : InitNunchukJArgs) (sendEvent : φ)
    (factories : Factories φ ν μ) (outcomes : ListenerOutcomes)
    (provider : NunchukProvider (Listened ν) μ) (env : JavaEnv) :
    ∃ env', (initNunchukListening a sendEvent factories outcomes).run (provider, env) =
      (.ok (),
        (match InitCall.nuOutcome ⟨a.initArgs sendEvent, factories⟩,
            InitCall.matrixOutcome ⟨a.initArgs sendEvent, factories⟩ with
          | .error _, _ => provider
          | .ok n, .error _ => { provider with nu := some ⟨n, []⟩ }
          | .ok n, .ok m => ⟨some ⟨n, registered outcomes.registrations⟩, some m⟩), env') := by
  have hnew := nuOutcome_listening (a.initArgs sendEvent) factories
  have hmatrix : InitCall.matrixOutcome ⟨a.initArgs sendEvent, factories.listening⟩ =
      InitCall.matrixOutcome ⟨a.initArgs sendEvent, factories⟩ := rfl
  unfold initNunchukListening initNunchuk
  rw [hnew, hmatrix]
  cases InitCall.nuOutcome ⟨a.initArgs sendEvent, factories⟩ with
  | error e => exact run_catchStd_raising (.error e) rfl
  | ok n =>
    cases InitCall.matrixOutcome ⟨a.initArgs sendEvent, factories⟩ with
    | error e => exact run_catchStd_raising (.error e) rfl
    | ok m =>
      have hrow := run_registerAll outcomes.registrations ⟨n, []⟩ (some m) env
      rw [List.nil_append] at hrow
      -- what is left of the body: the row and `EnableGenerateReceiveEvent`
      apply run_catchStd_raising (rowOutcome outcomes.registrations >>= fun _ =>
        outcomes.enableGenerateReceiveEvent)
      show (registerAll outcomes.registrations >>= fun _ =>
        call outcomes.enableGenerateReceiveEvent).run (⟨some ⟨n, []⟩, some m⟩, env) = _
      rw [run_bind, hrow]
      cases rowOutcome outcomes.registrations with
      | error e => rfl
      | ok u =>
        cases outcomes.enableGenerateReceiveEvent with
        | error e => rfl
        | ok u => rfl

/-- The provider without what is known of its listeners. -/
def NunchukProvider.forget (provider : NunchukProvider (Listened ν) μ) : NunchukProvider ν μ where
  nu := provider.nu.map Listened.val
  nuMatrix := provider.nuMatrix

/-- Without its listeners, the provider changes as `libInitNunchuk` changes it. -/
theorem initNunchukListening_forget (a : InitNunchukJArgs) (sendEvent : φ)
    (factories : Factories φ ν μ) (outcomes : ListenerOutcomes)
    (provider : NunchukProvider (Listened ν) μ) (env : JavaEnv) :
    ((initNunchukListening a sendEvent factories outcomes).run (provider, env)).2.1.forget =
      ((libInitNunchuk a sendEvent factories outcomes).run (provider.forget, env)).2.1 := by
  obtain ⟨env', hlistening⟩ :=
    initNunchukListening_cases a sendEvent factories outcomes provider env
  rw [hlistening, libInitNunchuk_provider]
  obtain ⟨e, hn, hrun⟩ | ⟨n, e, hn, hm, hrun⟩ | ⟨n, m, hn, hm, hrun⟩ :=
    initNunchuk_cases ⟨a.initArgs sendEvent, factories⟩ provider.forget
  · rw [hrun, hn]
  · rw [hrun, hn, hm]
    rfl
  · rw [hrun, hn, hm]
    rfl

end Registering

/-! ## Runs of switches and registrations -/

/-- A call of the app. -/
inductive ListenerCall (φ ν μ : Type) where
  | initNunchuk (a : InitNunchukJArgs) (sendEvent : φ) (factories : Factories φ ν μ)
    (outcomes : ListenerOutcomes)
  | registerGlobalListener (outcomes : GlobalListenerOutcomes)

section Runs

variable {φ ν μ : Type}

namespace ListenerCall

/-- The native method that is called. -/
def method : ListenerCall φ ν μ →
    NativeM CppException (NunchukProvider (Listened ν) μ × JavaEnv) Unit
  | initNunchuk a sendEvent factories outcomes =>
    initNunchukListening a sendEvent factories outcomes
  | registerGlobalListener outcomes => NunchukSdk.registerGlobalListener outcomes

/-- The call replaces `nu`. -/
def Replaces : ListenerCall φ ν μ → Prop
  | initNunchuk a sendEvent factories _ =>
    ∃ n, InitCall.nuOutcome ⟨a.initArgs sendEvent, factories⟩ = .ok n
  | registerGlobalListener _ => False

/-- The call is no switch, or one that replaces nothing, or one in which everything that follows
    the new `nu` up to the last listener succeeds. -/
def SucceedsInFull : ListenerCall φ ν μ → Prop
  | initNunchuk a sendEvent factories outcomes =>
    (∃ n, InitCall.nuOutcome ⟨a.initArgs sendEvent, factories⟩ = .ok n) →
      (∃ m, InitCall.matrixOutcome ⟨a.initArgs sendEvent, factories⟩ = .ok m) ∧
        ∀ registration ∈ outcomes.registrations, registration.2 = .ok ()
  | registerGlobalListener _ => True

/-- The listeners that the call adds to the instance that it finds. -/
def adds : ListenerCall φ ν μ → List ListenerKind
  | initNunchuk _ _ _ _ => []
  | registerGlobalListener outcomes => registered outcomes.registrations

end ListenerCall

/-- One call; a process that has ended makes none. -/
def registrationStep :
    Option (NunchukProvider (Listened ν) μ) → ListenerCall φ ν μ →
      Option (NunchukProvider (Listened ν) μ)
  | none, _ => none
  | some provider, c =>
    match c.method.run (provider, {}) with
    | (.ok _, s) => some s.1
    | (.error _, _) => none

/-- The listeners of the current instance, if there is one. -/
def currentListeners (s : Option (NunchukProvider (Listened ν) μ)) :
    Option (Option (List ListenerKind)) :=
  s.map fun provider => provider.nu.map Listened.listeners

/-- What a call does to the listeners of the current instance. -/
def listenersStep : Option (Option (List ListenerKind)) → ListenerCall φ ν μ →
    Option (Option (List ListenerKind))
  | none, _ => none
  | some current, .initNunchuk a sendEvent factories outcomes =>
    match InitCall.nuOutcome ⟨a.initArgs sendEvent, factories⟩,
        InitCall.matrixOutcome ⟨a.initArgs sendEvent, factories⟩ with
    | .error _, _ => some current
    | .ok _, .error _ => some (some [])
    | .ok _, .ok _ => some (some (registered outcomes.registrations))
  | some none, .registerGlobalListener _ => none
  | some (some listeners), .registerGlobalListener outcomes =>
    match rowOutcome outcomes.registrations with
    | .ok _ => some (some (listeners ++ registered outcomes.registrations))
    | .error _ => none

/-- **The listeners of a process.** Forgetting all but the listeners commutes with every call. -/
theorem currentListeners_step (s : Option (NunchukProvider (Listened ν) μ))
    (c : ListenerCall φ ν μ) :
    currentListeners (registrationStep s c) = listenersStep (currentListeners s) c := by
  cases s with
  | none => cases c <;> rfl
  | some provider =>
    cases c with
    | initNunchuk a sendEvent factories outcomes =>
      obtain ⟨env', hrun⟩ := initNunchukListening_cases a sendEvent factories outcomes provider {}
      simp only [registrationStep, ListenerCall.method, hrun, currentListeners, listenersStep,
        Option.map_some]
      cases InitCall.nuOutcome ⟨a.initArgs sendEvent, factories⟩ with
      | error e => rfl
      | ok n => cases InitCall.matrixOutcome ⟨a.initArgs sendEvent, factories⟩ <;> rfl
    | registerGlobalListener outcomes =>
      obtain ⟨nu, matrix⟩ := provider
      cases nu with
      | none => rfl
      | some nu =>
        have hrun := run_registerAll outcomes.registrations nu matrix {}
        simp only [registrationStep, ListenerCall.method, registerGlobalListener, hrun,
          currentListeners, listenersStep, Option.map_some]
        cases rowOutcome outcomes.registrations <;> rfl

/-! ### The listeners of `initNunchuk` -/

/-- The current instance, if there is one, has each listener of `initNunchuk` exactly once. -/
def BasicOnce (current : Option (Option (List ListenerKind))) : Prop :=
  ∀ listeners, current = some (some listeners) → ∀ kind ∈ ListenerKind.basic,
    listeners.count kind = 1

/-- A row of registrations that adds each basic listener once succeeds in full. -/
theorem count_registered_basic_iff (outcomes : ListenerOutcomes) :
    (∀ kind ∈ ListenerKind.basic, (registered outcomes.registrations).count kind = 1) ↔
      ∀ registration ∈ outcomes.registrations, registration.2 = .ok () := by
  constructor
  · intro hcount
    -- what is counted was added by a registration of its kind, and there is only one
    have hmem : ∀ kind ∈ ListenerKind.basic, (kind, .ok ()) ∈ outcomes.registrations := by
      intro kind hkind
      apply mem_of_mem_registered
      rw [← List.count_pos_iff, hcount kind hkind]
      exact Nat.one_pos
    intro registration hregistration
    have hnodup : (outcomes.registrations.map Prod.fst).Nodup := by
      show ListenerKind.basic.Nodup
      decide
    have hsucceeds := hmem registration.1 (List.mem_map_of_mem hregistration)
    rw [List.inj_on_of_nodup_map hnodup hregistration hsucceeds rfl]
  · intro hok kind hkind
    rw [registered_of_forall_ok hok]
    show ListenerKind.basic.count kind = 1
    revert kind
    decide

/-- Group listeners are no basic ones. -/
theorem count_registered_global (outcomes : GlobalListenerOutcomes) {kind : ListenerKind}
    (hkind : kind ∈ ListenerKind.basic) :
    (registered outcomes.registrations).count kind = 0 := by
  rw [List.count_eq_zero]
  intro hmem
  have hregistration := mem_of_mem_registered hmem
  have hglobal : kind ∈ ListenerKind.global :=
    List.mem_map_of_mem (f := Prod.fst) hregistration
  revert hkind hglobal
  cases kind <;> decide

/-- One call keeps each basic listener once exactly when it succeeds in full. -/
theorem basicOnce_step_iff (s : Option (NunchukProvider (Listened ν) μ)) (c : ListenerCall φ ν μ)
    (h : BasicOnce (currentListeners s)) :
    BasicOnce (currentListeners (registrationStep s c)) ↔ (s ≠ none → c.SucceedsInFull) := by
  rw [currentListeners_step]
  cases s with
  | none => exact iff_of_true (fun _ hnone => nomatch hnone) fun hnone => absurd rfl hnone
  | some provider =>
    simp only [ne_eq, reduceCtorEq, not_false_eq_true, forall_const]
    cases c with
    | initNunchuk a sendEvent factories outcomes =>
      simp only [currentListeners, Option.map_some, listenersStep, ListenerCall.SucceedsInFull]
      cases InitCall.nuOutcome ⟨a.initArgs sendEvent, factories⟩ with
      | error e => exact iff_of_true h fun ⟨n, hn⟩ => nomatch hn
      | ok n =>
        cases InitCall.matrixOutcome ⟨a.initArgs sendEvent, factories⟩ with
        | error e =>
          -- the new instance has no listener at all
          apply iff_of_false
          · intro hbasic
            exact absurd (hbasic [] rfl .block (by decide)) (by decide)
          · intro hfull
            obtain ⟨⟨m, hm⟩, -⟩ := hfull ⟨n, rfl⟩
            cases hm
        | ok m =>
          have hcount : BasicOnce (some (some (registered outcomes.registrations))) ↔
              ∀ kind ∈ ListenerKind.basic,
                (registered outcomes.registrations).count kind = 1 := by
            constructor
            · intro hbasic
              exact hbasic _ rfl
            · rintro hkinds listeners hlisteners
              rw [← Option.some.inj (Option.some.inj hlisteners)]
              exact hkinds
          rw [hcount, count_registered_basic_iff]
          exact ⟨fun hok _ => ⟨⟨m, rfl⟩, hok⟩, fun hfull => (hfull ⟨n, rfl⟩).2⟩
    | registerGlobalListener outcomes =>
      -- group listeners come to the ones there are
      refine iff_of_true ?_ trivial
      obtain ⟨nu, matrix⟩ := provider
      cases nu with
      | none => exact fun _ hnone => nomatch hnone
      | some nu =>
        simp only [currentListeners, Option.map_some, listenersStep]
        cases rowOutcome outcomes.registrations with
        | error e => exact fun _ hnone => nomatch hnone
        | ok u =>
          intro listeners hlisteners kind hkind
          rw [← Option.some.inj (Option.some.inj hlisteners), List.count_append,
            count_registered_global outcomes hkind, Nat.add_zero]
          exact h nu.listeners rfl kind hkind

/-- **The listeners of the current account.** In every state of a run the current instance has each
    of the five listeners of `initNunchuk` exactly once, exactly when every switch that puts in a
    new `nu` goes on to make `nuMatrix` and to register all five. After one that does not, updates
    of the account are not heard. -/
theorem basicListeners_once_iff (cs : List (ListenerCall φ ν μ)) :
    (∀ s ∈ states registrationStep (some {}) cs, BasicOnce (currentListeners s)) ↔
      Along registrationStep
        (fun (s : Option (NunchukProvider (Listened ν) μ)) c => s ≠ none → c.SucceedsInFull)
        (some {}) cs := by
  have hstart : BasicOnce (currentListeners (some ({} : NunchukProvider (Listened ν) μ))) :=
    fun _ hnone => nomatch hnone
  rw [forall_states_iff registrationStep fun s => BasicOnce (currentListeners s)]
  rw [and_iff_right hstart]
  apply along_iff_of_inv (V := fun _ _ => True) (I := fun s => BasicOnce (currentListeners s))
  · intro s c hs _
    exact basicOnce_step_iff s c hs
  · intro s c hs _ hfull
    exact (basicOnce_step_iff s c hs).mpr hfull
  · exact hstart
  · exact along_true registrationStep _ cs

/-! ### The listeners since the last switch -/

/-- A process that has ended stays so. -/
theorem runFrom_ended (cs : List (ListenerCall φ ν μ)) :
    runFrom registrationStep (none : Option (NunchukProvider (Listened ν) μ)) cs = none := by
  induction cs with
  | nil => rfl
  | cons c cs ih => exact ih

/-- Calls that replace nothing add to the listeners there are. -/
theorem currentListeners_runFrom {listeners : List ListenerKind} {cs : List (ListenerCall φ ν μ)}
    (hcs : ∀ c ∈ cs, ¬ c.Replaces) {s : Option (NunchukProvider (Listened ν) μ)}
    (hs : currentListeners s = some (some listeners))
    (halive : runFrom registrationStep s cs ≠ none) :
    currentListeners (runFrom registrationStep s cs) =
      some (some (listeners ++ cs.flatMap ListenerCall.adds)) := by
  induction cs generalizing listeners s with
  | nil =>
    rw [List.flatMap_nil, List.append_nil]
    exact hs
  | cons c cs ih =>
    obtain ⟨hc, hrest⟩ := List.forall_mem_cons.mp hcs
    have hstep := currentListeners_step s c
    rw [hs] at hstep
    rw [List.flatMap_cons, ← List.append_assoc]
    apply ih hrest _ halive
    rw [hstep]
    cases c with
    | initNunchuk a sendEvent factories outcomes =>
      cases hn : InitCall.nuOutcome ⟨a.initArgs sendEvent, factories⟩ with
      | error e =>
        simp only [listenersStep, hn, ListenerCall.adds, List.append_nil]
      | ok n => exact absurd ⟨n, hn⟩ hc
    | registerGlobalListener outcomes =>
      cases hrow : rowOutcome outcomes.registrations with
      | ok u => simp only [listenersStep, hrow, ListenerCall.adds]
      | error e =>
        -- an exception that leaves the method would have ended the process
        simp only [listenersStep, hrow, currentListeners, Option.map_eq_none_iff] at hstep
        refine absurd ?_ halive
        show runFrom registrationStep (registrationStep s (.registerGlobalListener outcomes)) cs =
          none
        rw [hstep, runFrom_ended]

/-- The listeners of a row come in its order. -/
theorem registered_sublist (registrations : List Registration) :
    (registered registrations).Sublist (registrations.map Prod.fst) := by
  induction registrations with
  | nil => exact List.Sublist.slnil
  | cons registration rest ih =>
    obtain ⟨kind, outcome⟩ := registration
    match outcome with
    | .ok () => exact ih.cons_cons kind
    | .error (.base code what) => exact ih.cons kind
    | .error (.std what) => exact List.nil_sublist _

theorem nodup_adds (c : ListenerCall φ ν μ) : c.adds.Nodup := by
  cases c with
  | initNunchuk a sendEvent factories outcomes => exact List.nodup_nil
  | registerGlobalListener outcomes =>
    apply (registered_sublist outcomes.registrations).nodup
    show ListenerKind.global.Nodup
    decide

/-- A listener is added once by each call that adds it. -/
theorem count_flatMap_adds (kind : ListenerKind) (cs : List (ListenerCall φ ν μ)) :
    (cs.flatMap ListenerCall.adds).count kind = cs.countP fun c => kind ∈ c.adds := by
  induction cs with
  | nil => rfl
  | cons c cs ih =>
    rw [List.flatMap_cons, List.count_append, ih, List.countP_cons, (nodup_adds c).count]
    simp only [decide_eq_true_eq]
    exact Nat.add_comm _ _

/-- The listeners of `initNunchuk` are no group listeners. -/
theorem count_registered_basic (outcomes : ListenerOutcomes) {kind : ListenerKind}
    (hkind : kind ∈ ListenerKind.global) :
    (registered outcomes.registrations).count kind = 0 := by
  rw [List.count_eq_zero]
  intro hmem
  have hbasic : kind ∈ ListenerKind.basic :=
    List.mem_map_of_mem (f := Prod.fst) (mem_of_mem_registered hmem)
  revert hkind hbasic
  cases kind <;> decide

/-- **The group listeners since the last switch.** After a switch that puts in a new `nu`, and as
    long as no other one does, the current instance has each group listener as often as
    `registerGlobalListener` has registered it since: not at all before the first call, and twice
    after two calls. -/
theorem listeners_since_switch (front rest : List (ListenerCall φ ν μ)) (a : InitNunchukJArgs)
    (sendEvent : φ) (factories : Factories φ ν μ) (outcomes : ListenerOutcomes)
    (hswitch : ∃ n, InitCall.nuOutcome ⟨a.initArgs sendEvent, factories⟩ = .ok n)
    (hrest : ∀ c ∈ rest, ¬ c.Replaces)
    (halive : runFrom registrationStep (some {} : Option (NunchukProvider (Listened ν) μ))
      (front ++ .initNunchuk a sendEvent factories outcomes :: rest) ≠ none) :
    ∃ listeners,
      currentListeners
          (runFrom registrationStep (some {} : Option (NunchukProvider (Listened ν) μ))
            (front ++ .initNunchuk a sendEvent factories outcomes :: rest)) =
        some (some listeners) ∧
      ∀ kind ∈ ListenerKind.global, listeners.count kind = rest.countP fun c => kind ∈ c.adds := by
  obtain ⟨n, hn⟩ := hswitch
  rw [runFrom_append] at halive ⊢
  generalize hbefore :
    runFrom registrationStep (some {} : Option (NunchukProvider (Listened ν) μ)) front = s
    at halive ⊢
  have hcons : runFrom registrationStep s (.initNunchuk a sendEvent factories outcomes :: rest) =
      runFrom registrationStep (registrationStep s (.initNunchuk a sendEvent factories outcomes))
        rest := rfl
  rw [hcons] at halive ⊢
  cases s with
  | none => exact absurd (runFrom_ended rest) halive
  | some provider =>
    -- the switch leaves a new instance without group listeners
    have hnew : ∃ listeners,
        currentListeners (registrationStep (some provider)
          (.initNunchuk a sendEvent factories outcomes)) = some (some listeners) ∧
        ∀ kind ∈ ListenerKind.global, listeners.count kind = 0 := by
      rw [currentListeners_step]
      simp only [currentListeners, Option.map_some, listenersStep, hn]
      cases InitCall.matrixOutcome ⟨a.initArgs sendEvent, factories⟩ with
      | error e => exact ⟨[], rfl, fun _ _ => rfl⟩
      | ok m => exact ⟨_, rfl, fun _ hkind => count_registered_basic outcomes hkind⟩
    obtain ⟨listeners, hlisteners, hnone⟩ := hnew
    refine ⟨_, currentListeners_runFrom hrest hlisteners halive, ?_⟩
    intro kind hkind
    rw [List.count_append, hnone kind hkind, Nat.zero_add, count_flatMap_adds]

end Runs

/-- A switch in which everything succeeds. -/
def fullSwitch : ListenerCall Unit String String :=
  .initNunchuk
    { chain := 0, hwiPath := "", enableProxy := false, proxyHost := "", proxyPort := 0
      proxyUsername := "", proxyPassword := "", electrumServers := [], liquidServers := []
      backendType := 1, storagePath := "", passPhrase := "", accountId := "alice"
      deviceId := "", decoyPin := "", baseUrlApi := "" }
    ()
    { makeNunchukForAccount := fun _ _ account => .ok account
      makeNunchukForDecoyPin := fun _ pin => .ok pin
      makeNunchukMatrixForAccount := fun _ _ account _ _ => .ok account }
    ⟨.ok (), .ok (), .ok (), .ok (), .ok (), .ok ()⟩

/-- A call of `registerGlobalListener` in which everything succeeds. -/
def fullRegistration : ListenerCall Unit String String :=
  .registerGlobalListener ⟨.ok (), .ok (), .ok (), .ok (), .ok ()⟩

/-- After two calls, a group update is heard twice. -/
theorem registeredTwice_heard_twice :
    ∃ listeners,
      currentListeners (runFrom registrationStep (some {})
        [fullSwitch, fullRegistration, fullRegistration]) = some (some listeners) ∧
      listeners.count .groupUpdate = 2 := by
  have hrest : ∀ c ∈ [fullRegistration, fullRegistration], ¬ c.Replaces := by
    simp [fullRegistration, ListenerCall.Replaces]
  have halive : runFrom registrationStep (some {})
      ([] ++ [fullSwitch, fullRegistration, fullRegistration]) ≠ none :=
    Option.isSome_iff_ne_none.mp (by decide +kernel)
  obtain ⟨listeners, hlisteners, hcount⟩ :=
    listeners_since_switch [] [fullRegistration, fullRegistration] _ _ _ _ ⟨_, rfl⟩ hrest halive
  exact ⟨listeners, hlisteners, hcount .groupUpdate (by decide)⟩

end NunchukSdk
