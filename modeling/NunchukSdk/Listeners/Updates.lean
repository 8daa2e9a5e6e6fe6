import NunchukSdk.Foundation.Dispatch
import NunchukSdk.Group.Sandbox
import NunchukSdk.Jni.EnvGuard
import NunchukSdk.Liquid.AssetId

/-!
# Updates of Balances, Blocks and Group Sandboxes

libnunchuk reports a new state by calling back into the SDK, mostly on a thread of its own. The
native callbacks of `initializer-jni.cpp` construct a `JNIEnvGuard` and return if it has no
environment. Else they convert what they are given and call a static listener method, which
**launches a coroutine** that emits the value into a `SharedFlow`. The coroutines of all three
listeners run on `Dispatchers.IO`.

## Model

- `nativeCallback`: a callback up to the coroutine it launches, on any thread and with any answers
  of the VM to its guard; class lookups are made as in the source.
- A coroutine launched on `Dispatchers.IO` may run before one that was launched earlier, and an
  emission is one step: the flows are a `Dispatcher` of updates. A callback whose guard fails is a
  request that is lost.
- The topic of an update is what its values replace each other for: a wallet, the chain of the
  block heights, a group.

## Results

- `run_nativeCallback`: a callback launches one coroutine, with the value it was given, exactly
  when its guard finds an environment
- `updates_inCallbackOrder_iff`: when the values of each topic are emitted in the order of the
  callbacks under every schedule, up to the latest or in full, and which runs keep the order of any
  callbacks
-/

namespace NunchukSdk

open Foundation NativeM

/-! ## Callbacks and updates -/

/-- What libnunchuk calls back with. -/
inductive Callback where
  /-- `AddBalancesListener`. -/
  | balances (walletId : String) (balance unconfirmedBalance : Int)
      (assetBalances : AList fun _ : AssetId => Int)
  /-- `AddBlockListener`. -/
  | block (height : Int) (hexHeader : String) (liquid : Bool)
  /-- `AddGroupUpdateListener`. -/
  | groupUpdate (state : GroupSandbox)

/-- Kotlin `BalancesUpdate`. -/
structure BalancesUpdate where
  walletId : String
  balance : JAmount
  unconfirmedBalance : JAmount
  assetBalances : Finmap fun _ : JString => JAmount

/-- Kotlin `BtcBlockInfo`. -/
structure BtcBlockInfo where
  height : Int
  hexHeader : String
  isLiquid : Bool
  deriving DecidableEq, Repr

/-- A value on its way into one of the three flows. -/
inductive Update where
  | balances (update : BalancesUpdate)
  | block (info : BtcBlockInfo)
  | group (group : JGroupSandbox)

/-- Kotlin `BalancesListener.onBalancesUpdate`: what its coroutine emits. -/
def onBalancesUpdate (walletId : String) (balance unconfirmedBalance : Int)
    (assetBalances : Finmap fun _ : JString => Int) : Update :=
  .balances
    { walletId := walletId
      balance := { value := balance }
      unconfirmedBalance := { value := unconfirmedBalance }
      assetBalances := mapValues (fun balance => { value := balance }) assetBalances }

/-- Kotlin `BlockListener.onBlockUpdate`. -/
def onBlockUpdate (height : Int) (hexHeader : String) (isLiquid : Bool) : Update :=
  .block ⟨height, hexHeader, isLiquid⟩

/-- Kotlin `GroupSandboxListener.onGroupUpdate`. -/
def onGroupUpdate (group : JGroupSandbox) : Update := .group group

/-- One `put` of the loop over the asset balances. -/
def putAssetBalance (assetBalances : Finmap fun _ : JString => Int)
    (kv : Sigma fun _ : AssetId => Int) : Jni (Finmap fun _ : JString => Int) :=
  match balancesListenerKey kv.1 with
  | some key => pure (assetBalances.insert key kv.2)
  | none => undefinedBehaviour

/-- The body of a callback's `try` block, up to the coroutine that the listener launches. -/
def nativeCallbackBody (lookups : JniThread) (lib : LibNunchuk) : Callback → Jni Update
  | .balances walletId balance unconfirmedBalance assetBalances => do
    let _ ← needClass (findClass lookups "java/util/HashMap")
    let _ ← needClass (findClass lookups "java/lang/Long")
    let jAssetBalances ← assetBalances.entries.foldlM putAssetBalance ∅
    pure (onBalancesUpdate walletId balance unconfirmedBalance jAssetBalances)
  | .block height hexHeader liquid => pure (onBlockUpdate height hexHeader liquid)
  | .groupUpdate state => do
    let jState ← convert2JGroupSandbox lookups lib state
    pure (onGroupUpdate jState)

/-- A callback as it is invoked. -/
structure Invocation where
  callback : Callback
  /-- The thread it comes on. -/
  thread : VmThread
  /-- That thread entered native code from Java; else it is one of the library. -/
  fromJava : Bool
  /-- What the VM answers the guard. -/
  vm : VmAnswers

/-- The class lookups on the thread. -/
def Invocation.lookups (invocation : Invocation) : JniThread :=
  if invocation.fromJava then .java else .attached

/-- A callback: `JNIEnvGuard guard; if (!guard) return;`, and a `try` block. What is thrown there is
    logged, and nothing is launched then. -/
def nativeCallback (lib : LibNunchuk) (invocation : Invocation) :
    NativeM CppException (VmThread × JavaEnv) (Option Update) := do
  let found ← read
  update fun s => ((JNIEnvGuard.construct invocation.vm found.1).2, s.2)
  let launched ←
    if (JNIEnvGuard.construct invocation.vm found.1).1.test then
      onSnd (catchStd
        (do
          let launched ← nativeCallbackBody invocation.lookups lib invocation.callback
          pure (some launched))
        (fun _ => pure none))
    else pure none
  update fun s => ((JNIEnvGuard.construct invocation.vm found.1).1.destruct s.1, s.2)
  pure launched

/-! ## What a callback launches -/

/-- The guard of the callback has an environment: the thread is attached and `GetEnv` succeeds, or
    it is detached and can be attached. -/
def Invocation.Arrives (invocation : Invocation) : Prop :=
  (invocation.thread.Attached → invocation.vm.getEnvFailure = none) ∧
    (¬ invocation.thread.Attached → invocation.vm.attachResult = 0)

/-- The update that a callback leads to. -/
def Callback.update (lib : LibNunchuk) : Callback → Update
  | .balances walletId balance unconfirmedBalance assetBalances =>
    onBalancesUpdate walletId balance unconfirmedBalance
      (fillOverwriting assetIdText id assetBalances.entries)
  | .block height hexHeader liquid => onBlockUpdate height hexHeader liquid
  | .groupUpdate state => onGroupUpdate (state.shown lib)

theorem putAssetBalance_eq (assetBalances : Finmap fun _ : JString => Int)
    (kv : Sigma fun _ : AssetId => Int) :
    putAssetBalance assetBalances kv =
      pure (assetBalances.insert (assetIdText kv.1) kv.2) := by
  have hkey : balancesListenerKey kv.1 = some (assetIdText kv.1) := by
    rw [balancesListenerKey, encodeLoop_eq, newStringUTF_ascii (isAscii_encode kv.1)]
    rfl
  rw [putAssetBalance, hkey]

theorem lookups_resolves (invocation : Invocation) : invocation.lookups.Resolves := by
  unfold Invocation.lookups
  cases invocation.fromJava with
  | true => exact JniThread.java_resolves
  | false => exact JniThread.attached_resolves

theorem nativeCallbackBody_eq {lookups : JniThread} (hthread : lookups.Resolves)
    (lib : LibNunchuk) (callback : Callback) :
    nativeCallbackBody lookups lib callback = pure (callback.update lib) := by
  have hlawful : LawfulMonad (NativeM CppException JavaEnv) := lawfulMonad
  cases callback with
  | balances walletId balance unconfirmedBalance assetBalances =>
    -- both classes are of the boot class path, and every id has a text
    have hput : putAssetBalance =
        fun m kv => pure (m.insert (assetIdText kv.1) kv.2) :=
      funext fun m => funext fun kv => putAssetBalance_eq m kv
    rw [nativeCallbackBody, needClass_findClass hthread isBootstrapClass_hashMap, pure_bind_eq,
      needClass_findClass hthread isBootstrapClass_long, pure_bind_eq, hput, List.foldlM_pure,
      pure_bind_eq]
    rfl
  | block height hexHeader liquid => rfl
  | groupUpdate state =>
    rw [nativeCallbackBody, convert2JGroupSandbox_eq hthread, pure_bind_eq]
    rfl

/-- No callback throws. It launches the coroutine of its update exactly when its guard has an
    environment, and leaves the thread attached or detached as it was. -/
theorem run_nativeCallback (lib : LibNunchuk) (invocation : Invocation) (env : JavaEnv) :
    ∃ after : VmThread, after.env = invocation.thread.env ∧
      (nativeCallback lib invocation).run (invocation.thread, env) =
        (.ok (if (JNIEnvGuard.construct invocation.vm invocation.thread).1.test
            then some (invocation.callback.update lib) else none), (after, env)) := by
  refine ⟨(JNIEnvGuard.construct invocation.vm invocation.thread).1.destruct
    (JNIEnvGuard.construct invocation.vm invocation.thread).2, ?_, ?_⟩
  · exact (explains_construct invocation.vm invocation.thread).env_destruct
  · unfold nativeCallback
    rw [run_read_bind, run_update_bind,
      nativeCallbackBody_eq (lookups_resolves invocation) lib invocation.callback]
    cases (JNIEnvGuard.construct invocation.vm invocation.thread).1.test with
    | true => rfl
    | false => rfl

/-! ## Topics and values -/

/-- What later values replace earlier ones for. -/
inductive Topic where
  | wallet (walletId : String)
  | chain (liquid : Bool)
  | group (groupId : String)
  deriving DecidableEq, Repr

/-- The value of an update for its topic. -/
inductive Carried where
  | balances (update : BalancesUpdate)
  | height (height : Int)
  | group (group : JGroupSandbox)

def Update.topic : Update → Topic
  | .balances update => .wallet update.walletId
  | .block info => .chain info.isLiquid
  | .group state => .group state.id

def Update.carried : Update → Carried
  | .balances update => .balances update
  | .block info => .height info.height
  | .group state => .group state

/-- The wallet, chain or group that a callback is about. -/
def Callback.topic : Callback → Topic
  | .balances walletId _ _ _ => .wallet walletId
  | .block _ _ liquid => .chain liquid
  | .groupUpdate state => .group state.id

def Invocation.topic (invocation : Invocation) : Topic := invocation.callback.topic

/-- The value that a callback carries to Kotlin. -/
def Invocation.carried (lib : LibNunchuk) (invocation : Invocation) : Carried :=
  (invocation.callback.update lib).carried

theorem topic_update (lib : LibNunchuk) (callback : Callback) :
    (callback.update lib).topic = callback.topic := by
  cases callback with
  | balances walletId balance unconfirmedBalance assetBalances => rfl
  | block height hexHeader liquid => rfl
  | groupUpdate state => rfl

/-! ## The listeners -/

/-- The callbacks invoked so far, the coroutines in flight, and what was emitted. -/
structure ListenerState where
  invoked : List Invocation := []
  inFlight : List Update := []
  done : List Update := []

/-- libnunchuk invokes a callback, or `Dispatchers.IO` runs a coroutine. -/
inductive ListenerEvent where
  | callback (invocation : Invocation)
  | run (i : Nat)

/-- One event. -/
def listenerStep (lib : LibNunchuk) (s : ListenerState) : ListenerEvent → ListenerState
  | .callback invocation =>
    { s with
      invoked := s.invoked ++ [invocation]
      inFlight :=
        match ((nativeCallback lib invocation).run (invocation.thread, {})).1 with
        | .ok (some update) => s.inFlight ++ [update]
        | _ => s.inFlight }
  | .run i =>
    match s.inFlight[i]? with
    | some update => { s with inFlight := s.inFlight.eraseIdx i, done := s.done ++ [update] }
    | none => s

/-- The callbacks of a run. -/
def callbacksOf (es : List ListenerEvent) : List Invocation :=
  es.filterMap fun
    | .callback invocation => some invocation
    | .run _ => none

/-- For every topic the values emitted stand in the order of the callbacks, and once no coroutine of
    the topic is in flight the last of them is that of the last callback. -/
def ListenerState.InOrder (lib : LibNunchuk) (s : ListenerState) : Prop :=
  ∀ topic,
    (valuesAt Update.topic Update.carried topic s.done).Sublist
        (valuesAt Invocation.topic (Invocation.carried lib) topic s.invoked) ∧
      ((∀ update ∈ s.inFlight, update.topic ≠ topic) →
        (valuesAt Update.topic Update.carried topic s.done).getLast? =
          (valuesAt Invocation.topic (Invocation.carried lib) topic s.invoked).getLast?)

/-- For every topic the values emitted stand in the order of the callbacks, and are those of all
    its callbacks once no coroutine of the topic is in flight. -/
def ListenerState.InFull (lib : LibNunchuk) (s : ListenerState) : Prop :=
  ∀ topic,
    (valuesAt Update.topic Update.carried topic s.done).Sublist
        (valuesAt Invocation.topic (Invocation.carried lib) topic s.invoked) ∧
      ((∀ update ∈ s.inFlight, update.topic ≠ topic) →
        valuesAt Update.topic Update.carried topic s.done =
          valuesAt Invocation.topic (Invocation.carried lib) topic s.invoked)

/-- Every run with the given callbacks is in order in every state. -/
def InCallbackOrder (lib : LibNunchuk) (callbacks : List Invocation) : Prop :=
  ∀ es, callbacksOf es = callbacks →
    ∀ t ∈ states (listenerStep lib) {} es, t.InOrder lib

/-- Every run with the given callbacks emits all their values in order. -/
def InFullCallbackOrder (lib : LibNunchuk) (callbacks : List Invocation) : Prop :=
  ∀ es, callbacksOf es = callbacks →
    ∀ t ∈ states (listenerStep lib) {} es, t.InFull lib

/-- The callbacks about one topic all carry one value. -/
def OneValuePerTopic (lib : LibNunchuk) (callbacks : List Invocation) : Prop :=
  ∀ a ∈ callbacks, ∀ b ∈ callbacks, a.topic = b.topic → a.carried lib = b.carried lib

/-- The first callback about each topic finds an environment. -/
def FirstArrives (callbacks : List Invocation) : Prop :=
  ∀ before first after, callbacks = before ++ first :: after →
    (∀ earlier ∈ before, earlier.topic ≠ first.topic) → first.Arrives

/-- A callback finds an environment, and a coroutine that runs is the oldest in flight of its
    topic. -/
def ArrivesOldestFirst (s : ListenerState) : ListenerEvent → Prop
  | .callback invocation => invocation.Arrives
  | .run i => ∀ update, s.inFlight[i]? = some update →
    ∀ older ∈ s.inFlight.take i, older.topic ≠ update.topic

/-! ## The listeners are a dispatcher -/

/-- The request that a callback makes; it is lost where the guard has no environment. -/
def Invocation.request (lib : LibNunchuk) (invocation : Invocation) : Update × Bool :=
  (invocation.callback.update lib,
    (JNIEnvGuard.construct invocation.vm invocation.thread).1.test)

theorem request_kept_iff (lib : LibNunchuk) (invocation : Invocation) :
    (invocation.request lib).2 = true ↔ invocation.Arrives :=
  JNIEnvGuard.test_construct_iff invocation.vm invocation.thread

/-- The flows as a dispatcher. -/
def ListenerState.flows (lib : LibNunchuk) (s : ListenerState) : Dispatcher Update where
  requested := s.invoked.map (Invocation.request lib)
  inFlight := s.inFlight
  done := s.done

/-- The dispatcher's side of an event. -/
def ListenerEvent.dispatched (lib : LibNunchuk) : ListenerEvent → DispatchEvent Update
  | .callback invocation => .request (invocation.request lib).1 (invocation.request lib).2
  | .run i => .run i

theorem flows_listenerStep (lib : LibNunchuk) (s : ListenerState) (e : ListenerEvent) :
    (listenerStep lib s e).flows lib = dispatch (s.flows lib) (e.dispatched lib) := by
  cases e with
  | callback invocation =>
    obtain ⟨after, -, hrun⟩ := run_nativeCallback lib invocation {}
    simp only [listenerStep, hrun, ListenerState.flows, ListenerEvent.dispatched, dispatch,
      Invocation.request, List.map_append, List.map_singleton]
    cases (JNIEnvGuard.construct invocation.vm invocation.thread).1.test with
    | true => rfl
    | false => rfl
  | run i =>
    show (listenerStep lib s (.run i)).flows lib = dispatch (s.flows lib) (.run i)
    have hplace : (s.flows lib).inFlight[i]? = s.inFlight[i]? := rfl
    cases hrun : s.inFlight[i]? with
    | none =>
      rw [dispatch_run_none (hplace.trans hrun)]
      simp only [listenerStep, hrun]
    | some update =>
      rw [dispatch_run_some (hplace.trans hrun)]
      simp only [listenerStep, hrun]
      rfl

theorem valuesAt_requests (lib : LibNunchuk) (topic : Topic) (callbacks : List Invocation) :
    valuesAt Update.topic Update.carried topic
        ((callbacks.map (Invocation.request lib)).map Prod.fst) =
      valuesAt Invocation.topic (Invocation.carried lib) topic callbacks := by
  rw [List.map_map, valuesAt_map]
  simp only [Function.comp_apply, Invocation.request, topic_update]
  rfl

/-- Order among the callbacks is order among the requests. -/
theorem inOrder_flows_iff (lib : LibNunchuk) (s : ListenerState) :
    s.InOrder lib ↔ (s.flows lib).InOrder Update.topic Update.carried := by
  simp only [ListenerState.InOrder, Dispatcher.InOrder, ListenerState.flows, valuesAt_requests]

theorem inFull_flows_iff (lib : LibNunchuk) (s : ListenerState) :
    s.InFull lib ↔ (s.flows lib).InFull Update.topic Update.carried := by
  simp only [ListenerState.InFull, Dispatcher.InFull, ListenerState.flows, valuesAt_requests]

theorem requestsIn_dispatched (lib : LibNunchuk) (es : List ListenerEvent) :
    requestsIn (es.map (ListenerEvent.dispatched lib)) =
      (callbacksOf es).map (Invocation.request lib) := by
  induction es with
  | nil => rfl
  | cons e es ih =>
    cases e with
    | callback invocation => exact congrArg (List.cons (invocation.request lib)) ih
    | run i => exact ih

/-- A run of the dispatcher over the requests of some callbacks is one of the listeners. -/
theorem exists_dispatched {lib : LibNunchuk} {callbacks : List Invocation}
    {ds : List (DispatchEvent Update)}
    (h : requestsIn ds = callbacks.map (Invocation.request lib)) :
    ∃ es, callbacksOf es = callbacks ∧ es.map (ListenerEvent.dispatched lib) = ds := by
  induction ds generalizing callbacks with
  | nil =>
    refine ⟨[], ?_, rfl⟩
    exact (List.map_eq_nil_iff.mp h.symm).symm
  | cons d ds ih =>
    -- each request takes the next callback, a run takes none
    cases d with
    | request update kept =>
      cases callbacks with
      | nil => cases h
      | cons invocation callbacks =>
        obtain ⟨hrequest, hrest⟩ := List.cons.inj h
        obtain ⟨es, hes, hds⟩ := ih hrest
        refine ⟨.callback invocation :: es, congrArg (List.cons invocation) hes, ?_⟩
        rw [List.map_cons, hds, ListenerEvent.dispatched, ← hrequest]
    | run i =>
      obtain ⟨es, hes, hds⟩ := ih h
      refine ⟨.run i :: es, hes, ?_⟩
      rw [List.map_cons, hds, ListenerEvent.dispatched]

/-- What holds in all runs of the listeners with some callbacks, holds in all runs of the dispatcher
    with their requests. -/
theorem forall_listenerRuns_iff {lib : LibNunchuk} {callbacks : List Invocation}
    {P : ListenerState → Prop} {Q : Dispatcher Update → Prop} (hiff : ∀ s, P s ↔ Q (s.flows lib)) :
    (∀ es, callbacksOf es = callbacks → ∀ t ∈ states (listenerStep lib) {} es, P t) ↔
      ∀ ds, requestsIn ds = callbacks.map (Invocation.request lib) →
        ∀ d ∈ states dispatch {} ds, Q d := by
  -- the flows of a run of the listeners are a run of the dispatcher
  have himage := states_image (f := ListenerState.flows lib) (flows_listenerStep lib) {}
  constructor
  · intro h ds hds d hd
    obtain ⟨es, hes, rfl⟩ := exists_dispatched hds
    have hd : d ∈ states dispatch (ListenerState.flows lib {})
        (es.map (ListenerEvent.dispatched lib)) := hd
    rw [himage] at hd
    obtain ⟨t, ht, rfl⟩ := List.mem_map.mp hd
    exact (hiff t).mp (h es hes t ht)
  · intro h es hes t ht
    rw [hiff]
    apply h (es.map (ListenerEvent.dispatched lib))
    · rw [requestsIn_dispatched, hes]
    · show t.flows lib ∈ states dispatch (ListenerState.flows lib {})
        (es.map (ListenerEvent.dispatched lib))
      rw [himage]
      exact List.mem_map_of_mem ht

/-! ## When the order is kept -/

theorem oneValue_requests_iff (lib : LibNunchuk) (callbacks : List Invocation) :
    OneValue Update.topic Update.carried (callbacks.map (Invocation.request lib)) ↔
      OneValuePerTopic lib callbacks := by
  unfold OneValue OneValuePerTopic
  simp only [List.forall_mem_map, Invocation.request, topic_update]
  rfl

theorem firstKept_requests_iff (lib : LibNunchuk) (callbacks : List Invocation) :
    FirstKept Update.topic (callbacks.map (Invocation.request lib)) ↔ FirstArrives callbacks := by
  constructor
  · intro h before first after hsplit hbefore
    rw [← request_kept_iff lib]
    apply h (before.map (Invocation.request lib)) _ (after.map (Invocation.request lib))
    · rw [hsplit, List.map_append, List.map_cons]
    · rw [List.forall_mem_map]
      simpa only [Invocation.request, Invocation.topic, topic_update] using hbefore
  · intro h before first after hsplit hbefore
    obtain ⟨before, rest, rfl, rfl, hrest⟩ := List.map_eq_append_iff.mp hsplit
    obtain ⟨first, after, rfl, rfl, rfl⟩ := List.map_eq_cons_iff.mp hrest
    rw [request_kept_iff]
    apply h before first after rfl
    rw [List.forall_mem_map] at hbefore
    simpa only [Invocation.request, Invocation.topic, topic_update] using hbefore

/-- A run that loses no callback and takes the oldest coroutine of a topic first emits all values in
    the order of the callbacks, whatever they are. -/
theorem inFull_of_arrivesOldestFirst (lib : LibNunchuk) {es : List ListenerEvent}
    (h : Along (listenerStep lib) ArrivesOldestFirst {} es) :
    ∀ t ∈ states (listenerStep lib) {} es, t.InFull lib := by
  have hsame : ArrivesOldestFirst =
      fun s e => OldestFirst Update.topic (ListenerState.flows lib s) (e.dispatched lib) := by
    funext s e
    cases e with
    | callback invocation => exact propext (request_kept_iff lib invocation).symm
    | run i => rfl
  have hdispatched : Along dispatch (OldestFirst Update.topic) (ListenerState.flows lib {})
      (es.map (ListenerEvent.dispatched lib)) := by
    rw [hsame] at h
    exact (along_image (flows_listenerStep lib) (OldestFirst Update.topic) {} es).mp h
  have himage := states_image (flows_listenerStep lib) {} es
  intro t ht
  rw [inFull_flows_iff]
  apply inFull_of_oldestFirst hdispatched
  show t.flows lib ∈ states dispatch (ListenerState.flows lib {}) _
  rw [himage]
  exact List.mem_map_of_mem ht

/-- The latest value arrives under every schedule exactly when nothing can be seen of the order. -/
theorem inCallbackOrder_iff (lib : LibNunchuk) (callbacks : List Invocation) :
    InCallbackOrder lib callbacks ↔ FirstArrives callbacks ∧ OneValuePerTopic lib callbacks := by
  rw [← firstKept_requests_iff lib, ← oneValue_requests_iff, ← inOrder_all_iff]
  exact forall_listenerRuns_iff (inOrder_flows_iff lib)

/-- All values arrive where beside that no callback is lost. -/
theorem inFullCallbackOrder_iff (lib : LibNunchuk) (callbacks : List Invocation) :
    InFullCallbackOrder lib callbacks ↔
      (∀ invocation ∈ callbacks, invocation.Arrives) ∧ OneValuePerTopic lib callbacks := by
  have hkept : (∀ invocation ∈ callbacks, invocation.Arrives) ↔
      ∀ r ∈ callbacks.map (Invocation.request lib), r.2 = true := by
    simp only [List.forall_mem_map, request_kept_iff]
  rw [hkept, ← oneValue_requests_iff, ← inFull_all_iff]
  exact forall_listenerRuns_iff (inFull_flows_iff lib)

/-- **Updates arrive in the order of the callbacks**, up to the latest one of each topic, under
    every schedule exactly when the callbacks of each topic carry one value and the first of them
    finds an environment. They arrive in full exactly when every callback does. Whatever the
    callbacks carry, they arrive in full in every run in which each finds an environment and
    coroutines run oldest first within their topic. -/
theorem updates_inCallbackOrder_iff (lib : LibNunchuk) (callbacks : List Invocation) :
    (InCallbackOrder lib callbacks ↔
        FirstArrives callbacks ∧ OneValuePerTopic lib callbacks) ∧
      (InFullCallbackOrder lib callbacks ↔
        (∀ invocation ∈ callbacks, invocation.Arrives) ∧ OneValuePerTopic lib callbacks) ∧
      ∀ es, callbacksOf es = callbacks →
        Along (listenerStep lib) ArrivesOldestFirst {} es →
          ∀ t ∈ states (listenerStep lib) {} es, t.InFull lib :=
  ⟨inCallbackOrder_iff lib callbacks, inFullCallbackOrder_iff lib callbacks,
    fun _ _ h => inFull_of_arrivesOldestFirst lib h⟩

/-! ## A balance that goes back -/

/-- A callback on a thread of the library that can be attached. -/
def Callback.onLibraryThread (callback : Callback) : Invocation where
  callback := callback
  thread := libraryThread
  fromJava := false
  vm := ⟨none, 0⟩

/-- Two reports about one wallet: 1000, then 2500. -/
def risingBalance : List Invocation :=
  [Callback.onLibraryThread (.balances "wallet" 1000 0 ∅),
    Callback.onLibraryThread (.balances "wallet" 2500 0 ∅)]

/-- Some schedule emits the two out of order. -/
theorem risingBalance_not_inCallbackOrder : ¬ InCallbackOrder LibNunchuk.plain risingBalance := by
  rw [inCallbackOrder_iff]
  rintro ⟨-, h⟩
  have hsame := h _ List.mem_cons_self _ (List.mem_cons_of_mem _ List.mem_cons_self) rfl
  have hvalue : (1000 : Int) = 2500 :=
    congrArg (fun update => update.balance.value) (Carried.balances.inj hsame)
  exact absurd hvalue (by decide)

/-- A single report on a thread that cannot be attached is never seen. -/
example : ¬ InCallbackOrder LibNunchuk.plain
    [{ Callback.onLibraryThread (.block 900000 "" false) with vm := ⟨none, -1⟩ }] := by
  rw [inCallbackOrder_iff]
  rintro ⟨h, -⟩
  have harrives := h [] _ [] rfl fun _ hnone => absurd hnone List.not_mem_nil
  exact absurd (harrives.2 fun hattached => hattached rfl) (by decide)

end NunchukSdk
