import NunchukSdk.Foundation.KeyedMap
import NunchukSdk.Provider.Init
import NunchukSdk.ScriptTree.ScriptNode

/-!
# The Script-Node Cache

`transaction-jni.cpp` keeps a process-wide map from wallet ids to script trees. The three queries
on script nodes fill it through `GetOrBuildRootNode`; only `clearScriptNodeCache` removes an
entry. Neither `initNunchuk` nor any operation on the wallets touches the map.

## Model

- A Nunchuk instance is the map from wallet ids to the miniscripts of the wallets it holds.
- The queries follow the source with their handlers; what they ask of the node they find is a
  parameter.
- A run mixes account switches, writes and deletions of wallets, queries, and cache clearing.

## Results

- `getOrBuildRootNode_cases`: everything one lookup can do
- `faithful_iff_coherent`: lookups are right for every id exactly when every cached tree is the
  current instance's
- `scriptNodeCache_faithful_iff`: over any run, lookups are right in every state exactly when no
  step leaves a stale entry behind
-/

namespace NunchukSdk

open Foundation NativeM

/-! ## Instances and the library -/

/-- A `Nunchuk` instance, as far as script trees depend on it: the miniscript of the wallet held
    under each id. -/
abbrev NunchukInstance := Finmap fun _ : String => String

/-- The library calls behind a script tree. -/
structure ScriptTreeLib where
  /-- What `GetWallet` throws for an id the instance does not hold. -/
  walletNotFound : String → CppException
  /-- `Utils::GetScriptNode`. -/
  getScriptNode : String → Except CppException ScriptNode

/-- `nu->GetWallet(id)`, then `get_miniscript()`. -/
def ScriptTreeLib.getWalletMiniscript (lib : ScriptTreeLib) (nu : NunchukInstance)
    (walletId : String) : Except CppException String :=
  match nu.lookup walletId with
  | some miniscript => .ok miniscript
  | none => .error (lib.walletNotFound walletId)

/-- The tree that an instance gives for a wallet id. -/
def ScriptTreeLib.treeOf (lib : ScriptTreeLib) (nu : NunchukInstance) (walletId : String) :
    Except CppException ScriptNode :=
  match lib.getWalletMiniscript nu walletId with
  | .ok miniscript => lib.getScriptNode miniscript
  | .error e => .error e

/-! ## The cache and its users -/

/-- The provider with the map `script_node_cache`. -/
structure ScriptTreeState (μ : Type) where
  provider : NunchukProvider NunchukInstance μ
  cache : Finmap fun _ : String => ScriptNode

/-- The process before the first call. -/
def ScriptTreeState.start {μ : Type} : ScriptTreeState μ := ⟨{}, ∅⟩

section Queries

variable {μ ρ : Type}

/-- `GetOrBuildRootNode`. -/
def getOrBuildRootNode (lib : ScriptTreeLib) (walletId : String) :
    NativeM CppException (ScriptTreeState μ) ScriptNode := do
  let s ← read
  -- a hit is not compared with the wallet the instance holds now
  match s.cache.lookup walletId with
  | some root => pure root
  | none =>
    match s.provider.nu with
    | none => undefinedBehaviour
    | some nu => do
      let miniscript ← call (lib.getWalletMiniscript nu walletId)
      let root ← call (lib.getScriptNode miniscript)
      update fun s => { s with cache := s.cache.insert walletId root }
      pure root

/-- The part the three queries share: `use` is what is asked of the node that was found, and
    `absent` is returned when there is none. -/
def queryNode (lib : ScriptTreeLib) (abi : Abi) (walletId : String) (nodeId : List Int32)
    (use : ScriptNode → Except CppException ρ) (absent : ρ) :
    NativeM CppException (ScriptTreeState μ × JavaEnv) ρ := do
  let root ← onFst (getOrBuildRootNode lib walletId)
  match getNodeAtPath root (toNodePath abi nodeId) with
  | none => pure absent
  | some node => call (use node)

/-- `isSatisfiable`; `use` is `node->is_satisfiable(psbt)`. -/
def isSatisfiable (lib : ScriptTreeLib) (abi : Abi) (walletId : String) (nodeId : List Int32)
    (use : ScriptNode → Except CppException Bool) :
    NativeM CppException (ScriptTreeState μ × JavaEnv) Bool :=
  catchBaseStd (queryNode lib abi walletId nodeId use false)
    (fun code what => do
      onSnd (convert2JException code what)
      pure false)
    fun e => do
      onSnd (convertStdException2JException e)
      pure false

/-- The body that `getKeySetStatus` and `getCoinsGroupedBySubPolicies` share: a missing node is
    `nullptr`, a failure returns the pending throwable. -/
def queryNodeObject (lib : ScriptTreeLib) (abi : Abi) (walletId : String) (nodeId : List Int32)
    (use : ScriptNode → Except CppException ρ) :
    NativeM CppException (ScriptTreeState μ × JavaEnv) (JReturn ρ) :=
  catchBaseStd
    (queryNode lib abi walletId nodeId (fun node => (use node).map JReturn.object) .null)
    (fun code what => do
      onSnd (convert2JException code what)
      pure .throwable)
    fun e => do
      onSnd (convertStdException2JException e)
      pure .throwable

/-- `getKeySetStatus`: `GetTransaction`, then the status that the node computes for it. -/
def getKeySetStatus {τ : Type} (lib : ScriptTreeLib) (abi : Abi) (walletId : String)
    (nodeId : List Int32) (getTransaction : Except CppException τ)
    (getKeysetStatus : ScriptNode → τ → Except CppException ρ) :
    NativeM CppException (ScriptTreeState μ × JavaEnv) (JReturn ρ) :=
  queryNodeObject lib abi walletId nodeId fun node => do
    let tx ← getTransaction
    getKeysetStatus node tx

/-- `getCoinsGroupedBySubPolicies`: `GetTransaction`, `GetCoinsFromTxInputs`, `GetChainTip`, then
    the grouping of the coins under the node. -/
def getCoinsGroupedBySubPolicies {τ κ : Type} (lib : ScriptTreeLib) (abi : Abi)
    (walletId : String) (nodeId : List Int32) (getTransaction : Except CppException τ)
    (getCoinsFromTxInputs : τ → Except CppException κ) (getChainTip : Except CppException Int)
    (group : ScriptNode → κ → Int → Except CppException ρ) :
    NativeM CppException (ScriptTreeState μ × JavaEnv) (JReturn ρ) :=
  queryNodeObject lib abi walletId nodeId fun node => do
    let tx ← getTransaction
    let coins ← getCoinsFromTxInputs tx
    let chainTip ← getChainTip
    group node coins chainTip

/-- `clearScriptNodeCache`. -/
def clearScriptNodeCache (walletId : String) :
    NativeM CppException (ScriptTreeState μ) Unit :=
  update fun s => { s with cache := s.cache.erase walletId }

/-- **Step lemma.** What one lookup can do: hit the cache, crash without an instance, throw what
    the instance throws, or build the instance's tree and remember it. -/
theorem getOrBuildRootNode_cases (lib : ScriptTreeLib) (walletId : String)
    (s : ScriptTreeState μ) :
    (∃ root, s.cache.lookup walletId = some root ∧
      (getOrBuildRootNode lib walletId).run s = (.ok root, s)) ∨
    (s.cache.lookup walletId = none ∧ s.provider.nu = none ∧
      (getOrBuildRootNode lib walletId).run s = (.error .undefinedBehaviour, s)) ∨
    (∃ nu e, s.cache.lookup walletId = none ∧ s.provider.nu = some nu ∧
      lib.treeOf nu walletId = .error e ∧
      (getOrBuildRootNode lib walletId).run s = (.error (.thrown e), s)) ∨
    (∃ nu root, s.cache.lookup walletId = none ∧ s.provider.nu = some nu ∧
      lib.treeOf nu walletId = .ok root ∧
      (getOrBuildRootNode lib walletId).run s =
        (.ok root, { s with cache := s.cache.insert walletId root })) := by
  unfold getOrBuildRootNode
  rw [run_read_bind]
  cases hcache : s.cache.lookup walletId with
  | some root => exact Or.inl ⟨root, rfl, rfl⟩
  | none =>
    -- a miss: the instance is asked, first for the wallet and then for its tree
    refine Or.inr ?_
    cases hnu : s.provider.nu with
    | none => exact Or.inl ⟨rfl, rfl, rfl⟩
    | some nu =>
      refine Or.inr ?_
      dsimp only
      unfold ScriptTreeLib.treeOf
      cases hwallet : lib.getWalletMiniscript nu walletId with
      | error e =>
        refine Or.inl ⟨nu, e, rfl, rfl, by rw [hwallet], ?_⟩
        rw [run_call_error_bind]
      | ok miniscript =>
        cases htree : lib.getScriptNode miniscript with
        | error e =>
          refine Or.inl ⟨nu, e, rfl, rfl, by rw [hwallet]; exact htree, ?_⟩
          rw [run_call_ok_bind, htree, run_call_error_bind]
        | ok root =>
          refine Or.inr ⟨nu, root, rfl, rfl, by rw [hwallet]; exact htree, ?_⟩
          rw [run_call_ok_bind, htree, run_call_ok_bind, run_update_bind, run_pure]

/-- A query changes the cache exactly as its lookup does. -/
theorem queryNode_state (lib : ScriptTreeLib) (abi : Abi) (walletId : String)
    (nodeId : List Int32) (use : ScriptNode → Except CppException ρ) (absent : ρ)
    (s : ScriptTreeState μ) (env : JavaEnv) :
    ((queryNode lib abi walletId nodeId use absent).run (s, env)).2.1 =
      ((getOrBuildRootNode lib walletId).run s).2 := by
  unfold queryNode
  -- what follows the lookup only reads the tree
  rw [KeepsFst.run_bind_fst]
  · rfl
  · intro root
    cases getNodeAtPath root (toNodePath abi nodeId) with
    | none => exact keepsFst_pure _
    | some node => exact keepsFst_call _

/-- Raising a Java exception and returning leaves cache and provider alone. -/
private theorem keepsFst_raise (raise : Jni Unit) (failed : ρ) :
    KeepsFst (do onSnd raise; pure failed :
      NativeM CppException (ScriptTreeState μ × JavaEnv) ρ) :=
  (keepsFst_onSnd _).bind fun _ => keepsFst_pure _

theorem isSatisfiable_state (lib : ScriptTreeLib) (abi : Abi) (walletId : String)
    (nodeId : List Int32) (use : ScriptNode → Except CppException Bool)
    (s : ScriptTreeState μ) (env : JavaEnv) :
    ((isSatisfiable lib abi walletId nodeId use).run (s, env)).2.1 =
      ((getOrBuildRootNode lib walletId).run s).2 := by
  unfold isSatisfiable
  rw [run_catchBaseStd_fst (fun _ _ => keepsFst_raise _ _) fun _ => keepsFst_raise _ _]
  exact queryNode_state lib abi walletId nodeId use false s env

theorem queryNodeObject_state (lib : ScriptTreeLib) (abi : Abi) (walletId : String)
    (nodeId : List Int32) (use : ScriptNode → Except CppException ρ)
    (s : ScriptTreeState μ) (env : JavaEnv) :
    ((queryNodeObject lib abi walletId nodeId use).run (s, env)).2.1 =
      ((getOrBuildRootNode lib walletId).run s).2 := by
  unfold queryNodeObject
  rw [run_catchBaseStd_fst (fun _ _ => keepsFst_raise _ _) fun _ => keepsFst_raise _ _]
  exact queryNode_state lib abi walletId nodeId _ _ s env

end Queries

/-! ## Lookups and the current instance -/

section Faithful

variable {μ : Type}

/-- The tree that the current instance gives for a wallet id, if there is one. -/
def ScriptTreeState.currentTree (lib : ScriptTreeLib) (s : ScriptTreeState μ)
    (walletId : String) : Option ScriptNode :=
  match s.provider.nu with
  | some nu => (lib.treeOf nu walletId).toOption
  | none => none

/-- A lookup of the id is right: a tree it returns is the current instance's; it throws exactly
    when the instance does; and then the map is left as it was. -/
def Faithful (lib : ScriptTreeLib) (s : ScriptTreeState μ) (walletId : String) : Prop :=
  (∀ root, ((getOrBuildRootNode lib walletId).run s).1 = .ok root →
    ∃ nu, s.provider.nu = some nu ∧ lib.treeOf nu walletId = .ok root) ∧
  ((∃ e, ((getOrBuildRootNode lib walletId).run s).1 = .error (.thrown e)) ↔
    ∃ nu e, s.provider.nu = some nu ∧ lib.treeOf nu walletId = .error e) ∧
  ∀ e, ((getOrBuildRootNode lib walletId).run s).1 = .error (.thrown e) →
    ((getOrBuildRootNode lib walletId).run s).2.cache = s.cache

theorem currentTree_eq_some {lib : ScriptTreeLib} {s : ScriptTreeState μ} {walletId : String}
    {root : ScriptNode} :
    s.currentTree lib walletId = some root ↔
      ∃ nu, s.provider.nu = some nu ∧ lib.treeOf nu walletId = .ok root := by
  unfold ScriptTreeState.currentTree
  cases s.provider.nu with
  | none => simp
  | some nu =>
    simp only [Option.some.injEq, exists_eq_left']
    cases lib.treeOf nu walletId with
    | ok tree => simp [Except.toOption]
    | error e => simp [Except.toOption]

/-- Lookups are right for every id exactly when every cached tree is the current instance's. -/
theorem faithful_iff_coherent (lib : ScriptTreeLib) (s : ScriptTreeState μ) :
    (∀ walletId, Faithful lib s walletId) ↔ Coherent s.cache (s.currentTree lib) := by
  constructor
  · -- a cached tree is what the lookup returns
    intro h walletId root hcached
    apply currentTree_eq_some.mpr
    apply (h walletId).1
    obtain ⟨root', hhit, hrun⟩ | ⟨hmiss, -⟩ | ⟨_, _, hmiss, -⟩ | ⟨_, _, hmiss, -⟩ :=
      getOrBuildRootNode_cases lib walletId s
    · rw [hcached, Option.some.injEq] at hhit
      rw [hrun, hhit]
    all_goals
      rw [hcached] at hmiss
      cases hmiss
  · intro h walletId
    unfold Faithful
    obtain ⟨root, hhit, hrun⟩ | ⟨hmiss, hnu, hrun⟩ | ⟨nu, e, hmiss, hnu, htree, hrun⟩ |
      ⟨nu, root, hmiss, hnu, htree, hrun⟩ := getOrBuildRootNode_cases lib walletId s
    · -- a hit: coherence says whose tree it is, so the instance does not throw
      obtain ⟨nu, hnu, htree⟩ := currentTree_eq_some.mp (h walletId root hhit)
      simp [hrun, hnu, htree]
    · -- no instance: nothing is returned and nothing thrown
      simp [hrun, hnu]
    -- a miss: the answer is the instance's own, be it an exception or a tree
    · simp [hrun, hnu, htree]
    · simp [hrun, hnu, htree]

/-- A lookup keeps the cache coherent. -/
theorem coherent_getOrBuildRootNode (lib : ScriptTreeLib) (walletId : String)
    {s : ScriptTreeState μ} (h : Coherent s.cache (s.currentTree lib)) :
    Coherent ((getOrBuildRootNode lib walletId).run s).2.cache
      (((getOrBuildRootNode lib walletId).run s).2.currentTree lib) := by
  obtain ⟨root, -, hrun⟩ | ⟨-, -, hrun⟩ | ⟨nu, e, -, -, -, hrun⟩ |
    ⟨nu, root, -, hnu, htree, hrun⟩ := getOrBuildRootNode_cases lib walletId s
  · rw [hrun]
    exact h
  · rw [hrun]
    exact h
  · rw [hrun]
    exact h
  -- only a miss that builds a tree changes the map
  · rw [hrun]
    have hcurrent : s.currentTree lib walletId = some root :=
      currentTree_eq_some.mpr ⟨nu, hnu, htree⟩
    exact h.insert hcurrent

end Faithful

/-! ## Runs -/

/-- A call that reaches the provider, the wallets or the cache. What a query returns plays no
    role for the map, so the values that the library computes for it are `Unit`. -/
inductive CacheEvent (φ μ : Type) where
  /-- A switch of account, chain or decoy pin. -/
  | initNunchuk (c : InitCall φ NunchukInstance μ)
  /-- `createWallet`, `importWallet` or `updateWallet`: the id and miniscript it saved. -/
  | saveWallet (saved : Except CppException (String × String))
  | deleteWallet (walletId : String) (deleted : Except CppException Bool)
  | isSatisfiable (walletId : String) (nodeId : List Int32)
      (use : ScriptNode → Except CppException Bool)
  | getKeySetStatus (walletId : String) (nodeId : List Int32)
      (getTransaction : Except CppException Unit)
      (getKeysetStatus : ScriptNode → Except CppException Unit)
  | getCoinsGroupedBySubPolicies (walletId : String) (nodeId : List Int32)
      (getTransaction getCoinsFromTxInputs : Except CppException Unit)
      (getChainTip : Except CppException Int)
      (group : ScriptNode → Int → Except CppException Unit)
  | clearScriptNodeCache (walletId : String)

section Runs

variable {φ μ : Type}

/-- Change the wallets of the current instance. -/
def ScriptTreeState.onWallets (s : ScriptTreeState μ) (f : NunchukInstance → NunchukInstance) :
    ScriptTreeState μ :=
  { s with provider := { s.provider with nu := s.provider.nu.map f } }

/-- One call of a run. -/
def cacheStep (lib : ScriptTreeLib) (abi : Abi) (s : ScriptTreeState μ) :
    CacheEvent φ μ → ScriptTreeState μ
  | .initNunchuk c => { s with provider := ((initNunchuk c).run s.provider).2 }
  -- the wallets change, the map does not
  | .saveWallet (.ok (walletId, miniscript)) => s.onWallets (·.insert walletId miniscript)
  | .saveWallet (.error _) => s
  | .deleteWallet walletId (.ok true) => s.onWallets (·.erase walletId)
  | .deleteWallet _ (.ok false) => s
  | .deleteWallet _ (.error _) => s
  | .isSatisfiable walletId nodeId use =>
    ((NunchukSdk.isSatisfiable lib abi walletId nodeId use).run (s, {})).2.1
  | .getKeySetStatus walletId nodeId getTransaction getKeysetStatus =>
    ((NunchukSdk.getKeySetStatus lib abi walletId nodeId getTransaction
      fun node _ => getKeysetStatus node).run (s, {})).2.1
  | .getCoinsGroupedBySubPolicies walletId nodeId getTransaction getCoins getChainTip group =>
    ((NunchukSdk.getCoinsGroupedBySubPolicies lib abi walletId nodeId getTransaction
      (fun _ => getCoins) getChainTip fun node _ tip => group node tip).run (s, {})).2.1
  | .clearScriptNodeCache walletId => ((NunchukSdk.clearScriptNodeCache walletId).run s).2

/-- The call leaves no stale entry behind: a switch brings an instance that gives every cached
    tree, a saved wallet has the tree cached for its id, a deleted one has no cached tree. -/
def LeavesNoStaleEntry (lib : ScriptTreeLib) (s : ScriptTreeState μ) : CacheEvent φ μ → Prop
  | .initNunchuk c => ∀ nu, c.nuOutcome = .ok nu → ∀ walletId root,
      s.cache.lookup walletId = some root → lib.treeOf nu walletId = .ok root
  | .saveWallet (.ok (walletId, miniscript)) => ∀ root,
      s.cache.lookup walletId = some root → lib.getScriptNode miniscript = .ok root
  | .deleteWallet walletId (.ok true) => s.cache.lookup walletId = none
  | _ => True

/-- What an instance gives after a wallet was saved. -/
theorem treeOf_insert (lib : ScriptTreeLib) (nu : NunchukInstance) (walletId miniscript : String) :
    lib.treeOf (nu.insert walletId miniscript) walletId = lib.getScriptNode miniscript := by
  unfold ScriptTreeLib.treeOf ScriptTreeLib.getWalletMiniscript
  rw [Finmap.lookup_insert]

theorem treeOf_insert_of_ne (lib : ScriptTreeLib) (nu : NunchukInstance)
    {walletId walletId' : String} (miniscript : String) (h : walletId' ≠ walletId) :
    lib.treeOf (nu.insert walletId miniscript) walletId' = lib.treeOf nu walletId' := by
  unfold ScriptTreeLib.treeOf ScriptTreeLib.getWalletMiniscript
  rw [Finmap.lookup_insert_of_ne _ h]

/-- What an instance gives after a wallet was deleted. -/
theorem treeOf_erase (lib : ScriptTreeLib) (nu : NunchukInstance) (walletId : String) :
    lib.treeOf (nu.erase walletId) walletId = .error (lib.walletNotFound walletId) := by
  unfold ScriptTreeLib.treeOf ScriptTreeLib.getWalletMiniscript
  rw [Finmap.lookup_erase]

theorem treeOf_erase_of_ne (lib : ScriptTreeLib) (nu : NunchukInstance)
    {walletId walletId' : String} (h : walletId' ≠ walletId) :
    lib.treeOf (nu.erase walletId) walletId' = lib.treeOf nu walletId' := by
  unfold ScriptTreeLib.treeOf ScriptTreeLib.getWalletMiniscript
  rw [Finmap.lookup_erase_ne h]

/-- A switch keeps the cache coherent exactly when the new instance gives every cached tree. -/
theorem coherent_switch_iff (lib : ScriptTreeLib) (abi : Abi) {s : ScriptTreeState μ}
    (h : Coherent s.cache (s.currentTree lib)) (c : InitCall φ NunchukInstance μ) :
    Coherent (cacheStep lib abi s (.initNunchuk c)).cache
        ((cacheStep lib abi s (.initNunchuk c)).currentTree lib) ↔
      LeavesNoStaleEntry lib s (.initNunchuk c) := by
  have hnu : (cacheStep lib abi s (.initNunchuk c)).provider.nu =
      match c.nuOutcome with
      | .ok nu => some nu
      | .error _ => s.provider.nu := by
    show ((NunchukSdk.initNunchuk c).run s.provider).2.nu = _
    rw [initNunchuk_nu]
    cases c.nuOutcome <;> rfl
  simp only [LeavesNoStaleEntry]
  cases hc : c.nuOutcome with
  | error e =>
    -- the old instance stays
    rw [hc] at hnu
    constructor
    · intro _ _ hnew
      cases hnew
    · intro _ walletId root hcached
      obtain ⟨nu, hold, htree⟩ := currentTree_eq_some.mp (h walletId root hcached)
      exact currentTree_eq_some.mpr ⟨nu, hnu.trans hold, htree⟩
  -- a new instance: coherence speaks about its trees from here on
  | ok nu =>
    rw [hc] at hnu
    constructor
    · intro hcoherent nu' hnew walletId root hcached
      cases hnew
      obtain ⟨nu', hnu', htree⟩ := currentTree_eq_some.mp (hcoherent walletId root hcached)
      rw [hnu, Option.some.injEq] at hnu'
      rw [hnu']
      exact htree
    · intro hsafe walletId root hcached
      exact currentTree_eq_some.mpr ⟨nu, hnu, hsafe nu rfl walletId root hcached⟩

/-- A saved wallet keeps the cache coherent exactly when its tree is the one cached. -/
theorem coherent_saveWallet_iff (lib : ScriptTreeLib) {s : ScriptTreeState μ}
    (h : Coherent s.cache (s.currentTree lib)) (walletId miniscript : String) :
    Coherent s.cache ((s.onWallets (·.insert walletId miniscript)).currentTree lib) ↔
      ∀ root, s.cache.lookup walletId = some root → lib.getScriptNode miniscript = .ok root := by
  -- the trees of the other wallets are what they were
  rw [h.update_iff (k := walletId)]
  · apply forall_congr'
    intro root
    refine imp_congr_right fun hcached => ?_
    obtain ⟨nu, hnu, -⟩ := currentTree_eq_some.mp (h walletId root hcached)
    simp only [currentTree_eq_some, ScriptTreeState.onWallets, hnu, Option.map_some,
      Option.some.injEq, exists_eq_left', treeOf_insert]
  · intro walletId' hne
    unfold ScriptTreeState.currentTree ScriptTreeState.onWallets
    cases s.provider.nu with
    | none => rfl
    | some nu => simp only [Option.map_some, treeOf_insert_of_ne lib nu miniscript hne]

/-- A deleted wallet keeps the cache coherent exactly when its tree is not cached. -/
theorem coherent_deleteWallet_iff (lib : ScriptTreeLib) {s : ScriptTreeState μ}
    (h : Coherent s.cache (s.currentTree lib)) (walletId : String) :
    Coherent s.cache ((s.onWallets (·.erase walletId)).currentTree lib) ↔
      s.cache.lookup walletId = none := by
  -- the instance throws for a deleted wallet, so that no cached tree is right
  rw [h.update_iff (k := walletId), Option.eq_none_iff_forall_ne_some]
  · apply forall_congr'
    intro root
    refine imp_congr_right fun hcached => ?_
    obtain ⟨nu, hnu, -⟩ := currentTree_eq_some.mp (h walletId root hcached)
    simp [currentTree_eq_some, ScriptTreeState.onWallets, hnu, treeOf_erase]
  · intro walletId' hne
    unfold ScriptTreeState.currentTree ScriptTreeState.onWallets
    cases s.provider.nu with
    | none => rfl
    | some nu => simp only [Option.map_some, treeOf_erase_of_ne lib nu hne]

/-- **Step lemma for runs.** From a coherent cache, a call leaves the cache coherent exactly when
    it leaves no stale entry behind. -/
theorem coherent_cacheStep_iff (lib : ScriptTreeLib) (abi : Abi) {s : ScriptTreeState μ}
    (h : Coherent s.cache (s.currentTree lib)) (e : CacheEvent φ μ) :
    Coherent (cacheStep lib abi s e).cache ((cacheStep lib abi s e).currentTree lib) ↔
      LeavesNoStaleEntry lib s e := by
  -- the three queries change the state as their lookup does
  have hlookup := fun walletId => coherent_getOrBuildRootNode lib walletId h
  cases e with
  | initNunchuk c => exact coherent_switch_iff lib abi h c
  | saveWallet saved =>
    cases saved with
    | ok saved => exact coherent_saveWallet_iff lib h saved.1 saved.2
    | error e => exact iff_of_true h trivial
  | deleteWallet walletId deleted =>
    match deleted with
    | .ok true => exact coherent_deleteWallet_iff lib h walletId
    | .ok false => exact iff_of_true h trivial
    | .error e => exact iff_of_true h trivial
  | isSatisfiable walletId nodeId use =>
    refine iff_of_true ?_ trivial
    simp only [cacheStep, isSatisfiable_state]
    exact hlookup walletId
  | getKeySetStatus walletId nodeId getTransaction getKeysetStatus =>
    refine iff_of_true ?_ trivial
    simp only [cacheStep, NunchukSdk.getKeySetStatus, queryNodeObject_state]
    exact hlookup walletId
  | getCoinsGroupedBySubPolicies walletId nodeId getTransaction getCoins getChainTip group =>
    refine iff_of_true ?_ trivial
    simp only [cacheStep, NunchukSdk.getCoinsGroupedBySubPolicies, queryNodeObject_state]
    exact hlookup walletId
  | clearScriptNodeCache walletId => exact iff_of_true (h.erase walletId) trivial

/-- **The cache is coherent as long as nobody moves a cached wallet.** Along every run, lookups
    are right for every id in every state exactly when no call leaves a stale entry behind. -/
theorem scriptNodeCache_faithful_iff (lib : ScriptTreeLib) (abi : Abi)
    (es : List (CacheEvent φ μ)) :
    (∀ s ∈ states (cacheStep lib abi) ScriptTreeState.start es,
        ∀ walletId, Faithful lib s walletId) ↔
      Along (cacheStep lib abi) (LeavesNoStaleEntry lib) ScriptTreeState.start es := by
  have hstart : Coherent (ScriptTreeState.start : ScriptTreeState μ).cache
      ((ScriptTreeState.start : ScriptTreeState μ).currentTree lib) := coherent_empty _
  -- the invariant is coherence, which is the property itself: no state lies between
  simp only [faithful_iff_coherent]
  rw [forall_states_iff, and_iff_right hstart]
  apply along_iff_of_inv (V := fun _ _ => True)
    (I := fun s => Coherent s.cache (s.currentTree lib))
  · intro s e h _
    exact coherent_cacheStep_iff lib abi h e
  · intro s e h _ hsafe
    exact (coherent_cacheStep_iff lib abi h e).mpr hsafe
  · exact hstart
  · exact along_true _ _ _

end Runs

/-! ## A stale tree -/

/-- A library whose trees are single nodes named by the miniscript. -/
def leafLib : ScriptTreeLib where
  walletNotFound := fun walletId => .base (-1000) walletId
  getScriptNode := fun miniscript => .ok (.node ⟨[1], .other 0, [miniscript], 0, []⟩ [])

/-- A switch to an instance that holds the given wallets. -/
def switchToWallets (nu : NunchukInstance) : CacheEvent Unit Unit :=
  .initNunchuk
    { args := switchArgs "account"
      factories :=
        { makeNunchukForAccount := fun _ _ _ => .ok nu
          makeNunchukForDecoyPin := fun _ _ => .ok nu
          makeNunchukMatrixForAccount := fun _ _ _ _ _ => .ok () } }

/-- A query about the root node of the wallet `w`. -/
def queryRoot : CacheEvent Unit Unit := .isSatisfiable "w" [1] fun _ => .ok true

/-- After a switch to an account without the wallet `w`, its tree is still served. -/
theorem scriptNodeCache_serves_old_account :
    ¬ ∀ es : List (CacheEvent Unit Unit),
      ∀ s ∈ states (cacheStep leafLib .lp64) ScriptTreeState.start es,
        ∀ walletId, Faithful leafLib s walletId := by
  intro h
  -- alice's tree is cached, and the instance after the switch has no wallet
  have hmem := runFrom_mem_states (cacheStep leafLib .lp64)
    (ScriptTreeState.start : ScriptTreeState Unit)
    [switchToWallets (Finmap.singleton "w" "pk(A)"), queryRoot, switchToWallets ∅]
  obtain ⟨nu, hnu, htree⟩ := (h _ _ hmem "w").1 _ rfl
  cases hnu
  cases htree

end NunchukSdk
