import NunchukSdk.Provider.Init

/-!
# The BitBox Manager

`bitbox-jni.cpp` keeps one process-wide `BitBoxManager`. The manager holds a reference to the
`Nunchuk` instance it was constructed from and writes pairing data to the database of that
instance, so the file promises that it is *rebuilt whenever the underlying Nunchuk instance
changes*. Change is detected by comparing the raw address of the current instance with the one
remembered from the last rebuild.

## Model

- An instance is its address together with the number of the `initNunchuk` call that made it:
  addresses may come back after an instance was destroyed, numbers do not.
- `bitboxManager` follows the code and compares addresses only.
- `AddressView` replays a run on addresses alone: the current one, the one BitBox was last
  served at, and how many times `nu` was replaced in between.

## Results

- `bitboxManager_cases`: everything one call of `bitboxManager()` can do
- `bitbox_boundToCurrent_iff`: over any run, each manager returned is bound to the current
  instance exactly when no BitBox call comes after two or more switches that brought the old
  address back
-/

namespace NunchukSdk

open Foundation NativeM

/-! ## The manager and its guard -/

/-- The address of a native object. -/
abbrev Address := Nat

/-- A `BitBoxManager`: the `Nunchuk &` it was constructed from. -/
structure BitBoxManager where
  nunchuk : Made Address
  deriving DecidableEq, Repr

/-- The provider with the two globals of `bitbox-jni.cpp`. -/
structure BitBoxState (μ : Type) where
  switch : SwitchState Address μ
  /-- `g_bitboxManager`. -/
  manager : Option BitBoxManager
  /-- `g_bitboxNunchuk`; `none` is `nullptr`. -/
  bitboxNunchuk : Option Address

namespace BitBoxState

variable {μ : Type}

/-- The process before the first call. -/
def start : BitBoxState μ := ⟨SwitchState.start, none, none⟩

/-- `NunchukProvider::get()->nu`. -/
def nu (s : BitBoxState μ) : Option (Made Address) := s.switch.provider.nu

/-- The guard `!g_bitboxManager || g_bitboxNunchuk != nu`. -/
def MustRebuild (s : BitBoxState μ) (nu : Made Address) : Prop :=
  s.manager = none ∨ s.bitboxNunchuk ≠ some nu.val

instance (s : BitBoxState μ) (nu : Made Address) : Decidable (s.MustRebuild nu) :=
  inferInstanceAs (Decidable (_ ∨ _))

/-- Both globals after a rebuild. -/
def rebuilt (s : BitBoxState μ) (nu : Made Address) : BitBoxState μ :=
  { s with manager := some ⟨nu⟩, bitboxNunchuk := some nu.val }

end BitBoxState

section Manager

variable {φ μ : Type}

/-- `bitboxManager()`; `construct` is the outcome of the constructor of `BitBoxManager`. -/
def bitboxManager (construct : Except CppException Unit) :
    NativeM CppException (BitBoxState μ) BitBoxManager := do
  let s ← read
  match s.nu with
  | none => throwing (.std "Nunchuk is not initialized")
  | some nu => do
    if s.MustRebuild nu then do
      call construct
      update fun s => s.rebuilt nu
    let s ← read
    match s.manager with
    | some manager => pure manager
    | none => undefinedBehaviour

/-- **Step lemma.** What one call can do: find no instance, return the manager it has, fail to
    build a new one, or build a new one from the current instance. -/
theorem bitboxManager_cases (construct : Except CppException Unit) (s : BitBoxState μ) :
    (s.nu = none ∧ ∃ e, (bitboxManager construct).run s = (.error (.thrown e), s)) ∨
    (∃ nu manager, s.nu = some nu ∧ s.manager = some manager ∧
      s.bitboxNunchuk = some nu.val ∧ (bitboxManager construct).run s = (.ok manager, s)) ∨
    (∃ nu e, s.nu = some nu ∧ s.MustRebuild nu ∧ construct = .error e ∧
      (bitboxManager construct).run s = (.error (.thrown e), s)) ∨
    (∃ nu, s.nu = some nu ∧ s.MustRebuild nu ∧ construct = .ok () ∧
      (bitboxManager construct).run s = (.ok ⟨nu⟩, s.rebuilt nu)) := by
  unfold bitboxManager
  rw [run_read_bind]
  cases hnu : s.nu with
  | none => exact Or.inl ⟨rfl, _, rfl⟩
  | some nu =>
    refine Or.inr ?_
    by_cases hguard : s.MustRebuild nu
    · -- the guard asks for a new manager
      simp only [if_pos hguard]
      cases construct with
      | error e => exact Or.inr (Or.inl ⟨nu, e, rfl, hguard, rfl, rfl⟩)
      | ok u => exact Or.inr (Or.inr ⟨nu, rfl, hguard, rfl, rfl⟩)
    · -- the guard accepts the manager there is
      obtain ⟨hmanager, haddress⟩ := not_or.mp hguard
      obtain ⟨manager, hmanager⟩ := Option.ne_none_iff_exists'.mp hmanager
      refine Or.inl ⟨nu, manager, rfl, hmanager, not_not.mp haddress, ?_⟩
      simp only [if_neg hguard, run_read_bind, hmanager, run_pure]

end Manager

/-! ## Runs of switches and BitBox calls -/

/-- A call that reaches the provider or the BitBox manager. -/
inductive BitBoxEvent (φ μ : Type) where
  /-- `initNunchuk`: the address of the new instance is the allocator's choice. -/
  | initNunchuk (c : InitCall φ Address μ)
  /-- A `bitbox*` entry point, with the outcome of the constructor if it is needed. -/
  | bitbox (construct : Except CppException Unit)

section Runs

variable {φ μ : Type}

/-- One call of a run. -/
def bitboxStep (s : BitBoxState μ) : BitBoxEvent φ μ → BitBoxState μ
  | .initNunchuk c => { s with switch := switchStep s.switch c }
  | .bitbox construct => ((bitboxManager construct).run s).2

/-- A manager that `bitboxManager()` returns was constructed from the current instance. -/
def BoundToCurrent (s : BitBoxState μ) : BitBoxEvent φ μ → Prop
  | .initNunchuk _ => True
  | .bitbox construct =>
    ∀ manager, ((bitboxManager construct).run s).1 = .ok manager → s.nu = some manager.nunchuk

/-- The allocator never hands out the address of an instance that is still alive: the old `nu`
    is destroyed only after the new one was made. -/
def AllocatorValid (s : BitBoxState μ) : BitBoxEvent φ μ → Prop
  | .initNunchuk c => ∀ address, c.nuOutcome = .ok address →
      ∀ nu, s.nu = some nu → address ≠ nu.val
  | .bitbox _ => True

/-! ### The run on addresses -/

/-- What the addresses alone tell about a run. -/
structure AddressView where
  /-- The address of the current instance. -/
  current : Option Address := none
  /-- The address of the instance that BitBox was last served at. -/
  lastServed : Option Address := none
  /-- How many instances were replaced since then. -/
  replaced : Nat := 0

/-- The view after one call. -/
def AddressView.step (v : AddressView) : BitBoxEvent φ μ → AddressView
  | .initNunchuk c =>
    match c.nuOutcome with
    | .ok address => { v with current := some address, replaced := v.replaced + 1 }
    | .error _ => v
  | .bitbox construct =>
    if v.current = none ∨ v.lastServed = v.current then v
    else
      match construct with
      | .ok _ => { v with lastServed := v.current, replaced := 0 }
      | .error _ => v

/-- A BitBox call does not meet the address it was last served at after two or more switches. -/
def AddressView.NoReuse (v : AddressView) : BitBoxEvent φ μ → Prop
  | .initNunchuk _ => True
  | .bitbox _ => ∀ address, v.current = some address → v.lastServed = some address →
      v.replaced < 2

/-- How the process and the view fit together while every manager returned was the right one. -/
structure Tracks (s : BitBoxState μ) (v : AddressView) : Prop where
  /-- Instances are older than the next call. -/
  madeBefore : s.switch.provider.MadeBefore s.switch.calls
  current : v.current = s.nu.map Made.val
  /-- The remembered address is the one of the manager's instance. -/
  served : s.bitboxNunchuk = v.lastServed ∧
    v.lastServed = s.manager.map fun manager => manager.nunchuk.val
  /-- Nothing replaced: the manager's instance is the current one. -/
  unreplaced : ∀ manager, s.manager = some manager → v.replaced = 0 →
    s.nu = some manager.nunchuk
  /-- One instance replaced: it was still alive when the current one was allocated. -/
  once : ∀ manager, s.manager = some manager → v.replaced = 1 → v.current ≠ v.lastServed
  /-- Something replaced: the manager's instance is older than the current one. -/
  older : ∀ manager, s.manager = some manager → 0 < v.replaced →
    ∃ nu, s.nu = some nu ∧ manager.nunchuk.madeBy < nu.madeBy

theorem tracks_start : Tracks (BitBoxState.start : BitBoxState μ) {} where
  madeBefore := ⟨fun _ h => (nomatch h), fun _ h => (nomatch h)⟩
  current := rfl
  served := ⟨rfl, rfl⟩
  unreplaced := fun _ h => (nomatch h)
  once := fun _ h => (nomatch h)
  older := fun _ h => (nomatch h)

/-- The view shows the address of the instance there is. -/
theorem Tracks.current_of_some {s : BitBoxState μ} {v : AddressView} (h : Tracks s v)
    {nu : Made Address} (hnu : s.nu = some nu) : v.current = some nu.val := by
  rw [h.current, hnu]
  rfl

theorem Tracks.current_of_none {s : BitBoxState μ} {v : AddressView} (h : Tracks s v)
    (hnu : s.nu = none) : v.current = none := by
  rw [h.current, hnu]
  rfl

/-- What the view says of the instance that the guard compares. -/
theorem Tracks.lastServed_eq_of_keeps {s : BitBoxState μ} {v : AddressView} (h : Tracks s v)
    {nu : Made Address} {manager : BitBoxManager} (hnu : s.nu = some nu)
    (hmanager : s.manager = some manager) (haddress : s.bitboxNunchuk = some nu.val) :
    v.current = some nu.val ∧ v.lastServed = some nu.val ∧
      (v.replaced < 2 ↔ s.nu = some manager.nunchuk) := by
  have hcurrent := h.current_of_some hnu
  have hserved : v.lastServed = some nu.val := by rw [← h.served.1, haddress]
  refine ⟨hcurrent, hserved, fun hlt => ?_, fun hbound => ?_⟩
  · -- one replacement is excluded by the allocator
    have hne : v.replaced ≠ 1 := by
      intro hone
      exact h.once manager hmanager hone (by rw [hcurrent, hserved])
    exact h.unreplaced manager hmanager (by omega)
  · -- with a replacement the manager's instance would be older than itself
    by_contra hge
    obtain ⟨nu', hnu', hlt⟩ := h.older manager hmanager (by omega)
    rw [hnu', Option.some.injEq] at hbound
    rw [hbound] at hlt
    exact Nat.lt_irrefl _ hlt

/-- The guard accepts the current manager exactly when the view has the two addresses equal. -/
theorem Tracks.mustRebuild_iff {s : BitBoxState μ} {v : AddressView} (h : Tracks s v)
    {nu : Made Address} (hnu : s.nu = some nu) :
    s.MustRebuild nu ↔ ¬ (v.current = none ∨ v.lastServed = v.current) := by
  have hcurrent := h.current_of_some hnu
  have hserved := h.served.2
  unfold BitBoxState.MustRebuild
  rw [h.served.1, hcurrent]
  cases hmanager : s.manager with
  | none =>
    rw [hmanager] at hserved
    simp [hserved]
  | some manager => simp

/-- At one call the process and the view agree. -/
theorem Tracks.boundToCurrent_iff {s : BitBoxState μ} {v : AddressView} (h : Tracks s v)
    (e : BitBoxEvent φ μ) : BoundToCurrent s e ↔ v.NoReuse e := by
  cases e with
  | initNunchuk c => exact Iff.rfl
  | bitbox construct =>
    simp only [BoundToCurrent, AddressView.NoReuse]
    obtain ⟨hnu, e, hrun⟩ | ⟨nu, manager, hnu, hmanager, haddress, hrun⟩ |
      ⟨nu, e, hnu, hrebuild, -, hrun⟩ | ⟨nu, hnu, hrebuild, -, hrun⟩ :=
        bitboxManager_cases construct s
    · -- no instance: nothing is returned and there is no current address
      have hcurrent := h.current_of_none hnu
      simp [hrun, hcurrent]
    · -- the manager there is
      obtain ⟨hcurrent, hserved, hiff⟩ := h.lastServed_eq_of_keeps hnu hmanager haddress
      rw [hrun]
      refine ⟨fun hbound _ _ _ => hiff.mpr (hbound manager rfl), fun hreuse m hm => ?_⟩
      cases hm
      exact hiff.mp (hreuse nu.val hcurrent hserved)
    · -- a failed rebuild returns nothing
      obtain ⟨_, hne⟩ := not_or.mp ((h.mustRebuild_iff hnu).mp hrebuild)
      rw [hrun]
      exact ⟨fun _ _ hcurrent hserved => absurd (hserved.trans hcurrent.symm) hne,
        fun _ m hm => by cases hm⟩
    · -- a rebuild returns a manager of the current instance
      obtain ⟨_, hne⟩ := not_or.mp ((h.mustRebuild_iff hnu).mp hrebuild)
      rw [hrun]
      refine ⟨fun _ _ hcurrent hserved => absurd (hserved.trans hcurrent.symm) hne,
        fun _ m hm => ?_⟩
      cases hm
      exact hnu

/-- A switch replaces the instance unless it throws. -/
theorem nu_bitboxStep_initNunchuk (s : BitBoxState μ) (c : InitCall φ Address μ) :
    (bitboxStep s (BitBoxEvent.initNunchuk c)).nu =
      match c.nuOutcome with
      | .ok address => some ⟨s.switch.calls, address⟩
      | .error _ => s.nu := by
  show ((NunchukSdk.initNunchuk (c.stamp s.switch.calls)).run s.switch.provider).2.nu = _
  rw [initNunchuk_nu, InitCall.stamp_nuOutcome]
  cases c.nuOutcome <;> rfl

/-- A switch that throws on the first factory replaces nothing. -/
theorem Tracks.initNunchuk_failed {s : BitBoxState μ} {v : AddressView} (h : Tracks s v)
    {c : InitCall φ Address μ} {e : CppException} (hc : c.nuOutcome = .error e) :
    Tracks (bitboxStep s (BitBoxEvent.initNunchuk c)) (v.step (BitBoxEvent.initNunchuk c)) := by
  have hnu := nu_bitboxStep_initNunchuk s c
  rw [hc] at hnu
  -- the view counts only switches that made an instance
  have hview : v.step (BitBoxEvent.initNunchuk c) = v := by
    simp only [AddressView.step, hc]
  rw [hview]
  exact
    { madeBefore := madeBefore_switchStep s.switch c h.madeBefore
      current := by rw [hnu]; exact h.current
      served := h.served
      unreplaced := fun m hm h0 => by rw [hnu]; exact h.unreplaced m hm h0
      once := h.once
      older := fun m hm hpos => by rw [hnu]; exact h.older m hm hpos }

/-- What a manager is bound to was made by an earlier call. -/
theorem Tracks.manager_older {s : BitBoxState μ} {v : AddressView} (h : Tracks s v)
    {m : BitBoxManager} (hm : s.manager = some m) : m.nunchuk.madeBy < s.switch.calls := by
  rcases Nat.eq_zero_or_pos v.replaced with h0 | hpos
  · exact h.madeBefore.1 _ (h.unreplaced m hm h0)
  · obtain ⟨nu, hold, hlt⟩ := h.older m hm hpos
    exact Nat.lt_trans hlt (h.madeBefore.1 nu hold)

/-- A switch keeps process and view together. -/
theorem Tracks.initNunchuk {s : BitBoxState μ} {v : AddressView} (h : Tracks s v)
    (c : InitCall φ Address μ)
    (hvalid : AllocatorValid s (BitBoxEvent.initNunchuk c)) :
    Tracks (bitboxStep s (BitBoxEvent.initNunchuk c)) (v.step (BitBoxEvent.initNunchuk c)) := by
  cases hc : c.nuOutcome with
  | error e => exact h.initNunchuk_failed hc
  | ok address =>
    have hnu := nu_bitboxStep_initNunchuk s c
    rw [hc] at hnu
    have hview : v.step (BitBoxEvent.initNunchuk c) =
        { v with current := some address, replaced := v.replaced + 1 } := by
      simp only [AddressView.step, hc]
    rw [hview]
    refine
      { madeBefore := madeBefore_switchStep s.switch c h.madeBefore
        current := by rw [hnu]; rfl
        served := h.served
        unreplaced := fun m _ h0 => absurd h0 (Nat.succ_ne_zero _)
        once := fun m hm h1 => ?_
        older := fun m hm _ => ⟨_, hnu, h.manager_older hm⟩ }
    -- the manager's instance is the one being replaced, so it is alive
    have h0 : v.replaced = 0 := Nat.succ.inj h1
    have halive := hvalid address hc _ (h.unreplaced m hm h0)
    have hserved : v.lastServed = some m.nunchuk.val := by
      have hmanager : s.manager = some m := hm
      rw [h.served.2, hmanager]
      rfl
    show some address ≠ v.lastServed
    rw [hserved]
    exact fun heq => halive (Option.some.inj heq)

/-- A BitBox call keeps process and view together. -/
theorem Tracks.bitbox {s : BitBoxState μ} {v : AddressView} (h : Tracks s v)
    (construct : Except CppException Unit) :
    Tracks (bitboxStep s (BitBoxEvent.bitbox construct : BitBoxEvent φ μ))
      (v.step (BitBoxEvent.bitbox construct : BitBoxEvent φ μ)) := by
  show Tracks ((bitboxManager construct).run s).2 _
  obtain ⟨hnu, e, hrun⟩ | ⟨nu, manager, hnu, hmanager, haddress, hrun⟩ |
    ⟨nu, e, hnu, hrebuild, hc, hrun⟩ | ⟨nu, hnu, hrebuild, hc, hrun⟩ :=
      bitboxManager_cases construct s
  · -- no instance, no manager
    have hcurrent := h.current_of_none hnu
    rw [hrun]
    simpa only [AddressView.step, hcurrent, true_or, if_true] using h
  · -- the manager stays
    obtain ⟨hcurrent, hserved, -⟩ := h.lastServed_eq_of_keeps hnu hmanager haddress
    have hsame : v.current = none ∨ v.lastServed = v.current := Or.inr (hserved.trans hcurrent.symm)
    rw [hrun]
    simpa only [AddressView.step, if_pos hsame] using h
  · -- a failed rebuild changes nothing
    have hguard := (h.mustRebuild_iff hnu).mp hrebuild
    rw [hrun]
    simpa only [AddressView.step, if_neg hguard, hc] using h
  · -- a new manager starts the count of replacements again
    have hguard := (h.mustRebuild_iff hnu).mp hrebuild
    have hcurrent := h.current_of_some hnu
    rw [hrun]
    simp only [AddressView.step, if_neg hguard, hc]
    exact
      { madeBefore := h.madeBefore
        current := h.current
        served := ⟨hcurrent.symm, hcurrent⟩
        unreplaced := fun m hm _ => by cases hm; exact hnu
        once := fun _ _ h1 => absurd h1 Nat.zero_ne_one
        older := fun _ _ hpos => absurd hpos (Nat.lt_irrefl 0) }

/-- **Pairing data goes to the current account unless an address comes back.** For every run and
    every valid choice of addresses, each manager that `bitboxManager()` returns was constructed
    from the instance the provider holds exactly when no BitBox call meets, after two or more
    switches, the address it was last served at. -/
theorem bitbox_boundToCurrent_iff (es : List (BitBoxEvent φ μ))
    (hvalid : Along bitboxStep AllocatorValid BitBoxState.start es) :
    Along bitboxStep BoundToCurrent BitBoxState.start es ↔
      Along AddressView.step AddressView.NoReuse {} es := by
  apply along_iff_of_rel (R := Tracks) (V := AllocatorValid)
  · intro s v e htracks _
    exact htracks.boundToCurrent_iff e
  · intro s v e htracks hv _
    cases e with
    | initNunchuk c => exact htracks.initNunchuk c hv
    | bitbox construct => exact htracks.bitbox construct
  · exact tracks_start
  · exact hvalid

end Runs

/-! ## An address that comes back -/

/-- A switch whose new instance is placed at `address`. -/
def switchTo (address : Address) : BitBoxEvent Unit Unit :=
  .initNunchuk
    { args := switchArgs "account"
      factories :=
        { makeNunchukForAccount := fun _ _ _ => .ok address
          makeNunchukForDecoyPin := fun _ _ => .ok address
          makeNunchukMatrixForAccount := fun _ _ _ _ _ => .ok () } }

/-- Alice at one address, BitBox used, bob at another, carol where alice was, BitBox used: the
    manager still refers to alice's destroyed instance. -/
theorem bitbox_address_reuse_stale :
    ¬ ∀ es : List (BitBoxEvent Unit Unit),
      Along bitboxStep AllocatorValid BitBoxState.start es →
        Along bitboxStep BoundToCurrent BitBoxState.start es := by
  intro h
  have hvalid : Along bitboxStep AllocatorValid (BitBoxState.start : BitBoxState Unit)
      [switchTo 16, .bitbox (.ok ()), switchTo 32, switchTo 16, .bitbox (.ok ())] := by
    refine ⟨?_, trivial, ?_, ?_, trivial, trivial⟩
    · intro _ _ nu hnu
      cases hnu
    · intro address haddress nu hnu
      cases haddress
      cases hnu
      decide
    · intro address haddress nu hnu
      cases haddress
      cases hnu
      decide
  obtain ⟨-, -, -, -, hbound, -⟩ := h _ hvalid
  -- the second BitBox call is served by the manager of the first
  cases hbound ⟨⟨0, 16⟩⟩ rfl

/-- One switch between two BitBox calls is safe: the manager is rebuilt. -/
theorem bitbox_single_switch_bound :
    Along bitboxStep BoundToCurrent (BitBoxState.start : BitBoxState Unit)
      [switchTo 16, .bitbox (.ok ()), switchTo 32, .bitbox (.ok ())] := by
  refine (bitbox_boundToCurrent_iff _ ?_).mpr ?_
  · refine ⟨?_, trivial, ?_, trivial, trivial⟩
    · intro _ _ nu hnu
      cases hnu
    · intro address haddress nu hnu
      cases haddress
      cases hnu
      decide
  · refine ⟨trivial, ?_, trivial, ?_, trivial⟩
    · intro _ _ hserved
      cases hserved
    · intro address hcurrent hserved
      cases hcurrent
      cases hserved

end NunchukSdk
