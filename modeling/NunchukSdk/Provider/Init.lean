import NunchukSdk.Foundation.EventRun
import NunchukSdk.Jni.Env
import NunchukSdk.Types.Enums

/-!
# The Provider and Account Switches

`NunchukProvider` is the process-wide holder of the two library objects of the current account:
`nu` (wallets) and `nuMatrix` (messaging). `initNunchuk` replaces them one after the other, each
by an instance that a libnunchuk factory makes and that may throw instead.

## Model

- `initNunchuk` is the method of `nunchukprovider.cpp`, over a provider whose two instance types
  are parameters. The factories are outside the repository; one call of `initNunchuk` meets one
  outcome of each (`Factories`).
- `libInitNunchuk` is the JNI entry point around it (`initializer-jni.cpp`).
- A run is a list of calls from the empty provider. To tell instances apart the run stamps each
  one with the number of the call that made it (`Made`); the code is generic in the instances
  and does not see the stamp.

## Results

- `initNunchuk_cases`: everything one call can do
- `switch_allOrNothing_iff`: a call is all or nothing exactly when it does not fail half way,
  and along a run both instances come from one call exactly when no call fails half way
-/

namespace NunchukSdk

open Foundation NativeM

/-! ## The provider object -/

/-- The instance fields of `NunchukProvider`; `nuUtils` is never assigned. -/
structure NunchukProvider (ν μ : Type) where
  nu : Option ν := none
  nuMatrix : Option μ := none
  deriving DecidableEq, Repr

/-- `nunchuk::AppSettings`, with the fields that the JNI entry point sets. -/
structure AppSettings where
  chain : Chain
  hwiPath : String
  enableProxy : Bool
  proxyHost : String
  proxyPort : Int
  proxyUsername : String
  proxyPassword : String
  electrumServers : List String
  liquidServers : List String
  backendType : BackendType
  storagePath : String
  groupServer : String
  deriving DecidableEq, Repr

/-- The arguments of `NunchukProvider::initNunchuk`; `φ` is the type of the send-event callback. -/
structure InitArgs (φ : Type) where
  settings : AppSettings
  passPhrase : String
  accountId : String
  deviceId : String
  decoyPin : String
  sendEventFunc : φ

/-- The outcomes the libnunchuk factories have during one call. -/
structure Factories (φ ν μ : Type) where
  makeNunchukForAccount : AppSettings → String → String → Except CppException ν
  makeNunchukForDecoyPin : AppSettings → String → Except CppException ν
  makeNunchukMatrixForAccount :
    AppSettings → String → String → String → φ → Except CppException μ

/-- One call of `initNunchuk`: its arguments and the outcomes it meets. -/
structure InitCall (φ ν μ : Type) where
  args : InitArgs φ
  factories : Factories φ ν μ

namespace InitCall

variable {φ ν μ : Type}

/-- The outcome of the factory that makes the new `nu`. -/
def nuOutcome (c : InitCall φ ν μ) : Except CppException ν :=
  if c.args.decoyPin.isEmpty then
    c.factories.makeNunchukForAccount c.args.settings c.args.passPhrase c.args.accountId
  else
    c.factories.makeNunchukForDecoyPin c.args.settings c.args.decoyPin

/-- The outcome of the factory that makes the new `nuMatrix`. -/
def matrixOutcome (c : InitCall φ ν μ) : Except CppException μ :=
  c.factories.makeNunchukMatrixForAccount c.args.settings c.args.passPhrase c.args.accountId
    c.args.deviceId c.args.sendEventFunc

end InitCall

/-- `NunchukProvider::initNunchuk`. Each assignment destroys the instance it replaces. -/
def initNunchuk {φ ν μ : Type} (c : InitCall φ ν μ) :
    NativeM CppException (NunchukProvider ν μ) Unit := do
  -- if decoy pin is empty use MakeNunchukForAccount else use MakeNunchukForDecoyPin
  let nu ← call c.nuOutcome
  update fun provider => { provider with nu := some nu }
  let nuMatrix ← call c.matrixOutcome
  update fun provider => { provider with nuMatrix := some nuMatrix }

section Step

variable {φ ν μ : Type}

/-- The call made its `nu` and then failed to make its `nuMatrix`. -/
def InitCall.HalfSwitches (c : InitCall φ ν μ) : Prop :=
  (∃ n, c.nuOutcome = .ok n) ∧ ∃ e, c.matrixOutcome = .error e

/-- **Step lemma.** What one call can do: fail before it changes anything, fail with `nu` already
    replaced, or replace both. -/
theorem initNunchuk_cases (c : InitCall φ ν μ) (provider : NunchukProvider ν μ) :
    (∃ e, c.nuOutcome = .error e ∧
      (initNunchuk c).run provider = (.error (.thrown e), provider)) ∨
    (∃ n e, c.nuOutcome = .ok n ∧ c.matrixOutcome = .error e ∧
      (initNunchuk c).run provider = (.error (.thrown e), { provider with nu := some n })) ∨
    (∃ n m, c.nuOutcome = .ok n ∧ c.matrixOutcome = .ok m ∧
      (initNunchuk c).run provider = (.ok (), ⟨some n, some m⟩)) := by
  cases hn : c.nuOutcome with
  | error e =>
    refine Or.inl ⟨e, rfl, ?_⟩
    unfold initNunchuk
    rw [hn, run_call_error_bind]
  | ok n =>
    -- `nu` is replaced before the second factory is called
    cases hm : c.matrixOutcome with
    | error e =>
      refine Or.inr (Or.inl ⟨n, e, rfl, rfl, ?_⟩)
      unfold initNunchuk
      rw [hn, hm, run_call_ok_bind, run_update_bind, run_call_error_bind]
    | ok m =>
      refine Or.inr (Or.inr ⟨n, m, rfl, rfl, ?_⟩)
      unfold initNunchuk
      rw [hn, hm, run_call_ok_bind, run_update_bind, run_call_ok_bind, run_update]

/-- What the provider holds as `nu` after a call: the new instance if it was made. -/
theorem initNunchuk_nu (c : InitCall φ ν μ) (provider : NunchukProvider ν μ) :
    ((initNunchuk c).run provider).2.nu =
      match c.nuOutcome with
      | .ok n => some n
      | .error _ => provider.nu := by
  obtain ⟨e, hn, hrun⟩ | ⟨n, e, hn, -, hrun⟩ | ⟨n, m, hn, -, hrun⟩ :=
    initNunchuk_cases c provider
  all_goals rw [hrun, hn]

end Step

/-! ## The JNI entry point -/

/-- The Java arguments of `LibNunchukAndroid.initNunchuk`. -/
structure InitNunchukJArgs where
  chain : Int
  hwiPath : String
  enableProxy : Bool
  proxyHost : String
  proxyPort : Int
  proxyUsername : String
  proxyPassword : String
  electrumServers : List String
  liquidServers : List String
  backendType : Int
  storagePath : String
  passPhrase : String
  accountId : String
  deviceId : String
  decoyPin : String
  baseUrlApi : String

/-- The `AppSettings` that the entry point fills from its arguments. -/
def InitNunchukJArgs.settings (a : InitNunchukJArgs) : AppSettings where
  chain := convert2CChain a.chain
  hwiPath := a.hwiPath
  enableProxy := a.enableProxy
  proxyHost := a.proxyHost
  proxyPort := a.proxyPort
  proxyUsername := a.proxyUsername
  proxyPassword := a.proxyPassword
  electrumServers := a.electrumServers
  liquidServers := a.liquidServers
  backendType := convert2CBackendType a.backendType
  storagePath := a.storagePath
  groupServer := a.baseUrlApi

/-- The arguments the entry point passes on. -/
def InitNunchukJArgs.initArgs {φ : Type} (a : InitNunchukJArgs) (sendEvent : φ) :
    InitArgs φ where
  settings := a.settings
  passPhrase := a.passPhrase
  accountId := a.accountId
  deviceId := a.deviceId
  decoyPin := a.decoyPin
  sendEventFunc := sendEvent

/-- The library calls of the entry point after the switch: five listener registrations on `nu`
    and `EnableGenerateReceiveEvent` on `nuMatrix`. -/
structure ListenerOutcomes where
  addBlockchainConnectionListener : Except CppException Unit
  addBlockListener : Except CppException Unit
  addBalancesListener : Except CppException Unit
  addTransactionListener : Except CppException Unit
  addInvalidTransactionListener : Except CppException Unit
  enableGenerateReceiveEvent : Except CppException Unit

section EntryPoint

variable {φ ν μ : Type}

/-- One listener registration with its own `catch (BaseException &e)`. -/
def registerListener (outcome : Except CppException Unit) :
    NativeM CppException (NunchukProvider ν μ × JavaEnv) Unit :=
  catchBase (call outcome) fun code what => onSnd (convert2JException code what)

/-- `Java_com_nunchuk_android_nativelib_LibNunchukAndroid_initNunchuk`. -/
def libInitNunchuk (a : InitNunchukJArgs) (sendEvent : φ) (factories : Factories φ ν μ)
    (listeners : ListenerOutcomes) : NativeM CppException (NunchukProvider ν μ × JavaEnv) Unit :=
  catchStd
    (do
      onFst (initNunchuk ⟨a.initArgs sendEvent, factories⟩)
      registerListener listeners.addBlockchainConnectionListener
      registerListener listeners.addBlockListener
      registerListener listeners.addBalancesListener
      registerListener listeners.addTransactionListener
      registerListener listeners.addInvalidTransactionListener
      call listeners.enableGenerateReceiveEvent)
    fun e => onSnd (convertStdException2JException e)

theorem keepsFst_registerListener (outcome : Except CppException Unit) :
    KeepsFst (registerListener outcome :
      NativeM CppException (NunchukProvider ν μ × JavaEnv) Unit) := by
  intro w
  cases outcome with
  | ok u => rfl
  | error e => cases e <;> rfl

/-- The entry point changes the provider exactly as `NunchukProvider::initNunchuk` does:
    neither the listeners nor the handlers touch it. -/
theorem libInitNunchuk_provider (a : InitNunchukJArgs) (sendEvent : φ)
    (factories : Factories φ ν μ) (listeners : ListenerOutcomes) (provider : NunchukProvider ν μ)
    (env : JavaEnv) :
    ((libInitNunchuk a sendEvent factories listeners).run (provider, env)).2.1 =
      ((initNunchuk ⟨a.initArgs sendEvent, factories⟩).run provider).2 := by
  unfold libInitNunchuk
  rw [run_catchStd_fst fun _ => keepsFst_onSnd _]
  -- what follows the switch inside the `try` block
  rw [KeepsFst.run_bind_fst]
  · rfl
  · intro _
    exact (keepsFst_registerListener _).bind fun _ =>
      (keepsFst_registerListener _).bind fun _ =>
        (keepsFst_registerListener _).bind fun _ =>
          (keepsFst_registerListener _).bind fun _ =>
            (keepsFst_registerListener _).bind fun _ => keepsFst_call _

end EntryPoint

/-! ## Runs of account switches -/

section Runs

variable {φ ν μ : Type}

/-- A library instance together with the number of the `initNunchuk` call that made it. -/
structure Made (α : Type) where
  madeBy : Nat
  val : α
  deriving DecidableEq, Repr

/-- The same call, with the instances it makes stamped by its number. -/
def InitCall.stamp (c : InitCall φ ν μ) (number : Nat) : InitCall φ (Made ν) (Made μ) where
  args := c.args
  factories :=
    { makeNunchukForAccount := fun settings passPhrase accountId =>
        (c.factories.makeNunchukForAccount settings passPhrase accountId).map (Made.mk number)
      makeNunchukForDecoyPin := fun settings decoyPin =>
        (c.factories.makeNunchukForDecoyPin settings decoyPin).map (Made.mk number)
      makeNunchukMatrixForAccount := fun settings passPhrase accountId deviceId sendEvent =>
        (c.factories.makeNunchukMatrixForAccount settings passPhrase accountId deviceId
          sendEvent).map (Made.mk number) }

theorem InitCall.stamp_nuOutcome (c : InitCall φ ν μ) (number : Nat) :
    (c.stamp number).nuOutcome = c.nuOutcome.map (Made.mk number) := by
  unfold InitCall.nuOutcome
  by_cases h : c.args.decoyPin.isEmpty
  · rw [if_pos h]
    exact if_pos h
  · rw [if_neg h]
    exact if_neg h

theorem InitCall.stamp_matrixOutcome (c : InitCall φ ν μ) (number : Nat) :
    (c.stamp number).matrixOutcome = c.matrixOutcome.map (Made.mk number) := rfl

/-- Everything the provider holds was made by a call before call `number`. -/
def NunchukProvider.MadeBefore (provider : NunchukProvider (Made ν) (Made μ))
    (number : Nat) : Prop :=
  (∀ n, provider.nu = some n → n.madeBy < number) ∧
    ∀ m, provider.nuMatrix = some m → m.madeBy < number

/-- `nu` and `nuMatrix` were made by one call, or are both empty. -/
def NunchukProvider.SameCall (provider : NunchukProvider (Made ν) (Made μ)) : Prop :=
  match provider.nu, provider.nuMatrix with
  | none, none => True
  | some n, some m => n.madeBy = m.madeBy
  | _, _ => False

/-- The call either threw and left the pair as it was, or returned with the pair of the two new
    instances. -/
def AllOrNothing (provider : NunchukProvider ν μ) (c : InitCall φ ν μ) : Prop :=
  (((initNunchuk c).run provider).2 = provider ∧
      ∃ e, ((initNunchuk c).run provider).1 = .error (.thrown e)) ∨
    ∃ n m, c.nuOutcome = .ok n ∧ c.matrixOutcome = .ok m ∧
      (initNunchuk c).run provider = (.ok (), ⟨some n, some m⟩)

/-- The provider during a run, and the number of the next call. -/
structure SwitchState (ν μ : Type) where
  provider : NunchukProvider (Made ν) (Made μ)
  calls : Nat

/-- The process before the first call. -/
def SwitchState.start : SwitchState ν μ := ⟨{}, 0⟩

/-- One `initNunchuk` call of a run. -/
def switchStep (s : SwitchState ν μ) (c : InitCall φ ν μ) : SwitchState ν μ :=
  ⟨((initNunchuk (c.stamp s.calls)).run s.provider).2, s.calls + 1⟩

/-- A stamped outcome that is an instance carries the stamp. -/
theorem madeBy_of_map_eq_ok {α : Type} {outcome : Except CppException α} {number : Nat}
    {n : Made α} (h : outcome.map (Made.mk number) = .ok n) : n.madeBy = number := by
  cases outcome with
  | error e => simp [Except.map] at h
  | ok v =>
    simp only [Except.map, Except.ok.injEq] at h
    rw [← h]

/-- What a stamped call makes as `nu` carries the number of the call. -/
theorem InitCall.stamp_nuOutcome_madeBy {c : InitCall φ ν μ} {number : Nat} {n : Made ν}
    (h : (c.stamp number).nuOutcome = .ok n) : n.madeBy = number := by
  rw [InitCall.stamp_nuOutcome] at h
  exact madeBy_of_map_eq_ok h

/-- What a stamped call makes as `nuMatrix` carries the number of the call. -/
theorem InitCall.stamp_matrixOutcome_madeBy {c : InitCall φ ν μ} {number : Nat} {m : Made μ}
    (h : (c.stamp number).matrixOutcome = .ok m) : m.madeBy = number := by
  rw [InitCall.stamp_matrixOutcome] at h
  exact madeBy_of_map_eq_ok h

/-- A stamped call fails half way exactly when the call does. -/
theorem InitCall.stamp_halfSwitches (c : InitCall φ ν μ) (number : Nat) :
    (c.stamp number).HalfSwitches ↔ c.HalfSwitches := by
  unfold InitCall.HalfSwitches
  rw [InitCall.stamp_nuOutcome, InitCall.stamp_matrixOutcome]
  cases c.nuOutcome <;> cases c.matrixOutcome <;> simp [Except.map]

/-- An instance that the last call made is older than the next call. -/
theorem madeBy_lt_succ {α : Type} {made : Made α} {number : Nat} (h : made.madeBy = number) :
    ∀ x, some made = some x → x.madeBy < number + 1 := by
  intro x hx
  have heq : made = x := Option.some_inj.mp hx
  rw [← heq, h]
  exact Nat.lt_succ_self number

/-- Instances made so far are older than the next call, also after one more call. -/
theorem madeBefore_switchStep (s : SwitchState ν μ) (c : InitCall φ ν μ)
    (h : s.provider.MadeBefore s.calls) :
    (switchStep s c).provider.MadeBefore (switchStep s c).calls := by
  obtain ⟨hnu, hmatrix⟩ := h
  have hold : ∀ n, s.provider.nu = some n → n.madeBy < s.calls + 1 :=
    fun n hn => Nat.lt_succ_of_lt (hnu n hn)
  have hold' : ∀ m, s.provider.nuMatrix = some m → m.madeBy < s.calls + 1 :=
    fun m hm => Nat.lt_succ_of_lt (hmatrix m hm)
  unfold switchStep NunchukProvider.MadeBefore
  obtain ⟨e, hn, hrun⟩ | ⟨n, e, hn, hm, hrun⟩ | ⟨n, m, hn, hm, hrun⟩ :=
    initNunchuk_cases (c.stamp s.calls) s.provider
  -- a call makes at most two instances, and they carry its own number
  · rw [hrun]
    exact ⟨hold, hold'⟩
  · rw [hrun]
    exact ⟨madeBy_lt_succ (InitCall.stamp_nuOutcome_madeBy hn), hold'⟩
  · rw [hrun]
    exact ⟨madeBy_lt_succ (InitCall.stamp_nuOutcome_madeBy hn),
      madeBy_lt_succ (InitCall.stamp_matrixOutcome_madeBy hm)⟩

/-- One call is all or nothing exactly when it does not fail half way: a `nu` replaced by a
    new instance is not the old pair, and not the new one either. -/
theorem allOrNothing_iff (provider : NunchukProvider ν μ) (c : InitCall φ ν μ)
    (hnew : ∀ n, c.nuOutcome = .ok n → provider.nu ≠ some n) :
    AllOrNothing provider c ↔ ¬ c.HalfSwitches := by
  obtain ⟨e, hn, hrun⟩ | ⟨n, e, hn, hm, hrun⟩ | ⟨n, m, hn, hm, hrun⟩ :=
    initNunchuk_cases c provider
  · -- nothing was replaced
    refine ⟨fun _ ⟨⟨n, h⟩, _⟩ => ?_, fun _ => Or.inl ⟨by rw [hrun], e, by rw [hrun]⟩⟩
    rw [hn] at h
    cases h
  · -- `nu` is new, `nuMatrix` is the old one
    refine ⟨fun h => ?_, fun h => absurd ⟨⟨n, hn⟩, e, hm⟩ h⟩
    rcases h with ⟨hsame, _⟩ | ⟨n', m', _, hm', _⟩
    · rw [hrun] at hsame
      exact absurd (congrArg NunchukProvider.nu hsame).symm (hnew n hn)
    · rw [hm] at hm'
      cases hm'
  · -- both are new
    refine ⟨fun _ ⟨_, e, h⟩ => ?_, fun _ => Or.inr ⟨n, m, hn, hm, hrun⟩⟩
    rw [hm] at h
    cases h

/-- A call from a coherent provider leaves it coherent exactly when it does not fail half way. -/
theorem sameCall_switchStep_iff (s : SwitchState ν μ) (c : InitCall φ ν μ)
    (hold : s.provider.MadeBefore s.calls) (hsame : s.provider.SameCall) :
    (switchStep s c).provider.SameCall ↔ ¬ c.HalfSwitches := by
  rw [← InitCall.stamp_halfSwitches c s.calls]
  unfold switchStep
  obtain ⟨e, hn, hrun⟩ | ⟨n, e, hn, hm, hrun⟩ | ⟨n, m, hn, hm, hrun⟩ :=
    initNunchuk_cases (c.stamp s.calls) s.provider
  · rw [hrun]
    refine ⟨fun _ ⟨⟨n, h⟩, _⟩ => ?_, fun _ => hsame⟩
    rw [hn] at h
    cases h
  · rw [hrun]
    refine ⟨fun h => ?_, fun h => absurd ⟨⟨n, hn⟩, e, hm⟩ h⟩
    have hmade : n.madeBy = s.calls := InitCall.stamp_nuOutcome_madeBy hn
    -- the `nuMatrix` beside it, if any, is older
    cases hmx : s.provider.nuMatrix with
    | none => simp [NunchukProvider.SameCall, hmx] at h
    | some m =>
      have hlt := hold.2 m hmx
      have heq : n.madeBy = m.madeBy := by simpa [NunchukProvider.SameCall, hmx] using h
      omega
  · rw [hrun]
    have hmade : n.madeBy = s.calls := InitCall.stamp_nuOutcome_madeBy hn
    have hmade' : m.madeBy = s.calls := InitCall.stamp_matrixOutcome_madeBy hm
    refine ⟨fun _ ⟨_, e, h⟩ => ?_, fun _ => ?_⟩
    · rw [hm] at h
      cases h
    · show n.madeBy = m.madeBy
      rw [hmade, hmade']

/-- **Run lemma.** From the empty provider, every state of a run holds two instances of one call,
    or none, exactly when no call of the run fails half way. -/
theorem sameCall_states_iff (cs : List (InitCall φ ν μ)) :
    (∀ s ∈ states switchStep (SwitchState.start : SwitchState ν μ) cs, s.provider.SameCall) ↔
      ∀ c ∈ cs, ¬ c.HalfSwitches := by
  have hstart : (SwitchState.start : SwitchState ν μ).provider.SameCall := trivial
  have hmade : (SwitchState.start : SwitchState ν μ).provider.MadeBefore 0 :=
    ⟨fun _ h => (nomatch h), fun _ h => (nomatch h)⟩
  rw [forall_states_iff, and_iff_right hstart, ← along_const_iff switchStep]
  -- the invariant: what is held is coherent and older than the next call
  refine along_iff_of_inv (V := fun _ _ => True)
    (I := fun s => s.provider.SameCall ∧ s.provider.MadeBefore s.calls)
    (fun s c h _ => sameCall_switchStep_iff s c h.2 h.1)
    (fun s c h _ hq => ⟨(sameCall_switchStep_iff s c h.2 h.1).mpr hq,
      madeBefore_switchStep s c h.2⟩) ⟨hstart, hmade⟩ (along_true _ _ _)

/-- **Account switches are all or nothing up to a failure between the two factories.** One call
    is all or nothing exactly when it does not make a `nu` and then fail to make a `nuMatrix`;
    and along a run the two instances always come from one call exactly when no call does
    that. -/
theorem switch_allOrNothing_iff :
    (∀ (provider : NunchukProvider ν μ) (c : InitCall φ ν μ),
      (∀ n, c.nuOutcome = .ok n → provider.nu ≠ some n) →
        (AllOrNothing provider c ↔ ¬ c.HalfSwitches)) ∧
    ∀ cs : List (InitCall φ ν μ),
      (∀ s ∈ states switchStep (SwitchState.start : SwitchState ν μ) cs, s.provider.SameCall) ↔
        ∀ c ∈ cs, ¬ c.HalfSwitches :=
  ⟨allOrNothing_iff, sameCall_states_iff⟩

end Runs

/-! ## A switch that fails half way -/

/-- Arguments for a switch to the account `accountId` with an empty decoy pin. -/
def switchArgs (accountId : String) : InitArgs Unit where
  settings :=
    { chain := .MAIN, hwiPath := "", enableProxy := false, proxyHost := "", proxyPort := 0
      proxyUsername := "", proxyPassword := "", electrumServers := [], liquidServers := []
      backendType := .ELECTRUM, storagePath := "", groupServer := "" }
  passPhrase := ""
  accountId := accountId
  deviceId := ""
  decoyPin := ""
  sendEventFunc := ()

/-- The wallet factories make an instance of the account; the messaging factory has the given
    outcome. -/
def switchCall (accountId : String) (matrix : Except CppException String) :
    InitCall Unit String String where
  args := switchArgs accountId
  factories :=
    { makeNunchukForAccount := fun _ _ account => .ok account
      makeNunchukForDecoyPin := fun _ pin => .ok pin
      makeNunchukMatrixForAccount := fun _ _ _ _ _ => matrix }

/-- Switching from alice to bob while the messaging store cannot be opened leaves bob's wallets
    beside alice's messaging object. -/
theorem switch_to_bob_mixes_accounts :
    ¬ ((∀ (provider : NunchukProvider String String) (c : InitCall Unit String String),
        (∀ n, c.nuOutcome = .ok n → provider.nu ≠ some n) → AllOrNothing provider c) ∧
      ∀ cs : List (InitCall Unit String String),
        ∀ s ∈ states switchStep SwitchState.start cs, s.provider.SameCall) := by
  rintro ⟨-, hruns⟩
  have hmem := runFrom_mem_states switchStep (SwitchState.start : SwitchState String String)
    [switchCall "alice" (.ok "alice"), switchCall "bob" (.error (.std "cannot open store"))]
  have hmixed : (1 : Nat) = 0 := hruns _ _ hmem
  cases hmixed

/-- The first switch to alice, with both factories returning. -/
theorem switch_to_alice_allOrNothing :
    AllOrNothing {} (switchCall "alice" (.ok "alice")) := by
  have hnew : ∀ n, (switchCall "alice" (.ok "alice")).nuOutcome = .ok n →
      ({} : NunchukProvider String String).nu ≠ some n := fun n _ h => by cases h
  refine (switch_allOrNothing_iff.1 {} _ hnew).mpr ?_
  rintro ⟨-, e, he⟩
  cases he

end NunchukSdk
