import NunchukSdk.Jni.ClassLookup
import NunchukSdk.Types.Enums

/-!
# Platform Key Policies of a Group Wallet

A group wallet may let the platform key co-sign within spending limits. The policies are a value
with an optional global policy and a list of policies per signer, each with an optional limit.
`deserializer.cpp` shows them to Kotlin with positional constructors; `serializer.cpp` reads them
back field by field into a default-constructed native value.

## Model

- An enumeration in a native value is its number: `(int) limit.get_interval()` reads it and
  `static_cast<GroupSpendingLimitInterval>(ordinal)` writes it.
- `LibGroup`: the default-constructed native values
- The converters to Kotlin run on a `JniThread`, whose class lookups they make; those to native
  code are called from Kotlin and look up `java.util.List` at most.
- Of the Kotlin properties that `serializer.cpp` compares with null, only `global` and
  `spendingLimit` are nullable.

## Results

- `convert2JGroupPlatformKeyPolicies_eq`: the converters return on every thread that resolves
  the bootstrap classes and the cached loader's
- `groupPlatformKeyPolicies_roundTrip`: policies whose intervals Kotlin knows survive there and
  back
-/

namespace NunchukSdk

open Foundation NativeM

/-! ## Native values -/

/-- `nunchuk::GroupSpendingLimit`. -/
structure GroupSpendingLimit where
  /-- The number of the interval. -/
  interval : Int
  amount : String
  currency : String
  deriving DecidableEq, Repr

/-- `nunchuk::GroupPlatformKeyPolicy`. -/
structure GroupPlatformKeyPolicy where
  autoBroadcastTransaction : Bool
  signingDelaySeconds : Int
  spendingLimit : Option GroupSpendingLimit
  deriving DecidableEq, Repr

/-- `nunchuk::GroupPlatformKeySignerPolicy`. -/
structure GroupPlatformKeySignerPolicy where
  masterFingerprint : String
  policy : GroupPlatformKeyPolicy
  deriving DecidableEq, Repr

/-- `nunchuk::GroupPlatformKeyPolicies`. -/
structure GroupPlatformKeyPolicies where
  global : Option GroupPlatformKeyPolicy
  signers : List GroupPlatformKeySignerPolicy
  deriving DecidableEq, Repr

/-- `nunchuk::GroupPlatformKey`. -/
structure GroupPlatformKey where
  policies : GroupPlatformKeyPolicies
  deriving DecidableEq, Repr

/-- Default-constructed native values. -/
structure LibGroup where
  newSpendingLimit : GroupSpendingLimit
  newPolicy : GroupPlatformKeyPolicy
  newSignerPolicy : GroupPlatformKeySignerPolicy
  newPolicies : GroupPlatformKeyPolicies

/-- A fresh value has its optionals absent. -/
structure LibGroup.FreshAbsent (group : LibGroup) : Prop where
  policy_spendingLimit : group.newPolicy.spendingLimit = none
  policies_global : group.newPolicies.global = none

/-! ## Kotlin values -/

/-- Kotlin `GroupSpendingLimit`. -/
structure JGroupSpendingLimit where
  interval : GroupSpendingLimitInterval := .DAILY
  amount : String := ""
  currency : String := ""
  deriving DecidableEq, Repr

/-- Kotlin `GroupPlatformKeyPolicy`. -/
structure JGroupPlatformKeyPolicy where
  autoBroadcastTransaction : Bool := false
  signingDelaySeconds : Int := 0
  spendingLimit : Option JGroupSpendingLimit := none
  deriving DecidableEq, Repr

/-- Kotlin `GroupPlatformKeySignerPolicy`. -/
structure JGroupPlatformKeySignerPolicy where
  masterFingerprint : String := ""
  policy : JGroupPlatformKeyPolicy := {}
  deriving DecidableEq, Repr

/-- Kotlin `GroupPlatformKeyPolicies`. -/
structure JGroupPlatformKeyPolicies where
  global : Option JGroupPlatformKeyPolicy := none
  signers : List JGroupPlatformKeySignerPolicy := []
  deriving DecidableEq, Repr

/-- Kotlin `GroupPlatformKey`. -/
structure JGroupPlatformKey where
  policies : JGroupPlatformKeyPolicies := {}
  deriving DecidableEq, Repr

/-! ## To Kotlin -/

/-- `Deserializer::convert2JGroupSpendingLimit`. -/
def convert2JGroupSpendingLimit (thread : JniThread) (limit : GroupSpendingLimit) :
    Jni JGroupSpendingLimit := do
  let _ ← needClass (loadClass thread "com/nunchuk/android/model/GroupSpendingLimit")
  let _ ← needClass (loadClass thread "com/nunchuk/android/type/GroupSpendingLimitIntervalHelper")
  pure
    { interval := GroupSpendingLimitInterval.helperFrom limit.interval
      amount := limit.amount
      currency := limit.currency }

/-- An optional part: `nullptr` unless `has_value()`. -/
def convert2JOptional {α β : Type} (convert : α → Jni β) : Option α → Jni (Option β)
  | none => pure none
  | some value => do
    let object ← convert value
    pure (some object)

/-- `Deserializer::convert2JGroupPlatformKeyPolicy`. -/
def convert2JGroupPlatformKeyPolicy (thread : JniThread) (policy : GroupPlatformKeyPolicy) :
    Jni JGroupPlatformKeyPolicy := do
  let _ ← needClass (loadClass thread "com/nunchuk/android/model/GroupPlatformKeyPolicy")
  let limitObj ← convert2JOptional (convert2JGroupSpendingLimit thread) policy.spendingLimit
  pure
    { autoBroadcastTransaction := policy.autoBroadcastTransaction
      signingDelaySeconds := policy.signingDelaySeconds
      spendingLimit := limitObj }

/-- `Deserializer::convert2JGroupPlatformKeySignerPolicy`. -/
def convert2JGroupPlatformKeySignerPolicy (thread : JniThread)
    (policy : GroupPlatformKeySignerPolicy) : Jni JGroupPlatformKeySignerPolicy := do
  let _ ← needClass (loadClass thread "com/nunchuk/android/model/GroupPlatformKeySignerPolicy")
  let policyObj ← convert2JGroupPlatformKeyPolicy thread policy.policy
  pure { masterFingerprint := policy.masterFingerprint, policy := policyObj }

/-- `Deserializer::convert2JGroupPlatformKeyPolicies`. -/
def convert2JGroupPlatformKeyPolicies (thread : JniThread) (policies : GroupPlatformKeyPolicies) :
    Jni JGroupPlatformKeyPolicies := do
  let _ ← needClass (loadClass thread "com/nunchuk/android/model/GroupPlatformKeyPolicies")
  let globalObj ← convert2JOptional (convert2JGroupPlatformKeyPolicy thread) policies.global
  let arrayList ←
    buildArrayList thread (convert2JGroupPlatformKeySignerPolicy thread) policies.signers
  pure { global := globalObj, signers := arrayList }

/-- `Deserializer::convert2JGroupPlatformKey`. -/
def convert2JGroupPlatformKey (thread : JniThread) (key : GroupPlatformKey) :
    Jni JGroupPlatformKey := do
  let _ ← needClass (loadClass thread "com/nunchuk/android/model/GroupPlatformKey")
  let policiesObj ← convert2JGroupPlatformKeyPolicies thread key.policies
  pure { policies := policiesObj }

/-! ## Back to the library -/

/-- `Serializer::convert2CGroupSpendingLimit`. -/
def convert2CGroupSpendingLimit (group : LibGroup) (obj : JGroupSpendingLimit) :
    GroupSpendingLimit :=
  let result := group.newSpendingLimit
  let result := { result with interval := obj.interval.ordinal }
  let result := { result with amount := obj.amount }
  { result with currency := obj.currency }

/-- `Serializer::convert2CGroupPlatformKeyPolicy`. -/
def convert2CGroupPlatformKeyPolicy (group : LibGroup) (obj : JGroupPlatformKeyPolicy) :
    GroupPlatformKeyPolicy :=
  let result := group.newPolicy
  let result := { result with autoBroadcastTransaction := obj.autoBroadcastTransaction }
  let result := { result with signingDelaySeconds := obj.signingDelaySeconds }
  match obj.spendingLimit with
  | none => result
  | some limitObj =>
    { result with spendingLimit := some (convert2CGroupSpendingLimit group limitObj) }

/-- `Serializer::convert2CGroupPlatformKeySignerPolicy`. -/
def convert2CGroupPlatformKeySignerPolicy (group : LibGroup)
    (obj : JGroupPlatformKeySignerPolicy) : GroupPlatformKeySignerPolicy :=
  let result := group.newSignerPolicy
  let result := { result with masterFingerprint := obj.masterFingerprint }
  { result with policy := convert2CGroupPlatformKeyPolicy group obj.policy }

/-- `Serializer::convert2CGroupPlatformKeyPolicies`. -/
def convert2CGroupPlatformKeyPolicies (group : LibGroup) (obj : JGroupPlatformKeyPolicies) :
    GroupPlatformKeyPolicies :=
  let result := group.newPolicies
  let result :=
    match obj.global with
    | none => result
    | some globalObj =>
      { result with global := some (convert2CGroupPlatformKeyPolicy group globalObj) }
  { result with signers := obj.signers.map (convert2CGroupPlatformKeySignerPolicy group) }

/-! ## What Kotlin is shown -/

/-- The Kotlin object for a spending limit. -/
def GroupSpendingLimit.shown (limit : GroupSpendingLimit) : JGroupSpendingLimit where
  interval := GroupSpendingLimitInterval.helperFrom limit.interval
  amount := limit.amount
  currency := limit.currency

/-- The Kotlin object for a policy. -/
def GroupPlatformKeyPolicy.shown (policy : GroupPlatformKeyPolicy) : JGroupPlatformKeyPolicy where
  autoBroadcastTransaction := policy.autoBroadcastTransaction
  signingDelaySeconds := policy.signingDelaySeconds
  spendingLimit := policy.spendingLimit.map GroupSpendingLimit.shown

/-- The Kotlin object for a signer's policy. -/
def GroupPlatformKeySignerPolicy.shown (policy : GroupPlatformKeySignerPolicy) :
    JGroupPlatformKeySignerPolicy where
  masterFingerprint := policy.masterFingerprint
  policy := policy.policy.shown

/-- The Kotlin object for all policies. -/
def GroupPlatformKeyPolicies.shown (policies : GroupPlatformKeyPolicies) :
    JGroupPlatformKeyPolicies where
  global := policies.global.map GroupPlatformKeyPolicy.shown
  signers := policies.signers.map GroupPlatformKeySignerPolicy.shown

/-- The Kotlin object for a platform key. -/
def GroupPlatformKey.shown (key : GroupPlatformKey) : JGroupPlatformKey where
  policies := key.policies.shown

section Threads

variable {thread : JniThread}

theorem convert2JGroupSpendingLimit_eq (hthread : thread.Resolves) (limit : GroupSpendingLimit) :
    convert2JGroupSpendingLimit thread limit = pure limit.shown := by
  simp only [convert2JGroupSpendingLimit, needClass_loadClass hthread, pure_bind_eq]
  rfl

/-- An optional part returns when the part does. -/
theorem convert2JOptional_eq {α β : Type} {convert : α → Jni β} {f : α → β}
    (hconvert : ∀ a, convert a = pure (f a)) (value : Option α) :
    convert2JOptional convert value = pure (value.map f) := by
  cases value with
  | none => rfl
  | some value => simp only [convert2JOptional, hconvert, pure_bind_eq, Option.map_some]

theorem convert2JGroupPlatformKeyPolicy_eq (hthread : thread.Resolves)
    (policy : GroupPlatformKeyPolicy) :
    convert2JGroupPlatformKeyPolicy thread policy = pure policy.shown := by
  simp only [convert2JGroupPlatformKeyPolicy, needClass_loadClass hthread, pure_bind_eq,
    convert2JOptional_eq (convert2JGroupSpendingLimit_eq hthread)]
  rfl

theorem convert2JGroupPlatformKeySignerPolicy_eq (hthread : thread.Resolves)
    (policy : GroupPlatformKeySignerPolicy) :
    convert2JGroupPlatformKeySignerPolicy thread policy = pure policy.shown := by
  simp only [convert2JGroupPlatformKeySignerPolicy, needClass_loadClass hthread, pure_bind_eq,
    convert2JGroupPlatformKeyPolicy_eq hthread]
  rfl

/-- **The policies are shown in full on every thread.** -/
theorem convert2JGroupPlatformKeyPolicies_eq (hthread : thread.Resolves)
    (policies : GroupPlatformKeyPolicies) :
    convert2JGroupPlatformKeyPolicies thread policies = pure policies.shown := by
  simp only [convert2JGroupPlatformKeyPolicies, needClass_loadClass hthread, pure_bind_eq,
    convert2JOptional_eq (convert2JGroupPlatformKeyPolicy_eq hthread),
    buildArrayList_eq hthread (convert2JGroupPlatformKeySignerPolicy_eq hthread)]
  rfl

theorem convert2JGroupPlatformKey_eq (hthread : thread.Resolves) (key : GroupPlatformKey) :
    convert2JGroupPlatformKey thread key = pure key.shown := by
  simp only [convert2JGroupPlatformKey, needClass_loadClass hthread, pure_bind_eq,
    convert2JGroupPlatformKeyPolicies_eq hthread]
  rfl

end Threads

/-! ## There and back -/

/-- The Kotlin enumeration has the interval. -/
def GroupSpendingLimit.IntervalKnown (limit : GroupSpendingLimit) : Prop :=
  ∃ interval : GroupSpendingLimitInterval, limit.interval = interval.ordinal

/-- The limit of a policy, if it has one, has a known interval. -/
def GroupPlatformKeyPolicy.IntervalKnown (policy : GroupPlatformKeyPolicy) : Prop :=
  ∀ limit, policy.spendingLimit = some limit → limit.IntervalKnown

/-- Every limit in the policies has a known interval. -/
def GroupPlatformKeyPolicies.IntervalsKnown (policies : GroupPlatformKeyPolicies) : Prop :=
  (∀ policy, policies.global = some policy → policy.IntervalKnown) ∧
    ∀ signer ∈ policies.signers, signer.policy.IntervalKnown

section RoundTrip

variable {group : LibGroup}

theorem convert2CGroupSpendingLimit_shown {limit : GroupSpendingLimit}
    (h : limit.IntervalKnown) : convert2CGroupSpendingLimit group limit.shown = limit := by
  obtain ⟨interval, hinterval⟩ := h
  have hback : (GroupSpendingLimitInterval.helperFrom limit.interval).ordinal = limit.interval := by
    rw [hinterval, GroupSpendingLimitInterval.helperFrom_ordinal]
  cases limit
  simpa [convert2CGroupSpendingLimit, GroupSpendingLimit.shown] using hback

theorem convert2CGroupPlatformKeyPolicy_shown (hgroup : group.FreshAbsent)
    {policy : GroupPlatformKeyPolicy} (h : policy.IntervalKnown) :
    convert2CGroupPlatformKeyPolicy group policy.shown = policy := by
  rcases policy with ⟨broadcast, delay, limit⟩
  cases limit with
  | none =>
    -- no setter runs, so the limit is the fresh value's
    simp [convert2CGroupPlatformKeyPolicy, GroupPlatformKeyPolicy.shown,
      hgroup.policy_spendingLimit]
  | some limit =>
    have hlimit : convert2CGroupSpendingLimit group limit.shown = limit :=
      convert2CGroupSpendingLimit_shown (h limit rfl)
    simp [convert2CGroupPlatformKeyPolicy, GroupPlatformKeyPolicy.shown, hlimit]

theorem convert2CGroupPlatformKeySignerPolicy_shown (hgroup : group.FreshAbsent)
    {signer : GroupPlatformKeySignerPolicy} (h : signer.policy.IntervalKnown) :
    convert2CGroupPlatformKeySignerPolicy group signer.shown = signer := by
  have hpolicy := convert2CGroupPlatformKeyPolicy_shown hgroup h
  cases signer
  simpa [convert2CGroupPlatformKeySignerPolicy, GroupPlatformKeySignerPolicy.shown] using hpolicy

/-- Signer policies keep their length, their order and their fingerprints. -/
theorem map_convert2CGroupPlatformKeySignerPolicy_shown (hgroup : group.FreshAbsent)
    {signers : List GroupPlatformKeySignerPolicy}
    (h : ∀ signer ∈ signers, signer.policy.IntervalKnown) :
    (signers.map GroupPlatformKeySignerPolicy.shown).map
      (convert2CGroupPlatformKeySignerPolicy group) = signers := by
  induction signers with
  | nil => rfl
  | cons signer signers ih =>
    obtain ⟨hsigner, hsigners⟩ := List.forall_mem_cons.mp h
    rw [List.map_cons, List.map_cons, convert2CGroupPlatformKeySignerPolicy_shown hgroup hsigner,
      ih hsigners]

/-- Reading back what Kotlin is shown gives the policies. -/
theorem convert2CGroupPlatformKeyPolicies_shown (hgroup : group.FreshAbsent)
    {policies : GroupPlatformKeyPolicies} (h : policies.IntervalsKnown) :
    convert2CGroupPlatformKeyPolicies group policies.shown = policies := by
  rcases policies with ⟨global, signers⟩
  obtain ⟨hglobal, hsigners⟩ := h
  have hlist := map_convert2CGroupPlatformKeySignerPolicy_shown hgroup hsigners
  cases global with
  | none =>
    simp [convert2CGroupPlatformKeyPolicies, GroupPlatformKeyPolicies.shown,
      hgroup.policies_global, hlist]
  | some policy =>
    have hpolicy : convert2CGroupPlatformKeyPolicy group policy.shown = policy :=
      convert2CGroupPlatformKeyPolicy_shown hgroup (hglobal policy rfl)
    simp [convert2CGroupPlatformKeyPolicies, GroupPlatformKeyPolicies.shown, hpolicy, hlist]

/-- **The policies codec is lossless.** Policies whose intervals Kotlin knows come back equal. -/
theorem groupPlatformKeyPolicies_roundTrip (hgroup : group.FreshAbsent)
    {policies : GroupPlatformKeyPolicies} (hknown : policies.IntervalsKnown) (env : JavaEnv) :
    NativeM.run (do
      let obj ← convert2JGroupPlatformKeyPolicies .java policies
      pure (convert2CGroupPlatformKeyPolicies group obj)) env = (.ok policies, env) := by
  rw [convert2JGroupPlatformKeyPolicies_eq JniThread.java_resolves, pure_bind_eq,
    convert2CGroupPlatformKeyPolicies_shown hgroup hknown, run_pure]

end RoundTrip

/-! ## An instance -/

/-- Default-constructed values that are empty. -/
def LibGroup.plain : LibGroup where
  newSpendingLimit := { interval := 0, amount := "", currency := "" }
  newPolicy :=
    { autoBroadcastTransaction := false, signingDelaySeconds := 0, spendingLimit := none }
  newSignerPolicy :=
    { masterFingerprint := ""
      policy :=
        { autoBroadcastTransaction := false, signingDelaySeconds := 0, spendingLimit := none } }
  newPolicies := { global := none, signers := [] }

theorem LibGroup.plain_freshAbsent : LibGroup.plain.FreshAbsent where
  policy_spendingLimit := rfl
  policies_global := rfl

/-- No global policy and two signers, one of them with a weekly limit. -/
def samplePolicies : GroupPlatformKeyPolicies where
  global := none
  signers :=
    [{ masterFingerprint := "0f056943"
       policy :=
        { autoBroadcastTransaction := true
          signingDelaySeconds := 3600
          spendingLimit := some { interval := 1, amount := "250.00", currency := "USD" } } },
     { masterFingerprint := "534a4a82"
       policy :=
        { autoBroadcastTransaction := false, signingDelaySeconds := 0, spendingLimit := none } }]

theorem samplePolicies_intervalsKnown : samplePolicies.IntervalsKnown := by
  constructor
  · intro policy hpolicy
    cases hpolicy
  · intro signer hsigner limit hlimit
    -- only the first signer has a limit, with the interval `WEEKLY`
    rcases List.mem_cons.mp hsigner with rfl | hsigner
    · cases hlimit
      exact ⟨.WEEKLY, rfl⟩
    · cases List.mem_singleton.mp hsigner
      cases hlimit

/-- The codec theorem applies to two signer policies with and without a limit. -/
theorem samplePolicies_roundTrip :
    NativeM.run (do
      let obj ← convert2JGroupPlatformKeyPolicies .java samplePolicies
      pure (convert2CGroupPlatformKeyPolicies LibGroup.plain obj)) {} =
        (.ok samplePolicies, ({} : JavaEnv)) :=
  groupPlatformKeyPolicies_roundTrip LibGroup.plain_freshAbsent samplePolicies_intervalsKnown {}

end NunchukSdk
