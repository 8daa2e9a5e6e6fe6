import NunchukSdk.Foundation.Interleaving
import NunchukSdk.Group.PlatformKey
import NunchukSdk.Marshal.WalletEdit

/-!
# Entry Points That Read a Record and Write It Back

`markHotWalletExported` fetches a wallet, clears one flag and stores the wallet;
`updateGroupWalletConfig` fetches a group wallet's configuration, sets the chat retention and
stores the configuration. Each library call is atomic, and nothing is held between the two. Java
threads may enter other methods meanwhile: `updateWallet`, which stores a whole record in one
call, or another write of the configuration.

## Model

- Each entry point stands twice: as native code with its `catch` clauses, and as the `Operation`
  of its library calls. The second is what may interleave; run alone, both leave the same record
  (`run_markHotWalletExported`, `run_updateWallet`, `run_updateGroupWalletConfig`).
- A wallet's record is its `PersistedFields`; what else `GetWallet` returns, these calls do not
  change.

## Results

- `fresh_markHotWalletExported_iff`, `fresh_updateGroupWalletConfig_iff`: when a write-back is
  fresh
- `markHotWalletExported_always_iff`, `updateGroupWalletConfig_always_iff`: the records for which
  no schedule loses an update
- `readModifyWrite_losesNoUpdate_iff`: those, and the runs that lose none
-/

namespace NunchukSdk

open Foundation NativeM

/-! ## Marking a hot wallet as exported -/

/-- `Nunchuk::GetWallet`: unless it throws, the wallet of the stored record. -/
def nunchukGetWallet (outcome : Except CppException Unit) (getWallet : PersistedFields → Wallet) :
    NativeM CppException (JavaEnv × PersistedFields) Wallet := do
  call outcome
  let record ← onSnd read
  pure (getWallet record)

/-- `LibNunchukAndroid_markHotWalletExported`. -/
def markHotWalletExported {ρ : Type} (nuGetWallet : NativeM CppException (JavaEnv × ρ) Wallet)
    (nuUpdateWallet : Wallet → NativeM CppException (JavaEnv × ρ) Bool) :
    NativeM CppException (JavaEnv × ρ) Unit :=
  catchBaseStd
    (do
      let wallet ← nuGetWallet
      if wallet.needBackup then do
        let _ ← nuUpdateWallet { wallet with needBackup := false }
        pure ()
      else pure ())
    (fun code what => onFst (convert2JException code what))
    (fun e => onFst (convertStdException2JException e))

/-- The library calls of `markHotWalletExported`. -/
def markHotWalletExportedCalls (getWallet : PersistedFields → Wallet) :
    Operation PersistedFields :=
  .readWrite fun record =>
    if (getWallet record).needBackup then
      some { getWallet record with needBackup := false }.persisted
    else none

/-- The library call of `updateWallet`. -/
def updateWalletCalls (lib : LibNunchuk) (wallet : WalletBridge) : Operation PersistedFields :=
  .modify fun _ => (convert2CWallet lib wallet).persisted

/-! ## Setting the chat retention of a group wallet -/

/-- `nunchuk::GroupWalletConfig`. -/
structure GroupWalletConfig where
  chatRetentionDays : Int
  platformKey : Option GroupPlatformKey
  platformKeyFingerprint : String
  deriving DecidableEq, Repr

/-- `LibNunchukAndroid_updateGroupWalletConfig`. -/
def updateGroupWalletConfig {ρ : Type}
    (nuGetGroupWalletConfig : NativeM CppException (JavaEnv × ρ) GroupWalletConfig)
    (nuSetGroupWalletConfig : GroupWalletConfig → NativeM CppException (JavaEnv × ρ) Unit)
    (chatRetentionDays : Int) : NativeM CppException (JavaEnv × ρ) Unit :=
  catchBaseStd
    (do
      let setting ← nuGetGroupWalletConfig
      nuSetGroupWalletConfig { setting with chatRetentionDays := chatRetentionDays })
    (fun code what => onFst (convert2JException code what))
    (fun e => onFst (convertStdException2JException e))

/-- `Nunchuk::GetGroupWalletConfig`. -/
def nunchukGetGroupWalletConfig (outcome : Except CppException Unit) :
    NativeM CppException (JavaEnv × GroupWalletConfig) GroupWalletConfig := do
  call outcome
  onSnd read

/-- `Nunchuk::SetGroupWalletConfig`. -/
def nunchukSetGroupWalletConfig (outcome : Except CppException Unit)
    (config : GroupWalletConfig) : NativeM CppException (JavaEnv × GroupWalletConfig) Unit := do
  call outcome
  onSnd (update fun _ => config)

/-- The library calls of `updateGroupWalletConfig`. -/
def updateGroupWalletConfigCalls (chatRetentionDays : Int) : Operation GroupWalletConfig :=
  .readWrite fun setting => some { setting with chatRetentionDays := chatRetentionDays }

/-- The platform key of a configuration and its fingerprint. -/
abbrev PlatformKeySetting := Option GroupPlatformKey × String

/-- A configuration with its other fields changed. -/
def GroupWalletConfig.withPlatformKey (change : PlatformKeySetting → PlatformKeySetting)
    (config : GroupWalletConfig) : GroupWalletConfig :=
  { config with
    platformKey := (change (config.platformKey, config.platformKeyFingerprint)).1
    platformKeyFingerprint := (change (config.platformKey, config.platformKeyFingerprint)).2 }

/-- Another write of a configuration. -/
inductive ConfigWrite where
  /-- `SetGroupWalletConfig` with a configuration made before. -/
  | overwrite (config : GroupWalletConfig)
  /-- One call that changes the other fields. -/
  | change (change : PlatformKeySetting → PlatformKeySetting)
  /-- `GetGroupWalletConfig`, a change of the other fields, `SetGroupWalletConfig`. -/
  | readChange (change : PlatformKeySetting → PlatformKeySetting)

/-- The library calls of a write. -/
def ConfigWrite.calls : ConfigWrite → Operation GroupWalletConfig
  | overwrite config => .modify fun _ => config
  | change f => .modify (GroupWalletConfig.withPlatformKey f)
  | readChange f => .readWrite fun setting => some (setting.withPlatformKey f)

/-! ## Alone -/

section Effects

variable {getWallet : PersistedFields → Wallet}

/-- Alone, `markHotWalletExported` clears the flag. -/
theorem effect_markHotWalletExported (hget : ∀ record, (getWallet record).persisted = record)
    (record : PersistedFields) :
    (markHotWalletExportedCalls getWallet).effect record = { record with needBackup := false } := by
  have hflag : (getWallet record).needBackup = record.needBackup :=
    congrArg PersistedFields.needBackup (hget record)
  have hcleared : { getWallet record with needBackup := false }.persisted =
      { record with needBackup := false } :=
    calc { getWallet record with needBackup := false }.persisted =
          { (getWallet record).persisted with needBackup := false } := rfl
      _ = { record with needBackup := false } := by rw [hget]
  rw [markHotWalletExportedCalls, Operation.effect, hflag, hcleared]
  by_cases hneed : record.needBackup = true
  · rw [if_pos hneed, Option.getD_some]
  · -- the record is not written, and the flag is clear in it
    rw [if_neg hneed, Option.getD_none]
    rw [Bool.not_eq_true] at hneed
    rw [← hneed]

/-- The native code alone leaves the record that its calls make. -/
theorem run_markHotWalletExported (getWallet : PersistedFields → Wallet) (updated : Bool)
    (env : JavaEnv) (record : PersistedFields) :
    (markHotWalletExported (nunchukGetWallet (.ok ()) getWallet)
        (nunchukUpdateWallet (.ok updated))).run (env, record) =
      (.ok (), (env, (markHotWalletExportedCalls getWallet).effect record)) := by
  apply run_catchBaseStd_ok
  have hfetched : ∀ next : Wallet → NativeM CppException (JavaEnv × PersistedFields) Unit,
      (nunchukGetWallet (.ok ()) getWallet >>= next).run (env, record) =
        (next (getWallet record)).run (env, record) := fun _ => rfl
  rw [hfetched, markHotWalletExportedCalls, Operation.effect]
  by_cases hneed : (getWallet record).needBackup = true
  · -- the flag is set: it is cleared and the wallet written
    rw [if_pos hneed, if_pos hneed]
    rfl
  · -- nothing to clear, nothing written
    rw [if_neg hneed, if_neg hneed]
    rfl

theorem run_updateWallet (lib : LibNunchuk) (wallet : WalletBridge) (updated : Bool)
    (env : JavaEnv) (record : PersistedFields) :
    (updateWallet lib (nunchukUpdateWallet (.ok updated)) wallet).run (env, record) =
      (.ok updated, (env, (updateWalletCalls lib wallet).effect record)) :=
  updateWallet_stores lib wallet updated env record

/-- Alone, `updateGroupWalletConfig` sets the chat retention. -/
theorem effect_updateGroupWalletConfig (chatRetentionDays : Int) (config : GroupWalletConfig) :
    (updateGroupWalletConfigCalls chatRetentionDays).effect config =
      { config with chatRetentionDays := chatRetentionDays } := rfl

theorem run_updateGroupWalletConfig (chatRetentionDays : Int) (env : JavaEnv)
    (config : GroupWalletConfig) :
    (updateGroupWalletConfig (nunchukGetGroupWalletConfig (.ok ()))
        (nunchukSetGroupWalletConfig (.ok ())) chatRetentionDays).run (env, config) =
      (.ok (), (env, (updateGroupWalletConfigCalls chatRetentionDays).effect config)) :=
  run_catchBaseStd_ok rfl

/-! ## Fresh write-backs -/

/-- `markHotWalletExported` writes back a fresh record when what it has read and what is stored
    agree in every field but the flag. -/
theorem fresh_markHotWalletExported_iff (hget : ∀ record, (getWallet record).persisted = record)
    (q : Operation PersistedFields) (s : Shared PersistedFields) :
    Fresh (pair (markHotWalletExportedCalls getWallet) q) s .left ↔
      ∀ read, s.phase .left = .holding read →
        { read with needBackup := false } = { s.record with needBackup := false } := by
  simp only [Fresh, pair, effect_markHotWalletExported hget]

/-- `updateGroupWalletConfig` does when they agree in every field but the chat retention. -/
theorem fresh_updateGroupWalletConfig_iff (chatRetentionDays : Int)
    (q : Operation GroupWalletConfig) (s : Shared GroupWalletConfig) :
    Fresh (pair (updateGroupWalletConfigCalls chatRetentionDays) q) s .left ↔
      ∀ read, s.phase .left = .holding read →
        read.platformKey = s.record.platformKey ∧
          read.platformKeyFingerprint = s.record.platformKeyFingerprint := by
  simp only [Fresh, pair, effect_updateGroupWalletConfig, GroupWalletConfig.mk.injEq, true_and]

/-! ## Runs -/

theorem markHotWalletExported_showsTrace (hget : ∀ record, (getWallet record).persisted = record)
    (lib : LibNunchuk) (wallet : WalletBridge) :
    (markHotWalletExportedCalls getWallet).ShowsTrace (updateWalletCalls lib wallet) := by
  apply Operation.showsTrace_overwrite
  intro record
  simp only [effect_markHotWalletExported hget]

/-- `markHotWalletExported` writes a record back only if its flag is set. -/
theorem holds_markHotWalletExported_iff (hget : ∀ record, (getWallet record).persisted = record)
    (record : PersistedFields) :
    (markHotWalletExportedCalls getWallet).Holds record ↔ record.needBackup = true := by
  have hflag : (getWallet record).needBackup = record.needBackup :=
    congrArg PersistedFields.needBackup (hget record)
  rw [markHotWalletExportedCalls, Operation.Holds, hflag]
  by_cases hneed : record.needBackup = true
  · rw [if_pos hneed]
    exact iff_of_true (Option.some_ne_none _) hneed
  · rw [if_neg hneed]
    exact iff_of_false (fun h => h rfl) hneed

/-- Under every schedule both operations on a wallet count, exactly when its flag is clear or the
    update changes nothing else. -/
theorem markHotWalletExported_always_iff (hget : ∀ record, (getWallet record).persisted = record)
    (lib : LibNunchuk) (wallet : WalletBridge) (stored : PersistedFields) :
    (∀ calls, LosesNoUpdate (markHotWalletExportedCalls getWallet) (updateWalletCalls lib wallet)
        stored calls) ↔
      (stored.needBackup = true →
        { stored with needBackup := false } =
          { (convert2CWallet lib wallet).persisted with needBackup := false }) := by
  rw [losesNoUpdate_always_iff (markHotWalletExported_showsTrace hget lib wallet)
    (Operation.overwrite_showsTrace _ _)]
  -- `updateWallet` reads nothing, so that there is nothing it can miss
  have hright : (updateWalletCalls lib wallet).Unseen (markHotWalletExportedCalls getWallet)
      stored := Operation.unseen_modify _ _ stored
  rw [and_iff_left hright, Operation.Unseen, holds_markHotWalletExported_iff hget,
    effect_markHotWalletExported hget, effect_markHotWalletExported hget]
  rfl

theorem updateGroupWalletConfig_showsTrace (chatRetentionDays : Int) (write : ConfigWrite) :
    (updateGroupWalletConfigCalls chatRetentionDays).ShowsTrace write.calls := by
  cases write with
  | overwrite config => exact Operation.showsTrace_overwrite (fun _ => rfl) config
  | change f => exact Operation.showsTrace_of_commute fun _ => rfl
  | readChange f => exact Operation.showsTrace_of_commute fun _ => rfl

theorem ConfigWrite.showsTrace (write : ConfigWrite) (chatRetentionDays : Int) :
    write.calls.ShowsTrace (updateGroupWalletConfigCalls chatRetentionDays) := by
  cases write with
  | overwrite config => exact Operation.overwrite_showsTrace config _
  | change f => exact Operation.showsTrace_of_commute fun _ => rfl
  | readChange f => exact Operation.showsTrace_of_commute fun _ => rfl

/-- What `updateGroupWalletConfig` writes back besides the chat retention is left by the write. -/
def ConfigWrite.LeavesPlatformKey (write : ConfigWrite) (stored : GroupWalletConfig) : Prop :=
  stored.platformKey = (write.calls.effect stored).platformKey ∧
    stored.platformKeyFingerprint = (write.calls.effect stored).platformKeyFingerprint

/-- The write itself reads the configuration first. -/
def ConfigWrite.ReadsFirst : ConfigWrite → Prop
  | overwrite _ => False
  | change _ => False
  | readChange _ => True

/-- Under every schedule both writes of a configuration stay, exactly when the other one leaves
    the platform key, and writes no old chat retention back. -/
theorem updateGroupWalletConfig_always_iff (chatRetentionDays : Int) (write : ConfigWrite)
    (stored : GroupWalletConfig) :
    (∀ calls, LosesNoUpdate (updateGroupWalletConfigCalls chatRetentionDays) write.calls stored
        calls) ↔
      write.LeavesPlatformKey stored ∧
        (write.ReadsFirst → stored.chatRetentionDays = chatRetentionDays) := by
  rw [losesNoUpdate_always_iff (updateGroupWalletConfig_showsTrace chatRetentionDays write)
    (write.showsTrace chatRetentionDays)]
  apply and_congr
  · -- beside the retention days it writes the platform key back that it has read
    have hholds : (updateGroupWalletConfigCalls chatRetentionDays).Holds stored :=
      Option.some_ne_none _
    rw [Operation.unseen_iff_of_holds hholds, effect_updateGroupWalletConfig,
      effect_updateGroupWalletConfig, GroupWalletConfig.mk.injEq]
    exact and_iff_right rfl
  · -- the other write: only one that reads first can miss the retention days
    cases write with
    | overwrite config => exact iff_of_true (Operation.unseen_modify _ _ stored) False.elim
    | change f => exact iff_of_true (Operation.unseen_modify _ _ stored) False.elim
    | readChange f =>
      have hholds : (ConfigWrite.readChange f).calls.Holds stored := Option.some_ne_none _
      rw [Operation.unseen_iff_of_holds hholds, effect_updateGroupWalletConfig]
      simp only [ConfigWrite.calls, Operation.effect, Option.getD_some,
        GroupWalletConfig.withPlatformKey, GroupWalletConfig.mk.injEq, and_true,
        ConfigWrite.ReadsFirst, true_imp_iff]

/-- **When no update is lost.** For each pair of operations: the records for which no schedule
    loses one, and for any record the runs that lose none. -/
theorem readModifyWrite_losesNoUpdate_iff
    (hget : ∀ record, (getWallet record).persisted = record) (lib : LibNunchuk) :
    (∀ wallet stored,
      ((∀ calls, LosesNoUpdate (markHotWalletExportedCalls getWallet)
          (updateWalletCalls lib wallet) stored calls) ↔
        (stored.needBackup = true →
          { stored with needBackup := false } =
            { (convert2CWallet lib wallet).persisted with needBackup := false })) ∧
      ∀ calls,
        LosesNoUpdate (markHotWalletExportedCalls getWallet) (updateWalletCalls lib wallet) stored
            calls ↔
          WritesFresh (markHotWalletExportedCalls getWallet) (updateWalletCalls lib wallet) stored
            calls) ∧
    ∀ (chatRetentionDays : Int) (write : ConfigWrite) (stored : GroupWalletConfig),
      ((∀ calls, LosesNoUpdate (updateGroupWalletConfigCalls chatRetentionDays) write.calls stored
          calls) ↔
        write.LeavesPlatformKey stored ∧
          (write.ReadsFirst → stored.chatRetentionDays = chatRetentionDays)) ∧
      ∀ calls,
        LosesNoUpdate (updateGroupWalletConfigCalls chatRetentionDays) write.calls stored calls ↔
          WritesFresh (updateGroupWalletConfigCalls chatRetentionDays) write.calls stored
            calls := by
  constructor
  · intro wallet stored
    refine ⟨markHotWalletExported_always_iff hget lib wallet stored, fun calls => ?_⟩
    exact losesNoUpdate_iff (markHotWalletExported_showsTrace hget lib wallet)
      (Operation.overwrite_showsTrace _ _) stored calls
  · intro chatRetentionDays write stored
    refine ⟨updateGroupWalletConfig_always_iff chatRetentionDays write stored, fun calls => ?_⟩
    exact losesNoUpdate_iff (updateGroupWalletConfig_showsTrace chatRetentionDays write)
      (write.showsTrace chatRetentionDays) stored calls

end Effects

/-! ## A rename that is undone -/

/-- The wallet of a record, with keys of no interest here. -/
def recordedWallet (record : PersistedFields) : Wallet :=
  { taprootWallet .DEFAULT with
    id := record.id
    name := record.name
    description := record.description
    gapLimit := record.gapLimit
    needBackup := record.needBackup
    archived := record.archived
    escrow := record.escrow
    createDate := record.createDate }

/-- A hot wallet that is not backed up yet. -/
def hotRecord : PersistedFields :=
  { (taprootWallet .DEFAULT).persisted with name := "Hot wallet", needBackup := true }

/-- The copy of it that the user has renamed. -/
def renamedBridge : WalletBridge :=
  editedBridge .plain (recordedWallet hotRecord) (.name "Savings")

/-- With the rename after both calls nothing is lost. -/
theorem rename_after_losesNoUpdate :
    LosesNoUpdate (markHotWalletExportedCalls recordedWallet)
      (updateWalletCalls .plain renamedBridge) hotRecord [.left, .left, .right] :=
  (((readModifyWrite_losesNoUpdate_iff (fun _ => rfl) .plain).1 renamedBridge hotRecord).2
    [.left, .left, .right]).mpr (by
      refine ⟨?_, ?_, ?_, trivial⟩
      · intro read hread
        cases hread
      · intro read hread
        cases hread
        rfl
      · intro read hread
        cases hread)

/-- Between them it is undone. -/
theorem rename_between_lost :
    ¬ LosesNoUpdate (markHotWalletExportedCalls recordedWallet)
      (updateWalletCalls .plain renamedBridge) hotRecord [.left, .right, .left] := by
  intro h
  have hlast := h _ (runFrom_mem_states _ _ _) (by
    intro side
    cases side <;> rfl)
  obtain ⟨side, hside⟩ := hlast
  -- either order of the two operations leaves the new name
  have hname := congrArg PersistedFields.name hside
  cases side with
  | left => exact absurd hname (by decide)
  | right => exact absurd hname (by decide)

end NunchukSdk
