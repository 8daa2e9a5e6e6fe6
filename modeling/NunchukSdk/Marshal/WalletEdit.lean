import NunchukSdk.Marshal.WalletRoundTrip

/-!
# Editing a Wallet Through `updateWallet`

The application edits one field of the Kotlin copy of a wallet and calls `updateWallet`, which
converts the bridge of the copy and hands the result to `Nunchuk::UpdateWallet`. The library
persists the record it receives, so every persisted field that the conversion forgets is
overwritten.

The description is one: `WalletBridge` carries it and `convert2CWallet` does not read it. A wallet
with a miniscript also goes through a constructor that takes neither id, escrow flag nor creation
date.

## Results

- `updateWallet_stores`: what is stored is the record that `convert2CWallet` builds
- `persisted_edited_complete`, `persisted_edited_cut`: that record, by what the copy shows
- `updateWallet_editsOnly_iff`: when it is the stored record with the edit and nothing else
-/

namespace NunchukSdk

open Foundation NativeM

/-! ## The persisted record -/

/-- The fields of a wallet record that an update may overwrite. -/
structure PersistedFields where
  id : String
  name : String
  description : String
  gapLimit : Int
  needBackup : Bool
  archived : Bool
  escrow : Bool
  createDate : Int
  deriving DecidableEq, Repr

/-- The record of a native wallet. -/
def Wallet.persisted (wallet : Wallet) : PersistedFields where
  id := wallet.id
  name := wallet.name
  description := wallet.description
  gapLimit := wallet.gapLimit
  needBackup := wallet.needBackup
  archived := wallet.archived
  escrow := wallet.escrow
  createDate := wallet.createDate

/-- `Nunchuk::UpdateWallet`: unless it throws, it persists the record it receives. -/
def nunchukUpdateWallet (outcome : Except CppException Bool) (wallet : Wallet) :
    NativeM CppException (JavaEnv × PersistedFields) Bool := do
  let updated ← call outcome
  onSnd (update fun _ => wallet.persisted)
  pure updated

/-- The native method `updateWallet`. -/
def updateWallet {ρ : Type} (lib : LibNunchuk)
    (nuUpdateWallet : Wallet → NativeM CppException (JavaEnv × ρ) Bool) (wallet : WalletBridge) :
    NativeM CppException (JavaEnv × ρ) Bool :=
  catchBaseStd
    (nuUpdateWallet (convert2CWallet lib wallet))
    (fun code what => do
      onFst (convert2JException code what)
      pure false)
    (fun e => do
      onFst (convertStdException2JException e)
      pure false)

/-! ## Edits -/

/-- An edit of at most one field of the Kotlin wallet. -/
inductive WalletEdit where
  | none
  | name (value : String)
  | description (value : String)
  | gapLimit (value : Int)
  | needBackup (value : Bool)
  | archived (value : Bool)
  deriving DecidableEq, Repr

namespace WalletEdit

/-- The edit on the Kotlin copy. -/
def onCopy : WalletEdit → JWallet → JWallet
  | none, w => w
  | name value, w => { w with name := value }
  | description value, w => { w with description := value }
  | gapLimit value, w => { w with gapLimit := value }
  | needBackup value, w => { w with needBackup := value }
  | archived value, w => { w with archived := value }

/-- The edit as the user means it: on the record, leaving all else. -/
def onRecord : WalletEdit → PersistedFields → PersistedFields
  | none, r => r
  | name value, r => { r with name := value }
  | description value, r => { r with description := value }
  | gapLimit value, r => { r with gapLimit := value }
  | needBackup value, r => { r with needBackup := value }
  | archived value, r => { r with archived := value }

end WalletEdit

/-- The bridge object that the application passes to `updateWallet` after the edit. -/
def editedBridge (lib : LibNunchuk) (wallet : Wallet) (edit : WalletEdit) : WalletBridge :=
  (edit.onCopy (convert2JWallet lib wallet)).toBridge

/-- What the store holds after the edit has gone through `updateWallet`. -/
theorem updateWallet_stores (lib : LibNunchuk) (bridge : WalletBridge) (updated : Bool)
    (env : JavaEnv) (stored : PersistedFields) :
    (updateWallet lib (nunchukUpdateWallet (.ok updated)) bridge).run (env, stored) =
      (.ok updated, (env, (convert2CWallet lib bridge).persisted)) :=
  run_catchBaseStd_ok rfl

/-- A refused update leaves the stored record as it was. -/
theorem updateWallet_refused (lib : LibNunchuk) (bridge : WalletBridge) (e : CppException)
    (env : JavaEnv) (stored : PersistedFields) :
    ((updateWallet lib (nunchukUpdateWallet (.error e)) bridge).run (env, stored)).2.2 =
      stored := by
  cases e with
  | base code what => rfl
  | std what => rfl

/-! ## The record after the edit -/

section

variable {lib : LibNunchuk}

/-- The record of a native wallet made from a bridge. -/
theorem persisted_convert2CWallet (hkeep : lib.ConstructorsKeep) (bridge : WalletBridge) :
    (convert2CWallet lib bridge).persisted =
      { id :=
          if bridge.miniscript = "" then bridge.id
          else
            lib.miniscriptWalletId bridge.miniscript
              ((convert2CSigners lib bridge.signers).map SingleSigner.scriptData)
              (convert2CAddressType bridge.addressType) bridge.totalRequireSigns
        name := bridge.name
        description := ""
        gapLimit := bridge.gapLimit
        needBackup := bridge.needBackup
        archived := bridge.archived
        escrow := if bridge.miniscript = "" then bridge.escrow else lib.unsetEscrow
        createDate :=
          if bridge.miniscript = "" then bridge.createDate else lib.unsetCreateDate } := by
  by_cases hscript : bridge.miniscript = ""
  · -- the constructor for keys is given id, escrow flag and creation date
    simp [convert2CWallet, Wallet.persisted, hscript, hkeep.keys_id, hkeep.keys_escrow,
      hkeep.keys_createDate, hkeep.keys_description]
  · -- the one for a miniscript is not
    simp [convert2CWallet, Wallet.persisted, hscript, hkeep.miniscript_id,
      hkeep.miniscript_escrow, hkeep.miniscript_createDate, hkeep.miniscript_description]

/-- The record as the Kotlin copy shows it. -/
def JWallet.persisted (wallet : JWallet) : PersistedFields where
  id := wallet.id
  name := wallet.name
  description := wallet.description
  gapLimit := wallet.gapLimit
  needBackup := wallet.needBackup
  archived := wallet.archived
  escrow := wallet.escrow
  createDate := wallet.createDate

/-- The copy shows the edit and nothing else: so far nothing is lost. -/
@[simp] theorem persisted_onCopy (edit : WalletEdit) (wallet : JWallet) :
    (edit.onCopy wallet).persisted = edit.onRecord wallet.persisted := by
  cases edit <;> rfl

/-- No edit touches the script data of the copy. -/
theorem script_onCopy (edit : WalletEdit) (wallet : JWallet) :
    (edit.onCopy wallet).miniscript = wallet.miniscript ∧
      (edit.onCopy wallet).signers = wallet.signers ∧
      (edit.onCopy wallet).addressType = wallet.addressType ∧
      (edit.onCopy wallet).totalRequireSigns = wallet.totalRequireSigns := by
  cases edit <;> exact ⟨rfl, rfl, rfl, rfl⟩

/-- The record built from an edited copy without a miniscript: all but the description. -/
theorem persisted_edited_keys (hkeep : lib.ConstructorsKeep) {wallet : JWallet}
    (hscript : wallet.miniscript = "") (edit : WalletEdit) :
    (convert2CWallet lib (edit.onCopy wallet).toBridge).persisted =
      { edit.onRecord wallet.persisted with description := "" } := by
  rcases script_onCopy edit wallet with ⟨hedited, -, -, -⟩
  rw [← persisted_onCopy, persisted_convert2CWallet hkeep]
  simp only [JWallet.toBridge, JWallet.persisted, hedited, hscript, if_true]

/-- The record built from an edited copy with a miniscript: the constructor supplies the id, the
    escrow flag and the creation date. -/
theorem persisted_edited_miniscript (hkeep : lib.ConstructorsKeep) {wallet : JWallet}
    (hscript : wallet.miniscript ≠ "") (edit : WalletEdit) :
    (convert2CWallet lib (edit.onCopy wallet).toBridge).persisted =
      { edit.onRecord wallet.persisted with
        description := ""
        id := lib.miniscriptWalletId wallet.miniscript
          ((convert2CSigners lib wallet.signers).map SingleSigner.scriptData)
          wallet.addressType wallet.totalRequireSigns
        escrow := lib.unsetEscrow
        createDate := lib.unsetCreateDate } := by
  -- no edit touches the script data
  rcases script_onCopy edit wallet with ⟨hedited, hsigners, haddress, hm⟩
  rw [← persisted_onCopy, persisted_convert2CWallet hkeep]
  simp only [JWallet.toBridge, JWallet.persisted, hedited, hsigners, haddress, hm,
    if_neg hscript, convert2CAddressType_ordinal]

/-! ## When an update saves the edit and nothing else -/

namespace WalletEdit

def setsGapLimit : WalletEdit → Bool
  | gapLimit _ => true
  | _ => false

def setsNeedBackup : WalletEdit → Bool
  | needBackup _ => true
  | _ => false

def setsArchived : WalletEdit → Bool
  | archived _ => true
  | _ => false

end WalletEdit

/-- The updates that save the edit and nothing else: the description is empty afterwards, and
    - if the balance calls return, a miniscript wallet has the id, escrow flag and creation date
      that its constructor comes up with,
    - if one throws, what the cut-off copy shows as unset is unset, or set by the edit. -/
def WalletEdit.SavedAlone (lib : LibNunchuk) (edit : WalletEdit) (wallet : Wallet) : Prop :=
  (edit.onRecord wallet.persisted).description = "" ∧
    (BalancesReturn lib wallet →
      wallet.miniscript = "" ∨
        lib.miniscriptWalletId wallet.miniscript (wallet.signers.map SingleSigner.scriptData)
            wallet.addressType wallet.m = wallet.id ∧
          lib.unsetEscrow = wallet.escrow ∧ lib.unsetCreateDate = wallet.createDate) ∧
    (¬ BalancesReturn lib wallet →
      wallet.createDate = 0 ∧ (edit.setsGapLimit ∨ wallet.gapLimit = 0) ∧
        (edit.setsNeedBackup ∨ wallet.needBackup = false) ∧
        (edit.setsArchived ∨ wallet.archived = false))

/-- What a cut-off copy shows of the record. -/
def PersistedFields.cut (r : PersistedFields) : PersistedFields :=
  { r with
    description := "", gapLimit := 0, needBackup := false, archived := false, createDate := 0 }

theorem onRecord_undescribed_eq_iff (edit : WalletEdit) (r : PersistedFields) :
    { edit.onRecord r with description := "" } = edit.onRecord r ↔
      (edit.onRecord r).description = "" := by
  constructor
  · intro h
    exact (congrArg PersistedFields.description h).symm
  · intro h
    rw [← h]

/-- No edit sets the id, the escrow flag or the creation date. -/
theorem onRecord_rebuilt_eq_iff (edit : WalletEdit) (r : PersistedFields) (id : String)
    (escrow : Bool) (createDate : Int) :
    { edit.onRecord r with
        description := "", id := id, escrow := escrow, createDate := createDate } =
        edit.onRecord r ↔
      (edit.onRecord r).description = "" ∧
        id = r.id ∧ escrow = r.escrow ∧ createDate = r.createDate := by
  have hid : (edit.onRecord r).id = r.id := by cases edit <;> rfl
  have hescrow : (edit.onRecord r).escrow = r.escrow := by cases edit <;> rfl
  have hdate : (edit.onRecord r).createDate = r.createDate := by cases edit <;> rfl
  constructor
  · intro h
    rw [← hid, ← hescrow, ← hdate]
    exact ⟨(congrArg PersistedFields.description h).symm, congrArg PersistedFields.id h,
      congrArg PersistedFields.escrow h, congrArg PersistedFields.createDate h⟩
  · rintro ⟨hdescription, rfl, rfl, rfl⟩
    rw [← hid, ← hescrow, ← hdate, ← hdescription]

theorem onRecord_cut_eq_iff (edit : WalletEdit) (r : PersistedFields) :
    { edit.onRecord r.cut with description := "" } = edit.onRecord r ↔
      (edit.onRecord r).description = "" ∧ r.createDate = 0 ∧
        (edit.setsGapLimit ∨ r.gapLimit = 0) ∧ (edit.setsNeedBackup ∨ r.needBackup = false) ∧
        (edit.setsArchived ∨ r.archived = false) := by
  cases r
  cases edit <;>
    simp [WalletEdit.onRecord, PersistedFields.cut, WalletEdit.setsGapLimit,
      WalletEdit.setsNeedBackup, WalletEdit.setsArchived] <;>
    grind

/-- The record that the update of a complete copy stores. -/
theorem persisted_edited_complete (hnum : lib.NumbersAsKotlin) (hkeep : lib.ConstructorsKeep)
    {wallet : Wallet} (h : BalancesReturn lib wallet) (edit : WalletEdit) :
    (convert2CWallet lib (editedBridge lib wallet edit)).persisted =
      if wallet.miniscript = "" then
        { edit.onRecord wallet.persisted with description := "" }
      else
        { edit.onRecord wallet.persisted with
          description := ""
          id := lib.miniscriptWalletId wallet.miniscript
            (wallet.signers.map SingleSigner.scriptData) wallet.addressType wallet.m
          escrow := lib.unsetEscrow
          createDate := lib.unsetCreateDate } := by
  rcases h with ⟨b, hb⟩
  have hcopy := convert2JWallet_complete hnum hb
  -- a complete copy shows the record as it is
  have hrecord : (convert2JWallet lib wallet).persisted = wallet.persisted := by
    rw [hcopy]
    rfl
  have hscript : (convert2JWallet lib wallet).miniscript = wallet.miniscript := by rw [hcopy]
  rw [editedBridge]
  split
  next hempty =>
    rw [persisted_edited_keys hkeep (hscript.trans hempty), hrecord]
  next hne =>
    rw [persisted_edited_miniscript hkeep (by rw [hscript]; exact hne), hrecord, hcopy]
    simp only [map_scriptData_convert2CSigners hkeep]

/-- The record that the update of a cut-off copy stores. -/
theorem persisted_edited_cut (hkeep : lib.ConstructorsKeep) {wallet : Wallet}
    (h : ¬ BalancesReturn lib wallet) (edit : WalletEdit) :
    (convert2CWallet lib (editedBridge lib wallet edit)).persisted =
      { edit.onRecord wallet.persisted.cut with description := "" } := by
  cases hread : readBalances lib wallet with
  | ok b => exact absurd ⟨b, hread⟩ h
  | error e =>
    rcases convert2JWallet_cut hread with ⟨balance, usdtBalance, lbtcBalance, hcut⟩
    have hrecord : (convert2JWallet lib wallet).persisted = wallet.persisted.cut := by
      rw [hcut]
      rfl
    have hscript : (convert2JWallet lib wallet).miniscript = "" := by rw [hcut]
    rw [editedBridge, persisted_edited_keys hkeep hscript, hrecord]

/-- **An update saves the edit and nothing else exactly for wallets without a description.**
    After any edit of the Kotlin copy of a stored wallet has gone through `updateWallet`, the
    store holds the old record with that edit if and only if the edit is `SavedAlone`. -/
theorem updateWallet_editsOnly_iff (hnum : lib.NumbersAsKotlin) (hkeep : lib.ConstructorsKeep)
    (wallet : Wallet) (edit : WalletEdit) (updated : Bool) (env : JavaEnv) :
    ((updateWallet lib (nunchukUpdateWallet (.ok updated))
        (editedBridge lib wallet edit)).run (env, wallet.persisted)).2.2 =
        edit.onRecord wallet.persisted ↔
      edit.SavedAlone lib wallet := by
  rw [updateWallet_stores]
  by_cases hbalances : BalancesReturn lib wallet
  -- the copy was complete, so only the constructor forgets
  · rw [persisted_edited_complete hnum hkeep hbalances]
    simp only [WalletEdit.SavedAlone, hbalances, not_true_eq_false, false_imp_iff, and_true,
      true_imp_iff]
    by_cases hscript : wallet.miniscript = ""
    · rw [if_pos hscript, onRecord_undescribed_eq_iff]
      simp only [hscript, true_or, and_true]
    · rw [if_neg hscript, onRecord_rebuilt_eq_iff]
      simp only [hscript, false_or, Wallet.persisted]
  -- the copy was cut off, so its defaults are written back
  · rw [persisted_edited_cut hkeep hbalances, onRecord_cut_eq_iff]
    simp only [WalletEdit.SavedAlone, hbalances, not_false_eq_true, false_imp_iff, true_imp_iff,
      true_and, Wallet.persisted]

end

/-! ## Renaming a described wallet -/

/-- A wallet the user has described. -/
def describedWallet (description : String) : Wallet :=
  { taprootWallet .DEFAULT with description := description }

/-- Without a description, renaming saves the new name and nothing else. -/
theorem rename_undescribed_saved :
    ((updateWallet .plain (nunchukUpdateWallet (.ok true))
        (editedBridge .plain (describedWallet "") (.name "savings"))).run
          ({}, (describedWallet "").persisted)).2.2 =
      (WalletEdit.name "savings").onRecord (describedWallet "").persisted :=
  (updateWallet_editsOnly_iff LibNunchuk.plain_numbersAsKotlin
    LibNunchuk.plain_constructorsKeep (describedWallet "") (.name "savings") true {}).mpr
      ⟨rfl, fun _ => Or.inl rfl, fun h => absurd ⟨⟨0, 0, 0⟩, rfl⟩ h⟩

/-- With one, renaming erases the description. -/
theorem rename_described_erases :
    LibNunchuk.plain.NumbersAsKotlin ∧ LibNunchuk.plain.ConstructorsKeep ∧
      ((updateWallet .plain (nunchukUpdateWallet (.ok true))
          (editedBridge .plain (describedWallet "rainy days") (.name "savings"))).run
            ({}, (describedWallet "rainy days").persisted)).2.2 ≠
        (WalletEdit.name "savings").onRecord (describedWallet "rainy days").persisted := by
  refine ⟨LibNunchuk.plain_numbersAsKotlin, LibNunchuk.plain_constructorsKeep, ?_⟩
  intro h
  have hdescription : "" = "rainy days" := congrArg PersistedFields.description h
  exact absurd hdescription (by decide)

end NunchukSdk
