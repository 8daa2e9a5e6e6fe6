import NunchukSdk.Group.Sandbox

/-!
# Occupied Slots of a Group Sandbox

Kotlin shows `occupiedSlots` next to `signers`, entry by entry. `convert2JGroupSandbox` fills the
list with one null per signer and then calls `add(index, occupiedSlot)` for the empty signer slots
that are occupied. `add` inserts, so that an occupant pushes the null of its own slot, and all that
follows, one place up.

## Results

- `length_slotsBuilt`: the list has one entry too many for each occupant
- `signers_shown`: the list of signers is right in any case
- `groupSandbox_aligned_iff`: slots and signers are aligned exactly when no empty signer slot is
  occupied
-/

namespace NunchukSdk

open Foundation NativeM

/-! ## Alignment of slots and signers -/

/-- The Kotlin sandbox has one slot and one signer for each native signer, in their order: the
    occupant of an empty signer slot that has one and null elsewhere, and the type `PLATFORM` for
    the signer at the platform key index and no other change. -/
def GroupSandbox.Aligned (lib : LibNunchuk) (sandbox : GroupSandbox) (object : JGroupSandbox) :
    Prop :=
  (object.occupiedSlots.length = sandbox.signers.length ∧
    ∀ (i : Nat) signer, sandbox.signers[i]? = some signer →
      object.occupiedSlots[i]? = some (sandbox.slotOf (signer, i))) ∧
  object.signers.length = sandbox.signers.length ∧
    ∀ (i : Nat) signer, sandbox.signers[i]? = some signer →
      object.signers[i]? = some
        (if sandbox.platformKeyIndex = some (i : Int) then
          { convert2JSigner lib signer with type := .PLATFORM }
        else convert2JSigner lib signer)

/-- The empty signer slots of a sandbox are all free. -/
def GroupSandbox.EmptySlotsFree (sandbox : GroupSandbox) : Prop :=
  ∀ (i : Nat) signer, sandbox.signers[i]? = some signer → signer.masterFingerprint = "" →
    sandbox.occupied.lookup (i : Int) = none

theorem mem_zipIdx_signers {sandbox : GroupSandbox} {slot : SingleSigner × Nat} :
    slot ∈ sandbox.signers.zipIdx ↔ sandbox.signers[slot.2]? = some slot.1 := by
  rw [List.mk_mem_zipIdx_iff_getElem?]

/-- Free slots are the ones without an occupant to insert. -/
theorem emptySlotsFree_iff (sandbox : GroupSandbox) :
    sandbox.EmptySlotsFree ↔ ∀ slot ∈ sandbox.signers.zipIdx, sandbox.slotOf slot = none := by
  constructor
  · intro h slot hslot
    unfold GroupSandbox.slotOf
    split
    · rename_i hempty
      rw [h slot.2 slot.1 (mem_zipIdx_signers.mp hslot) hempty]
      rfl
    · rfl
  · intro h i signer hsigner hempty
    -- at an empty signer the slot is what the map has for the index
    have hslot := h (signer, i) (mem_zipIdx_signers.mpr hsigner)
    rw [GroupSandbox.slotOf, if_pos hempty] at hslot
    exact Option.map_eq_none_iff.mp hslot

/-- Each occupant makes the list one longer. -/
theorem length_foldl_putSlot (sandbox : GroupSandbox) (l : List (SingleSigner × Nat)) :
    ∀ slots : List (Option JOccupiedSlot), (∀ slot ∈ l, slot.2 ≤ slots.length) →
      (l.foldl (putSlot sandbox) slots).length =
        slots.length + (l.filter fun slot => (sandbox.slotOf slot).isSome).length := by
  induction l with
  | nil => exact fun slots _ => rfl
  | cons slot l ih =>
    intro slots hbound
    obtain ⟨hslot, hl⟩ := List.forall_mem_cons.mp hbound
    -- the list does not get shorter, so that later indices stay in it
    have hlater : ∀ later ∈ l, later.2 ≤ (putSlot sandbox slots slot).length := fun later h =>
      Nat.le_trans (hl later h) (length_le_length_putSlot sandbox slots slot)
    rw [List.foldl_cons, ih _ hlater, putSlot, List.filter_cons]
    cases sandbox.slotOf slot with
    | none => rfl
    | some occupant =>
      simp only [List.length_insertIdx_of_le_length hslot, Option.isSome_some, if_true,
        List.length_cons]
      omega

theorem length_slotsBuilt (sandbox : GroupSandbox) :
    sandbox.slotsBuilt.length = sandbox.signers.length +
      (sandbox.signers.zipIdx.filter fun slot => (sandbox.slotOf slot).isSome).length := by
  have hbound : ∀ slot ∈ sandbox.signers.zipIdx,
      slot.2 ≤ (List.replicate sandbox.signers.length (none : Option JOccupiedSlot)).length := by
    intro slot hslot
    have hlt := (List.getElem?_eq_some_iff.mp (mem_zipIdx_signers.mp hslot)).1
    rw [List.length_replicate]
    exact Nat.le_of_lt hlt
  rw [GroupSandbox.slotsBuilt, length_foldl_putSlot sandbox _ _ hbound, List.length_replicate]

/-- Signers without an occupant insert nothing. -/
theorem foldl_putSlot_of_free {sandbox : GroupSandbox} {l : List (SingleSigner × Nat)}
    (h : ∀ slot ∈ l, sandbox.slotOf slot = none) (slots : List (Option JOccupiedSlot)) :
    l.foldl (putSlot sandbox) slots = slots := by
  induction l with
  | nil => rfl
  | cons slot l ih =>
    obtain ⟨hslot, hrest⟩ := List.forall_mem_cons.mp h
    have hput : putSlot sandbox slots slot = slots := by rw [putSlot, hslot]
    rw [List.foldl_cons, hput, ih hrest]

/-- Without occupants the nulls of the first loop are all there is. -/
theorem slotsBuilt_of_free {sandbox : GroupSandbox} (h : sandbox.EmptySlotsFree) :
    sandbox.slotsBuilt = List.replicate sandbox.signers.length none :=
  foldl_putSlot_of_free ((emptySlotsFree_iff sandbox).mp h) _

variable {lib : LibNunchuk}

/-- The signers are shown as they should be, whatever the slots are. -/
theorem signers_shown (hnum : lib.NumbersAsKotlin) (sandbox : GroupSandbox) (i : Nat)
    (signer : SingleSigner) (hsigner : sandbox.signers[i]? = some signer) :
    (sandbox.shown lib).signers[i]? = some
      (if sandbox.platformKeyIndex = some (i : Int) then
        { convert2JSigner lib signer with type := .PLATFORM }
      else convert2JSigner lib signer) := by
  have hplatform : convert2JSignerType lib .PLATFORM = .PLATFORM := by
    rw [convert2JSignerType, hnum.signerType, SignerType.helperFrom_ordinal]
  have hget : (sandbox.shown lib).signers[i]? =
      some (groupSignerShown lib sandbox.platformKeyIndex (signer, i)) := by
    simp [GroupSandbox.shown, List.getElem?_map, List.getElem?_zipIdx, hsigner]
  rw [hget, groupSignerShown, hplatform]

/-- **Slots are aligned exactly when no empty slot is occupied.** The second loop inserts where it
    should replace, so each occupant moves the slots after it up by one. -/
theorem groupSandbox_aligned_iff (hnum : lib.NumbersAsKotlin) (sandbox : GroupSandbox)
    (env : JavaEnv) :
    (∃ object, (convert2JGroupSandbox .java lib sandbox).run env = (.ok object, env) ∧
      sandbox.Aligned lib object) ↔ sandbox.EmptySlotsFree := by
  rw [convert2JGroupSandbox_eq JniThread.java_resolves]
  constructor
  · rintro ⟨object, hrun, ⟨hlength, -⟩, -⟩
    -- the object is the one shown, and its list has no entry too many
    cases hrun
    have hcount := length_slotsBuilt sandbox
    have hslots : sandbox.slotsBuilt.length = sandbox.signers.length := hlength
    have hfilter : (sandbox.signers.zipIdx.filter
        fun slot => (sandbox.slotOf slot).isSome) = [] := by
      apply List.length_eq_zero_iff.mp
      omega
    rw [emptySlotsFree_iff]
    intro slot hslot
    have hnot := List.filter_eq_nil_iff.mp hfilter slot hslot
    simpa using hnot
  · intro hfree
    refine ⟨sandbox.shown lib, rfl, ⟨?_, ?_⟩, ?_, signers_shown hnum sandbox⟩
    · show sandbox.slotsBuilt.length = sandbox.signers.length
      rw [slotsBuilt_of_free hfree, List.length_replicate]
    · intro i signer hsigner
      have hlt : i < sandbox.signers.length := (List.getElem?_eq_some_iff.mp hsigner).1
      have hnone := (emptySlotsFree_iff sandbox).mp hfree (signer, i)
        (mem_zipIdx_signers.mpr hsigner)
      show sandbox.slotsBuilt[i]? = _
      rw [slotsBuilt_of_free hfree, hnone, List.getElem?_replicate, if_pos hlt]
    · show (sandbox.signers.zipIdx.map _).length = sandbox.signers.length
      rw [List.length_map, List.length_zipIdx]

/-! ## Two sandboxes -/

/-- A signer slot that nobody has filled. -/
def emptySigner : SingleSigner where
  name := ""
  xpub := ""
  publicKey := ""
  derivationPath := ""
  externalInternalIndex := (0, 1)
  masterFingerprint := ""
  lastHealthCheck := 0
  descriptor := .ok ""

/-- A sandbox for two signers, both still missing. -/
def emptySandbox : GroupSandbox where
  id := "group"
  replaceWalletId := ""
  name := "Family"
  url := ""
  m := 2
  n := 2
  addressType := .NATIVE_SEGWIT
  walletType := .MULTI_SIG
  signers := [emptySigner, emptySigner]
  finalized := false
  walletId := ""
  occupied := ∅
  miniscriptTemplate := ""
  namedSigners := .ok ∅
  namedOccupied := .ok ∅
  platformKey := none
  platformKeyIndex := some 1
  platformKeySlots := []

/-- The same sandbox when a device has started to fill the first slot. -/
def occupiedSandbox : GroupSandbox :=
  { emptySandbox with occupied := AList.insert 0 (1700000000, "device") ∅ }

/-- Without an occupant the slots are aligned. -/
theorem emptySandbox_aligned :
    ∃ object, (convert2JGroupSandbox .java LibNunchuk.plain emptySandbox).run {} =
      (.ok object, {}) ∧ emptySandbox.Aligned LibNunchuk.plain object :=
  (groupSandbox_aligned_iff LibNunchuk.plain_numbersAsKotlin emptySandbox {}).mpr
    fun _ _ _ _ => rfl

/-- With one there are three slots for two signers. -/
theorem occupiedSandbox_not_aligned :
    ¬ ∃ object, (convert2JGroupSandbox .java LibNunchuk.plain occupiedSandbox).run {} =
      (.ok object, {}) ∧ occupiedSandbox.Aligned LibNunchuk.plain object := by
  rw [convert2JGroupSandbox_eq JniThread.java_resolves]
  rintro ⟨object, hrun, ⟨hlength, -⟩, -⟩
  cases hrun
  have hthree : occupiedSandbox.slotsBuilt =
      [some { time := 1700000000, deviceId := "device" }, none, none] := by decide
  have htwo : occupiedSandbox.slotsBuilt.length = 2 := hlength
  rw [hthree] at htwo
  cases htwo

end NunchukSdk
