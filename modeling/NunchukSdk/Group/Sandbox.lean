import Mathlib.Data.List.AList
import NunchukSdk.Foundation.KeyedMap
import NunchukSdk.Group.PlatformKey
import NunchukSdk.Marshal.Wallet

/-!
# Group Sandboxes

A group sandbox is a wallet that several devices are still putting together. libnunchuk reports
each change of one to a callback on a thread of its own; `convert2JGroupSandbox` turns the native
value into the Kotlin object that the callback passes on.

## Model

- The converters take the `JniThread` they run on and make the class lookups of the source.
  `convert2JSignerOn` and its helpers are `convert2JSigner` with those lookups.
- `occupiedSlots` is built with `ArrayList.add(int, Object)`, first one null per signer, then
  the occupied slots: `addAt` moves the later entries up, it does not replace one.
- A `std::map` is an association list with distinct keys, a `HashMap` a finite map.

## Results

- `convert2JGroupSandbox_eq`: on every thread that resolves the bootstrap classes and those of
  the cached loader, the conversion returns `GroupSandbox.shown`
- `groupSandbox_same_on_attached`: a callback's thread gets the object that a Java thread gets
-/

namespace NunchukSdk

open Foundation NativeM

/-! ## Native and Kotlin sandboxes -/

/-- `nunchuk::GroupSandbox`. -/
structure GroupSandbox where
  id : String
  replaceWalletId : String
  name : String
  url : String
  m : Int
  n : Int
  addressType : AddressType
  walletType : WalletType
  signers : List SingleSigner
  finalized : Bool
  walletId : String
  /-- Time and user of the slots that are occupied. -/
  occupied : AList fun _ : Int => Int × String
  miniscriptTemplate : String
  /-- `get_named_signers()`. -/
  namedSigners : Except CppException (AList fun _ : String => SingleSigner)
  /-- `get_named_occupied()`. -/
  namedOccupied : Except CppException (AList fun _ : String => Int × String)
  platformKey : Option GroupPlatformKey
  platformKeyIndex : Option Int
  platformKeySlots : List String

/-- Kotlin `OccupiedSlot`. -/
structure JOccupiedSlot where
  time : Int
  deviceId : String
  deriving DecidableEq, Repr

/-- Kotlin `GroupSandbox`. -/
structure JGroupSandbox where
  id : String
  replaceWalletId : String
  name : String
  url : String
  m : Int
  n : Int
  addressType : AddressType
  signers : List JSingleSigner
  finalized : Bool
  walletId : String
  occupiedSlots : List (Option JOccupiedSlot)
  walletType : WalletType
  miniscriptTemplate : String
  namedSigners : Finmap fun _ : String => JSingleSigner
  namedOccupied : Finmap fun _ : String => Int × String
  platformKey : Option JGroupPlatformKey
  platformKeyIndex : Int
  platformKeySlots : List String

/-! ## Signers, with their lookups -/

section Signers

variable {ε σ : Type}

/-- `Deserializer::convert2JAddressType`. -/
def convert2JAddressTypeOn (thread : JniThread) (lib : LibNunchuk) (type : AddressType) :
    NativeM ε σ AddressType := do
  let _ ← needClass (loadClass thread "com/nunchuk/android/type/AddressTypeHelper")
  pure (convert2JAddressType lib type)

/-- `Deserializer::convert2JWalletType`. -/
def convert2JWalletTypeOn (thread : JniThread) (lib : LibNunchuk) (type : WalletType) :
    NativeM ε σ WalletType := do
  let _ ← needClass (loadClass thread "com/nunchuk/android/type/WalletTypeHelper")
  pure (convert2JWalletType lib type)

/-- `Deserializer::convert2JSignerType`. -/
def convert2JSignerTypeOn (thread : JniThread) (lib : LibNunchuk) (type : SignerType) :
    NativeM ε σ SignerType := do
  let _ ← needClass (loadClass thread "com/nunchuk/android/type/SignerTypeHelper")
  pure (convert2JSignerType lib type)

/-- `Deserializer::convert2JSignerTag`. -/
def convert2JSignerTagOn (thread : JniThread) (lib : LibNunchuk) (tag : SignerTag) :
    NativeM ε σ SignerTag := do
  let _ ← needClass (loadClass thread "com/nunchuk/android/type/SignerTagHelper")
  pure (convert2JSignerTag lib tag)

/-- `Deserializer::convert2JSignerTags`. -/
def convert2JSignerTagsOn (thread : JniThread) (lib : LibNunchuk) (tags : List SignerTag) :
    NativeM ε σ (List SignerTag) :=
  buildArrayList thread (convert2JSignerTagOn thread lib) tags

/-- `Deserializer::convert2JSigner`. -/
def convert2JSignerOn (thread : JniThread) (lib : LibNunchuk) (signer : SingleSigner) :
    Jni JSingleSigner := do
  let _ ← needClass (loadClass thread "com/nunchuk/android/model/SingleSigner")
  fillLoggedOn {} do
    update fun s => { s with name := signer.name }
    update fun s => { s with xpub := signer.xpub }
    update fun s => { s with derivationPath := signer.derivationPath }
    let _ ← needClass (loadClass thread "kotlin/Pair")
    let _ ← needClass (findClass thread "java/lang/Integer")
    update fun s => { s with externalInternalIndex := signer.externalInternalIndex }
    update fun s => { s with masterFingerprint := signer.masterFingerprint }
    update fun s => { s with publicKey := signer.publicKey }
    update fun s => { s with masterSignerId := signer.masterSignerId }
    update fun s => { s with lastHealthCheck := signer.lastHealthCheck }
    update fun s => { s with used := signer.used }
    update fun s => { s with hasMasterSigner := signer.hasMasterSigner }
    let type ← convert2JSignerTypeOn thread lib signer.type
    update fun s => { s with type := type }
    let descriptor ← call signer.descriptor
    update fun s => { s with descriptor := descriptor }
    let tags ← convert2JSignerTagsOn thread lib signer.tags
    update fun s => { s with tags := tags }
    update fun s => { s with isVisible := signer.visible }
    let index ← call (lib.getIndexFromPath signer.derivationPath)
    update fun s => { s with index := index }

end Signers

/-! ## The parts of a sandbox -/

/-- `ArrayList.add(index, element)`. An index past the end raises a Java exception, with which
    no further JNI call is defined. -/
def addAt {α : Type} (list : List α) (index : Nat) (element : α) : Jni (List α) :=
  if index ≤ list.length then pure (list.insertIdx index element) else undefinedBehaviour

/-- The first loop over the slots: a null for each signer. -/
def addNullSlots (count : Nat) : Jni (List (Option JOccupiedSlot)) :=
  (List.range count).foldlM (fun slots i => addAt slots i none) []

/-- The second loop over the slots: the empty signer slots that are occupied. -/
def addOccupiedSlots (sandbox : GroupSandbox) (slots : List (Option JOccupiedSlot)) :
    Jni (List (Option JOccupiedSlot)) :=
  sandbox.signers.zipIdx.foldlM (fun slots slot =>
    if slot.1.masterFingerprint = "" then
      match sandbox.occupied.lookup (slot.2 : Int) with
      | none => pure slots
      | some tsUid => addAt slots slot.2 (some { time := tsUid.1, deviceId := tsUid.2 })
    else pure slots) slots

/-- `Deserializer::convert2JNamedSignersMap`. -/
def convert2JNamedSignersMap (thread : JniThread) (lib : LibNunchuk)
    (namedSigners : AList fun _ : String => SingleSigner) :
    Jni (Finmap fun _ : String => JSingleSigner) := do
  let _ ← needClass (findClass thread "java/util/HashMap")
  namedSigners.entries.foldlM (fun hashMap pair => do
    let value ← convert2JSignerOn thread lib pair.2
    pure (hashMap.insert pair.1 value)) ∅

/-- `Deserializer::convert2JNamedOccupiedMap`. Without the class `kotlin.Pair` the map is
    returned empty. -/
def convert2JNamedOccupiedMap (thread : JniThread)
    (namedOccupied : AList fun _ : String => Int × String) :
    Jni (Finmap fun _ : String => Int × String) := do
  let _ ← needClass (findClass thread "java/util/HashMap")
  match loadClass thread "kotlin/Pair" with
  | none => pure ∅
  | some _ =>
    namedOccupied.entries.foldlM (fun hashMap pair => do
      -- `convert2JLong`
      let _ ← needClass (findClass thread "java/lang/Long")
      pure (hashMap.insert pair.1 pair.2)) ∅

/-- The two maps of named data. -/
abbrev JNamedMaps :=
  (Finmap fun _ : String => JSingleSigner) × Finmap fun _ : String => Int × String

/-- Both maps converted from empty native maps. -/
def convert2JEmptyNamedMaps (thread : JniThread) (lib : LibNunchuk) : Jni JNamedMaps := do
  let namedSignersMap ← convert2JNamedSignersMap thread lib ∅
  let namedOccupiedMap ← convert2JNamedOccupiedMap thread ∅
  pure (namedSignersMap, namedOccupiedMap)

/-- The named data of a sandbox: asked for only with a template, and empty when the library
    throws. -/
def convert2JNamedMaps (thread : JniThread) (lib : LibNunchuk) (sandbox : GroupSandbox) :
    Jni JNamedMaps :=
  if sandbox.miniscriptTemplate ≠ "" then
    catchStd
      (do
        let namedSigners ← call sandbox.namedSigners
        let namedSignersMap ← convert2JNamedSignersMap thread lib namedSigners
        let namedOccupied ← call sandbox.namedOccupied
        let namedOccupiedMap ← convert2JNamedOccupiedMap thread namedOccupied
        pure (namedSignersMap, namedOccupiedMap))
      (fun _ => convert2JEmptyNamedMaps thread lib)
  else convert2JEmptyNamedMaps thread lib

/-- A signer of the list: the one at the platform key index has its type overridden. -/
def convert2JGroupSigner (thread : JniThread) (lib : LibNunchuk)
    (platformKeyIndex : Option Int) (signer : SingleSigner × Nat) : Jni JSingleSigner := do
  let jSigner ← convert2JSignerOn thread lib signer.1
  if platformKeyIndex = some (signer.2 : Int) then do
    let _ ← needClass (loadClass thread "com/nunchuk/android/model/SingleSigner")
    let type ← convert2JSignerTypeOn thread lib .PLATFORM
    pure { jSigner with type := type }
  else pure jSigner

/-- `Deserializer::convert2JGroupSandbox`. -/
def convert2JGroupSandbox (thread : JniThread) (lib : LibNunchuk) (sandbox : GroupSandbox) :
    Jni JGroupSandbox := do
  let _ ← needClass (loadClass thread "com/nunchuk/android/model/GroupSandbox")
  let _ ← needClass (loadClass thread "com/nunchuk/android/model/OccupiedSlot")
  let _ ← needClass (findClass thread "java/util/ArrayList")
  let nullSlots ← addNullSlots sandbox.signers.length
  let occupiedSlots ← addOccupiedSlots sandbox nullSlots
  let namedMaps ← convert2JNamedMaps thread lib sandbox
  let platformKeyObj ←
    convert2JOptional (convert2JGroupPlatformKey thread) sandbox.platformKey
  -- `convert2JListString`
  let platformKeySlots ← buildArrayList thread pure sandbox.platformKeySlots
  let signersList ←
    sandbox.signers.zipIdx.mapM (convert2JGroupSigner thread lib sandbox.platformKeyIndex)
  let addressType ← convert2JAddressTypeOn thread lib sandbox.addressType
  let walletType ← convert2JWalletTypeOn thread lib sandbox.walletType
  pure
    { id := sandbox.id
      replaceWalletId := sandbox.replaceWalletId
      name := sandbox.name
      url := sandbox.url
      m := sandbox.m
      n := sandbox.n
      addressType := addressType
      signers := signersList
      finalized := sandbox.finalized
      walletId := sandbox.walletId
      occupiedSlots := occupiedSlots
      walletType := walletType
      miniscriptTemplate := sandbox.miniscriptTemplate
      namedSigners := namedMaps.1
      namedOccupied := namedMaps.2
      platformKey := platformKeyObj
      platformKeyIndex := sandbox.platformKeyIndex.getD (-1)
      platformKeySlots := platformKeySlots }

/-! ## Converters of signers return on every thread -/

section Threads

variable {thread : JniThread} {ε σ : Type}

theorem convert2JAddressTypeOn_eq (hthread : thread.Resolves) (lib : LibNunchuk)
    (type : AddressType) :
    (convert2JAddressTypeOn thread lib type : NativeM ε σ AddressType) =
      pure (convert2JAddressType lib type) := by
  rw [convert2JAddressTypeOn, needClass_loadClass hthread, pure_bind_eq]

theorem convert2JWalletTypeOn_eq (hthread : thread.Resolves) (lib : LibNunchuk)
    (type : WalletType) :
    (convert2JWalletTypeOn thread lib type : NativeM ε σ WalletType) =
      pure (convert2JWalletType lib type) := by
  rw [convert2JWalletTypeOn, needClass_loadClass hthread, pure_bind_eq]

theorem convert2JSignerTypeOn_eq (hthread : thread.Resolves) (lib : LibNunchuk)
    (type : SignerType) :
    (convert2JSignerTypeOn thread lib type : NativeM ε σ SignerType) =
      pure (convert2JSignerType lib type) := by
  rw [convert2JSignerTypeOn, needClass_loadClass hthread, pure_bind_eq]

theorem convert2JSignerTagsOn_eq (hthread : thread.Resolves) (lib : LibNunchuk)
    (tags : List SignerTag) :
    (convert2JSignerTagsOn thread lib tags : NativeM ε σ (List SignerTag)) =
      pure (convert2JSignerTags lib tags) := by
  have htag : ∀ tag, (convert2JSignerTagOn thread lib tag : NativeM ε σ SignerTag) =
      pure (convert2JSignerTag lib tag) := by
    intro tag
    rw [convert2JSignerTagOn, needClass_loadClass hthread, pure_bind_eq]
  rw [convert2JSignerTagsOn, buildArrayList_eq hthread htag]
  rfl

/-- The calls into the library are the only ones that stop a signer's conversion. -/
theorem convert2JSignerOn_eq (hthread : thread.Resolves) (lib : LibNunchuk)
    (signer : SingleSigner) :
    convert2JSignerOn thread lib signer = pure (convert2JSigner lib signer) := by
  simp only [convert2JSignerOn, needClass_loadClass hthread,
    needClass_findClass hthread isBootstrapClass_integer, convert2JSignerTypeOn_eq hthread,
    convert2JSignerTagsOn_eq hthread, pure_bind_eq]
  -- what is left of the block is the one that `convert2JSigner` runs
  apply fillLoggedOn_eq
  simp only [run_update_bind]
  cases signer.descriptor with
  | error e => simp
  | ok descriptor =>
    simp only [run_call_ok_bind, run_update_bind]
    cases lib.getIndexFromPath signer.derivationPath with
    | error e => simp
    | ok index => simp

end Threads

/-! ## The slots -/

theorem addAt_eq {α : Type} {list : List α} {index : Nat} (h : index ≤ list.length)
    (element : α) : addAt list index element = pure (list.insertIdx index element) :=
  if_pos h

/-- After the first loop every signer has a null slot. -/
theorem addNullSlots_eq (count : Nat) :
    addNullSlots count = pure (List.replicate count none) := by
  have hlawful : LawfulMonad (NativeM CppException JavaEnv) := lawfulMonad
  induction count with
  | zero => rfl
  | succ count ih =>
    have hstep : addNullSlots (count + 1) =
        addNullSlots count >>= fun slots => addAt slots count none := by
      rw [addNullSlots, List.range_succ, List.foldlM_append]
      simp only [List.foldlM_cons, List.foldlM_nil, bind_pure]
      rfl
    have hend : (List.replicate count (none : Option JOccupiedSlot)).length = count :=
      List.length_replicate
    rw [hstep, ih, pure_bind_eq, addAt_eq (Nat.le_of_eq hend.symm)]
    -- an insertion at the end is an append
    have hinsert : (List.replicate count (none : Option JOccupiedSlot)).insertIdx count none =
        List.replicate count none ++ [none] := by
      conv_lhs => rw [← hend, List.length_replicate]
      rw [← List.insertIdx_length_self, hend]
    rw [hinsert, ← List.replicate_succ']

/-- The slot that belongs to a signer: the occupant of an empty one. -/
def GroupSandbox.slotOf (sandbox : GroupSandbox) (slot : SingleSigner × Nat) :
    Option JOccupiedSlot :=
  if slot.1.masterFingerprint = "" then
    (sandbox.occupied.lookup (slot.2 : Int)).map fun tsUid => ⟨tsUid.1, tsUid.2⟩
  else none

/-- What the second loop does at one signer. -/
def putSlot (sandbox : GroupSandbox) (slots : List (Option JOccupiedSlot))
    (slot : SingleSigner × Nat) : List (Option JOccupiedSlot) :=
  match sandbox.slotOf slot with
  | none => slots
  | some occupant => slots.insertIdx slot.2 (some occupant)

theorem length_le_length_putSlot (sandbox : GroupSandbox) (slots : List (Option JOccupiedSlot))
    (slot : SingleSigner × Nat) : slots.length ≤ (putSlot sandbox slots slot).length := by
  unfold putSlot
  cases sandbox.slotOf slot with
  | none => exact Nat.le_refl _
  | some occupant => exact List.length_le_length_insertIdx

/-- One turn of the second loop, at an index that is in the list. -/
theorem addOccupiedSlot_eq (sandbox : GroupSandbox) {slots : List (Option JOccupiedSlot)}
    {slot : SingleSigner × Nat} (h : slot.2 ≤ slots.length) :
    ((if slot.1.masterFingerprint = "" then
        match sandbox.occupied.lookup (slot.2 : Int) with
        | none => pure slots
        | some tsUid => addAt slots slot.2 (some { time := tsUid.1, deviceId := tsUid.2 })
      else pure slots) : Jni (List (Option JOccupiedSlot))) =
      pure (putSlot sandbox slots slot) := by
  unfold putSlot GroupSandbox.slotOf
  by_cases hempty : slot.1.masterFingerprint = ""
  · -- an empty signer: its occupant, if it has one, is inserted
    rw [if_pos hempty, if_pos hempty]
    cases sandbox.occupied.lookup (slot.2 : Int) with
    | none => rfl
    | some tsUid => exact addAt_eq h _
  · -- a signer that is there is not looked up
    rw [if_neg hempty, if_neg hempty]

/-- The list only grows, so no index leaves it. -/
theorem foldlM_addOccupiedSlots_eq (sandbox : GroupSandbox) (l : List (SingleSigner × Nat)) :
    ∀ slots : List (Option JOccupiedSlot), (∀ slot ∈ l, slot.2 ≤ slots.length) →
      (l.foldlM (fun slots slot =>
        if slot.1.masterFingerprint = "" then
          match sandbox.occupied.lookup (slot.2 : Int) with
          | none => pure slots
          | some tsUid => addAt slots slot.2 (some { time := tsUid.1, deviceId := tsUid.2 })
        else pure slots) slots : Jni (List (Option JOccupiedSlot))) =
      pure (l.foldl (putSlot sandbox) slots) := by
  induction l with
  | nil => exact fun slots _ => rfl
  | cons slot l ih =>
    intro slots hbound
    obtain ⟨hslot, hl⟩ := List.forall_mem_cons.mp hbound
    rw [List.foldlM_cons, addOccupiedSlot_eq sandbox hslot, pure_bind_eq, List.foldl_cons]
    -- the bound of the later indices holds for the longer list as well
    apply ih
    intro later hlater
    exact Nat.le_trans (hl later hlater) (length_le_length_putSlot sandbox slots slot)

/-- The slots that a sandbox is shown with. -/
def GroupSandbox.slotsBuilt (sandbox : GroupSandbox) : List (Option JOccupiedSlot) :=
  sandbox.signers.zipIdx.foldl (putSlot sandbox)
    (List.replicate sandbox.signers.length none)

theorem addOccupiedSlots_eq (sandbox : GroupSandbox) :
    addOccupiedSlots sandbox (List.replicate sandbox.signers.length none) =
      pure sandbox.slotsBuilt := by
  apply foldlM_addOccupiedSlots_eq
  intro slot hslot
  -- an index of the signers is one of the null slots
  have hlt : slot.2 < sandbox.signers.length := by
    simpa using (List.mem_zipIdx hslot).2.1
  rw [List.length_replicate]
  exact Nat.le_of_lt hlt

/-! ## The whole sandbox -/

/-- The named data that a sandbox is shown with. -/
def GroupSandbox.namedShown (lib : LibNunchuk) (sandbox : GroupSandbox) : JNamedMaps :=
  if sandbox.miniscriptTemplate ≠ "" then
    match sandbox.namedSigners, sandbox.namedOccupied with
    | .ok namedSigners, .ok namedOccupied =>
      (fillOverwriting (fun name => name) (convert2JSigner lib) namedSigners.entries,
        fillOverwriting (fun name => name) (fun tsUid => tsUid) namedOccupied.entries)
    | _, _ => (∅, ∅)
  else (∅, ∅)

/-- A signer as the list of the sandbox shows it. -/
def groupSignerShown (lib : LibNunchuk) (platformKeyIndex : Option Int)
    (signer : SingleSigner × Nat) : JSingleSigner :=
  if platformKeyIndex = some (signer.2 : Int) then
    { convert2JSigner lib signer.1 with type := convert2JSignerType lib .PLATFORM }
  else convert2JSigner lib signer.1

/-- The Kotlin object for a sandbox. -/
def GroupSandbox.shown (lib : LibNunchuk) (sandbox : GroupSandbox) : JGroupSandbox where
  id := sandbox.id
  replaceWalletId := sandbox.replaceWalletId
  name := sandbox.name
  url := sandbox.url
  m := sandbox.m
  n := sandbox.n
  addressType := convert2JAddressType lib sandbox.addressType
  signers := sandbox.signers.zipIdx.map (groupSignerShown lib sandbox.platformKeyIndex)
  finalized := sandbox.finalized
  walletId := sandbox.walletId
  occupiedSlots := sandbox.slotsBuilt
  walletType := convert2JWalletType lib sandbox.walletType
  miniscriptTemplate := sandbox.miniscriptTemplate
  namedSigners := (sandbox.namedShown lib).1
  namedOccupied := (sandbox.namedShown lib).2
  platformKey := sandbox.platformKey.map GroupPlatformKey.shown
  platformKeyIndex := sandbox.platformKeyIndex.getD (-1)
  platformKeySlots := sandbox.platformKeySlots

section Threads

variable {thread : JniThread}

theorem convert2JNamedSignersMap_eq (hthread : thread.Resolves) (lib : LibNunchuk)
    (namedSigners : AList fun _ : String => SingleSigner) :
    convert2JNamedSignersMap thread lib namedSigners =
      pure (fillOverwriting (fun name => name) (convert2JSigner lib) namedSigners.entries) := by
  have hlawful : LawfulMonad (NativeM CppException JavaEnv) := lawfulMonad
  simp only [convert2JNamedSignersMap, needClass_findClass hthread isBootstrapClass_hashMap,
    convert2JSignerOn_eq hthread, pure_bind_eq]
  exact List.foldlM_pure

theorem convert2JNamedOccupiedMap_eq (hthread : thread.Resolves)
    (namedOccupied : AList fun _ : String => Int × String) :
    convert2JNamedOccupiedMap thread namedOccupied =
      pure (fillOverwriting (fun name => name) (fun tsUid => tsUid) namedOccupied.entries) := by
  have hlawful : LawfulMonad (NativeM CppException JavaEnv) := lawfulMonad
  simp only [convert2JNamedOccupiedMap, needClass_findClass hthread isBootstrapClass_hashMap,
    loadClass_eq hthread, needClass_findClass hthread isBootstrapClass_long, pure_bind_eq]
  exact List.foldlM_pure

theorem convert2JEmptyNamedMaps_eq (hthread : thread.Resolves) (lib : LibNunchuk) :
    convert2JEmptyNamedMaps thread lib = pure (∅, ∅) := by
  simp only [convert2JEmptyNamedMaps, convert2JNamedSignersMap_eq hthread,
    convert2JNamedOccupiedMap_eq hthread, pure_bind_eq]
  rfl

/-- Named data is shown, or left out as a whole. -/
theorem convert2JNamedMaps_eq (hthread : thread.Resolves) (lib : LibNunchuk)
    (sandbox : GroupSandbox) :
    convert2JNamedMaps thread lib sandbox = pure (sandbox.namedShown lib) := by
  unfold convert2JNamedMaps GroupSandbox.namedShown
  by_cases htemplate : sandbox.miniscriptTemplate ≠ ""
  · rw [if_pos htemplate, if_pos htemplate]
    apply NativeM.ext
    intro env
    simp only [convert2JNamedSignersMap_eq hthread, convert2JNamedOccupiedMap_eq hthread,
      convert2JEmptyNamedMaps_eq hthread, pure_bind_eq]
    -- either getter may throw, the second one after the first map was built
    cases sandbox.namedSigners with
    | error e => exact run_catching_caught rfl rfl
    | ok namedSigners =>
      cases sandbox.namedOccupied with
      | error e => exact run_catching_caught rfl rfl
      | ok namedOccupied => exact run_catching_ok rfl
  · rw [if_neg htemplate, if_neg htemplate]
    exact convert2JEmptyNamedMaps_eq hthread lib

theorem convert2JGroupSigner_eq (hthread : thread.Resolves) (lib : LibNunchuk)
    (platformKeyIndex : Option Int) (signer : SingleSigner × Nat) :
    convert2JGroupSigner thread lib platformKeyIndex signer =
      pure (groupSignerShown lib platformKeyIndex signer) := by
  simp only [convert2JGroupSigner, convert2JSignerOn_eq hthread, needClass_loadClass hthread,
    convert2JSignerTypeOn_eq hthread, pure_bind_eq, groupSignerShown]
  split
  · rfl
  · rfl

/-- **The conversion returns on every thread**, with one object for each sandbox. -/
theorem convert2JGroupSandbox_eq (hthread : thread.Resolves) (lib : LibNunchuk)
    (sandbox : GroupSandbox) :
    convert2JGroupSandbox thread lib sandbox = pure (sandbox.shown lib) := by
  have hlawful : LawfulMonad (NativeM CppException JavaEnv) := lawfulMonad
  have hsigners : sandbox.signers.zipIdx.mapM
      (convert2JGroupSigner thread lib sandbox.platformKeyIndex) =
      pure (sandbox.signers.zipIdx.map (groupSignerShown lib sandbox.platformKeyIndex)) := by
    have hfun : convert2JGroupSigner thread lib sandbox.platformKeyIndex =
        fun signer => pure (groupSignerShown lib sandbox.platformKeyIndex signer) :=
      funext (convert2JGroupSigner_eq hthread lib sandbox.platformKeyIndex)
    rw [hfun]
    exact List.mapM_pure
  have hstrings : buildArrayList thread (pure : String → Jni String) sandbox.platformKeySlots =
      pure sandbox.platformKeySlots := by
    have h := buildArrayList_eq (f := fun s : String => s) hthread
      (fun s => (rfl : (pure s : Jni String) = pure s)) sandbox.platformKeySlots
    rwa [List.map_id'] at h
  -- every part is a pure value now
  simp only [convert2JGroupSandbox, needClass_loadClass hthread,
    needClass_findClass hthread isBootstrapClass_arrayList, addNullSlots_eq,
    addOccupiedSlots_eq, convert2JNamedMaps_eq hthread,
    convert2JOptional_eq (convert2JGroupPlatformKey_eq hthread), hstrings, hsigners,
    convert2JAddressTypeOn_eq hthread, convert2JWalletTypeOn_eq hthread, pure_bind_eq]
  rfl

end Threads

/-- **Callbacks convert on any thread.** On a thread that was just attached the conversion
    returns what the sandbox is shown as, which is the object that a Java thread gets. -/
theorem groupSandbox_same_on_attached (lib : LibNunchuk) (sandbox : GroupSandbox)
    (env : JavaEnv) :
    (convert2JGroupSandbox .attached lib sandbox).run env =
        (convert2JGroupSandbox .java lib sandbox).run env ∧
      (convert2JGroupSandbox .attached lib sandbox).run env = (.ok (sandbox.shown lib), env) := by
  rw [convert2JGroupSandbox_eq JniThread.attached_resolves,
    convert2JGroupSandbox_eq JniThread.java_resolves]
  exact ⟨rfl, rfl⟩

end NunchukSdk
