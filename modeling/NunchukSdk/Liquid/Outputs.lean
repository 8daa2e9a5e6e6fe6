import Mathlib.Algebra.Ring.Int.Defs
import Mathlib.Data.Nat.Cast.Basic
import NunchukSdk.Foundation.KeyedMap
import NunchukSdk.Liquid.AssetId

/-!
# Liquid Outputs

The Liquid draft, create and fee-estimate calls take a Java map from asset-id text to a map from
addresses to amounts. `convert2CLiquidOutputs` re-keys the outer map by the decoded asset id and
assigns (`result[asset] = ...`), so of two keys that spell one id the later one wins;
`convert2CAmountsMap` re-keys the inner maps by the native address and inserts if absent.

## Model

A Java map is taken together with the order in which its entry set iterates: a list of entries
with distinct keys. Two such lists with the same lookups are the same Java map (`SameMap`).

## Results

- `lookup_convert2CAmountsMap`: the inner maps arrive as they are
- `liquidOutputs_nothingLost_iff`: the native map is independent of the iteration order and has
  the requested totals exactly when keys that spell one id request nothing but equal zero amounts
-/

namespace NunchukSdk

open Foundation

/-! ## The conversions -/

/-- A `java.util.Map` with string keys, as its entry set iterates. -/
abbrev JavaMap (V : Type) := AList fun _ : JString => V

/-- `std::map<std::string, Amount>`. -/
abbrev AmountsMap := Finmap fun _ : NativeString => Int

/-- `std::map<AssetId, std::map<std::string, Amount>>`. -/
abbrev LiquidOutputs := Finmap fun _ : AssetId => AmountsMap

/-- `Serializer::convert2CAmountsMap`: `mapOut.insert(...)` for each entry. -/
def convert2CAmountsMap (outputs : JavaMap JAmount) : AmountsMap :=
  fillKeeping stringWrapper convert2CAmount outputs.entries

/-- The asset id that a key of the outer map spells. -/
def assetOfKey (key : JString) : AssetId := convert2CAssetId (some key)

/-- `Serializer::convert2CLiquidOutputs`: `result[asset] = ...` for each entry. -/
def convert2CLiquidOutputs (outputs : JavaMap (JavaMap JAmount)) : LiquidOutputs :=
  fillOverwriting assetOfKey convert2CAmountsMap outputs.entries

/-! ## What was asked for, and what arrives -/

/-- The same Java map, with its entry sets iterating in possibly different orders. -/
def SameMap (m m' : JavaMap (JavaMap JAmount)) : Prop :=
  ∀ key, Option.Rel (fun inner inner' => inner.entries.Perm inner'.entries)
    (m.lookup key) (m'.lookup key)

/-- The entries whose keys spell one asset id. -/
def entriesOf (m : JavaMap (JavaMap JAmount)) (asset : AssetId) :
    List (Sigma fun _ : JString => JavaMap JAmount) :=
  m.entries.filter fun e => assetOfKey e.1 = asset

/-- The amount that one inner map requests for an address. -/
def amountIn (inner : JavaMap JAmount) (address : JString) : Option Int :=
  (inner.lookup address).map convert2CAmount

/-- The amounts requested for an asset and an address. -/
def requests (m : JavaMap (JavaMap JAmount)) (asset : AssetId) (address : JString) : List Int :=
  (entriesOf m asset).filterMap fun e => amountIn e.2 address

/-- Their total, if there is any. -/
def requestedTotal (m : JavaMap (JavaMap JAmount)) (asset : AssetId) (address : JString) :
    Option Int :=
  if requests m asset address = [] then none else some (requests m asset address).sum

/-- The sum that one inner map requests. -/
def sumIn (inner : JavaMap JAmount) : Int := (inner.entries.map fun d => convert2CAmount d.2).sum

/-- The sum requested for an asset. -/
def requestedSum (m : JavaMap (JavaMap JAmount)) (asset : AssetId) : Int :=
  ((entriesOf m asset).map fun e => sumIn e.2).sum

/-- The amount the library is handed for an asset and an address. -/
def amountFor (outputs : LiquidOutputs) (asset : AssetId) (address : JString) : Option Int :=
  (outputs.lookup asset).bind fun inner => inner.lookup (stringWrapper address)

/-- The sum the library is handed for an asset. -/
def assetSum (outputs : LiquidOutputs) (asset : AssetId) : Int :=
  match outputs.lookup asset with
  | none => 0
  | some inner => (inner.entries.map fun d => d.2).sum

/-- No requested output is lost or changed: every iteration order gives the same native map, its
    amounts are the requested totals, and its sums the requested sums. -/
def NothingLost (m : JavaMap (JavaMap JAmount)) : Prop :=
  (∀ m', SameMap m' m → convert2CLiquidOutputs m' = convert2CLiquidOutputs m) ∧
  (∀ asset address,
    amountFor (convert2CLiquidOutputs m) asset address = requestedTotal m asset address) ∧
  ∀ asset, assetSum (convert2CLiquidOutputs m) asset = requestedSum m asset

/-- Two keys that spell one asset id do no harm: they request the same addresses, with zero
    amounts only. -/
def SpellingsHarmless (m : JavaMap (JavaMap JAmount)) : Prop :=
  ∀ e ∈ m.entries, ∀ e' ∈ m.entries, e.1 ≠ e'.1 → assetOfKey e.1 = assetOfKey e'.1 →
    (∀ address, amountIn e.2 address = amountIn e'.2 address) ∧
      ∀ d ∈ e.2.entries, convert2CAmount d.2 = 0

/-! ## The inner maps -/

/-- Every address arrives with its amount. -/
theorem lookup_convert2CAmountsMap (inner : JavaMap JAmount) (address : JString) :
    (convert2CAmountsMap inner).lookup (stringWrapper address) = amountIn inner address := by
  apply Option.ext
  intro v
  unfold convert2CAmountsMap amountIn
  rw [lookup_fillKeeping stringWrapper_injective inner.nodupKeys, Option.map_eq_some_iff]
  constructor
  · rintro ⟨e, he, haddress, hv⟩
    refine ⟨e.2, ?_, hv⟩
    rw [← stringWrapper_injective haddress]
    exact AList.mem_lookup_iff.mpr he
  · rintro ⟨amount, hamount, hv⟩
    exact ⟨⟨address, amount⟩, AList.mem_lookup_iff.mp hamount, rfl, hv⟩

/-- Inner maps arrive equal exactly when they request the same. -/
theorem convert2CAmountsMap_eq_iff (inner inner' : JavaMap JAmount) :
    convert2CAmountsMap inner = convert2CAmountsMap inner' ↔
      ∀ address, amountIn inner address = amountIn inner' address := by
  constructor
  · intro h address
    rw [← lookup_convert2CAmountsMap, h, lookup_convert2CAmountsMap]
  · intro h
    apply Finmap.ext_lookup
    intro bytes
    -- a key of either map is an address of it
    have hkey : ∀ (i : JavaMap JAmount) (v : Int), (convert2CAmountsMap i).lookup bytes = some v →
        ∃ address, stringWrapper address = bytes := by
      intro i v hv
      obtain ⟨e, -, he, -⟩ :=
        (lookup_fillKeeping stringWrapper_injective i.nodupKeys).mp hv
      exact ⟨e.1, he⟩
    by_cases haddress : ∃ address, stringWrapper address = bytes
    · obtain ⟨address, rfl⟩ := haddress
      rw [lookup_convert2CAmountsMap, lookup_convert2CAmountsMap, h]
    · have hnone : ∀ i : JavaMap JAmount, (convert2CAmountsMap i).lookup bytes = none := by
        intro i
        rw [Option.eq_none_iff_forall_ne_some]
        intro v hv
        exact haddress (hkey i v hv)
      rw [hnone inner, hnone inner']

/-- The order of an inner map plays no role. -/
theorem amountIn_of_perm {inner inner' : JavaMap JAmount}
    (h : inner.entries.Perm inner'.entries) (address : JString) :
    amountIn inner address = amountIn inner' address := by
  unfold amountIn
  rw [AList.perm_lookup h]

/-- The sum of an inner map arrives. -/
theorem sum_convert2CAmountsMap (inner : JavaMap JAmount) :
    ((convert2CAmountsMap inner).entries.map fun d => d.2).sum = sumIn inner := by
  unfold convert2CAmountsMap sumIn
  rw [entries_fillKeeping stringWrapper_injective inner.nodupKeys, Multiset.map_coe,
    Multiset.sum_coe, List.map_map]
  rfl

/-! ## Keys that spell one id -/

theorem mem_entriesOf {m : JavaMap (JavaMap JAmount)} {asset : AssetId}
    {e : Sigma fun _ : JString => JavaMap JAmount} :
    e ∈ entriesOf m asset ↔ e ∈ m.entries ∧ assetOfKey e.1 = asset := by
  unfold entriesOf
  rw [List.mem_filter, decide_eq_true_eq]

/-- A key is the only one that spells its id, or there is another. -/
theorem alone_or_twin {m : JavaMap (JavaMap JAmount)}
    {e : Sigma fun _ : JString => JavaMap JAmount} (he : e ∈ m.entries) :
    entriesOf m (assetOfKey e.1) = [e] ∨
      ∃ e' ∈ m.entries, e'.1 ≠ e.1 ∧ assetOfKey e'.1 = assetOfKey e.1 := by
  by_cases htwin : ∃ e' ∈ m.entries, e'.1 ≠ e.1 ∧ assetOfKey e'.1 = assetOfKey e.1
  · exact Or.inr htwin
  · left
    have hall : ∀ d ∈ entriesOf m (assetOfKey e.1), d = e := by
      intro d hd
      obtain ⟨hmem, hasset⟩ := mem_entriesOf.mp hd
      by_contra hne
      refine htwin ⟨d, hmem, fun hkey => hne ?_, hasset⟩
      exact m.nodupKeys.eq_of_fst_eq hmem he hkey
    -- a group that consists of `e` alone, without repetition, has one member
    have hnodup : (entriesOf m (assetOfKey e.1)).Nodup :=
      m.nodupKeys.nodup.filter _
    have hreplicate := List.eq_replicate_of_mem hall
    rw [hreplicate, List.nodup_replicate] at hnodup
    have hself : e ∈ entriesOf m (assetOfKey e.1) := mem_entriesOf.mpr ⟨he, rfl⟩
    have hpos : 0 < (entriesOf m (assetOfKey e.1)).length := List.length_pos_of_mem hself
    have hone : (entriesOf m (assetOfKey e.1)).length = 1 := by omega
    rw [hreplicate, hone]
    rfl

/-- Two different entries make a group of at least two. -/
theorem two_le_length_entriesOf {m : JavaMap (JavaMap JAmount)} {asset : AssetId}
    {e e' : Sigma fun _ : JString => JavaMap JAmount} (he : e ∈ entriesOf m asset)
    (he' : e' ∈ entriesOf m asset) (hne : e.1 ≠ e'.1) : 2 ≤ (entriesOf m asset).length := by
  generalize entriesOf m asset = group at he he'
  match group, he, he' with
  | [d], he, he' =>
    rw [List.mem_singleton] at he he'
    rw [he, he'] at hne
    exact absurd rfl hne
  | _ :: _ :: rest, _, _ =>
    rw [List.length_cons, List.length_cons]
    omega

/-- The requests of a group whose members agree on an address. -/
theorem requests_of_agree {m : JavaMap (JavaMap JAmount)} {asset : AssetId} {address : JString}
    {amount : Option Int} (h : ∀ e ∈ entriesOf m asset, amountIn e.2 address = amount) :
    requests m asset address = amount.elim [] (List.replicate (entriesOf m asset).length) := by
  unfold requests
  generalize entriesOf m asset = group at h
  induction group with
  | nil => cases amount <;> rfl
  | cons e group ih =>
    obtain ⟨he, hgroup⟩ := List.forall_mem_cons.mp h
    rw [List.filterMap_cons, he, ih hgroup]
    cases amount with
    | none => rfl
    | some v => rfl

/-- The total of a group whose members agree on an address. -/
theorem requestedTotal_of_agree {m : JavaMap (JavaMap JAmount)} {asset : AssetId}
    {address : JString} {amount : Option Int}
    (h : ∀ e ∈ entriesOf m asset, amountIn e.2 address = amount)
    (hpos : 0 < (entriesOf m asset).length) :
    requestedTotal m asset address =
      amount.map fun v : Int => ((entriesOf m asset).length : Int) * v := by
  unfold requestedTotal
  rw [requests_of_agree h]
  cases amount with
  | none => rfl
  | some v =>
    -- the group is not empty, so that its total counts
    have hne : List.replicate (entriesOf m asset).length v ≠ [] := by
      rw [ne_eq, List.replicate_eq_nil_iff]
      omega
    simp only [Option.elim_some, if_neg hne, List.sum_replicate, nsmul_eq_mul, Option.map_some]

/-! ## Iteration orders -/

theorem SameMap.symm {m m' : JavaMap (JavaMap JAmount)} (h : SameMap m m') : SameMap m' m := by
  intro key
  have hkey := h key
  cases hm : m.lookup key with
  | none =>
    rw [hm] at hkey
    cases hm' : m'.lookup key with
    | none => exact Option.Rel.none
    | some inner' =>
      rw [hm'] at hkey
      cases hkey
  | some inner =>
    rw [hm] at hkey
    cases hm' : m'.lookup key with
    | none =>
      rw [hm'] at hkey
      cases hkey
    | some inner' =>
      rw [hm'] at hkey
      cases hkey with
      | some hperm => exact Option.Rel.some hperm.symm

/-- An entry of a map is one of the same map in another order. -/
theorem SameMap.exists_entry {m m' : JavaMap (JavaMap JAmount)} (h : SameMap m m')
    {e : Sigma fun _ : JString => JavaMap JAmount} (he : e ∈ m.entries) :
    ∃ e' ∈ m'.entries, e'.1 = e.1 ∧ convert2CAmountsMap e'.2 = convert2CAmountsMap e.2 := by
  have hlookup : m.lookup e.1 = some e.2 := AList.mem_lookup_iff.mpr he
  have hkey := h e.1
  rw [hlookup] at hkey
  -- a key of one map is a key of the other
  cases hm' : m'.lookup e.1 with
  | none =>
    rw [hm'] at hkey
    cases hkey
  | some inner' =>
    rw [hm'] at hkey
    cases hkey with
    | some hperm =>
      refine ⟨⟨e.1, inner'⟩, AList.mem_lookup_iff.mp hm', rfl, ?_⟩
      rw [convert2CAmountsMap_eq_iff]
      exact fun address => (amountIn_of_perm hperm address).symm

/-- Any entry may come last. -/
theorem exists_order_ending_in {m : JavaMap (JavaMap JAmount)}
    {e : Sigma fun _ : JString => JavaMap JAmount} (he : e ∈ m.entries) :
    ∃ m' l, SameMap m' m ∧ m'.entries = l ++ [e] := by
  obtain ⟨l₁, l₂, hsplit⟩ := List.append_of_mem he
  -- the same entries with `e` moved to the end
  have hperm : (l₁ ++ l₂ ++ [e]).Perm m.entries := by
    rw [hsplit, List.append_assoc]
    exact List.Perm.append_left l₁ (List.perm_append_singleton e l₂)
  refine ⟨⟨l₁ ++ l₂ ++ [e], (List.perm_nodupKeys hperm).mpr m.nodupKeys⟩, l₁ ++ l₂, ?_, rfl⟩
  intro key
  have hlookup : AList.lookup key ⟨l₁ ++ l₂ ++ [e], (List.perm_nodupKeys hperm).mpr m.nodupKeys⟩ =
      m.lookup key := AList.perm_lookup hperm
  rw [hlookup]
  cases m.lookup key with
  | none => exact Option.Rel.none
  | some inner => exact Option.Rel.some (List.Perm.refl _)

/-! ## When nothing is lost -/

/-- Harmless spellings: entries for one id are the same for the library. -/
theorem SpellingsHarmless.agree {m : JavaMap (JavaMap JAmount)} (h : SpellingsHarmless m)
    {e e' : Sigma fun _ : JString => JavaMap JAmount} (he : e ∈ m.entries) (he' : e' ∈ m.entries)
    (hasset : assetOfKey e.1 = assetOfKey e'.1) :
    convert2CAmountsMap e.2 = convert2CAmountsMap e'.2 := by
  by_cases hkey : e.1 = e'.1
  · rw [m.nodupKeys.eq_of_fst_eq he he' hkey]
  · exact (convert2CAmountsMap_eq_iff _ _).mpr (h e he e' he' hkey hasset).1

/-- What the native map holds when spellings are harmless. -/
theorem SpellingsHarmless.lookup_iff {m : JavaMap (JavaMap JAmount)} (h : SpellingsHarmless m)
    {asset : AssetId} {inner : AmountsMap} :
    (convert2CLiquidOutputs m).lookup asset = some inner ↔
      ∃ e ∈ m.entries, assetOfKey e.1 = asset ∧ convert2CAmountsMap e.2 = inner :=
  lookup_fillOverwriting_iff fun _ he _ he' hasset => h.agree he he' hasset

/-- Harmless spellings stay harmless in any order. -/
theorem SpellingsHarmless.convert_eq {m m' : JavaMap (JavaMap JAmount)}
    (h : SpellingsHarmless m) (hsame : SameMap m' m) :
    convert2CLiquidOutputs m' = convert2CLiquidOutputs m := by
  have hagree : ∀ e ∈ m'.entries, ∀ e' ∈ m'.entries, assetOfKey e.1 = assetOfKey e'.1 →
      convert2CAmountsMap e.2 = convert2CAmountsMap e'.2 := by
    intro e he e' he' hasset
    obtain ⟨d, hd, hkey, hd2⟩ := hsame.exists_entry he
    obtain ⟨d', hd', hkey', hd2'⟩ := hsame.exists_entry he'
    rw [← hd2, ← hd2']
    refine h.agree hd hd' ?_
    rw [hkey, hkey', hasset]
  apply Finmap.ext_lookup
  intro asset
  apply Option.ext
  intro inner
  -- both maps hold what some entry for the id converts to
  rw [h.lookup_iff, show convert2CLiquidOutputs m' = fillOverwriting assetOfKey
    convert2CAmountsMap m'.entries from rfl, lookup_fillOverwriting_iff hagree]
  constructor
  · rintro ⟨e, he, rfl, rfl⟩
    obtain ⟨d, hd, hkey, hd2⟩ := hsame.exists_entry he
    exact ⟨d, hd, by rw [hkey], hd2⟩
  · rintro ⟨e, he, rfl, rfl⟩
    obtain ⟨d, hd, hkey, hd2⟩ := hsame.symm.exists_entry he
    exact ⟨d, hd, by rw [hkey], hd2⟩

/-- No key spells the id: nothing is requested and nothing arrives. -/
theorem convert2CLiquidOutputs_lookup_none {m : JavaMap (JavaMap JAmount)} {asset : AssetId}
    (h : ¬ ∃ e ∈ m.entries, assetOfKey e.1 = asset) :
    entriesOf m asset = [] ∧ (convert2CLiquidOutputs m).lookup asset = none := by
  constructor
  · rw [List.eq_nil_iff_forall_not_mem]
    intro e he
    exact h ⟨e, mem_entriesOf.mp he⟩
  · rw [Option.eq_none_iff_forall_ne_some]
    intro inner hinner
    obtain ⟨e, he, hasset, -⟩ := exists_of_lookup_fillOverwriting hinner
    exact h ⟨e, he, hasset⟩

/-- With harmless spellings every amount is the requested total. -/
theorem SpellingsHarmless.amountFor_eq {m : JavaMap (JavaMap JAmount)} (h : SpellingsHarmless m)
    (asset : AssetId) (address : JString) :
    amountFor (convert2CLiquidOutputs m) asset address = requestedTotal m asset address := by
  by_cases hkey : ∃ e ∈ m.entries, assetOfKey e.1 = asset
  · obtain ⟨e, he, rfl⟩ := hkey
    have hself : e ∈ entriesOf m (assetOfKey e.1) := mem_entriesOf.mpr ⟨he, rfl⟩
    -- entries of one id agree on the address, whichever was filled last
    have hgroup : ∀ d ∈ entriesOf m (assetOfKey e.1),
        amountIn d.2 address = amountIn e.2 address := by
      intro d hd
      obtain ⟨hmem, hasset⟩ := mem_entriesOf.mp hd
      exact (convert2CAmountsMap_eq_iff _ _).mp (h.agree hmem he hasset) address
    rw [requestedTotal_of_agree hgroup (List.length_pos_of_mem hself), amountFor,
      h.lookup_iff.mpr ⟨e, he, rfl, rfl⟩, Option.bind_some, lookup_convert2CAmountsMap]
    rcases alone_or_twin he with halone | ⟨e', he', hne, hasset⟩
    · -- the only entry for the id
      rw [halone]
      cases amountIn e.2 address <;> simp
    · -- a twin: all amounts are zero
      cases hamount : amountIn e.2 address with
      | none => rfl
      | some v =>
        obtain ⟨amount, hlookup, rfl⟩ := Option.map_eq_some_iff.mp hamount
        have hzero : convert2CAmount amount = 0 :=
          (h e he e' he' hne.symm hasset.symm).2 _ (AList.mem_lookup_iff.mp hlookup)
        rw [hzero, Option.map_some, Int.mul_zero]
  · -- no entry for the id on either side
    obtain ⟨hnil, hnone⟩ := convert2CLiquidOutputs_lookup_none hkey
    unfold amountFor requestedTotal requests
    rw [hnone, hnil]
    rfl

/-- With harmless spellings every sum is the requested sum. -/
theorem SpellingsHarmless.assetSum_eq {m : JavaMap (JavaMap JAmount)} (h : SpellingsHarmless m)
    (asset : AssetId) : assetSum (convert2CLiquidOutputs m) asset = requestedSum m asset := by
  by_cases hkey : ∃ e ∈ m.entries, assetOfKey e.1 = asset
  · obtain ⟨e, he, rfl⟩ := hkey
    unfold assetSum requestedSum
    rw [h.lookup_iff.mpr ⟨e, he, rfl, rfl⟩]
    simp only [sum_convert2CAmountsMap]
    rcases alone_or_twin he with halone | ⟨e', he', hne, hasset⟩
    · -- the only entry is the one that was filled
      rw [halone]
      simp
    · -- every member has a twin, so every inner sum is zero
      have hzero : ∀ d ∈ entriesOf m (assetOfKey e.1), sumIn d.2 = 0 := by
        intro d hd
        obtain ⟨hmem, hd⟩ := mem_entriesOf.mp hd
        have htwin : ∃ d' ∈ m.entries, d.1 ≠ d'.1 ∧ assetOfKey d.1 = assetOfKey d'.1 := by
          by_cases hde : d.1 = e.1
          · exact ⟨e', he', by rw [hde]; exact hne.symm, by rw [hd, hasset]⟩
          · exact ⟨e, he, hde, hd⟩
        obtain ⟨d', hd', hned, hassetd⟩ := htwin
        have hall := (h d hmem d' hd' hned hassetd).2
        unfold sumIn
        rw [List.map_congr_left hall, List.map_const', List.sum_replicate, nsmul_zero]
      have hself : sumIn e.2 = 0 := hzero e (mem_entriesOf.mpr ⟨he, rfl⟩)
      rw [hself, List.map_congr_left hzero, List.map_const', List.sum_replicate, nsmul_zero]
  · -- no entry for the id on either side
    obtain ⟨hnil, hnone⟩ := convert2CLiquidOutputs_lookup_none hkey
    unfold assetSum requestedSum
    rw [hnone, hnil]
    rfl

/-- If the order plays no role, each entry for an id is what the library gets. -/
theorem NothingLost.lookup_eq {m : JavaMap (JavaMap JAmount)} (h : NothingLost m)
    {e : Sigma fun _ : JString => JavaMap JAmount} (he : e ∈ m.entries) :
    (convert2CLiquidOutputs m).lookup (assetOfKey e.1) = some (convert2CAmountsMap e.2) := by
  obtain ⟨m', l, hsame, hlast⟩ := exists_order_ending_in he
  rw [← h.1 m' hsame, convert2CLiquidOutputs, hlast]
  exact lookup_fillOverwriting_concat e

/-- If nothing is lost, spellings are harmless: iterating either entry last makes their requests
    equal, and a total that counts a request at least twice equals it only for zero. -/
theorem NothingLost.spellingsHarmless {m : JavaMap (JavaMap JAmount)} (h : NothingLost m) :
    SpellingsHarmless m := by
  intro e he e' he' hne hasset
  have hgroup : ∀ address, ∀ d ∈ entriesOf m (assetOfKey e.1),
      amountIn d.2 address = amountIn e.2 address := by
    intro address d hd
    obtain ⟨hmem, hd⟩ := mem_entriesOf.mp hd
    have hlookup := h.lookup_eq hmem
    rw [hd, h.lookup_eq he, Option.some.injEq] at hlookup
    exact (convert2CAmountsMap_eq_iff _ _).mp hlookup.symm address
  have hself : e ∈ entriesOf m (assetOfKey e.1) := mem_entriesOf.mpr ⟨he, rfl⟩
  have htwin : e' ∈ entriesOf m (assetOfKey e.1) := mem_entriesOf.mpr ⟨he', hasset.symm⟩
  have htwo := two_le_length_entriesOf hself htwin hne
  refine ⟨fun address => (hgroup address e' htwin).symm, ?_⟩
  intro d hd
  have hamount : amountIn e.2 d.1 = some (convert2CAmount d.2) := by
    unfold amountIn
    rw [AList.mem_lookup_iff.mpr hd, Option.map_some]
  have htotal := h.2.1 (assetOfKey e.1) d.1
  rw [amountFor, h.lookup_eq he, Option.bind_some, lookup_convert2CAmountsMap,
    requestedTotal_of_agree (hgroup d.1) (by omega), hamount, Option.map_some,
    Option.some.injEq] at htotal
  -- the amount that arrives is one request, the total counts it once for each spelling
  -- `v = n * v` with `2 ≤ n`
  have hfactor : ((entriesOf m (assetOfKey e.1)).length - 1 : Int) * convert2CAmount d.2 = 0 := by
    rw [Int.sub_mul, Int.one_mul, ← htotal, Int.sub_self]
  rcases Int.mul_eq_zero.mp hfactor with hlength | hzero
  · omega
  · exact hzero

/-- **No requested Liquid output is lost, up to spellings of one asset id.** The conversion
    yields one native map for every iteration order, with the requested totals and sums, exactly
    when keys that spell the same id request the same addresses with zero amounts only. -/
theorem liquidOutputs_nothingLost_iff (m : JavaMap (JavaMap JAmount)) :
    NothingLost m ↔ SpellingsHarmless m := by
  constructor
  · exact NothingLost.spellingsHarmless
  · intro h
    exact ⟨fun _ hsame => h.convert_eq hsame, h.amountFor_eq, h.assetSum_eq⟩

/-- The keys `ab` and `AB` ask for 5 and for 7 at the address `x`. -/
def twoSpellings : JavaMap (JavaMap JAmount) where
  entries :=
    [⟨[97, 98], AList.singleton [120] ⟨5, "5"⟩⟩, ⟨[65, 66], AList.singleton [120] ⟨7, "7"⟩⟩]
  nodupKeys := by
    unfold List.NodupKeys
    decide

/-- The library is asked to send 7, not 12. -/
theorem twoSpellings_loses_five :
    ¬ ∀ m : JavaMap (JavaMap JAmount), (∀ e ∈ m.entries, IsHexText e.1) → NothingLost m := by
  intro h
  have hhex : ∀ e ∈ twoSpellings.entries, IsHexText e.1 := by
    intro e he
    rcases List.mem_pair.mp he with rfl | rfl
    · simp [IsHexText, IsHexUnit]
    · simp [IsHexText, IsHexUnit]
  have htotal := (h twoSpellings hhex).2.1 [171] [120]
  have hsent : amountFor (convert2CLiquidOutputs twoSpellings) [171] [120] = some 7 := by decide
  have hasked : requestedTotal twoSpellings [171] [120] = some 12 := by decide
  rw [hsent, hasked] at htotal
  cases htotal

end NunchukSdk
