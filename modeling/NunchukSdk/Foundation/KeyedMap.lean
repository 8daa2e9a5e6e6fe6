import Mathlib.Data.Finmap

/-!
# Keyed Maps

Facts about finite maps from keys to values, in the two ways programs use them here.

## Memo tables

A memo table remembers values of a partial function `source`. It is **coherent** when every
remembered value is still the one `source` gives. Remembering a current value and forgetting
keep it coherent; a change of `source` keeps it coherent exactly when it moves no remembered
value.
-/

namespace NunchukSdk.Foundation

variable {κ β : Type*} [DecidableEq κ]

/-! ## Memo tables -/

/-- Every remembered value is the current one. -/
def Coherent (table : Finmap fun _ : κ => β) (source : κ → Option β) : Prop :=
  ∀ k v, table.lookup k = some v → source k = some v

/-- An empty table is coherent with everything. -/
theorem coherent_empty (source : κ → Option β) : Coherent ∅ source := by
  intro k v hv
  rw [Finmap.lookup_empty] at hv
  cases hv

/-- Remembering a current value. -/
theorem Coherent.insert {table : Finmap fun _ : κ => β} {source : κ → Option β}
    (h : Coherent table source) {k : κ} {v : β} (hv : source k = some v) :
    Coherent (table.insert k v) source := by
  intro k' v' hv'
  by_cases hk : k' = k
  · subst hk
    rw [Finmap.lookup_insert] at hv'
    rw [hv, hv']
  · rw [Finmap.lookup_insert_of_ne _ hk] at hv'
    exact h k' v' hv'

/-- Forgetting a key. -/
theorem Coherent.erase {table : Finmap fun _ : κ => β} {source : κ → Option β}
    (h : Coherent table source) (k : κ) : Coherent (table.erase k) source := by
  intro k' v' hv'
  by_cases hk : k' = k
  · subst hk
    rw [Finmap.lookup_erase] at hv'
    cases hv'
  · rw [Finmap.lookup_erase_ne hk] at hv'
    exact h k' v' hv'

/-- A change of the source at one key keeps the table coherent exactly when the value remembered
    there, if any, is the new one. -/
theorem Coherent.update_iff {table : Finmap fun _ : κ => β} {source source' : κ → Option β}
    (h : Coherent table source) {k : κ} (hother : ∀ k', k' ≠ k → source' k' = source k') :
    Coherent table source' ↔ ∀ v, table.lookup k = some v → source' k = some v := by
  constructor
  · intro h' v hv
    exact h' k v hv
  · intro hk k' v' hv'
    by_cases heq : k' = k
    · subst heq
      exact hk v' hv'
    · rw [hother k' heq]
      exact h k' v' hv'

/-! ## Converting the values -/

/-- The same keys with converted values. -/
def mapValues {γ : Type*} (f : β → γ) (m : Finmap fun _ : κ => β) : Finmap fun _ : κ => γ where
  entries := m.entries.map fun e => ⟨e.1, f e.2⟩
  nodupKeys := by
    have hkeys : (m.entries.map fun e => (⟨e.1, f e.2⟩ : Sigma fun _ : κ => γ)).keys =
        m.entries.keys := by
      simp only [Multiset.keys, Multiset.map_map, Function.comp_def]
    rw [← Multiset.nodup_keys, hkeys]
    exact m.nodupKeys.nodup_keys

/-! ## Filling a map from a list -/

section Fill

variable {κ' β' : Type*}

/-- Insert an entry unless the key has one. -/
def insertIfAbsent (m : Finmap fun _ : κ => β) (k : κ) (v : β) : Finmap fun _ : κ => β :=
  if k ∈ m then m else m.insert k v

/-- Convert a list of entries, keeping the first value of a key. -/
def fillKeeping (f : κ' → κ) (g : β' → β) (l : List (Sigma fun _ : κ' => β')) :
    Finmap fun _ : κ => β :=
  l.foldl (fun m e => insertIfAbsent m (f e.1) (g e.2)) ∅

/-- Convert a list of entries, overwriting earlier values of a key. -/
def fillOverwriting (f : κ' → κ) (g : β' → β) (l : List (Sigma fun _ : κ' => β')) :
    Finmap fun _ : κ => β :=
  l.foldl (fun m e => m.insert (f e.1) (g e.2)) ∅

variable {f : κ' → κ} {g : β' → β} {l : List (Sigma fun _ : κ' => β')}

/-- Distinct keys under an injective conversion: every entry is kept as it is. -/
theorem entries_fillKeeping (hf : Function.Injective f) (hl : l.NodupKeys) :
    (fillKeeping f g l).entries =
      (l.map fun e => (⟨f e.1, g e.2⟩ : Sigma fun _ : κ => β) : Multiset _) := by
  induction l using List.reverseRecOn with
  | nil => rfl
  | append_singleton l e ih =>
    have hkeys : l.NodupKeys := hl.sublist (List.sublist_append_left l [e])
    -- the last key is new among the source keys, so its conversion is new in the map
    have hfresh : ∀ d ∈ l, d.1 ≠ e.1 := by
      intro d hd heq
      have hpair := (List.pairwise_append.mp hl.pairwise_ne).2.2
      exact hpair d hd e (List.mem_singleton_self e) heq
    have hentries := ih hkeys
    have habsent : f e.1 ∉ fillKeeping f g l := by
      intro hmem
      obtain ⟨v, hv⟩ := Finmap.mem_iff.mp hmem
      rw [Finmap.lookup_eq_some_iff, hentries, Multiset.mem_coe] at hv
      obtain ⟨d, hd, hde⟩ := List.mem_map.mp hv
      exact hfresh d hd (hf (congrArg Sigma.fst hde))
    -- hence the last step inserts, and entries are kept as a multiset
    have hstep : fillKeeping f g (l ++ [e]) = (fillKeeping f g l).insert (f e.1) (g e.2) := by
      unfold fillKeeping
      rw [List.foldl_append]
      exact if_neg habsent
    rw [hstep, Finmap.entries_insert_of_notMem habsent, hentries, List.map_append,
      ← Multiset.coe_add, add_comm]
    rfl

/-- What a converted map with kept entries holds. -/
theorem lookup_fillKeeping (hf : Function.Injective f) (hl : l.NodupKeys) {k : κ} {v : β} :
    (fillKeeping f g l).lookup k = some v ↔ ∃ e ∈ l, f e.1 = k ∧ g e.2 = v := by
  rw [Finmap.lookup_eq_some_iff, entries_fillKeeping hf hl, Multiset.mem_coe, List.mem_map]
  simp only [Sigma.mk.injEq, heq_eq_eq]

/-- The last entry of a list overwrites the others with its key. -/
theorem lookup_fillOverwriting_concat (e : Sigma fun _ : κ' => β') :
    (fillOverwriting f g (l ++ [e])).lookup (f e.1) = some (g e.2) := by
  unfold fillOverwriting
  rw [List.foldl_append]
  exact Finmap.lookup_insert _

/-- Nothing is made up: what a map holds comes from an entry of the list. -/
theorem exists_of_lookup_fillOverwriting {k : κ} {v : β}
    (h : (fillOverwriting f g l).lookup k = some v) : ∃ e ∈ l, f e.1 = k ∧ g e.2 = v := by
  induction l using List.reverseRecOn with
  | nil =>
    rw [fillOverwriting, List.foldl_nil, Finmap.lookup_empty] at h
    cases h
  | append_singleton l e ih =>
    -- the last entry decides about its own key and leaves the others to the list before it
    by_cases hk : f e.1 = k
    · subst hk
      rw [lookup_fillOverwriting_concat, Option.some.injEq] at h
      exact ⟨e, List.mem_append_right _ (List.mem_singleton_self e), rfl, h⟩
    · have hold : (fillOverwriting f g l).lookup k = some v := by
        rw [← h]
        unfold fillOverwriting
        rw [List.foldl_append]
        exact (Finmap.lookup_insert_of_ne _ (Ne.symm hk)).symm
      obtain ⟨d, hd, hdk, hdv⟩ := ih hold
      exact ⟨d, List.mem_append_left _ hd, hdk, hdv⟩

/-- No key is lost. -/
theorem lookup_fillOverwriting_ne_none {e : Sigma fun _ : κ' => β'} (he : e ∈ l) :
    ∃ v, (fillOverwriting f g l).lookup (f e.1) = some v := by
  induction l using List.reverseRecOn with
  | nil => cases he
  | append_singleton l d ih =>
    by_cases hk : f e.1 = f d.1
    · exact ⟨g d.2, by rw [hk]; exact lookup_fillOverwriting_concat d⟩
    -- an earlier entry with another key is still there
    · rcases List.mem_append.mp he with hold | hlast
      · obtain ⟨v, hv⟩ := ih hold
        refine ⟨v, ?_⟩
        rw [← hv]
        unfold fillOverwriting
        rw [List.foldl_append]
        exact Finmap.lookup_insert_of_ne _ hk
      · rw [List.mem_singleton.mp hlast] at hk
        exact absurd rfl hk

/-- Where entries with one converted key agree, overwriting does no harm: the map holds every
    entry. -/
theorem lookup_fillOverwriting_iff
    (hagree : ∀ e ∈ l, ∀ e' ∈ l, f e.1 = f e'.1 → g e.2 = g e'.2) {k : κ} {v : β} :
    (fillOverwriting f g l).lookup k = some v ↔ ∃ e ∈ l, f e.1 = k ∧ g e.2 = v := by
  constructor
  · exact exists_of_lookup_fillOverwriting
  · rintro ⟨e, he, rfl, rfl⟩
    -- the key is there, and whichever entry put it there agrees with `e`
    obtain ⟨v, hv⟩ := lookup_fillOverwriting_ne_none (f := f) (g := g) he
    obtain ⟨d, hd, hdk, hdv⟩ := exists_of_lookup_fillOverwriting hv
    rw [hv, ← hdv, hagree d hd e he hdk]

end Fill

end NunchukSdk.Foundation
