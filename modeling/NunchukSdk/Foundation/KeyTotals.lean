import Mathlib.Algebra.Order.BigOperators.Group.List
import NunchukSdk.Foundation.KeyedMap

/-!
# Totals per Key

A list of entries whose keys may repeat can be turned into a map in two ways: a later entry
overwrites an earlier one with its key, or the values of one key are added up. With positive
values the two agree exactly when no key repeats (`overwritingSums_iff_nodupKeys`).
-/

namespace NunchukSdk.Foundation

variable {κ β : Type*} [DecidableEq κ]

/-- The last value of each key. -/
def overwriting (l : List (Sigma fun _ : κ => β)) : Finmap fun _ : κ => β :=
  fillOverwriting (fun k => k) (fun v => v) l

/-- An entry at the end of the list decides about its key and about no other. -/
theorem lookup_overwriting_concat (l : List (Sigma fun _ : κ => β)) (e : Sigma fun _ : κ => β)
    (k : κ) : (overwriting (l ++ [e])).lookup k =
      if k = e.1 then some e.2 else (overwriting l).lookup k := by
  by_cases hk : k = e.1
  · rw [if_pos hk, hk]
    exact lookup_fillOverwriting_concat e
  · rw [if_neg hk]
    unfold overwriting fillOverwriting
    rw [List.foldl_append]
    exact Finmap.lookup_insert_of_ne _ hk

/-- A key without an entry is not in the map. -/
theorem lookup_overwriting_eq_none {l : List (Sigma fun _ : κ => β)} {k : κ}
    (h : k ∉ l.keys) : (overwriting l).lookup k = none := by
  cases hlookup : (overwriting l).lookup k with
  | none => rfl
  | some v =>
    obtain ⟨e, he, hkey, -⟩ := exists_of_lookup_fillOverwriting hlookup
    exact absurd (List.mem_map.mpr ⟨e, he, hkey⟩) h

/-- With distinct keys every entry is in the map as it is. -/
theorem entries_overwriting {l : List (Sigma fun _ : κ => β)} (h : l.NodupKeys) :
    (overwriting l).entries = (l : Multiset (Sigma fun _ : κ => β)) := by
  have hinj : Function.Injective (fun k : κ => k) := fun _ _ hk => hk
  -- nothing is overwritten, so the map is the one that keeps first values
  have hagree : ∀ e ∈ l, ∀ e' ∈ l, e.1 = e'.1 → e.2 = e'.2 := by
    intro e he e' he' hkey
    have heq : e = e' := h.eq_of_fst_eq he he' hkey
    rw [heq]
  have hkeeping : overwriting l = fillKeeping (fun k => k) (fun v => v) l := by
    apply Finmap.ext_lookup
    intro k
    apply Option.ext
    intro v
    exact (lookup_fillOverwriting_iff hagree).trans (lookup_fillKeeping (g := fun v => v) hinj h).symm
  rw [hkeeping, entries_fillKeeping hinj h, List.map_id'']
  exact fun _ => rfl

/-! ## Adding up -/

section Totals

variable [AddCommMonoid β]

/-- The sum of the values of a key. -/
def totalAt (l : List (Sigma fun _ : κ => β)) (k : κ) : β :=
  ((l.filter fun e => e.1 = k).map Sigma.snd).sum

/-- The map that adds up: no key without an entry, the sum of the values at every other. -/
def summed (l : List (Sigma fun _ : κ => β)) (k : κ) : Option β :=
  if k ∈ l.keys then some (totalAt l k) else none

theorem totalAt_concat (l : List (Sigma fun _ : κ => β)) (e : Sigma fun _ : κ => β) (k : κ) :
    totalAt (l ++ [e]) k = if k = e.1 then totalAt l k + e.2 else totalAt l k := by
  unfold totalAt
  by_cases hk : k = e.1
  · simp [List.filter_append, hk]
  · simp [List.filter_append, hk, Ne.symm hk]

theorem totalAt_cons (e : Sigma fun _ : κ => β) (l : List (Sigma fun _ : κ => β)) (k : κ) :
    totalAt (e :: l) k = if e.1 = k then e.2 + totalAt l k else totalAt l k := by
  unfold totalAt
  by_cases hk : e.1 = k
  · simp [hk]
  · simp [hk]

theorem totalAt_eq_zero {l : List (Sigma fun _ : κ => β)} {k : κ} (h : k ∉ l.keys) :
    totalAt l k = 0 := by
  have hnone : (l.filter fun e => e.1 = k) = [] := by
    rw [List.filter_eq_nil_iff]
    intro e he hkey
    exact h (List.mem_map.mpr ⟨e, he, of_decide_eq_true hkey⟩)
  rw [totalAt, hnone, List.map_nil, List.sum_nil]

/-- With distinct keys the values of the map add up to the values of the list. -/
theorem sum_overwriting {l : List (Sigma fun _ : κ => β)} (h : l.NodupKeys) :
    ((overwriting l).entries.map Sigma.snd).sum = (l.map Sigma.snd).sum := by
  rw [entries_overwriting h, Multiset.map_coe, Multiset.sum_coe]

variable [PartialOrder β] [IsOrderedCancelAddMonoid β]

/-- A key that occurs has a positive total when all values are positive. -/
theorem totalAt_pos {l : List (Sigma fun _ : κ => β)} (hpos : ∀ e ∈ l, 0 < e.2) {k : κ}
    (hk : k ∈ l.keys) : 0 < totalAt l k := by
  obtain ⟨e, he, hkey⟩ := List.mem_map.mp hk
  have hmem : e ∈ l.filter fun e => e.1 = k :=
    List.mem_filter.mpr ⟨he, decide_eq_true hkey⟩
  apply List.sum_pos
  · intro v hv
    obtain ⟨d, hd, rfl⟩ := List.mem_map.mp hv
    exact hpos d (List.mem_filter.mp hd).1
  · intro hnil
    rw [List.map_eq_nil_iff.mp hnil] at hmem
    cases hmem

/-- One more entry overwrites no value exactly when its key is new. -/
theorem overwriting_eq_summed_concat {l : List (Sigma fun _ : κ => β)}
    {e : Sigma fun _ : κ => β} (hpos : ∀ d ∈ l, 0 < d.2) :
    (∀ k, (overwriting (l ++ [e])).lookup k = summed (l ++ [e]) k) ↔
      (∀ k, (overwriting l).lookup k = summed l k) ∧ e.1 ∉ l.keys := by
  have hkeys : (l ++ [e]).keys = l.keys ++ [e.1] := List.map_append
  constructor
  · intro h
    -- at its own key the map has the new value alone, so the old values add up to nothing
    have hnew : e.1 ∉ l.keys := by
      intro hold
      have hhere := h e.1
      rw [lookup_overwriting_concat, if_pos rfl, summed, totalAt_concat, if_pos rfl,
        if_pos (by simp [hkeys]), Option.some.injEq] at hhere
      have hzero : totalAt l e.1 = 0 := right_eq_add.mp hhere
      exact absurd hzero (totalAt_pos hpos hold).ne'
    refine ⟨fun k => ?_, hnew⟩
    by_cases hk : k = e.1
    · rw [hk, lookup_overwriting_eq_none hnew, summed, if_neg hnew]
    · have hother := h k
      rw [lookup_overwriting_concat, if_neg hk, summed, totalAt_concat, if_neg hk] at hother
      rw [hother, summed]
      simp [hkeys, hk]
  · rintro ⟨h, hnew⟩ k
    rw [lookup_overwriting_concat, summed, totalAt_concat]
    by_cases hk : k = e.1
    · rw [if_pos hk, if_pos hk, if_pos (by simp [hkeys, hk]), hk, totalAt_eq_zero hnew, zero_add]
    · rw [if_neg hk, if_neg hk, h k, summed]
      simp [hkeys, hk]

/-- **Overwriting loses nothing exactly when no key repeats.** -/
theorem overwritingSums_iff_nodupKeys {l : List (Sigma fun _ : κ => β)}
    (hpos : ∀ e ∈ l, 0 < e.2) :
    (∀ k, (overwriting l).lookup k = summed l k) ↔ l.NodupKeys := by
  induction l using List.reverseRecOn with
  | nil =>
    constructor
    · exact fun _ => List.nodupKeys_nil
    · exact fun _ k => rfl
  | append_singleton l e ih =>
    have hl : ∀ d ∈ l, 0 < d.2 := fun d hd => hpos d (List.mem_append_left _ hd)
    have hkeys : (l ++ [e]).keys = l.keys ++ [e.1] := List.map_append
    rw [overwriting_eq_summed_concat hl, ih hl, List.NodupKeys, List.NodupKeys, hkeys,
      List.nodup_append]
    -- the keys stay distinct when the last one is none of the others
    have hlast : (∀ k ∈ l.keys, ∀ k' ∈ [e.1], k ≠ k') ↔ e.1 ∉ l.keys := by
      constructor
      · exact fun h hmem => h e.1 hmem e.1 (List.mem_singleton_self _) rfl
      · intro hnew k hk k' hk' heq
        exact hnew (List.mem_singleton.mp hk' ▸ heq ▸ hk)
    rw [hlast]
    simp

end Totals

end NunchukSdk.Foundation
