import Mathlib.Data.List.Basic

/-!
# Rose Trees Addressed by Child Positions

A rose tree has a label and a list of children at every node. A **position** is the list of child
indices that leads from the root to a node, counted from 0; `subtreeAt` follows it.

## Outline numbering

A tree may also carry an identifier in each label. It is *numbered* by `idOf` when every `i`-th
child, counted from 1, extends the identifier of its parent by `i` (`NumberedBy`), as the sections
of an outline are. The rule is local; `NumberedBy.idOf_subtreeAt` gives the identifier of each
node from its position, and `NumberedBy.position_unique` that two positions never share one.
-/

namespace NunchukSdk.Foundation

/-- A tree with a label and finitely many ordered children at every node. -/
inductive RoseTree (α : Type) where
  | node (label : α) (children : List (RoseTree α))

namespace RoseTree

variable {α β : Type}

/-- The label of the root. -/
def label : RoseTree α → α
  | node a _ => a

/-- The children of the root. -/
def children : RoseTree α → List (RoseTree α)
  | node _ cs => cs

@[simp] theorem label_node (a : α) (cs : List (RoseTree α)) : (node a cs).label = a := rfl

@[simp] theorem children_node (a : α) (cs : List (RoseTree α)) : (node a cs).children = cs := rfl

/-! ## Positions -/

/-- The node at a position; `none` when the position leaves the tree. -/
def subtreeAt (t : RoseTree α) : List Nat → Option (RoseTree α)
  | [] => some t
  | i :: q =>
    match t.children[i]? with
    | none => none
    | some c => c.subtreeAt q

@[simp] theorem subtreeAt_nil (t : RoseTree α) : t.subtreeAt [] = some t := rfl

/-- Following a position through its first child. -/
theorem subtreeAt_cons_eq_some {t n : RoseTree α} {i : Nat} {q : List Nat} :
    t.subtreeAt (i :: q) = some n ↔ ∃ c, t.children[i]? = some c ∧ c.subtreeAt q = some n := by
  rw [subtreeAt]
  cases t.children[i]? with
  | none => simp
  | some c => simp

/-! ## Relabelling -/

mutual

/-- Apply `f` to every label. -/
def map (f : α → β) : RoseTree α → RoseTree β
  | node a cs => node (f a) (mapForest f cs)

/-- Apply `f` to every label of a list of trees. -/
def mapForest (f : α → β) : List (RoseTree α) → List (RoseTree β)
  | [] => []
  | c :: cs => map f c :: mapForest f cs

end

theorem mapForest_eq_map (f : α → β) (cs : List (RoseTree α)) :
    mapForest f cs = cs.map (map f) := by
  induction cs with
  | nil => rfl
  | cons c cs ih => rw [mapForest, ih, List.map_cons]

@[simp] theorem label_map (f : α → β) (t : RoseTree α) : (t.map f).label = f t.label := by
  cases t with
  | node a cs => rfl

@[simp] theorem children_map (f : α → β) (t : RoseTree α) :
    (t.map f).children = t.children.map (map f) := by
  cases t with
  | node a cs =>
    show mapForest f cs = cs.map (map f)
    exact mapForest_eq_map f cs

/-- Relabelling moves no node. -/
theorem subtreeAt_map (f : α → β) (t : RoseTree α) (q : List Nat) :
    (t.map f).subtreeAt q = (t.subtreeAt q).map (map f) := by
  induction q generalizing t with
  | nil => rfl
  | cons i q ih =>
    -- the step to child `i` is the same in both trees; below it the position is shorter
    unfold subtreeAt
    rw [children_map, List.getElem?_map]
    cases t.children[i]? with
    | none => rfl
    | some c => exact ih c

/-! ## Folding -/

mutual

/-- Compute from each label and the results of the children. -/
def fold (f : α → List β → β) : RoseTree α → β
  | node a cs => f a (foldForest f cs)

/-- The results of a list of trees. -/
def foldForest (f : α → List β → β) : List (RoseTree α) → List β
  | [] => []
  | c :: cs => fold f c :: foldForest f cs

end

theorem foldForest_eq_map (f : α → List β → β) (cs : List (RoseTree α)) :
    foldForest f cs = cs.map (fold f) := by
  induction cs with
  | nil => rfl
  | cons c cs ih => rw [foldForest, ih, List.map_cons]

theorem fold_node (f : α → List β → β) (a : α) (cs : List (RoseTree α)) :
    (node a cs).fold f = f a (cs.map (fold f)) := by
  rw [fold, foldForest_eq_map]

/-! ## Bounded branching -/

/-- Every node has fewer than `b` children. -/
def ChildCountsBelow (b : Nat) (t : RoseTree α) : Prop :=
  ∀ q n, t.subtreeAt q = some n → n.children.length < b

theorem ChildCountsBelow.child {b : Nat} {t c : RoseTree α} {i : Nat}
    (h : t.ChildCountsBelow b) (hc : t.children[i]? = some c) : c.ChildCountsBelow b := by
  intro q n hn
  exact h (i :: q) n (subtreeAt_cons_eq_some.mpr ⟨c, hc, hn⟩)

/-- The bound, checked node by node. -/
theorem childCountsBelow_node {b : Nat} {a : α} {cs : List (RoseTree α)} :
    (node a cs).ChildCountsBelow b ↔ cs.length < b ∧ ∀ c ∈ cs, c.ChildCountsBelow b := by
  constructor
  · intro h
    refine ⟨h [] _ rfl, ?_⟩
    intro c hc
    obtain ⟨i, hi⟩ := List.mem_iff_getElem?.mp hc
    exact h.child (i := i) hi
  · rintro ⟨hroot, hcs⟩ q n hn
    -- the root itself, or a node below one of its children
    cases q with
    | nil =>
      rw [subtreeAt_nil, Option.some.injEq] at hn
      rw [← hn]
      exact hroot
    | cons i q =>
      obtain ⟨c, hc, hn⟩ := subtreeAt_cons_eq_some.mp hn
      exact hcs c (List.mem_of_getElem? hc) q n hn

/-- The one-based indices on the way to a node stay below the bound. -/
theorem ChildCountsBelow.succ_lt {b : Nat} {t n : RoseTree α} {q : List Nat}
    (h : t.ChildCountsBelow b) (hn : t.subtreeAt q = some n) : ∀ i ∈ q, i + 1 < b := by
  induction q generalizing t with
  | nil => simp
  | cons j q ih =>
    obtain ⟨c, hc, hq⟩ := subtreeAt_cons_eq_some.mp hn
    intro i hi
    rcases List.mem_cons.mp hi with rfl | hi
    -- the first index counts the children of the root, the others those further down
    · have hlt : i < t.children.length := (List.getElem?_eq_some_iff.mp hc).1
      exact Nat.lt_of_le_of_lt hlt (h [] t rfl)
    · exact ih (h.child hc) hq i hi

/-! ## Outline numbering -/

/-- The one-based indices of a position, as they stand in identifiers. -/
def oneBased (q : List Nat) : List Nat := q.map (· + 1)

theorem oneBased_injective {p q : List Nat} (h : oneBased p = oneBased q) : p = q :=
  List.map_injective_iff.mpr (fun _ _ => Nat.succ.inj) h

/-- The `i`-th child of a node, counted from 1, has the identifier of the node extended
    by `i`. -/
def NumberedBy (idOf : α → List Nat) (t : RoseTree α) : Prop :=
  ∀ q n i c, t.subtreeAt q = some n → n.children[i]? = some c →
    idOf c.label = idOf n.label ++ [i + 1]

theorem NumberedBy.child {idOf : α → List Nat} {t c : RoseTree α} {i : Nat}
    (h : t.NumberedBy idOf) (hc : t.children[i]? = some c) : c.NumberedBy idOf := by
  intro q n j d hn hd
  exact h (i :: q) n j d (subtreeAt_cons_eq_some.mpr ⟨c, hc, hn⟩) hd

/-- The numbering, checked node by node. -/
theorem numberedBy_node {idOf : α → List Nat} {a : α} {cs : List (RoseTree α)} :
    (node a cs).NumberedBy idOf ↔
      ∀ i c, cs[i]? = some c → idOf c.label = idOf a ++ [i + 1] ∧ c.NumberedBy idOf := by
  constructor
  · -- the root and the trees below it
    intro h i c hc
    exact ⟨h [] _ i c rfl hc, h.child (i := i) hc⟩
  · intro h q n i c hn hc
    cases q with
    | nil =>
      rw [subtreeAt_nil, Option.some.injEq] at hn
      subst hn
      exact (h i c hc).1
    | cons j q =>
      obtain ⟨d, hd, hn⟩ := subtreeAt_cons_eq_some.mp hn
      exact (h j d hd).2 q n i c hn hc

/-- The identifier of a node is the one of the root followed by the one-based position. -/
theorem NumberedBy.idOf_subtreeAt {idOf : α → List Nat} {t n : RoseTree α} {q : List Nat}
    (h : t.NumberedBy idOf) (hn : t.subtreeAt q = some n) :
    idOf n.label = idOf t.label ++ oneBased q := by
  induction q generalizing t with
  | nil =>
    rw [subtreeAt_nil, Option.some.injEq] at hn
    rw [hn, oneBased, List.map_nil, List.append_nil]
  | cons i q ih =>
    -- the child's identifier extends the root's, and the node's extends the child's
    obtain ⟨c, hc, hq⟩ := subtreeAt_cons_eq_some.mp hn
    have hchild : idOf c.label = idOf t.label ++ [i + 1] := h [] t i c rfl hc
    calc idOf n.label = idOf c.label ++ oneBased q := ih (h.child hc) hq
      _ = idOf t.label ++ [i + 1] ++ oneBased q := by rw [hchild]
      _ = idOf t.label ++ oneBased (i :: q) := by rw [List.append_assoc]; rfl

/-- **Identifiers are unique.** Two positions of a numbered tree never carry the same one. -/
theorem NumberedBy.position_unique {idOf : α → List Nat} {t n n' : RoseTree α}
    {q q' : List Nat} (h : t.NumberedBy idOf) (hn : t.subtreeAt q = some n)
    (hn' : t.subtreeAt q' = some n') (hid : idOf n.label = idOf n'.label) : q = q' := by
  rw [h.idOf_subtreeAt hn, h.idOf_subtreeAt hn'] at hid
  exact oneBased_injective (List.append_cancel_left hid)

end RoseTree

end NunchukSdk.Foundation
