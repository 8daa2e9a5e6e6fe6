import NunchukSdk.Foundation.RoseTree
import NunchukSdk.Jni.Numbers
import NunchukSdk.Types.Enums

/-!
# Script Trees and Their Node Addresses

A miniscript policy reaches Kotlin as a tree of `ScriptNode`s. Kotlin names a node by its `id`, a
list of `Int`s, and sends it back as an `IntArray`; the native side turns it into a path
(`ToNodePath`) and walks down from the root (`GetNodeAtPath`).

## Model

- Native and Kotlin nodes are rose trees over their own fields; `convert2JScriptNode` relabels.
- libnunchuk numbers the nodes: the root has a one-element id and the `i`-th child, counted from
  1, extends the id of its parent by `i` (`Numbered`).

## Results

- `getNodeAtPath_toNodePath`: the walk in terms of positions
- `node_addressing_exact`: the walk finds the node whose id was sent, and nothing else; the ids
  given to Kotlin lead back; the dotted `idString`s are distinct
-/

namespace NunchukSdk

open Foundation

/-! ## Native nodes -/

/-- `ScriptNode::Type`, as far as the code tells the types apart. -/
inductive ScriptNodeType where
  | AFTER | OLDER
  /-- Any other fragment, by its number. -/
  | other (number : Nat)
  deriving DecidableEq, Repr

/-- `nunchuk::Timelock`, with the numbers of its two enums. -/
structure Timelock where
  based : Int
  type : Int
  value : Int
  deriving DecidableEq, Repr

/-- The fields of a native `ScriptNode` beside its `subs`. -/
structure ScriptNodeFields where
  id : List Nat
  type : ScriptNodeType
  keys : List String
  k : Int
  data : List UInt8
  deriving DecidableEq, Repr

/-- `nunchuk::ScriptNode`; the children are its `subs`. -/
abbrev ScriptNode := RoseTree ScriptNodeFields

/-- The library functions used by the conversion. -/
structure ScriptNodeLib where
  /-- `ScriptNode::type_to_string`. -/
  typeToString : ScriptNodeType → String
  /-- `Timelock::FromK(is_absolute, k)`. -/
  timelockFromK : Bool → Int → Timelock

/-! ## Kotlin nodes -/

/-- Kotlin `TimeLock`. -/
structure JTimeLock where
  based : MiniscriptTimelockBased
  type : MiniscriptTimelockType
  value : Int
  deriving DecidableEq, Repr

/-- The fields of Kotlin's `ScriptNode` beside its `subs`. -/
structure JScriptNodeFields where
  id : List Int32
  type : String
  keys : List String
  k : Int32
  data : List Int8
  timeLock : Option JTimeLock
  deriving DecidableEq, Repr

/-- Kotlin `ScriptNode`. -/
abbrev JScriptNode := RoseTree JScriptNodeFields

/-- Kotlin `ScriptNode.idString`. -/
def JScriptNodeFields.idString (n : JScriptNodeFields) : String :=
  String.intercalate "." (n.id.map fun i => i.toInt.repr)

/-- `Deserializer::convert2JTimeLock`. -/
def convert2JTimeLock (timeLock : Timelock) : JTimeLock where
  based := MiniscriptTimelockBased.helperFrom timeLock.based
  type := MiniscriptTimelockType.helperFrom timeLock.type
  value := timeLock.value

/-- What `convert2JScriptNode` makes of one node. -/
def convert2JScriptNodeFields (lib : ScriptNodeLib) (n : ScriptNodeFields) :
    JScriptNodeFields where
  id := n.id.map castToJint
  type := lib.typeToString n.type
  keys := n.keys
  k := Int32.ofInt n.k
  data := n.data.map UInt8.toInt8
  timeLock :=
    match n.type with
    | .AFTER => some (convert2JTimeLock (lib.timelockFromK true n.k))
    | .OLDER => some (convert2JTimeLock (lib.timelockFromK false n.k))
    | .other _ => none

/-- `Deserializer::convert2JScriptNode`, with `convert2JScriptNodes` for the `subs`. -/
def convert2JScriptNode (lib : ScriptNodeLib) (node : ScriptNode) : JScriptNode :=
  node.map (convert2JScriptNodeFields lib)

/-! ## The walk -/

/-- `ToNodePath`. -/
def toNodePath (abi : Abi) (nodeId : List Int32) : List Nat :=
  nodeId.map (castToSize abi)

/-- A number that passes the range check is the one-based number of a child. -/
theorem childIndex_lt {node : ScriptNode} {idx : Nat}
    (h : ¬ (idx = 0 ∨ node.children.length < idx)) : idx - 1 < node.children.length := by
  omega

/-- The loop of `GetNodeAtPath`: one step down for each index. -/
def walkDown (node : ScriptNode) : List Nat → Option ScriptNode
  | [] => some node
  | idx :: path =>
    -- ids count children from 1
    if h : idx = 0 ∨ node.children.length < idx then none
    else walkDown (node.children.get ⟨idx - 1, childIndex_lt h⟩) path

/-- `GetNodeAtPath`: the loop starts at depth 1, so the first element is not looked at. -/
def getNodeAtPath (root : ScriptNode) (path : List Nat) : Option ScriptNode :=
  walkDown root (path.drop 1)

/-- The walk reaches a node exactly when the indices are its one-based position. -/
theorem walkDown_eq_some_iff {node n : ScriptNode} {path : List Nat} :
    walkDown node path = some n ↔
      ∃ q, path = RoseTree.oneBased q ∧ node.subtreeAt q = some n := by
  induction path generalizing node with
  | nil =>
    constructor
    · intro h
      exact ⟨[], rfl, h⟩
    · rintro ⟨q, hq, hn⟩
      have hnil : q = [] := List.map_eq_nil_iff.mp hq.symm
      rw [hnil] at hn
      exact hn
  | cons idx path ih =>
    rw [walkDown]
    by_cases hout : idx = 0 ∨ node.children.length < idx
    · -- the early exit: no child has this number
      rw [dif_pos hout]
      constructor
      · intro h
        cases h
      · rintro ⟨q, hq, hn⟩
        cases q with
        | nil => cases hq
        | cons i q =>
          obtain ⟨c, hc, -⟩ := RoseTree.subtreeAt_cons_eq_some.mp hn
          have hlt : i < node.children.length := (List.getElem?_eq_some_iff.mp hc).1
          have hidx : idx = i + 1 := (List.cons.inj hq).1
          omega
    · -- one step to child `idx - 1`
      rw [dif_neg hout, ih]
      have hpos : idx - 1 + 1 = idx := by omega
      have hlt : idx - 1 < node.children.length := childIndex_lt hout
      have hchild : node.children[idx - 1]? = some (node.children.get ⟨idx - 1, hlt⟩) :=
        List.getElem?_eq_getElem hlt
      constructor
      · rintro ⟨q, hq, hn⟩
        refine ⟨(idx - 1) :: q, ?_, RoseTree.subtreeAt_cons_eq_some.mpr ⟨_, hchild, hn⟩⟩
        rw [hq, RoseTree.oneBased, RoseTree.oneBased, List.map_cons, hpos]
      · rintro ⟨q, hq, hn⟩
        cases q with
        | nil => cases hq
        | cons i q =>
          obtain ⟨hidx, hq⟩ := List.cons.inj hq
          obtain ⟨c, hc, hn⟩ := RoseTree.subtreeAt_cons_eq_some.mp hn
          have hi : i = idx - 1 := (Nat.sub_eq_of_eq_add hidx).symm
          rw [hi, hchild, Option.some.injEq] at hc
          exact ⟨q, hq, hc ▸ hn⟩

/-! ## Numbered trees -/

/-- The tree is numbered as libnunchuk numbers it, with root id `[r]`. -/
structure Numbered (root : ScriptNode) (r : Nat) : Prop where
  root_id : root.label.id = [r]
  children : root.NumberedBy ScriptNodeFields.id
  branching : root.ChildCountsBelow (2 ^ 31)

namespace Numbered

variable {root n : ScriptNode} {r : Nat} {q : List Nat}

/-- The id of a node from its position. -/
theorem id_subtreeAt (h : Numbered root r) (hn : root.subtreeAt q = some n) :
    n.label.id = r :: RoseTree.oneBased q := by
  rw [h.children.idOf_subtreeAt hn, h.root_id]
  rfl

/-- The elements of a node's id below the root are small. -/
theorem oneBased_lt (h : Numbered root r) (hn : root.subtreeAt q = some n) :
    ∀ m ∈ RoseTree.oneBased q, m < 2 ^ 31 := by
  intro m hm
  obtain ⟨i, hi, rfl⟩ := List.mem_map.mp hm
  exact h.branching.succ_lt hn i hi

end Numbered

/-- The node's id is the one Kotlin sent: equal numbers, element by element. -/
def IdEquals (n : ScriptNode) (nodeId : List Int32) : Prop :=
  n.label.id.map Int.ofNat = nodeId.map Int32.toInt

instance (n : ScriptNode) (nodeId : List Int32) : Decidable (IdEquals n nodeId) :=
  inferInstanceAs (Decidable (_ = _))

/-- Casting to `size_t` gives small indices exactly where the numbers are those indices. -/
theorem map_castToSize_eq_iff (abi : Abi) {xs : List Int32} {ms : List Nat}
    (hms : ∀ m ∈ ms, m < 2 ^ 31) :
    xs.map (castToSize abi) = ms ↔ ms.map Int.ofNat = xs.map Int32.toInt := by
  induction xs generalizing ms with
  | nil => cases ms <;> simp
  | cons x xs ih =>
    cases ms with
    | nil => simp
    | cons m ms =>
      obtain ⟨hm, hms⟩ := List.forall_mem_cons.mp hms
      simp only [List.map_cons, List.cons.injEq, ih hms, castToSize_eq_iff hm]
      exact and_congr_left fun _ => eq_comm

/-- **The walk in terms of positions.** For an array that starts with the root's id element, the
    walk reaches exactly the node that the array is the id of. -/
theorem getNodeAtPath_toNodePath (abi : Abi) {root n : ScriptNode} {r : Nat}
    (h : Numbered root r) (first : Int32) (rest : List Int32) (hfirst : first.toInt = r) :
    getNodeAtPath root (toNodePath abi (first :: rest)) = some n ↔
      ∃ q, root.subtreeAt q = some n ∧ IdEquals n (first :: rest) := by
  have hdrop : (toNodePath abi (first :: rest)).drop 1 = rest.map (castToSize abi) := rfl
  unfold getNodeAtPath
  rw [hdrop, walkDown_eq_some_iff]
  apply exists_congr
  intro q
  rw [and_comm]
  -- the cast changes no element of an id, so comparing after it is comparing before it
  refine and_congr_right fun hn => ?_
  rw [map_castToSize_eq_iff abi (h.oneBased_lt hn)]
  unfold IdEquals
  rw [h.id_subtreeAt hn, List.map_cons, List.map_cons, List.cons.injEq, hfirst]
  exact (and_iff_right rfl).symm

/-- The id list that Kotlin gets leads back to the node. -/
theorem getNodeAtPath_convertedId (abi : Abi) {root n : ScriptNode} {r : Nat} {q : List Nat}
    (h : Numbered root r) (hn : root.subtreeAt q = some n) :
    getNodeAtPath root (toNodePath abi (n.label.id.map castToJint)) = some n := by
  unfold getNodeAtPath toNodePath
  rw [walkDown_eq_some_iff, h.id_subtreeAt hn]
  refine ⟨q, ?_, hn⟩
  -- the elements are below `2 ^ 31`, where both casts are the identity
  have hid : ∀ m ∈ RoseTree.oneBased q, castToSize abi (castToJint m) = m :=
    fun m hm => castToSize_castToJint abi (h.oneBased_lt hn m hm)
  calc (((r :: RoseTree.oneBased q).map castToJint).map (castToSize abi)).drop 1
      = (RoseTree.oneBased q).map fun m => castToSize abi (castToJint m) := by
        rw [List.map_map]
        rfl
    _ = (RoseTree.oneBased q).map id := List.map_congr_left hid
    _ = RoseTree.oneBased q := List.map_id _

/-! ## The dotted rendering -/

/-- The rendering of a natural number consists of digits. -/
theorem not_mem_repr_of_not_digit {c : Char} (hc : c.isDigit = false) (m : Nat) :
    c ∉ m.repr.toList := by
  intro hmem
  rw [Nat.toList_repr] at hmem
  have hdigit : c.isDigit = true := Nat.isDigit_of_mem_toDigits (by decide) (by decide) hmem
  rw [hc] at hdigit
  cases hdigit

/-- The rendering of an integer contains no dot. -/
theorem dot_not_mem_repr (i : Int) : '.' ∉ i.repr.toList := by
  have hnat : ∀ m : Nat, '.' ∉ m.repr.toList := not_mem_repr_of_not_digit (by decide)
  rw [Int.repr_eq_if]
  split
  · exact hnat _
  · simpa using hnat _

theorem natRepr_injective {m n : Nat} (h : m.repr = n.repr) : m = n := by
  have hdigits : Nat.toDigits 10 m = Nat.toDigits 10 n := by
    rw [← Nat.toList_repr, ← Nat.toList_repr, h]
  rw [← Nat.ofDigitChars_ten_toDigits (n := m), hdigits, Nat.ofDigitChars_ten_toDigits]

/-- Different integers are rendered differently: a sign is not a digit. -/
theorem intRepr_injective {i j : Int} (h : i.repr = j.repr) : i = j := by
  have hsign : ∀ m n : Nat, m.repr ≠ "-" ++ n.repr := by
    intro m n heq
    have hmem : '-' ∈ m.repr.toList := by rw [heq]; simp
    exact not_mem_repr_of_not_digit (by decide) m hmem
  -- equal signs compare the digits, different signs are told apart by the minus
  rw [Int.repr_eq_if, Int.repr_eq_if] at h
  split at h
  · split at h
    · have hnat := natRepr_injective h
      omega
    · exact absurd h (hsign _ _)
  · split at h
    · exact absurd h.symm (hsign _ _)
    · have hnat := natRepr_injective (String.append_right_inj _ |>.mp h)
      omega

/-- Joining with dots loses nothing on lists of numbers with the same non-empty shape. -/
theorem joined_injective {xs ys : List Int} (hxs : xs ≠ []) (hys : ys ≠ [])
    (h : String.intercalate "." (xs.map Int.repr) = String.intercalate "." (ys.map Int.repr)) :
    xs = ys := by
  -- splitting at the dots undoes the joining, as no part contains a dot
  have hsplit : ∀ zs : List Int, zs ≠ [] →
      (String.intercalate "." (zs.map Int.repr)).toList.splitOn '.' =
        (zs.map Int.repr).map String.toList := by
    intro zs hzs
    rw [String.toList_intercalate]
    refine List.splitOn_intercalate '.' ?_ (by simpa using hzs)
    intro l hl
    simp only [List.map_map, List.mem_map, Function.comp_apply] at hl
    obtain ⟨i, -, rfl⟩ := hl
    exact dot_not_mem_repr i
  have heq := hsplit xs hxs
  rw [h, hsplit ys hys] at heq
  have hstrings : ys.map Int.repr = xs.map Int.repr :=
    List.map_injective_iff.mpr (fun _ _ => String.toList_injective) heq
  exact (List.map_injective_iff.mpr (fun _ _ => intRepr_injective) hstrings).symm

/-- Two nodes with the same `idString` have the same position. -/
theorem idString_injective (lib : ScriptNodeLib) {root : ScriptNode} {r : Nat}
    (h : Numbered root r) {q q' : List Nat} {n n' : JScriptNode}
    (hn : (convert2JScriptNode lib root).subtreeAt q = some n)
    (hn' : (convert2JScriptNode lib root).subtreeAt q' = some n')
    (hid : n.label.idString = n'.label.idString) : q = q' := by
  -- the integers Kotlin renders, from the position
  have hints : ∀ {p : List Nat} {k : JScriptNode},
      (convert2JScriptNode lib root).subtreeAt p = some k →
        k.label.id.map Int32.toInt =
          (castToJint r).toInt :: (RoseTree.oneBased p).map Int.ofNat := by
    intro p k hk
    unfold convert2JScriptNode at hk
    rw [RoseTree.subtreeAt_map, Option.map_eq_some_iff] at hk
    obtain ⟨m, hm, rfl⟩ := hk
    rw [RoseTree.label_map]
    show (m.label.id.map castToJint).map Int32.toInt = _
    rw [h.id_subtreeAt hm, List.map_cons, List.map_cons, List.map_map]
    congr 1
    exact List.map_congr_left fun i hi => toInt_castToJint (h.oneBased_lt hm i hi)
  -- and how it renders them
  have hrender : ∀ k : JScriptNode, k.label.idString =
      String.intercalate "." ((k.label.id.map Int32.toInt).map Int.repr) := by
    intro k
    rw [List.map_map]
    rfl
  rw [hrender n, hrender n', hints hn, hints hn'] at hid
  have hlists := joined_injective (by simp) (by simp) hid
  have hpositions : RoseTree.oneBased q = RoseTree.oneBased q' :=
    List.map_injective_iff.mpr (fun _ _ => Int.ofNat.inj) (List.cons.inj hlists).2
  exact RoseTree.oneBased_injective hpositions

/-- **Node addressing is exact.** In a numbered tree, for every array that starts with the root's
    id element: what the walk returns is the one node whose id equals the array, and it returns
    nothing exactly when there is no such node. Hence the id that Kotlin gets of a node leads
    back to it, and two nodes never share an `idString`. -/
theorem node_addressing_exact (abi : Abi) (lib : ScriptNodeLib) (root : ScriptNode) (r : Nat)
    (h : Numbered root r) :
    (∀ (first : Int32) (rest : List Int32), first.toInt = r →
      (∀ n, getNodeAtPath root (toNodePath abi (first :: rest)) = some n →
        ∃ q, root.subtreeAt q = some n ∧ IdEquals n (first :: rest) ∧
          ∀ q' n', root.subtreeAt q' = some n' → IdEquals n' (first :: rest) → q' = q) ∧
      (getNodeAtPath root (toNodePath abi (first :: rest)) = none ↔
        ∀ q n, root.subtreeAt q = some n → ¬ IdEquals n (first :: rest))) ∧
    (∀ q n, root.subtreeAt q = some n →
      (convert2JScriptNode lib root).subtreeAt q = some (convert2JScriptNode lib n) ∧
        getNodeAtPath root (toNodePath abi (convert2JScriptNode lib n).label.id) = some n) ∧
    ∀ q q' n n', (convert2JScriptNode lib root).subtreeAt q = some n →
      (convert2JScriptNode lib root).subtreeAt q' = some n' → q ≠ q' →
        n.label.idString ≠ n'.label.idString := by
  refine ⟨fun first rest hfirst => ⟨?_, ?_⟩, ?_, ?_⟩
  · -- a result is the node with that id, and ids are unique
    intro n hwalk
    obtain ⟨q, hn, hid⟩ := (getNodeAtPath_toNodePath abi h first rest hfirst).mp hwalk
    refine ⟨q, hn, hid, ?_⟩
    intro q' n' hn' hid'
    have hsame : n'.label.id = n.label.id :=
      List.map_injective_iff.mpr (fun _ _ => Int.ofNat.inj) (hid'.trans hid.symm)
    exact h.children.position_unique hn' hn hsame
  · -- no result, no such node
    rw [Option.eq_none_iff_forall_ne_some]
    constructor
    · intro hnone q n hn hid
      exact hnone n ((getNodeAtPath_toNodePath abi h first rest hfirst).mpr ⟨q, hn, hid⟩)
    · intro habsent n hwalk
      obtain ⟨q, hn, hid⟩ := (getNodeAtPath_toNodePath abi h first rest hfirst).mp hwalk
      exact habsent q n hn hid
  -- the converted node stands at the same position, and its id leads back
  · intro q n hn
    unfold convert2JScriptNode
    refine ⟨?_, ?_⟩
    · rw [RoseTree.subtreeAt_map, hn]
      rfl
    · rw [RoseTree.label_map]
      exact getNodeAtPath_convertedId abi h hn
  -- equal strings, equal positions
  · intro q q' n n' hn hn' hne hid
    exact hne (idString_injective lib h hn hn' hid)

/-- `and_v(v:pk(A),older(144))`, as the library numbers it. -/
def andOlderTree : ScriptNode :=
  .node ⟨[1], .other 12, [], 0, []⟩
    [.node ⟨[1, 1], .other 2, ["A"], 0, []⟩ [], .node ⟨[1, 2], .OLDER, [], 144, []⟩ []]

theorem andOlderTree_numbered : Numbered andOlderTree 1 where
  root_id := rfl
  children := by
    refine RoseTree.numberedBy_node.mpr fun i c hc => ?_
    -- two children without children of their own
    match i, hc with
    | 0, hc =>
      cases hc
      exact ⟨rfl, RoseTree.numberedBy_node.mpr fun _ _ h => by simp at h⟩
    | 1, hc =>
      cases hc
      exact ⟨rfl, RoseTree.numberedBy_node.mpr fun _ _ h => by simp at h⟩
    | _ + 2, hc => simp at hc
  branching := by
    simp [andOlderTree, RoseTree.childCountsBelow_node]

/-- Kotlin asks for the timelock of `andOlderTree` by its id, on a 32-bit target. -/
theorem andOlderTree_timelock_found :
    getNodeAtPath andOlderTree (toNodePath .ilp32 [1, 2]) =
      some (.node ⟨[1, 2], .OLDER, [], 144, []⟩ []) :=
  ((node_addressing_exact .ilp32 ⟨fun _ => "", fun _ k => ⟨0, 0, k⟩⟩ andOlderTree 1
    andOlderTree_numbered).2.1 [1] _ rfl).2

end NunchukSdk
