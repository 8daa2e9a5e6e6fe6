import Mathlib.Algebra.BigOperators.Group.Finset.Basic
import NunchukSdk.Foundation.RoseTree
import NunchukSdk.Foundation.Utf16

/-!
# Equality and Hash Codes of Objects

On the JVM a class may define `equals` and `hashCode` by what its objects hold. Objects are named
here by what tells them apart, `===`; the **value** of an object is what it holds.

## Hash codes

`combine` is the sum with the factor 31 that all of them are made of.

## The contract

`LawfulAt` says of three objects that `equals` is an equivalence, that it agrees with the hash
codes, and that equal objects are the ones of equal value. `lawfulAt_iff` reduces it to what
`equals` compares.

## Objects made of older ones

In an `ObjectGraph` every object holds a label and a list of older objects, and one may be held
many times. Its value is a tree (`valueOf`). `equals_iff_valueOf` and `eq_fold_valueOf` are the
rules for functions that follow the objects down: an equality that compares labels and children is
equality of values, and a function of label and results is a function of the value.
-/

namespace NunchukSdk.Foundation

/-! ## Hash codes -/

/-- `result = 31 * result + hash` for each of the hash codes. -/
def combine (result : Int32) (hashes : List Int32) : Int32 :=
  hashes.foldl (fun result hash => 31 * result + hash) result

/-- `List.hashCode`, and `Arrays.hashCode`. -/
def hashList (hashes : List Int32) : Int32 := combine 1 hashes

/-- The `hashCode` that the compiler writes for a data class. -/
def hashData : List Int32 → Int32
  | [] => 0
  | hash :: hashes => combine hash hashes

/-- `Boolean.hashCode`. -/
def hashBoolean (b : Bool) : Int32 := if b then 1231 else 1237

/-- `Long.hashCode`: one half of the bits over the other. -/
def hashLong (n : Int) : Int32 :=
  let bits := (Int64.ofInt n).toUInt64
  (bits ^^^ (bits >>> 32)).toUInt32.toInt32

/-- `String.hashCode`, over the UTF-16 units. -/
def hashString (s : String) : Int32 :=
  combine 0 ((Utf16.encode s.toList).map fun unit => unit.toUInt32.toInt32)

/-- `ByteArray.contentHashCode`. -/
def contentHashCode (bytes : List Int8) : Int32 := hashList (bytes.map Int8.toInt32)

/-- `Set<Int>.hashCode`. -/
def hashIntSet (s : Finset Int) : Int32 := Int32.ofInt (s.sum id)

/-- `x?.hashCode() ?: 0`. -/
def hashOrZero {α : Type} (hash : α → Int32) : Option α → Int32
  | some x => hash x
  | none => 0

/-! ## The contract -/

section Contract

variable {ι κ ν : Type}

/-- Equality and hash codes at three objects. `other` is `none` when it is null or an object of
    another class. -/
structure LawfulAt (equals : ι → Option ι → Bool) (hashCode : ι → Int32) (value : ι → ν)
    (x y z : ι) : Prop where
  refl : equals x (some x) = true
  symm : equals x (some y) = true → equals y (some x) = true
  trans : equals x (some y) = true → equals y (some z) = true → equals x (some z) = true
  hash : equals x (some y) = true → hashCode x = hashCode y
  complete : equals x (some y) = true ↔ value x = value y

variable {equals : ι → Option ι → Bool} {hashCode : ι → Int32} {value : ι → ν} {key : ι → κ}

/-- Objects compared by a key, of which the hash code is a function: the contract holds where the
    key tells the values apart. -/
theorem lawfulAt_iff (hequals : ∀ x y, equals x (some y) = true ↔ key x = key y)
    (hhash : ∀ x y, key x = key y → hashCode x = hashCode y) (x y z : ι) :
    LawfulAt equals hashCode value x y z ↔ (key x = key y ↔ value x = value y) := by
  constructor
  · intro h
    rw [← hequals]
    exact h.complete
  · intro hcomplete
    -- equality of keys is an equivalence whatever the values are
    constructor
    case refl => exact (hequals x x).mpr rfl
    case symm =>
      intro hxy
      exact (hequals y x).mpr ((hequals x y).mp hxy).symm
    case trans =>
      intro hxy hyz
      exact (hequals x z).mpr (((hequals x y).mp hxy).trans ((hequals y z).mp hyz))
    case hash =>
      intro hxy
      exact hhash x y ((hequals x y).mp hxy)
    case complete =>
      rw [hequals]
      exact hcomplete

/-- Objects compared by their values. -/
theorem lawfulAt_of_value (hequals : ∀ x y, equals x (some y) = true ↔ value x = value y)
    (hhash : ∀ x y, value x = value y → hashCode x = hashCode y) (x y z : ι) :
    LawfulAt equals hashCode value x y z :=
  (lawfulAt_iff hequals hhash x y z).mpr Iff.rfl

end Contract

/-- `List.equals` with the `equals` of the elements. -/
def listEquals {α β : Type} (equals : α → β → Bool) : List α → List β → Bool
  | [], [] => true
  | a :: as, b :: bs => equals a b && listEquals equals as bs
  | _, _ => false

/-- Lists are equal when their values are, if that is so of their elements. -/
theorem listEquals_iff {α β ν : Type} {equals : α → β → Bool} {value : α → ν} {value' : β → ν}
    {as : List α} {bs : List β} (h : ∀ a ∈ as, ∀ b, equals a b = true ↔ value a = value' b) :
    listEquals equals as bs = true ↔ as.map value = bs.map value' := by
  induction as generalizing bs with
  | nil =>
    cases bs with
    | nil => simp [listEquals]
    | cons b bs => simp [listEquals]
  | cons a as ih =>
    cases bs with
    | nil => simp [listEquals]
    | cons b bs =>
      have htail : listEquals equals as bs = true ↔ as.map value = bs.map value' :=
        ih fun a' ha' => h a' (List.mem_cons_of_mem a ha')
      simp only [listEquals, Bool.and_eq_true, h a List.mem_cons_self b, htail, List.map_cons,
        List.cons.injEq]

/-! ## Objects made of older ones -/

/-- Objects, numbered in the order in which they were made. -/
structure ObjectGraph (α : Type) where
  label : Nat → α
  children : Nat → List Nat
  older : ∀ x, ∀ child ∈ children x, child < x

namespace ObjectGraph

variable {α β : Type} (g : ObjectGraph α)

/-- The value of an object. -/
def valueOf (x : Nat) : RoseTree α :=
  .node (g.label x) ((g.children x).attach.map fun child => valueOf child.1)
termination_by x
decreasing_by exact g.older x child.1 child.2

theorem valueOf_eq (x : Nat) :
    g.valueOf x = .node (g.label x) ((g.children x).map g.valueOf) := by
  rw [valueOf, List.attach_map_val]

variable {g}

/-- Equal values are equal labels and children of equal values. -/
theorem valueOf_eq_iff {x y : Nat} :
    g.valueOf x = g.valueOf y ↔
      g.label x = g.label y ∧ (g.children x).map g.valueOf = (g.children y).map g.valueOf := by
  rw [valueOf_eq, valueOf_eq, RoseTree.node.injEq]

/-- **Equality rule.** An `equals` that compares labels and, in the same way, children, compares
    values. -/
theorem equals_iff_valueOf {equals : Nat → Option Nat → Bool}
    (h : ∀ x y, equals x (some y) = true ↔ x = y ∨ g.label x = g.label y ∧
      listEquals (fun (child : {c // c ∈ g.children x}) other => equals child.1 (some other))
        (g.children x).attach (g.children y) = true) (x y : Nat) :
    equals x (some y) = true ↔ g.valueOf x = g.valueOf y := by
  induction x using Nat.strong_induction_on generalizing y with
  | _ x ih =>
    -- the children are older, so that they are compared by value already
    have hchildren :
        listEquals (fun (child : {c // c ∈ g.children x}) other => equals child.1 (some other))
            (g.children x).attach (g.children y) = true ↔
          (g.children x).attach.map (fun child => g.valueOf child.1) =
            (g.children y).map g.valueOf :=
      listEquals_iff fun child _ other => ih child.1 (g.older x child.1 child.2) other
    rw [h, hchildren, List.attach_map_val, valueOf_eq_iff]
    -- an object has the value of itself
    refine or_iff_right_of_imp ?_
    rintro rfl
    exact ⟨rfl, rfl⟩

/-- **Fold rule.** What is computed from the label and the results of the children is a function
    of the value. -/
theorem eq_fold_valueOf {f : Nat → β} {step : α → List β → β}
    (h : ∀ x, f x = step (g.label x) ((g.children x).map f)) (x : Nat) :
    f x = (g.valueOf x).fold step := by
  induction x using Nat.strong_induction_on with
  | _ x ih =>
    have hchildren : (g.children x).map f = (g.children x).map fun child =>
        (g.valueOf child).fold step :=
      List.map_congr_left fun child hchild => ih child (g.older x child hchild)
    rw [h, hchildren, valueOf_eq, RoseTree.fold_node, List.map_map]
    rfl

end ObjectGraph

end NunchukSdk.Foundation
