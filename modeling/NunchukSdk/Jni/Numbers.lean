import Mathlib.Algebra.Ring.Int.Defs
import Mathlib.Algebra.Ring.Nat

/-!
# Fixed-Width Numbers at the Boundary

Kotlin's `Int` is the 32-bit `jint`; native indices and identifiers are `size_t`, 32 bits wide on
the 32-bit ABIs the library is built for and 64 bits on the others. Native numbers are modelled as
`Nat` below `2 ^ sizeBits`; only the casts between the two can change a value.
-/

namespace NunchukSdk

/-- The word size of a target: `armeabi-v7a`, or `arm64-v8a` and `x86_64`. -/
inductive Abi where
  | ilp32 | lp64
  deriving DecidableEq, Repr

/-- The width of `size_t`. -/
def Abi.sizeBits : Abi → Nat
  | ilp32 => 32
  | lp64 => 64

/-- `static_cast<size_t>(x)` for a `jint x`: negative values wrap around. -/
def castToSize (abi : Abi) (x : Int32) : Nat := (x.toInt % 2 ^ abi.sizeBits).toNat

/-- `static_cast<jint>(n)` for a `size_t n`: the low 32 bits. -/
def castToJint (n : Nat) : Int32 := Int32.ofNat n

/-- A `jint` becomes a small index exactly when it is that index: what a negative value wraps to
    is `2 ^ 31` at least, also where `size_t` has 32 bits. -/
theorem castToSize_eq_iff {abi : Abi} {x : Int32} {m : Nat} (hm : m < 2 ^ 31) :
    castToSize abi x = m ↔ x.toInt = m := by
  have hlow : -2 ^ 31 ≤ x.toInt := x.le_toInt
  have hhigh : x.toInt < 2 ^ 31 := x.toInt_lt
  unfold castToSize
  cases abi with
  | ilp32 =>
    simp only [Abi.sizeBits]
    omega
  | lp64 =>
    simp only [Abi.sizeBits]
    omega

theorem toInt_castToJint {m : Nat} (hm : m < 2 ^ 31) : (castToJint m).toInt = m :=
  Int32.toInt_ofNat_of_lt hm

/-- Small indices survive the way to Kotlin and back. -/
theorem castToSize_castToJint (abi : Abi) {m : Nat} (hm : m < 2 ^ 31) :
    castToSize abi (castToJint m) = m :=
  (castToSize_eq_iff hm).mpr (toInt_castToJint hm)

/-- What Kotlin sends survives the way to a `size_t` and back, negative values too: the low 32 bits
    of the word are those of the `jint`. -/
theorem castToJint_castToSize (abi : Abi) (x : Int32) : castToJint (castToSize abi x) = x := by
  have hlow : -2 ^ 31 ≤ x.toInt := x.le_toInt
  have hhigh : x.toInt < 2 ^ 31 := x.toInt_lt
  have hsize : Int32.size = 4294967296 := rfl
  apply Int32.toInt.inj
  unfold castToJint castToSize
  rw [Int32.toInt_ofNat', hsize, Int.bmod_def]
  -- the modulus of either word size is a multiple of that of the `jint`
  cases abi with
  | ilp32 =>
    simp only [Abi.sizeBits]
    omega
  | lp64 =>
    simp only [Abi.sizeBits]
    omega

end NunchukSdk
