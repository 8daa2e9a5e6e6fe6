import Mathlib.Algebra.Order.BigOperators.Group.List
import Mathlib.Algebra.Order.Ring.Int
import Mathlib.Algebra.Ring.Int.Defs
import NunchukSdk.Foundation.NativeExec

/-!
# Sums in a Signed Accumulator

Native code adds up signed numbers of a fixed width, where an overflow is undefined behaviour. A
loop over a list is defined exactly as long as the sum of every front part of the list fits, and
then yields the sum. For numbers that are not negative it is enough that the whole sum fits.

## Main results

- `sumSigned_eq`: a loop whose partial sums fit
- `fits_front`: partial sums of numbers that are not negative
-/

namespace NunchukSdk.Foundation

open NativeM

/-- A number of a signed type with `bits` bits beside the sign. -/
def Fits (bits : Nat) (n : Int) : Prop := -2 ^ bits ≤ n ∧ n < 2 ^ bits

instance (bits : Nat) (n : Int) : Decidable (Fits bits n) := inferInstanceAs (Decidable (_ ∧ _))

section

variable {ε σ : Type} {bits : Nat}

/-- A result of signed arithmetic. -/
def signed (bits : Nat) (n : Int) : NativeM ε σ Int :=
  if Fits bits n then pure n else undefinedBehaviour

theorem signed_eq {n : Int} (h : Fits bits n) : (signed bits n : NativeM ε σ Int) = pure n :=
  if_pos h

/-- `for (const auto &n : numbers) sum += n;`, from a start. -/
def sumSigned (bits : Nat) (start : Int) (numbers : List Int) : NativeM ε σ Int :=
  numbers.foldlM (fun sum n => signed bits (sum + n)) start

/-- A loop whose partial sums fit yields the sum. -/
theorem sumSigned_eq {numbers : List Int} {start : Int}
    (h : ∀ front, front <+: numbers → Fits bits (start + front.sum)) :
    (sumSigned bits start numbers : NativeM ε σ Int) = pure (start + numbers.sum) := by
  induction numbers generalizing start with
  | nil =>
    rw [List.sum_nil, Int.add_zero]
    rfl
  | cons n numbers ih =>
    have hfirst : Fits bits (start + n) := by
      have hone := h [n] ⟨numbers, rfl⟩
      rwa [List.sum_singleton] at hone
    -- the rest of the loop starts from the sum with the first number
    have hrest : ∀ front, front <+: numbers → Fits bits (start + n + front.sum) := by
      intro front hfront
      have hlonger := h (n :: front) (List.cons_prefix_cons.mpr ⟨rfl, hfront⟩)
      rwa [List.sum_cons, ← Int.add_assoc] at hlonger
    unfold sumSigned at ih ⊢
    rw [List.foldlM_cons, signed_eq hfirst, pure_bind_eq, ih hrest, List.sum_cons, Int.add_assoc]

/-- Numbers that are not negative have sums up to the whole one. -/
theorem sum_front_le {numbers front : List Int} (hnonneg : ∀ n ∈ numbers, 0 ≤ n)
    (hfront : front <+: numbers) : 0 ≤ front.sum ∧ front.sum ≤ numbers.sum := by
  obtain ⟨rest, rfl⟩ := hfront
  have hleft : 0 ≤ front.sum :=
    List.sum_nonneg fun n hn => hnonneg n (List.mem_append_left rest hn)
  have hright : 0 ≤ rest.sum :=
    List.sum_nonneg fun n hn => hnonneg n (List.mem_append_right front hn)
  rw [List.sum_append]
  exact ⟨hleft, by omega⟩

/-- Partial sums fit where the whole sum does. -/
theorem fits_front {numbers front : List Int} (hnonneg : ∀ n ∈ numbers, 0 ≤ n)
    (htotal : numbers.sum < 2 ^ bits) (hfront : front <+: numbers) : Fits bits front.sum := by
  obtain ⟨hlow, hhigh⟩ := sum_front_le hnonneg hfront
  have hpow : (0 : Int) < 2 ^ bits := Int.pow_pos (by decide)
  exact ⟨by omega, by omega⟩

end

end NunchukSdk.Foundation
