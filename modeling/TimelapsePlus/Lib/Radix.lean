import Mathlib.Algebra.BigOperators.Group.List.Basic
import Mathlib.Data.List.Forall2

/-!
# Numbers in Mixed Radix

A time is written with digits of different radices: tenths and seconds go to ten, tens of
seconds to six. The digits here are in the order of their worth, the least first, as the
radices are. A number that is too large for its digits is written modulo what they can
hold.

## Main definitions

* `digits`: The digits of a number.
* `value`: The number that digits are for.

## Theorems

* `digits_zero`: The digits of zero.
* `value_digits`: A number is read back modulo the product of the radices.
* `digits_below`: The digits are below their radices.
* `value_lt`: Such digits are for a number below the product.
* `below_set`: One of them is changed.
-/

namespace TimelapsePlus

namespace Radix

/-- The digits of a number. -/
def digits : List Nat → Nat → List Nat
  | [], _ => []
  | r :: rs, m => m % r :: digits rs (m / r)

/-- The number that digits are for. -/
def value : List Nat → List Nat → Nat
  | r :: rs, d :: ds => d + r * value rs ds
  | _, _ => 0

/-- The digits of zero. -/
theorem digits_zero (rs : List Nat) : digits rs 0 = List.replicate rs.length 0 := by
  induction rs with
  | nil => rfl
  | cons r rs ih => rw [digits, Nat.zero_mod, Nat.zero_div, ih, List.length_cons,
      List.replicate_succ]

/-- A number is read back modulo what its digits can hold. -/
theorem value_digits (rs : List Nat) (m : Nat) : value rs (digits rs m) = m % rs.prod := by
  induction rs generalizing m with
  | nil => exact (Nat.mod_one m).symm
  | cons r rs ih => rw [digits, value, ih, List.prod_cons, Nat.mod_mul]

/-- The digits are below their radices. -/
theorem digits_below {rs : List Nat} (hpos : ∀ r ∈ rs, 0 < r) (m : Nat) :
    List.Forall₂ (· < ·) (digits rs m) rs := by
  induction rs generalizing m with
  | nil => exact .nil
  | cons r rs ih =>
      have hrest : ∀ r' ∈ rs, 0 < r' := fun r' hr' => hpos r' (List.mem_cons_of_mem r hr')
      exact .cons (Nat.mod_lt m (hpos r List.mem_cons_self)) (ih hrest (m / r))

/-- What digits below their radices are for is below the product. -/
theorem value_lt {rs ds : List Nat} (h : List.Forall₂ (· < ·) ds rs) : value rs ds < rs.prod := by
  induction h with
  | nil => exact Nat.one_pos
  | @cons d r ds rs hd _ ih =>
      rw [value, List.prod_cons]
      have hmul : r * (value rs ds + 1) ≤ r * rs.prod := Nat.mul_le_mul_left r ih
      rw [Nat.mul_add, Nat.mul_one] at hmul
      omega

/-- One of the digits is changed for another below its radix. -/
theorem below_set {rs ds : List Nat} (h : List.Forall₂ (· < ·) ds rs) (i x : Nat)
    (hx : ∀ r, rs[i]? = some r → x < r) : List.Forall₂ (· < ·) (ds.set i x) rs := by
  induction h generalizing i with
  | nil => exact .nil
  | @cons d r ds rs hd hrest ih =>
      cases i with
      | zero => exact .cons (hx r rfl) hrest
      | succ i => exact .cons hd (ih i hx)

/-- The digit at a place that there is. -/
theorem below_get {rs ds : List Nat} (h : List.Forall₂ (· < ·) ds rs) {i r : Nat}
    (hr : rs[i]? = some r) : ∃ d, ds[i]? = some d ∧ d < r := by
  induction h generalizing i with
  | nil => cases hr
  | @cons d r' ds rs hd _ ih =>
      cases i with
      | zero =>
          cases hr
          exact ⟨d, rfl, hd⟩
      | succ i => exact ih hr

end Radix

end TimelapsePlus
