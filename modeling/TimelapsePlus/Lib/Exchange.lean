import Mathlib.Data.List.Perm.Basic

/-!
# Sorting by Exchanges

A list is put in order by exchanging neighbours that are out of it. What counts is
the number of inversions, the pairs whose later element is below the earlier one:
an exchange takes one away and leaves the others as they are, since every other
element stays on the same side of both.

Nothing is asked of the order but that of two elements not each is below the other.
Elements may be incomparable, as a float that is not a number is to any other. Then
no pair of neighbours need be out of order and the list still need not be sorted, so
what an exchange sort comes to is told of neighbours only.

## Main definitions

* `inversions`: The pairs that are out of order.
* `exchange`: Two neighbours change places.
* `Nondecreasing`: No element is below the one before it.

## Theorems

* `exchange_perm`: An exchange only moves elements.
* `inversions_exchange`: It takes one inversion away.
* `inversions_le`: A list has fewer inversions than pairs.
* `Nondecreasing.pairwise`: In a linear order such a list is sorted.
* `Nondecreasing.eq_mergeSort`: It is what any sort makes of it.
-/

namespace TimelapsePlus

namespace Exchange

variable {α : Type}

/-- The elements at an index and at the one after it change places. -/
def exchange (a : List α) (i : Nat) (x y : α) : List α := (a.set (i + 1) x).set i y

/-- A list is what is ahead of two neighbours, the two, and what is behind them. -/
theorem eq_take_append {a : List α} {i : Nat} {x y : α} (hx : a[i]? = some x)
    (hy : a[i + 1]? = some y) : a = a.take i ++ x :: y :: a.drop (i + 2) := by
  rcases List.getElem?_eq_some_iff.mp hx with ⟨hi, hx⟩
  rcases List.getElem?_eq_some_iff.mp hy with ⟨hi', hy⟩
  rw [← hx, ← hy, List.getElem_cons_drop, List.getElem_cons_drop, List.take_append_drop]

/-- An exchange turns the two around. -/
theorem exchange_eq {a : List α} {i : Nat} {x y : α} (hi : i + 1 < a.length) :
    exchange a i x y = a.take i ++ y :: x :: a.drop (i + 2) := by
  have hlen : (a.take i).length = i := List.length_take_of_le (by omega)
  have hsplit : a = a.take i ++ a[i] :: a[i + 1] :: a.drop (i + 2) := by
    rw [List.getElem_cons_drop, List.getElem_cons_drop, List.take_append_drop]
  unfold exchange
  conv_lhs => rw [hsplit]
  rw [List.set_append_right _ _ (by omega), List.set_append_right _ _ (by omega), hlen,
    Nat.add_sub_cancel_left, Nat.sub_self, List.set_cons_succ, List.set_cons_zero,
    List.set_cons_zero]

@[simp] theorem exchange_length (a : List α) (i : Nat) (x y : α) :
    (exchange a i x y).length = a.length := by
  unfold exchange
  rw [List.length_set, List.length_set]

/-- An exchange only moves elements. -/
theorem exchange_perm {a : List α} {i : Nat} {x y : α} (hx : a[i]? = some x)
    (hy : a[i + 1]? = some y) : (exchange a i x y).Perm a := by
  have hlt : i + 1 < a.length := (List.getElem?_eq_some_iff.mp hy).1
  rw [exchange_eq hlt]
  conv_rhs => rw [eq_take_append hx hy]
  exact (List.Perm.swap x y _).append_left _

/-- No element is below the one before it. -/
def Nondecreasing [LT α] (a : List α) : Prop := a.IsChain fun x y => ¬ y < x

section Order

variable [LT α] [DecidableLT α]

/-- The pairs of a list whose later element is below the earlier one. -/
def inversions : List α → Nat
  | [] => 0
  | x :: xs => xs.countP (fun y => decide (y < x)) + inversions xs

/-- Two neighbours that are out of order make one inversion, and all others are the same
    with the two turned around. -/
theorem inversions_swap [Std.Asymm (α := α) (· < ·)] {x y : α} (h : y < x) (l r : List α) :
    inversions (l ++ x :: y :: r) = inversions (l ++ y :: x :: r) + 1 := by
  induction l with
  | nil =>
      have hxy : ¬ x < y := Std.Asymm.asymm y x h
      simp only [List.nil_append, inversions, List.countP_cons, decide_eq_true_eq, if_pos h,
        if_neg hxy]
      omega
  | cons z l ih =>
      -- To the element ahead it makes no difference in which order the two are.
      have hperm : (l ++ x :: y :: r).Perm (l ++ y :: x :: r) :=
        (List.Perm.swap y x r).append_left l
      simp only [List.cons_append, inversions]
      rw [hperm.countP_eq, ih]
      omega

/-- An exchange of neighbours that are out of order takes one inversion away. -/
theorem inversions_exchange [Std.Asymm (α := α) (· < ·)] {a : List α} {i : Nat} {x y : α}
    (hx : a[i]? = some x) (hy : a[i + 1]? = some y) (h : y < x) :
    inversions a = inversions (exchange a i x y) + 1 := by
  have hlt : i + 1 < a.length := (List.getElem?_eq_some_iff.mp hy).1
  rw [exchange_eq hlt]
  conv_lhs => rw [eq_take_append hx hy]
  exact inversions_swap h _ _

/-- A list has fewer inversions than pairs. -/
theorem inversions_le (a : List α) : inversions a ≤ a.length * a.length := by
  induction a with
  | nil => exact Nat.le_refl 0
  | cons x xs ih =>
      have hcount : xs.countP (fun y => decide (y < x)) ≤ xs.length := List.countP_le_length
      simp only [inversions, List.length_cons, Nat.add_mul, Nat.mul_add]
      omega

end Order

section Linear

variable [LE α] [LT α] [Std.IsLinearOrder α] [Std.LawfulOrderLT α]

/-- In a linear order a list that does not decrease is sorted. -/
theorem Nondecreasing.pairwise {a : List α} (h : Nondecreasing a) : a.Pairwise (· ≤ ·) := by
  have hle : a.IsChain (· ≤ ·) := h.imp fun x y hxy => Std.not_lt.mp hxy
  have htrans : Trans (α := α) (· ≤ ·) (· ≤ ·) (· ≤ ·) := ⟨Std.le_trans⟩
  exact List.isChain_iff_pairwise.mp hle

/-- Whatever way a list is sorted, it comes out the same. -/
theorem Nondecreasing.eq_mergeSort [DecidableLE α] {a b : List α} (h : Nondecreasing b)
    (hperm : b.Perm a) : b = a.mergeSort := by
  have hsorted : (a.mergeSort).Pairwise (· ≤ ·) := by
    have hp : (a.mergeSort).Pairwise fun x y => decide (x ≤ y) = true := by
      refine List.pairwise_mergeSort (fun x y z hxy hyz => ?_) (fun x y => ?_) a
      · rw [decide_eq_true_eq] at *
        exact Std.le_trans hxy hyz
      · rw [Bool.or_eq_true, decide_eq_true_eq, decide_eq_true_eq]
        exact Std.le_total
    exact hp.imp fun hxy => of_decide_eq_true hxy
  exact List.Perm.eq_of_pairwise (fun x y _ _ hxy hyx => Std.le_antisymm hxy hyx) h.pairwise
    hsorted (hperm.trans (List.mergeSort_perm a _).symm)

end Linear

end Exchange

end TimelapsePlus
