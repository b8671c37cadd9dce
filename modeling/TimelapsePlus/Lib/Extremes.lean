import Mathlib.Order.Lattice
import Mathlib.Order.OrderDual
import Mathlib.Order.MinMax

/-!
# Running Minima and Maxima

A loop that keeps the lowest value it has come across starts from some value, and mostly
from one that was left there before. Whether that one is still to be seen in the end is a
matter of the values it comes across: two starts come to the same if and only if they are
the same, or some value is below both.

The same holds of the highest value, in the dual order.

## Theorems

* `foldl_min_eq_iff`: When two starts come to the same minimum.
* `foldl_max_eq_iff`: When they come to the same maximum.
-/

namespace TimelapsePlus

namespace Extremes

variable {α ι : Type} [LinearOrder α] {f : ι → α} {l : List ι} {s s' : α}

/-- Two starts come to the same if some value is below both, or if there was nothing to
    forget. -/
theorem foldl_min_eq_iff :
    l.foldl (fun m i => min m (f i)) s = l.foldl (fun m i => min m (f i)) s' ↔
      s = s' ∨ ∃ i ∈ l, f i ≤ s ∧ f i ≤ s' := by
  induction l generalizing s s' with
  | nil => simp only [List.foldl_nil, List.not_mem_nil, false_and, exists_false, or_false]
  | cons i l ih =>
      have hhead : min s (f i) = min s' (f i) ↔ s = s' ∨ f i ≤ s ∧ f i ≤ s' := by
        constructor
        · intro heq
          rcases le_total (f i) s with hle | hle
          · rw [min_eq_right hle] at heq
            exact Or.inr ⟨hle, heq ▸ min_le_left s' (f i)⟩
          · rw [min_eq_left hle] at heq
            rcases le_total (f i) s' with hle' | hle'
            · rw [min_eq_right hle'] at heq
              exact Or.inr ⟨heq.ge, hle'⟩
            · rw [min_eq_left hle'] at heq
              exact Or.inl heq
        · rintro (rfl | ⟨hle, hle'⟩)
          · rfl
          · rw [min_eq_right hle, min_eq_right hle']
      simp only [List.foldl_cons, ih, hhead, List.mem_cons, exists_eq_or_imp, or_assoc]
      constructor
      · rintro (heq | hi | ⟨j, hj, hjs, hjs'⟩)
        · exact Or.inl heq
        · exact Or.inr (Or.inl hi)
        · exact Or.inr (Or.inr ⟨j, hj, hjs.trans (min_le_left _ _), hjs'.trans (min_le_left _ _)⟩)
      · rintro (heq | hi | ⟨j, hj, hjs, hjs'⟩)
        · exact Or.inl heq
        · exact Or.inr (Or.inl hi)
        · -- Either the value at the head is below both already, or this one is below that.
          rcases le_total (f j) (f i) with hle | hle
          · exact Or.inr (Or.inr ⟨j, hj, le_min hjs hle, le_min hjs' hle⟩)
          · exact Or.inr (Or.inl ⟨hle.trans hjs, hle.trans hjs'⟩)

/-- And to the same maximum if some value is above both. -/
theorem foldl_max_eq_iff :
    l.foldl (fun m i => max m (f i)) s = l.foldl (fun m i => max m (f i)) s' ↔
      s = s' ∨ ∃ i ∈ l, s ≤ f i ∧ s' ≤ f i :=
  foldl_min_eq_iff (α := αᵒᵈ)

end Extremes

end TimelapsePlus
