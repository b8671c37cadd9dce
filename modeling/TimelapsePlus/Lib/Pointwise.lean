import Mathlib.Data.List.Nodup
import Mathlib.Logic.Function.Basic

/-!
# Changes Point by Point

A picture has a value at every point, and a drawing changes it at some of them. A drawing
is pointwise when what it leaves at a point depends on nothing but what was there. Most
are, and then two drawings that have no point in common can be done in either order.

## Main definitions

* `Pointwise.On`: A drawing is pointwise, and keeps to a region.
* `Pointwise.dot`, `Pointwise.dots`: One point is changed, or some are.

## Theorems

* `On.comp`, `On.foldl`: Drawings one after the other.
* `On.comm`: Drawings with no point in common commute.
* `dots_of_mem`, `dots_of_not_mem`: Each of some points is changed once.
-/

namespace TimelapsePlus

namespace Pointwise

variable {ι α β : Type} {R S : ι → Prop} {f g : (ι → α) → ι → α}

/-- What a drawing leaves at a point depends on what was there, and outside of the region
    it leaves everything as it is. -/
structure On (R : ι → Prop) (f : (ι → α) → ι → α) : Prop where
  here : ∀ p q i, p i = q i → f p i = f q i
  beyond : ∀ p i, ¬ R i → f p i = p i

theorem On.id (R : ι → Prop) : On R fun p : ι → α => p where
  here := fun _ _ _ h => h
  beyond := fun _ _ _ => rfl

theorem On.mono (h : On R f) (hle : ∀ i, R i → S i) : On S f where
  here := h.here
  beyond := fun p i hi => h.beyond p i fun hr => hi (hle i hr)

theorem On.comp (h : On R f) (h' : On R g) : On R fun p => g (f p) where
  here := fun p q i hpq => h'.here _ _ i (h.here p q i hpq)
  beyond := fun p i hi => (h'.beyond (f p) i hi).trans (h.beyond p i hi)

/-- One drawing for each of a list, one after the other. -/
theorem On.foldl {draw : β → (ι → α) → ι → α} {bs : List β} (h : ∀ b ∈ bs, On R (draw b)) :
    On R fun p => bs.foldl (fun p b => draw b p) p := by
  induction bs with
  | nil => exact On.id R
  | cons b bs ih =>
      exact (h b List.mem_cons_self).comp (ih fun b' hb' => h b' (List.mem_cons_of_mem b hb'))

/-- Drawings that have no point in common can be done in either order. -/
theorem On.comm (h : On R f) (h' : On S g) (hapart : ∀ i, R i → ¬ S i) (p : ι → α) :
    f (g p) = g (f p) := by
  funext i
  by_cases hi : R i
  · rw [h'.beyond (f p) i (hapart i hi)]
    exact h.here _ _ i (h'.beyond p i (hapart i hi))
  · rw [h.beyond (g p) i hi]
    exact (h'.here _ _ i (h.beyond p i hi)).symm

section Dots

variable [DecidableEq ι] {c : α → α}

/-- One point is changed. -/
def dot (c : α → α) (i : ι) (p : ι → α) : ι → α := Function.update p i (c (p i))

/-- Some points are, one after the other. -/
def dots (c : α → α) (is : List ι) (p : ι → α) : ι → α := is.foldl (fun p i => dot c i p) p

theorem dot_apply (i j : ι) (p : ι → α) : dot c i p j = if j = i then c (p i) else p j :=
  Function.update_apply p i _ j

theorem dot_on (i : ι) : On (· = i) (dot c i) where
  here := by
    intro p q j hpq
    rw [dot_apply, dot_apply]
    by_cases hj : j = i
    · rw [if_pos hj, if_pos hj, ← hj, hpq]
    · rw [if_neg hj, if_neg hj, hpq]
  beyond := fun p j hj => (dot_apply i j p).trans (if_neg hj)

/-- Any other point stays. -/
theorem dots_of_not_mem {is : List ι} {j : ι} (hj : j ∉ is) (p : ι → α) : dots c is p j = p j := by
  induction is generalizing p with
  | nil => rfl
  | cons i is ih =>
      rw [List.mem_cons, not_or] at hj
      have hstep : dots c (i :: is) p j = dots c is (dot c i p) j := rfl
      rw [hstep, ih hj.2, dot_apply, if_neg hj.1]

/-- Points that are all different are each changed once. -/
theorem dots_of_mem {is : List ι} (h : is.Nodup) {j : ι} (hj : j ∈ is) (p : ι → α) :
    dots c is p j = c (p j) := by
  induction is generalizing p with
  | nil => exact absurd hj List.not_mem_nil
  | cons i is ih =>
      rcases List.nodup_cons.mp h with ⟨hnot, hrest⟩
      have hstep : dots c (i :: is) p j = dots c is (dot c i p) j := rfl
      rcases List.mem_cons.mp hj with rfl | hmem
      · rw [hstep, dots_of_not_mem hnot, dot_apply, if_pos rfl]
      · have hne : j ≠ i := fun heq => hnot (heq ▸ hmem)
        rw [hstep, ih hrest hmem, dot_apply, if_neg hne]

end Dots

end Pointwise

end TimelapsePlus
