import Mathlib.Order.Preorder.Finite
import Mathlib.Logic.Function.Iterate
import TimelapsePlus.Lib.Loop

/-!
# Loops That Walk

A loop that looks for a value by going from one to its neighbour, testing each
on the way. Its state carries more than the value it has come to, but what it
does next depends on the value alone, so whether it ends is a question about
the walk `a, f a, f (f a), ...` and the test: the loop goes on at the values the
test allows and ends at the first it does not.

A walk through finitely many values comes back to one of them, and from then on
repeats. So the loop fails to end exactly when the walk runs into a circle
without meeting a value the test stops at.

## Main definitions

* `Circles`: A walk runs into a circle, the test allowing every value on it and
  on the way to it.

## Theorems

* `Circles.forall_iterate`: The test allows all of such a walk.
* `circles_iff_forall`: A walk through finitely many values whose every value
  the test allows runs into a circle.
* `halts_iff_exists`: A loop that walks ends exactly when the walk comes to a
  value the test stops at.
* `halts_iff_not_circles`: A loop that walks through finitely many values ends
  exactly when the walk does not run into a circle.
* `walk_of_after`, `after_of_walk`: The state after some rounds is at the value
  that many steps on, the test having allowed every value before.
* `finite_walk`: A walk whose neighbours are taken from a finite set, or are
  the value itself, is finite.
-/

namespace TimelapsePlus

namespace Loop

variable {α σ ε : Type}

/-- The walk runs into a circle, the test allowing every value on it and on the
    way to it. -/
def Circles (f : α → α) (P : α → Prop) (a : α) : Prop :=
  ∃ n p, 0 < p ∧ f^[n + p] a = f^[n] a ∧ ∀ m, m < n + p → P (f^[m] a)

theorem Circles.forall_iterate {f : α → α} {P : α → Prop} {a : α} (h : Circles f P a) (m : Nat) :
    P (f^[m] a) := by
  rcases h with ⟨n, p, hp, hback, hall⟩
  -- Past the circle, one turn back is the same value.
  induction m using Nat.strong_induction_on with
  | _ m ih =>
      by_cases hm : m < n + p
      · exact hall m hm
      · have hturn : f^[m] a = f^[m - p] a := by
          rw [show m = (m - p - n) + (n + p) by omega, Function.iterate_add_apply, hback,
            ← Function.iterate_add_apply]
          congr 2
          omega
        rw [hturn]
        exact ih (m - p) (by omega)

/-- A walk through finitely many values that the test allows everywhere runs
    into a circle. -/
theorem circles_iff_forall {f : α → α} {P : α → Prop} {a : α} {S : Set α} (hS : S.Finite)
    (hmem : ∀ n, f^[n] a ∈ S) : Circles f P a ↔ ∀ n, P (f^[n] a) := by
  refine ⟨Circles.forall_iterate, fun hall => ?_⟩
  rcases hS.exists_lt_map_eq_of_forall_mem hmem with ⟨i, j, hij, heq⟩
  refine ⟨i, j - i, by omega, ?_, fun m _ => hall m⟩
  rw [show i + (j - i) = j by omega]
  exact heq.symm

section Body

variable {body : σ → Except ε σ} {f : α → α} {P : α → Prop} {R : α → σ → Prop}

/-- A loop that follows a walk, going on where the test allows and ending where
    it does not, ends exactly when the walk comes to such a value. -/
theorem halts_iff_exists (hgo : ∀ a s, R a s → P a → ∃ s', body s = .ok s' ∧ R (f a) s')
    (hstop : ∀ a s, R a s → ¬ P a → Halts body s) {a : α} {s : σ} (h : R a s) :
    Halts body s ↔ ∃ n, ¬ P (f^[n] a) := by
  constructor
  · intro hhalts
    by_contra hnone
    refine not_halts_of_forever body (fun t => ∃ n, R (f^[n] a) t) ?_ s ⟨0, h⟩ hhalts
    rintro t ⟨n, ht⟩
    have hP : P (f^[n] a) := by
      by_contra hP
      exact hnone ⟨n, hP⟩
    rcases hgo _ t ht hP with ⟨t', ht', hR⟩
    exact ⟨t', ht', n + 1, by rw [Function.iterate_succ_apply']; exact hR⟩
  · rintro ⟨n, hn⟩
    induction n generalizing a s with
    | zero => exact hstop a s h hn
    | succ k ih =>
        by_cases hP : P a
        · rcases hgo a s h hP with ⟨s', hs', hR⟩
          rw [halts_iff_of_ok body hs']
          rw [Function.iterate_succ_apply] at hn
          exact ih hR hn
        · exact hstop a s h hP

/-- A loop that follows a walk through finitely many values ends exactly when
    the walk does not run into a circle. -/
theorem halts_iff_not_circles
    (hgo : ∀ a s, R a s → P a → ∃ s', body s = .ok s' ∧ R (f a) s')
    (hstop : ∀ a s, R a s → ¬ P a → Halts body s) {a : α} {s : σ} (h : R a s) {S : Set α}
    (hS : S.Finite) (hmem : ∀ n, f^[n] a ∈ S) : Halts body s ↔ ¬ Circles f P a := by
  rw [halts_iff_exists hgo hstop h, circles_iff_forall hS hmem, not_forall]

/-- A loop that has gone on for some rounds has walked as many steps, if it
    throws where the test stops it. -/
theorem walk_of_after (hgo : ∀ a s, R a s → P a → ∃ s', body s = .ok s' ∧ R (f a) s')
    (hthrow : ∀ a s, R a s → ¬ P a → ∃ e, body s = .error e) {n : Nat} {a : α} {s t : σ}
    (h : R a s) (hafter : after body n s = some t) :
    R (f^[n] a) t ∧ ∀ m, m < n → P (f^[m] a) := by
  induction n generalizing a s with
  | zero =>
      simp only [after, Option.some.injEq] at hafter
      rw [← hafter]
      exact ⟨h, fun m hm => absurd hm (Nat.not_lt_zero m)⟩
  | succ k ih =>
      have hP : P a := by
        by_contra hP
        rcases hthrow a s h hP with ⟨e, he⟩
        simp only [after, he, reduceCtorEq] at hafter
      rcases hgo a s h hP with ⟨s', hs', hR⟩
      rw [after_succ_ok body k hs'] at hafter
      rcases ih hR hafter with ⟨hend, hall⟩
      refine ⟨hend, fun m hm => ?_⟩
      cases m with
      | zero => exact hP
      | succ j => exact hall j (by omega)

/-- A loop goes on for as many rounds as the test allows. -/
theorem after_of_walk (hgo : ∀ a s, R a s → P a → ∃ s', body s = .ok s' ∧ R (f a) s') {n : Nat}
    {a : α} {s : σ} (h : R a s) (hall : ∀ m, m < n → P (f^[m] a)) :
    ∃ t, after body n s = some t ∧ R (f^[n] a) t := by
  induction n generalizing a s with
  | zero => exact ⟨s, rfl, h⟩
  | succ k ih =>
      rcases hgo a s h (hall 0 (Nat.succ_pos k)) with ⟨s', hs', hR⟩
      rw [after_succ_ok body k hs']
      exact ih hR fun m hm => hall (m + 1) (by omega)

end Body

/-- A walk stays among its first value and the set its neighbours are taken
    from. -/
theorem finite_walk {f : α → α} {S : Set α} (hS : S.Finite) (h : ∀ a, f a = a ∨ f a ∈ S)
    (a : α) : (insert a S).Finite ∧ ∀ n, f^[n] a ∈ insert a S := by
  refine ⟨hS.insert a, fun n => ?_⟩
  induction n with
  | zero => exact Set.mem_insert a S
  | succ k ih =>
      rw [Function.iterate_succ_apply']
      rcases h (f^[k] a) with heq | hin
      · rw [heq]
        exact ih
      · exact Set.mem_insert_of_mem a hin

end Loop

end TimelapsePlus
