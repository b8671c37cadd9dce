import Mathlib.Algebra.BigOperators.Group.List.Basic
import Mathlib.Algebra.Ring.Int.Defs
import Mathlib.Data.List.TakeWhile

/-!
# Counters with Hysteresis

A counter follows a noisy signal. It goes up with every sample that has the signal and
down with every one that does not, but no lower than zero, and it may lose something at
any time. What it is depends on its history, and the history is a list here, the newest
entry first.

The signal is taken to be on when the counter comes above a high level, and to be off
when it falls below a low one. Between the levels it stays what it was, so from the
counter alone it cannot be told. It can be told from the entries since the counter was
last below the low level: the signal is on when one of these is above the high level.

## Main definitions

* `level`: The counter after its history.
* `since`: The entries since it was last below a level.
* `net`: What the signal has gained since it was zero.
* `Latched`: The signal is on.

## Theorems

* `level_le_net`: The counter is no higher than what was gained since it was zero.
* `latched_cons`: When the signal is on after another entry.
* `countP_mark`: What is marked as the signal goes on, is marked once until it is off.
-/

namespace TimelapsePlus

namespace Hysteresis

variable {ε : Type} (count : ε → Nat)

/-- The counter after its history. -/
def level : List ε → Nat
  | [] => 0
  | e :: _ => count e

/-- The entries since the counter was last below a level. -/
def since (low : Nat) (h : List ε) : List ε := h.takeWhile fun e => decide (low ≤ count e)

variable {count} {low high : Nat} {e : ε} {h : List ε}

theorem since_cons_of_le (hlow : low ≤ count e) :
    since count low (e :: h) = e :: since count low h :=
  List.takeWhile_cons_of_pos (decide_eq_true hlow)

theorem since_cons_of_lt (hlow : count e < low) : since count low (e :: h) = [] := by
  refine List.takeWhile_cons_of_neg ?_
  rw [decide_eq_true_eq]
  exact Nat.not_le.mpr hlow

/-- There are none if it is below now. -/
theorem since_of_lt (hlow : level count h < low) : since count low h = [] := by
  cases h with
  | nil => rfl
  | cons e h => exact since_cons_of_lt hlow

section Net

variable (count) (gain : ε → Int)

/-- What the signal has gained since the counter was zero. -/
def net (h : List ε) : Int := ((since count 1 h).map gain).sum

variable {count gain}

/-- A counter that goes up by no more than the gain is no higher than what was gained since
    it was zero. -/
theorem level_le_net (hnet : (level count h : Int) ≤ net count gain h)
    (hstep : count e = 0 ∨ (count e : Int) ≤ level count h + gain e) :
    (level count (e :: h) : Int) ≤ net count gain (e :: h) := by
  unfold net at hnet ⊢
  change (count e : Int) ≤ _
  by_cases hpos : 1 ≤ count e
  · rw [since_cons_of_le hpos, List.map_cons, List.sum_cons]
    have hle := hstep.resolve_left (Nat.ne_of_gt hpos)
    omega
  · -- A counter at zero starts again.
    rw [since_cons_of_lt (Nat.not_le.mp hpos), Nat.lt_one_iff.mp (Nat.not_le.mp hpos)]
    exact Int.le_refl 0

end Net

section Latch

variable (count) (low high)

/-- The signal is on: the counter has been above the high level since it was below the low
    one. -/
def Latched (h : List ε) : Prop := ∃ e ∈ since count low h, high < count e

instance (h : List ε) : Decidable (Latched count low high h) := by
  unfold Latched
  infer_instance

variable {count low high}

theorem not_latched_nil : ¬ Latched count low high ([] : List ε) := by
  rintro ⟨e, he, -⟩
  exact absurd he List.not_mem_nil

/-- The signal is only on above the low level. -/
theorem Latched.low_le (h' : Latched count low high h) : low ≤ level count h := by
  rcases h' with ⟨e, he, -⟩
  by_contra hlow
  rw [since_of_lt (Nat.not_le.mp hlow)] at he
  exact absurd he List.not_mem_nil

/-- Another entry leaves it on if it is not below the low level, and turns it on if it is
    above the high one. -/
theorem latched_cons :
    Latched count low high (e :: h) ↔
      low ≤ count e ∧ (high < count e ∨ Latched count low high h) := by
  unfold Latched
  by_cases hlow : low ≤ count e
  · rw [since_cons_of_le hlow, List.exists_mem_cons_iff]
    exact (and_iff_right hlow).symm
  · rw [since_cons_of_lt (Nat.not_le.mp hlow)]
    refine iff_of_false ?_ fun h' => hlow h'.1
    rintro ⟨x, hx, -⟩
    exact absurd hx List.not_mem_nil

/-- Above the high level it is on. -/
theorem latched_of_lt (hle : low ≤ high + 1) (hhigh : high < level count h) :
    Latched count low high h := by
  cases h with
  | nil => exact absurd hhigh (Nat.not_lt_zero high)
  | cons e h => exact latched_cons.mpr ⟨le_trans hle hhigh, Or.inl hhigh⟩

/-- If an entry is marked when the signal goes on with it, then of those since the signal was
    off one is marked if it is on, and else none. -/
theorem countP_mark {mark : ε → Bool}
    (hone : (since count low h).countP mark = if Latched count low high h then 1 else 0)
    (hmark : mark e = true ↔ high < count e ∧ ¬ Latched count low high h) :
    (since count low (e :: h)).countP mark =
      if Latched count low high (e :: h) then 1 else 0 := by
  by_cases hlow : low ≤ count e
  · rw [since_cons_of_le hlow, List.countP_cons, hone]
    by_cases hlatched : Latched count low high h
    · rw [if_pos hlatched, if_neg fun h' => (hmark.mp h').2 hlatched,
        if_pos (latched_cons.mpr ⟨hlow, Or.inr hlatched⟩)]
    · rw [if_neg hlatched]
      by_cases hhigh : high < count e
      · rw [if_pos (hmark.mpr ⟨hhigh, hlatched⟩), if_pos (latched_cons.mpr ⟨hlow, Or.inl hhigh⟩)]
      · rw [if_neg fun h' => hhigh (hmark.mp h').1, if_neg]
        exact fun h' => (latched_cons.mp h').2.elim hhigh hlatched
  · rw [since_cons_of_lt (Nat.not_le.mp hlow), if_neg fun h' => hlow (latched_cons.mp h').1]
    rfl

end Latch

end Hysteresis

end TimelapsePlus
