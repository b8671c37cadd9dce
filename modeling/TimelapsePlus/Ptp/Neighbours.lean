import Mathlib.Data.List.Nodup
import TimelapsePlus.Ptp.Tables

/-!
# Neighbouring Values

The lookups go from a value to the one listed beside it. In a table that lists
no value twice the place a value is found at is the place it is listed at, so a
step to the next value and a step back cancel, as far as the limits let them:
each lookup clamps what it returns to the one limit it knows. A value the clamp
returns need not be listed, and from there a lookup starts over at an end of
the list.

So a step is undone where the value it leads to lies strictly within the limit,
and the value it started from is within the limit of the step back. For the
aperture these are two settings, and a value listed below the lower one can
have its neighbour between the two. The step down in ISO has no limit.

Stepping on comes to rest where the lookup returns what it was given. In a
table whose values rise or fall that is the end of the list, or the limit if
it comes first.

## Main definitions

* `Table.Monotone`: The values listed rise throughout, or fall throughout.
* `apertureWidest`: The first aperture listed, within the limit.
* `AtHighestISO`: The last ISO listed, within the limit.

## Theorems

* `find_listed`: A value listed once is found where it is listed.
* `isoDown_isoUp`, `isoUp_isoDown`, `apertureDown_apertureUp`,
  `apertureUp_apertureDown`: When a step is undone.
* `steps_kept_and_undone`: However many steps, the limit is kept, and steps are
  undone.
* `shortStep`: A step that is not undone.
* `eq_apertureWidest`, `atHighestISO`: Where stepping on comes to rest.
-/

namespace TimelapsePlus

namespace Ptp

namespace Table

variable {cap : Nat}

/-- The values listed rise throughout, or fall throughout. -/
def Monotone (t : Table cap) : Prop :=
  (∀ i j, i < j → j < t.count → t.item i < t.item j) ∨
    (∀ i j, i < j → j < t.count → t.item j < t.item i)

theorem item_inj_of_nodup (t : Table cap) (hnodup : t.listed.Nodup) {i j : Nat}
    (hi : i < t.count) (hj : j < t.count) (h : t.item i = t.item j) : i = j :=
  List.inj_on_of_nodup_map hnodup (List.mem_range.mpr hi) (List.mem_range.mpr hj) h

/-- A value listed once is found where it is listed. -/
theorem find_listed (t : Table cap) (hnodup : t.listed.Nodup) {i : Nat} (h : i < t.count) :
    t.find (t.item i) = some i := by
  rw [find, List.find?_range_eq_some]
  refine ⟨by rw [beq_self_eq_true], List.mem_range.mpr h, fun j hj => ?_⟩
  rw [Bool.not_eq_true', beq_eq_false_iff_ne]
  intro heq
  have := t.item_inj_of_nodup hnodup (by omega) h heq
  omega

theorem last_of_lt (t : Table cap) {i : Nat} (h : i < t.count) : t.last = t.item (t.count - 1) :=
  if_neg (by omega)

/-- No value is listed twice in a table whose values rise or fall. -/
theorem Monotone.nodup {t : Table cap} (h : t.Monotone) : t.listed.Nodup := by
  refine List.Nodup.map_on (fun i hi j hj heq => ?_) List.nodup_range
  rw [List.mem_range] at hi hj
  by_contra hne
  rcases Nat.lt_or_gt_of_ne hne with hlt | hlt
  · rcases h with hrise | hfall
    · have := hrise i j hlt hj
      omega
    · have := hfall i j hlt hj
      omega
  · rcases h with hrise | hfall
    · have := hrise j i hlt hi
      omega
    · have := hfall j i hlt hi
      omega

end Table

section Steps

variable (t : Table isoCountMax) (u : Table apertureCountMax)

/-- The step from a value listed before another, and the step back. -/
theorem isoUp_item (hnodup : t.listed.Nodup) (isoMax : Nat) {i : Nat} (h : i + 1 < t.count) :
    isoUp t isoMax (t.item i) = max (t.item (i + 1)) isoMax := by
  have hfind := t.find_listed hnodup (show i < t.count by omega)
  have hnext : i < t.count - 1 := by omega
  simp only [isoUp, hfind, if_pos hnext]
  rw [if_neg (by omega), max_def_lt]

theorem isoDown_item (hnodup : t.listed.Nodup) {i : Nat} (h : i + 1 < t.count) :
    isoDown t (t.item (i + 1)) = t.item i := by
  simp only [isoDown, t.find_listed hnodup h]
  rw [if_neg (by omega), if_pos (by omega), Nat.add_sub_cancel]

theorem apertureUp_item (hnodup : u.listed.Nodup) (apertureMax : Nat) {i : Nat}
    (h : i + 1 < u.count) :
    apertureUp u apertureMax (u.item i) = min (u.item (i + 1)) apertureMax := by
  have hfind := u.find_listed hnodup (show i < u.count by omega)
  have hnext : i < u.count - 1 := by omega
  simp only [apertureUp, hfind, if_pos hnext]
  rw [min_comm, min_def_lt]

theorem apertureDown_item (hnodup : u.listed.Nodup) (apertureMin : Nat) {i : Nat}
    (h : i + 1 < u.count) :
    apertureDown u apertureMin (u.item (i + 1)) = max (u.item i) apertureMin := by
  simp only [apertureDown, u.find_listed hnodup h, if_pos (Nat.succ_pos i), Nat.add_sub_cancel]
  rw [max_def_lt]

/-- A step up in ISO that stays off the limit is undone. -/
theorem isoDown_isoUp (hnodup : t.listed.Nodup) {isoMax i : Nat} (h : i + 1 < t.count)
    (hlimit : isoMax < t.item (i + 1)) : isoDown t (isoUp t isoMax (t.item i)) = t.item i := by
  rw [isoUp_item t hnodup isoMax h, Nat.max_eq_left (by omega), isoDown_item t hnodup h]

/-- A step down in ISO is undone unless it started past the limit. -/
theorem isoUp_isoDown (hnodup : t.listed.Nodup) {isoMax i : Nat} (h : i + 1 < t.count) :
    isoUp t isoMax (isoDown t (t.item (i + 1))) = t.item (i + 1) ↔ isoMax ≤ t.item (i + 1) := by
  rw [isoDown_item t hnodup h, isoUp_item t hnodup isoMax h]
  exact max_eq_left_iff

/-- A step that closes the aperture and stays off the limit is undone unless it
    started past the other limit. -/
theorem apertureDown_apertureUp (hnodup : u.listed.Nodup) {apertureMin apertureMax i : Nat}
    (h : i + 1 < u.count) (hlimit : u.item (i + 1) < apertureMax) :
    apertureDown u apertureMin (apertureUp u apertureMax (u.item i)) = u.item i ↔
      apertureMin ≤ u.item i := by
  rw [apertureUp_item u hnodup apertureMax h, Nat.min_eq_left (by omega),
    apertureDown_item u hnodup apertureMin h]
  exact max_eq_left_iff

/-- A step that opens the aperture and stays off the limit is undone unless it
    started past the other limit. -/
theorem apertureUp_apertureDown (hnodup : u.listed.Nodup) {apertureMin apertureMax i : Nat}
    (h : i + 1 < u.count) (hlimit : apertureMin < u.item i) :
    apertureUp u apertureMax (apertureDown u apertureMin (u.item (i + 1))) = u.item (i + 1) ↔
      u.item (i + 1) ≤ apertureMax := by
  rw [apertureDown_item u hnodup apertureMin h, Nat.max_eq_left (by omega),
    apertureUp_item u hnodup apertureMax h]
  exact min_eq_left_iff

/-- A step keeps the limit. From an empty table of sensitivities there is no
    step. -/
theorem limit_le_isoUp {isoMax ev : Nat} (h : isoMax ≤ ev) : isoMax ≤ isoUp t isoMax ev := by
  by_cases hzero : t.count = 0
  · rw [isoUp, if_pos hzero]
    exact h
  · simp only [isoUp]
    rw [if_neg hzero, ← max_def_lt]
    exact le_max_right _ _

theorem apertureUp_le_limit (apertureMax ev : Nat) : apertureUp u apertureMax ev ≤ apertureMax := by
  simp only [apertureUp]
  rw [← min_def_lt]
  exact min_le_left _ _

theorem limit_le_apertureDown (apertureMin ev : Nat) :
    apertureMin ≤ apertureDown u apertureMin ev := by
  simp only [apertureDown]
  rw [← max_def_lt]
  exact le_max_right _ _

end Steps

/-- However many steps are taken from a value within a limit, they stay within
    it. A step is undone where the value it leads to lies strictly within its
    limit and the value it started from is within the limit of the step back. -/
theorem steps_kept_and_undone (t : Table isoCountMax) (u : Table apertureCountMax)
    (ht : t.listed.Nodup) (hu : u.listed.Nodup) (isoMax apertureMin apertureMax : Nat) :
    (∀ ev ∈ t.listed, isoMax ≤ ev → ∀ n, isoMax ≤ (isoUp t isoMax)^[n] ev) ∧
    (∀ ev ∈ u.listed, ev ≤ apertureMax → ∀ n, (apertureUp u apertureMax)^[n] ev ≤ apertureMax) ∧
    (∀ ev ∈ u.listed, apertureMin ≤ ev → ∀ n,
      apertureMin ≤ (apertureDown u apertureMin)^[n] ev) ∧
    (∀ i, i + 1 < t.count → isoMax < t.item (i + 1) →
      isoDown t (isoUp t isoMax (t.item i)) = t.item i) ∧
    (∀ i, i + 1 < t.count →
      (isoUp t isoMax (isoDown t (t.item (i + 1))) = t.item (i + 1) ↔
        isoMax ≤ t.item (i + 1))) ∧
    (∀ i, i + 1 < u.count → u.item (i + 1) < apertureMax →
      (apertureDown u apertureMin (apertureUp u apertureMax (u.item i)) = u.item i ↔
        apertureMin ≤ u.item i)) ∧
    (∀ i, i + 1 < u.count → apertureMin < u.item i →
      (apertureUp u apertureMax (apertureDown u apertureMin (u.item (i + 1))) = u.item (i + 1) ↔
        u.item (i + 1) ≤ apertureMax)) := by
  refine ⟨fun ev _ h n => ?_, fun ev _ h n => ?_, fun ev _ h n => ?_, fun i => ?_, fun i => ?_,
    fun i => ?_, fun i => ?_⟩
  · exact Function.Iterate.rec (isoMax ≤ ·) h (fun _ h => limit_le_isoUp t h) n
  · exact Function.Iterate.rec (· ≤ apertureMax) h
      (fun ev _ => apertureUp_le_limit u apertureMax ev) n
  · exact Function.Iterate.rec (apertureMin ≤ ·) h
      (fun ev _ => limit_le_apertureDown u apertureMin ev) n
  · exact isoDown_isoUp t ht
  · exact isoUp_isoDown t ht
  · exact apertureDown_apertureUp u hu
  · exact apertureUp_apertureDown u hu

/-- A lens listed with f/1.2 and f/1.8. -/
def shortStepTable : Table apertureCountMax where
  item := fun k => if k = 0 then 2 else 5
  before := 0
  count := 2
  escaped := false

/-- Sensitivities listed with ISO 100 and ISO 200. -/
def shortStepIso : Table isoCountMax where
  item := fun k => if k = 0 then 43 else 40
  before := 0
  count := 2
  escaped := false

/-- Raising the ISO from 100 to 200 is undone. -/
theorem steps_kept_and_undone_short :
    shortStepIso.listed.Nodup ∧ shortStepTable.listed.Nodup ∧
      (∀ i, i + 1 < shortStepIso.count → 10 < shortStepIso.item (i + 1) →
        isoDown shortStepIso (isoUp shortStepIso 10 (shortStepIso.item i)) = shortStepIso.item i) :=
  ⟨by decide, by decide,
    (steps_kept_and_undone shortStepIso shortStepTable (by decide) (by decide) 10 3 31).2.2.2.1⟩

/-- With a limit of f/1.4 the wider aperture is outside the limits, and its
    neighbour strictly within them: closing the aperture and opening it again
    comes back to the limit. -/
theorem shortStep :
    shortStepTable.Monotone ∧ shortStepTable.item 0 = 2 ∧ 3 < shortStepTable.item 1 ∧
      shortStepTable.item 1 < 31 ∧
      apertureDown shortStepTable 3 (apertureUp shortStepTable 31 (shortStepTable.item 0)) ≠
        shortStepTable.item 0 := by
  refine ⟨Or.inl fun i j hij hj => ?_, rfl, by decide, by decide, by decide⟩
  have hj' : j < 2 := hj
  have hi : i = 0 := by omega
  have hj1 : j = 1 := by omega
  rw [hi, hj1]
  decide

section Rest

/-- The widest aperture allowed: the first listed, unless the limit is
    narrower. -/
def apertureWidest (u : Table apertureCountMax) (apertureMin : Nat) : Nat :=
  max (u.item 0) apertureMin

/-- The ISO is the highest allowed: the last listed, unless the limit is lower.
    Where none is listed there is none to raise it to. -/
def AtHighestISO (t : Table isoCountMax) (isoMax ev : Nat) : Prop :=
  t.count ≠ 0 → ev = max t.last isoMax

/-- Opening the aperture comes to rest only at the widest one allowed. -/
theorem eq_apertureWidest {u : Table apertureCountMax} (hu : u.Monotone) {apertureMin ev : Nat}
    (h : apertureDown u apertureMin ev = ev) : ev = apertureWidest u apertureMin := by
  simp only [apertureDown] at h
  rw [← max_def_lt] at h
  cases hfind : u.find ev with
  | none =>
      rw [hfind] at h
      exact h.symm
  | some i =>
      have hi := u.find_lt hfind
      have hev := u.find_item hfind
      rw [hfind] at h
      simp only at h
      by_cases hpos : 0 < i
      · -- The aperture before it is listed and is not it, so the limit is.
        rw [if_pos hpos] at h
        have hfirst : i - 1 = 0 ∨ 0 < i - 1 := Nat.eq_zero_or_pos _
        unfold apertureWidest
        rcases hu with hrise | hfall
        · have hstep := hrise (i - 1) i (by omega) hi
          rcases hfirst with heq | hlt
          · rw [heq] at h hstep
            omega
          · have := hrise 0 (i - 1) hlt (by omega)
            omega
        · have := hfall (i - 1) i (by omega) hi
          omega
      · -- It is the first listed already.
        rw [if_neg hpos] at h
        exact h.symm

/-- Raising the ISO comes to rest only at the highest one allowed. -/
theorem atHighestISO {t : Table isoCountMax} (ht : t.Monotone) {isoMax ev : Nat}
    (h : isoUp t isoMax ev = ev) : AtHighestISO t isoMax ev := by
  intro hzero
  simp only [isoUp] at h
  rw [if_neg hzero, ← max_def_lt] at h
  cases hfind : t.find ev with
  | none =>
      rw [hfind] at h
      exact h.symm
  | some i =>
      have hi := t.find_lt hfind
      have hev := t.find_item hfind
      have hlast := t.last_of_lt hi
      rw [hfind] at h
      simp only at h
      by_cases hnext : i < t.count - 1
      · -- The sensitivity after it is listed and is not it, so the limit is.
        rw [if_pos hnext] at h
        have hend : i + 1 = t.count - 1 ∨ i + 1 < t.count - 1 := by omega
        rcases ht with hrise | hfall
        · have := hrise i (i + 1) (by omega) (by omega)
          omega
        · have hstep := hfall i (i + 1) (by omega) (by omega)
          rcases hend with heq | hlt
          · rw [hlast, ← heq]
            omega
          · have := hfall (i + 1) (t.count - 1) hlt (by omega)
            omega
      · rw [if_neg hnext] at h
        exact h.symm

end Rest

end Ptp

end TimelapsePlus
