import TimelapsePlus.Lib.Grid
import TimelapsePlus.Menu.KeyframeEditor

/-!
# Stepping a Value Up and Down

Up and down move the value of a keyframe along the multiples of its step, by what the
remainder leaves to the next one or by the remainder itself. The remainder is C's. A
value that is negative and off the grid has a negative one: up takes it a step too far,
and down takes it up.

Such values come about. The step is a setting and can be changed, and values chosen with
another step stay as they are. It can be set to zero too.

What is undefined in C has no value here.

## Main definitions

* `stepUp`, `stepDown`: What the keys make of a value.
* `limit`: What a range leaves of it.
* `UpRight`, `DownRight`: The value moves to the next multiple.
* `UpMet`, `DownMet`: When it does.

## Theorems

* `pressUp_value`, `pressDown_value`: The keys in the editor.
* `stepUp_eq`, `stepDown_eq`: The moves by what they are next to.
* `stepping_iff`: When the keys move a value as they should.
* `overshoots`: A value they move otherwise.
-/

namespace TimelapsePlus

namespace Menu

open Word Grid Shutter

/-- UP, for the value of a keyframe. -/
def stepUp (kf : Group) (v : Int) : Option Int := do
  let r ← rem32 v kf.steps
  let steps ← fit32 (kf.steps - r)
  let next ← fit32 (v + steps)
  if next < kf.max ∨ kf.rangeExtendable then some next
  else if v ≠ kf.max then some kf.max
  else some v

/-- DOWN. -/
def stepDown (kf : Group) (v : Int) : Option Int := do
  let r ← rem32 v kf.steps
  let steps := if r = 0 then kf.steps else r
  let next ← fit32 (v - steps)
  if kf.min < next ∨ kf.rangeExtendable then some next
  else if v ≠ kf.min then some kf.min
  else some v

/-- The range limits a value, if it cannot be extended. -/
def limit (kf : Group) (t : Int) : Int :=
  if kf.rangeExtendable then t else max kf.min (min t kf.max)

/-- UP moves a value to the next multiple above it, as far as the range goes. -/
def UpRight (kf : Group) (v : Int) : Prop :=
  ∃ t, IsLeast {t | kf.steps ∣ t ∧ v < t} t ∧ stepUp kf v = some (limit kf t)

/-- And DOWN to the next below. -/
def DownRight (kf : Group) (v : Int) : Prop :=
  ∃ t, IsGreatest {t | kf.steps ∣ t ∧ t < v} t ∧ stepDown kf v = some (limit kf t)

/-- There is a step, the next multiple is a number of 32 bits and not below the range, and
    the value is on the grid if it is negative. Otherwise it is at the top of the range
    that the value has to end. -/
def UpMet (kf : Group) (v : Int) : Prop :=
  kf.steps ≠ 0 ∧
    if 0 ≤ v ∨ kf.steps ∣ v then
      above kf.steps v ≤ 2147483647 ∧ (kf.rangeExtendable = false → kf.min ≤ above kf.steps v)
    else kf.rangeExtendable = false ∧
      (kf.max ≤ above kf.steps v ∨ kf.min = min (above kf.steps v + kf.steps) kf.max)

/-- The same the other way round. -/
def DownMet (kf : Group) (v : Int) : Prop :=
  kf.steps ≠ 0 ∧
    if 0 ≤ v ∨ kf.steps ∣ v then
      -2147483648 ≤ below kf.steps v ∧ (kf.rangeExtendable = false → below kf.steps v ≤ kf.max)
    else kf.rangeExtendable = false ∧ above kf.steps v ≤ kf.min

theorem fit32_of_mem {z : Int} (hlo : -2147483648 ≤ z) (hhi : z ≤ 2147483647) :
    fit32 z = some z :=
  if_pos ⟨hlo, hhi⟩

theorem rem32_of_pos (v : Int) {s : Int} (hs : 0 < s) : rem32 v s = some (Int.tmod v s) :=
  if_neg (by omega)

variable {kf : Group} {v : Int}

/-- The two ends of the choice that `stepUp` makes at the end. -/
theorem clampUp (kf : Group) (v next : Int) :
    (if next < kf.max ∨ kf.rangeExtendable then some next
      else if v ≠ kf.max then some kf.max else some v) =
      some (if kf.rangeExtendable then next else min next kf.max) := by
  by_cases hext : kf.rangeExtendable = true
  · rw [if_pos (.inr hext), if_pos hext]
  · rw [if_neg hext]
    by_cases hnext : next < kf.max
    · rw [if_pos (.inl hnext), min_eq_left hnext.le]
    · rw [if_neg (not_or.mpr ⟨hnext, hext⟩), min_eq_right (not_lt.mp hnext)]
      by_cases hv : v = kf.max
      · rw [if_neg (not_not.mpr hv), hv]
      · rw [if_pos hv]

theorem clampDown (kf : Group) (v next : Int) :
    (if kf.min < next ∨ kf.rangeExtendable then some next
      else if v ≠ kf.min then some kf.min else some v) =
      some (if kf.rangeExtendable then next else max next kf.min) := by
  by_cases hext : kf.rangeExtendable = true
  · rw [if_pos (.inr hext), if_pos hext]
  · rw [if_neg hext]
    by_cases hnext : kf.min < next
    · rw [if_pos (.inl hnext), max_eq_left hnext.le]
    · rw [if_neg (not_or.mpr ⟨hnext, hext⟩), max_eq_right (not_lt.mp hnext)]
      by_cases hv : v = kf.min
      · rw [if_neg (not_not.mpr hv), hv]
      · rw [if_pos hv]

/-- UP, with the remainder worked out. -/
theorem stepUp_eq (hpos : 0 < kf.steps) (hsteps : kf.steps ≤ 99999) (hlo : -2147483648 ≤ v) :
    stepUp kf v =
      let next := if 0 ≤ v ∨ kf.steps ∣ v then above kf.steps v else above kf.steps v + kf.steps
      if next ≤ 2147483647 then
        some (if kf.rangeExtendable then next else min next kf.max)
      else none := by
  have hlt := Int.emod_lt_of_pos v hpos
  have hnonneg := Int.emod_nonneg v (by omega : kf.steps ≠ 0)
  have hmove : v + (kf.steps - Int.tmod v kf.steps) =
      if 0 ≤ v ∨ kf.steps ∣ v then above kf.steps v else above kf.steps v + kf.steps := by
    unfold above
    by_cases hgrid : 0 ≤ v ∨ kf.steps ∣ v
    · rw [if_pos hgrid, tmod_eq hgrid]
      omega
    · -- C's remainder is negative here, and the step is longer by one.
      rw [if_neg hgrid, tmod_eq_sub hpos hgrid]
      omega
  have hrem : 0 ≤ kf.steps - Int.tmod v kf.steps ∧ kf.steps - Int.tmod v kf.steps ≤ 199998 := by
    by_cases hgrid : 0 ≤ v ∨ kf.steps ∣ v
    · rw [tmod_eq hgrid]
      omega
    · rw [tmod_eq_sub hpos hgrid]
      omega
  -- The remainder and the step are always numbers of 32 bits, and the sum may not be.
  simp only [stepUp, rem32_of_pos v hpos, Option.bind_eq_bind, Option.bind_some,
    fit32_of_mem (by omega : -2147483648 ≤ kf.steps - Int.tmod v kf.steps) (by omega)]
  rw [← hmove]
  by_cases hfit : v + (kf.steps - Int.tmod v kf.steps) ≤ 2147483647
  · rw [fit32_of_mem (by omega) hfit, if_pos hfit, Option.bind_some, clampUp]
  · rw [fit32, if_neg (fun h => hfit h.2), if_neg hfit, Option.bind_none]

/-- And DOWN. -/
theorem stepDown_eq (hpos : 0 < kf.steps) (hsteps : kf.steps ≤ 99999) (hhi : v ≤ 2147483647) :
    stepDown kf v =
      let next := if 0 ≤ v ∨ kf.steps ∣ v then below kf.steps v else above kf.steps v
      if -2147483648 ≤ next then
        some (if kf.rangeExtendable then next else max next kf.min)
      else none := by
  have hlt := Int.emod_lt_of_pos v hpos
  have hnonneg := Int.emod_nonneg v (by omega : kf.steps ≠ 0)
  have hmove : v - (if Int.tmod v kf.steps = 0 then kf.steps else Int.tmod v kf.steps) =
      if 0 ≤ v ∨ kf.steps ∣ v then below kf.steps v else above kf.steps v := by
    by_cases hgrid : 0 ≤ v ∨ kf.steps ∣ v
    · rw [if_pos hgrid, tmod_eq hgrid]
      unfold below
      split <;> rfl
    · -- C's remainder is negative here, and taking it off moves the value up.
      rw [if_neg hgrid, tmod_eq_sub hpos hgrid, if_neg (by omega)]
      unfold above
      omega
  have hle : v - (if Int.tmod v kf.steps = 0 then kf.steps else Int.tmod v kf.steps) ≤
      2147483647 := by
    rw [hmove]
    by_cases hgrid : 0 ≤ v ∨ kf.steps ∣ v
    · rw [if_pos hgrid]
      unfold below
      split <;> omega
    · rw [if_neg hgrid]
      unfold above
      omega
  simp only [stepDown, rem32_of_pos v hpos, Option.bind_eq_bind, Option.bind_some]
  rw [← hmove]
  by_cases hfit : -2147483648 ≤
      v - (if Int.tmod v kf.steps = 0 then kf.steps else Int.tmod v kf.steps)
  · rw [fit32_of_mem hfit hle, if_pos hfit, Option.bind_some, clampDown]
  · rw [fit32, if_neg (fun h => hfit h.1), if_neg hfit, Option.bind_none]

/-- With no step there is a remainder by zero. -/
theorem step_zero (h : kf.steps = 0) : stepUp kf v = none ∧ stepDown kf v = none := by
  have hrem : rem32 v kf.steps = none := if_pos (.inl h)
  simp only [stepUp, stepDown, hrem, Option.bind_eq_bind, Option.bind_none, and_self]

/-- The next multiple is the only one. -/
theorem upRight_iff (hpos : 0 < kf.steps) :
    UpRight kf v ↔ stepUp kf v = some (limit kf (above kf.steps v)) := by
  constructor
  · rintro ⟨t, hleast, hstep⟩
    rw [hstep, hleast.unique (above_isLeast hpos v)]
  · exact fun hstep => ⟨_, above_isLeast hpos v, hstep⟩

theorem downRight_iff (hpos : 0 < kf.steps) :
    DownRight kf v ↔ stepDown kf v = some (limit kf (below kf.steps v)) := by
  constructor
  · rintro ⟨t, hgreatest, hstep⟩
    rw [hstep, hgreatest.unique (below_isGreatest hpos v)]
  · exact fun hstep => ⟨_, below_isGreatest hpos v, hstep⟩

/-- UP moves a value as it should just if it is met with. -/
theorem up_iff (hpos : 0 < kf.steps) (hsteps : kf.steps ≤ 99999) (hrange : kf.min ≤ kf.max)
    (hlo : -2147483648 ≤ v) : UpRight kf v ↔ UpMet kf v := by
  have hlt := Int.emod_lt_of_pos v hpos
  have hnonneg := Int.emod_nonneg v (by omega : kf.steps ≠ 0)
  have habove : above kf.steps v = v - v % kf.steps + kf.steps := rfl
  rw [upRight_iff hpos, stepUp_eq hpos hsteps hlo]
  unfold UpMet limit
  rw [and_iff_right hpos.ne']
  by_cases hgrid : 0 ≤ v ∨ kf.steps ∣ v
  · -- The value is moved to where it should be, if it is moved at all.
    simp only [if_pos hgrid]
    by_cases hfit : above kf.steps v ≤ 2147483647
    · rw [if_pos hfit, Option.some.injEq]
      by_cases hext : kf.rangeExtendable = true
      · simp only [hext, if_true, hfit, Bool.true_eq_false, false_imp_iff, and_self]
      · rw [Bool.not_eq_true] at hext
        simp only [hext, Bool.false_eq_true, if_false, hfit, true_imp_iff, true_and]
        omega
    · rw [if_neg hfit]
      simp only [reduceCtorEq, hfit, false_and]
  · -- It is moved one step further, which only the end of the range can hide.
    have hfit : above kf.steps v + kf.steps ≤ 2147483647 := by omega
    simp only [if_neg hgrid, if_pos hfit, Option.some.injEq]
    by_cases hext : kf.rangeExtendable = true
    · simp only [hext, if_true, Bool.true_eq_false, false_and, iff_false]
      omega
    · rw [Bool.not_eq_true] at hext
      simp only [hext, Bool.false_eq_true, if_false, true_and]
      omega

theorem down_iff (hpos : 0 < kf.steps) (hsteps : kf.steps ≤ 99999) (hrange : kf.min ≤ kf.max)
    (hhi : v ≤ 2147483647) (hlo : -2147483648 ≤ v) : DownRight kf v ↔ DownMet kf v := by
  have hlt := Int.emod_lt_of_pos v hpos
  have hnonneg := Int.emod_nonneg v (by omega : kf.steps ≠ 0)
  have habove : above kf.steps v = v - v % kf.steps + kf.steps := rfl
  rw [downRight_iff hpos, stepDown_eq hpos hsteps hhi]
  unfold DownMet limit
  rw [and_iff_right hpos.ne']
  by_cases hgrid : 0 ≤ v ∨ kf.steps ∣ v
  · simp only [if_pos hgrid]
    by_cases hfit : -2147483648 ≤ below kf.steps v
    · rw [if_pos hfit, Option.some.injEq]
      by_cases hext : kf.rangeExtendable = true
      · simp only [hext, if_true, hfit, Bool.true_eq_false, false_imp_iff, and_self]
      · rw [Bool.not_eq_true] at hext
        simp only [hext, Bool.false_eq_true, if_false, hfit, true_imp_iff, true_and]
        omega
    · rw [if_neg hfit]
      simp only [reduceCtorEq, hfit, false_and]
  · -- The move goes up, and the value is below the next multiple.
    have hbelow : below kf.steps v < above kf.steps v := by
      have hless := (below_isGreatest hpos v).1.2
      have hmore := (above_isLeast hpos v).1.2
      omega
    have hfit : -2147483648 ≤ above kf.steps v := by omega
    simp only [if_neg hgrid, if_pos hfit, Option.some.injEq]
    by_cases hext : kf.rangeExtendable = true
    · simp only [hext, if_true, Bool.true_eq_false, false_and, iff_false]
      omega
    · rw [Bool.not_eq_true] at hext
      simp only [hext, Bool.false_eq_true, if_false, true_and]
      omega

/-- UP and DOWN move a value to the next multiple just if they are met with. -/
theorem stepping_iff (kf : Group) (v : Int) (hzero : 0 ≤ kf.steps) (hsteps : kf.steps ≤ 99999)
    (hrange : kf.min ≤ kf.max) (hlo : -2147483648 ≤ v) (hhi : v ≤ 2147483647) :
    (UpRight kf v ↔ UpMet kf v) ∧ (DownRight kf v ↔ DownMet kf v) := by
  rcases hzero.lt_or_eq with hpos | hnone
  · exact ⟨up_iff hpos hsteps hrange hlo, down_iff hpos hsteps hrange hhi hlo⟩
  · -- There is no step, and nothing that can be right.
    have hup : ¬ UpRight kf v := by
      rintro ⟨t, -, hstep⟩
      rw [(step_zero hnone.symm).1] at hstep
      cases hstep
    have hdown : ¬ DownRight kf v := by
      rintro ⟨t, -, hstep⟩
      rw [(step_zero hnone.symm).2] at hstep
      cases hstep
    exact ⟨⟨fun h => absurd h hup, fun h => absurd hnone.symm h.1⟩,
      ⟨fun h => absurd h hdown, fun h => absurd hnone.symm h.1⟩⟩

theorem setValue_value (g : Group) (i : Nat) (w : Int) : (g.setValue i w).value i = w :=
  if_pos rfl

theorem eq_of_fit32 {z y : Int} (h : fit32 z = some y) : y = z := by
  unfold fit32 at h
  split at h
  · exact (Option.some.inj h).symm
  · cases h

theorem eq_of_rem32 {a b r : Int} (h : rem32 a b = some r) : r = Int.tmod a b := by
  unfold rem32 at h
  split at h
  · cases h
  · exact (Option.some.inj h).symm

/-- What is chosen in the end is stored. -/
theorem chosen_value (c : KeyframeEditor) (i : Nat) {p q : Prop} [Decidable p] [Decidable q]
    {a b w : Int}
    (h : (if p then some a else if q then some b else some (c.kf.value i)) = some w) :
    (if p then c.setValue i a else if q then c.setValue i b else c).kf.value i = w := by
  split at h
  case isTrue hp =>
    rw [if_pos hp]
    cases h
    exact setValue_value _ _ _
  case isFalse hp =>
    rw [if_neg hp]
    split at h
    case isTrue hq =>
      rw [if_pos hq]
      cases h
      exact setValue_value _ _ _
    case isFalse hq =>
      rw [if_neg hq]
      cases h
      rfl

/-- The key in the editor does to the keyframe being edited what is said of it here. -/
theorem pressUp_value (c : KeyframeEditor) (hedit : c.edit = true) (hselected : 0 < c.kf.selected)
    {w : Int} (h : stepUp c.kf (c.kf.value (c.kf.selected - 1)) = some w) :
    c.pressUp.kf.value (c.kf.selected - 1) = w := by
  unfold KeyframeEditor.pressUp
  rw [if_neg (by rw [hedit]; exact Bool.noConfusion), if_pos hselected]
  unfold stepUp at h
  rcases Option.bind_eq_some_iff.mp h with ⟨r, hr, h⟩
  rcases Option.bind_eq_some_iff.mp h with ⟨steps, hsteps, h⟩
  rcases Option.bind_eq_some_iff.mp h with ⟨next, hnext, h⟩
  rw [eq_of_fit32 hnext, eq_of_fit32 hsteps, eq_of_rem32 hr] at h
  exact chosen_value c _ h

theorem pressDown_value (c : KeyframeEditor) (hedit : c.edit = true)
    (hselected : 0 < c.kf.selected) {w : Int}
    (h : stepDown c.kf (c.kf.value (c.kf.selected - 1)) = some w) :
    c.pressDown.kf.value (c.kf.selected - 1) = w := by
  unfold KeyframeEditor.pressDown
  rw [if_neg (by rw [hedit]; exact Bool.noConfusion), if_pos hselected]
  unfold stepDown at h
  rcases Option.bind_eq_some_iff.mp h with ⟨r, hr, h⟩
  rcases Option.bind_eq_some_iff.mp h with ⟨next, hnext, h⟩
  rw [eq_of_fit32 hnext, eq_of_rem32 hr] at h
  exact chosen_value c _ h

/-- An axis with a keyframe at -1000, where a step of 1000 takes it. -/
def backward (steps : Int) : Group where
  keyframes i := ⟨if i = 0 then 0 else -1000, if i = 0 then 0 else 30000, by split <;> decide⟩
  count := 2
  selected := 2
  hasEndKeyframe := true
  type := .motor1
  max := 1000
  min := -1000
  steps := steps
  rangeExtendable := true
  move := true

/-- A step of 250 takes it along the grid. -/
theorem stepping_iff_backward :
    UpRight (backward 250) (-1000) ∧ DownRight (backward 250) (-1000) := by
  have hiff := stepping_iff (backward 250) (-1000) (by decide) (by decide) (by decide) (by decide)
    (by decide)
  have hgrid : (backward 250).steps ∣ -1000 := ⟨-4, rfl⟩
  refine ⟨hiff.1.mpr ⟨by decide, ?_⟩, hiff.2.mpr ⟨by decide, ?_⟩⟩
  · rw [if_pos (.inr hgrid)]
    exact ⟨by decide, fun h => Bool.noConfusion h⟩
  · rw [if_pos (.inr hgrid)]
    exact ⟨by decide, fun h => Bool.noConfusion h⟩

/-- With a step of 300 the next multiples are -900 and -1200, and with none there is a
    remainder by zero. -/
theorem overshoots :
    stepUp (backward 300) (-1000) = some (-600) ∧ stepDown (backward 300) (-1000) = some (-900) ∧
      stepUp (backward 0) (-1000) = none ∧
      ¬ UpRight (backward 300) (-1000) ∧ ¬ DownRight (backward 300) (-1000) ∧
      ¬ UpRight (backward 0) (-1000) ∧ ¬ DownRight (backward 0) (-1000) := by
  have hup : stepUp (backward 300) (-1000) = some (-600) := by decide
  have hdown : stepDown (backward 300) (-1000) = some (-900) := by decide
  have hzero : stepUp (backward 0) (-1000) = none ∧ stepDown (backward 0) (-1000) = none :=
    step_zero rfl
  refine ⟨hup, hdown, hzero.1, ?_, ?_, ?_, ?_⟩
  · rw [upRight_iff (by decide), hup]
    decide
  · rw [downRight_iff (by decide), hdown]
    decide
  · rintro ⟨t, -, hstep⟩
    rw [hzero.1] at hstep
    cases hstep
  · rintro ⟨t, -, hstep⟩
    rw [hzero.2] at hstep
    cases hstep

end Menu

end TimelapsePlus
