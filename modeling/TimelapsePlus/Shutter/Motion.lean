import TimelapsePlus.Lib.Catchup
import TimelapsePlus.Lib.Word

/-!
# The Clock of the Motors

The motors are moved between the photos, to where they are to be at the time of the next
one. This time is not read from the clock but added up from the intervals, so that the
motors go evenly when the photos do not come on time. It may fall behind the clock then, and
it is corrected by a part of what it is behind.

Intervals are in tenths of a second. A gap is late when it comes later after the one before
than its interval says. If no gap is late by more than some time, the motors are never behind
by more than sixty-four times that time, and one more. If no more gaps are late, a correction
that has been begun ends within 127 of them.

## Main definitions

* `Motion`, `Motion.gap`: `motionMS` and `motionCorrection`, and what a gap makes of them.
* `Timely`: No gap is late by more than some time.
* `Motion.behind`: The same as a clock that catches up.

## Theorems

* `gap_behind`: A gap is a step of catching up.
* `gaps_bounded`: So are a number of gaps.
* `motion_follows`: How far the motors are behind the clock, or ahead.
* `motion_catches_up`: When a correction ends.
-/

namespace TimelapsePlus

namespace Shutter

open Word

/-- The time that the motors are moved by, and its correction. -/
structure Motion where
  motionMS : Nat
  motionCorrection : Nat

/-- A gap: `status.interval_u16`, and `clock.Ms()` when it begins. -/
structure Gap where
  interval : Nat
  ms : Nat

/-- When the first photo is taken. -/
def Motion.start : Motion where
  motionMS := 0
  motionCorrection := 0

/-- The beginning of `RUN_GAP`. -/
def Motion.gap (m : Motion) (g : Gap) : Motion :=
  let motionMS := u32 (m.motionMS + u32 (g.interval * 100))
  let motionCorrection :=
    if motionMS < g.ms then
      let motionError := (g.ms - motionMS) / 64
      if m.motionCorrection < motionError then motionError else m.motionCorrection
    else 0
  { motionMS := u32 (motionMS + motionCorrection), motionCorrection := motionCorrection }

/-- The clock goes on, and each gap comes no later than its interval after the one before, and
    some time more. -/
def Timely (late : Nat) : Nat → List Gap → Prop
  | _, [] => True
  | ms, g :: gaps =>
    ms ≤ g.ms ∧ g.ms ≤ ms + 100 * g.interval + late ∧ Timely late g.ms gaps

/-- The clock at the last gap. -/
def lastMs (ms : Nat) (gaps : List Gap) : Nat := gaps.foldl (fun _ g => g.ms) ms

/-- The intervals, one after the other. -/
def total (gaps : List Gap) : Nat := (gaps.map Gap.interval).sum

/-- How late each gap is. -/
def lates : Nat → List Gap → List ℤ
  | _, [] => []
  | ms, g :: gaps => ((g.ms : ℤ) - ms - 100 * g.interval) :: lates g.ms gaps

/-- What the motors are behind the clock. -/
def Motion.behind (m : Motion) (ms : Nat) : Catchup.State where
  lag := (ms : ℤ) - m.motionMS
  correction := m.motionCorrection

section Gaps

variable {late ms : Nat} {m : Motion} {g : Gap} {gaps more : List Gap}

theorem length_lates (ms : Nat) (gaps : List Gap) : (lates ms gaps).length = gaps.length := by
  induction gaps generalizing ms with
  | nil => rfl
  | cons g gaps ih => exact congrArg Nat.succ (ih g.ms)

theorem take_lates (ms : Nat) (gaps : List Gap) (j : Nat) :
    (lates ms gaps).take j = lates ms (gaps.take j) := by
  induction gaps generalizing ms j with
  | nil => rw [List.take_nil, lates, List.take_nil]
  | cons g gaps ih =>
      cases j with
      | zero => rfl
      | succ j => exact congrArg _ (ih g.ms j)

theorem lates_le (h : Timely late ms gaps) : ∀ l ∈ lates ms gaps, l ≤ late := by
  induction gaps generalizing ms with
  | nil => exact fun l hl => absurd hl List.not_mem_nil
  | cons g gaps ih =>
      intro l hl
      rcases List.mem_cons.mp hl with rfl | hl
      · have hle := h.2.1
        omega
      · exact ih h.2.2 l hl

/-- The clock does not go back. -/
theorem le_lastMs (h : Timely late ms gaps) : ms ≤ lastMs ms gaps := by
  induction gaps generalizing ms with
  | nil => exact Nat.le_refl ms
  | cons g gaps ih => exact h.1.trans (ih h.2.2)

theorem timely_append (h : Timely late ms (gaps ++ more)) :
    Timely late ms gaps ∧ Timely late (lastMs ms gaps) more := by
  induction gaps generalizing ms with
  | nil => exact ⟨trivial, h⟩
  | cons g gaps ih => exact ⟨⟨h.1, h.2.1, (ih h.2.2).1⟩, (ih h.2.2).2⟩

theorem lastMs_append (ms : Nat) (gaps more : List Gap) :
    lastMs ms (gaps ++ more) = lastMs (lastMs ms gaps) more := List.foldl_append

theorem total_append (gaps more : List Gap) : total (gaps ++ more) = total gaps + total more := by
  rw [total, List.map_append, List.sum_append]
  rfl

theorem timely_mono {late' : Nat} (hle : late ≤ late') (h : Timely late ms gaps) :
    Timely late' ms gaps := by
  induction gaps generalizing ms with
  | nil => trivial
  | cons g gaps ih => exact ⟨h.1, h.2.1.trans (Nat.add_le_add_left hle _), ih h.2.2⟩

/-- As long as the times fit their words, a gap is a step of catching up. -/
theorem gap_behind (hbounded : Catchup.Bounded 64 late (m.behind ms))
    (hahead : m.motionMS + 100 * g.interval < 4294967296)
    (hclock : g.ms + late + 1 < 4294967296) (hlate : g.ms ≤ ms + 100 * g.interval + late) :
    (m.gap g).behind g.ms =
        Catchup.step 64 (m.behind ms) ((g.ms : ℤ) - ms - 100 * g.interval) ∧
      (m.gap g).motionMS ≤ max (m.motionMS + 100 * g.interval) (g.ms + late + 1) := by
  have hstep : Catchup.Bounded 64 late
      (Catchup.step 64 (m.behind ms) ((g.ms : ℤ) - ms - 100 * g.interval)) :=
    Catchup.step_bounded (by decide) hbounded (by omega)
  have hmotion : u32 (m.motionMS + u32 (g.interval * 100)) = m.motionMS + 100 * g.interval := by
    rw [Nat.mul_comm g.interval, u32_of_lt (n := 100 * g.interval) (by omega),
      u32_of_lt (by omega)]
  have herror : (m.behind ms).lag + ((g.ms : ℤ) - ms - 100 * g.interval) =
      (g.ms : ℤ) - (m.motionMS + 100 * g.interval : ℕ) := by
    show (ms : ℤ) - m.motionMS + _ = _
    push_cast
    omega
  have hcorrect : Catchup.correct 64 m.motionCorrection
      ((g.ms : ℤ) - (m.motionMS + 100 * g.interval : ℕ)) = (m.gap g).motionCorrection := by
    unfold Catchup.correct Motion.gap
    simp only [hmotion]
    by_cases hbehind : m.motionMS + 100 * g.interval < g.ms
    · have hval : ((g.ms : ℤ) - (m.motionMS + 100 * g.interval : ℕ)).toNat =
          g.ms - (m.motionMS + 100 * g.interval) := Int.toNat_sub _ _
      rw [if_pos (by omega), if_pos hbehind, hval]
      split <;> omega
    · rw [if_neg (by omega), if_neg hbehind]
  have hsmall : (m.gap g).motionCorrection ≤ late + 1 := by
    rw [← hcorrect, ← herror]
    exact hstep.correction
  -- A correction is only made when the clock is ahead.
  have hnext : m.motionMS + 100 * g.interval + (m.gap g).motionCorrection ≤
      max (m.motionMS + 100 * g.interval) (g.ms + late + 1) := by
    by_cases hbehind : m.motionMS + 100 * g.interval < g.ms
    · exact le_max_of_le_right (by omega)
    · have hnone : (m.gap g).motionCorrection = 0 := hcorrect.symm.trans (if_neg (by omega))
      exact le_max_of_le_left (by omega)
  have hsum : (m.gap g).motionMS =
      m.motionMS + 100 * g.interval + (m.gap g).motionCorrection := by
    show u32 (u32 (m.motionMS + u32 (g.interval * 100)) + (m.gap g).motionCorrection) = _
    rw [hmotion]
    exact u32_of_lt (by omega)
  have hstate : (m.gap g).motionCorrection = Catchup.correct 64 (m.behind ms).correction
      ((m.behind ms).lag + ((g.ms : ℤ) - ms - 100 * g.interval)) := by
    rw [herror]
    exact hcorrect.symm
  refine ⟨Catchup.State.ext ?_ hstate, hsum.trans_le hnext⟩
  show (g.ms : ℤ) - (m.gap g).motionMS = (m.behind ms).lag + _ - Catchup.correct 64 _ _
  rw [← hstate, herror, hsum]
  push_cast
  omega

/-- What holds at a gap, with the intervals so far. -/
structure Following (late : Nat) (m : Motion) (ms sum : Nat) : Prop where
  bounded : Catchup.Bounded 64 late (m.behind ms)
  ahead : m.motionMS ≤ ms + 100 * sum + late + 1

/-- A number of gaps are steps of catching up. -/
theorem gaps_behind {sum : Nat} (h : Following late m ms sum) (htimely : Timely late ms gaps)
    (hfit : lastMs ms gaps + 100 * (sum + total gaps) + late + 1 < 4294967296) :
    (gaps.foldl Motion.gap m).behind (lastMs ms gaps) =
        (lates ms gaps).foldl (Catchup.step 64) (m.behind ms) ∧
      Following late (gaps.foldl Motion.gap m) (lastMs ms gaps) (sum + total gaps) := by
  induction gaps generalizing m ms sum with
  | nil => exact ⟨rfl, h⟩
  | cons g gaps ih =>
      have hsum : sum + total (g :: gaps) = sum + g.interval + total gaps := by
        rw [total, List.map_cons, List.sum_cons, ← total]
        omega
      have hlast : lastMs ms (g :: gaps) = lastMs g.ms gaps := rfl
      have hclock := le_lastMs htimely.2.2
      have hms := htimely.1
      have hahead := h.ahead
      rw [hsum, hlast] at hfit
      rcases gap_behind h.bounded (by omega) (by omega) htimely.2.1 with ⟨hstep, hle⟩
      have hnext : Following late (m.gap g) g.ms (sum + g.interval) := by
        refine ⟨?_, hle.trans ?_⟩
        · rw [hstep]
          exact Catchup.step_bounded (by decide) h.bounded (by have hlate := htimely.2.1; omega)
        · exact max_le (by omega) (by omega)
      rcases ih hnext htimely.2.2 hfit with ⟨hrest, hend⟩
      rw [hsum, hlast]
      refine ⟨?_, hend⟩
      rw [List.foldl_cons, hrest, lates, List.foldl_cons, hstep]

theorem start_following (late : Nat) : Following late Motion.start 0 0 where
  bounded := by
    refine ⟨Nat.zero_le _, ?_, fun herror => absurd herror (lt_irrefl 0), fun hcorrection =>
      absurd hcorrection (Nat.lt_irrefl 0)⟩
    show (0 : ℤ) ≤ 64 * (late + 1)
    omega
  ahead := Nat.zero_le _

/-- As long as no gap is late by more than some time, and the times fit their words, the time
    of the motors is behind the clock by no more than sixty-four times that time and one more.
    A correction never makes it run ahead by more than that time. -/
theorem motion_follows (late : Nat) (gaps : List Gap) (h : Timely late 0 gaps)
    (hfit : lastMs 0 gaps + 100 * total gaps + late + 1 < 4294967296) :
    lastMs 0 gaps ≤ (gaps.foldl Motion.gap .start).motionMS + 64 * (late + 1) ∧
      ((gaps.foldl Motion.gap .start).motionCorrection = 0 ∨
        (gaps.foldl Motion.gap .start).motionMS ≤ lastMs 0 gaps + late) := by
  rcases gaps_behind (start_following late) h (by rw [Nat.zero_add]; exact hfit) with
    ⟨hsteps, hend⟩
  generalize gaps.foldl Motion.gap .start = m at hsteps hend ⊢
  have hlag : (m.behind (lastMs 0 gaps)).lag = (lastMs 0 gaps : ℤ) - m.motionMS := rfl
  have herror : (m.behind (lastMs 0 gaps)).error =
      (lastMs 0 gaps : ℤ) - m.motionMS + m.motionCorrection := rfl
  have hbound := hend.bounded.error
  push_cast at hbound
  refine ⟨by omega, ?_⟩
  rcases Nat.eq_zero_or_pos m.motionCorrection with hzero | hpos
  · exact Or.inl hzero
  · have hahead := Catchup.ahead_lt hend.bounded hpos
    exact Or.inr (by omega)

/-- The second of two gaps comes six and a half seconds late. -/
def oneLate : List Gap := [⟨10, 1500⟩, ⟨10, 9000⟩]

theorem motion_follows_one :
    lastMs 0 oneLate ≤ (oneLate.foldl Motion.gap .start).motionMS + 64 * (6500 + 1) ∧
      ((oneLate.foldl Motion.gap .start).motionCorrection = 0 ∨
        (oneLate.foldl Motion.gap .start).motionMS ≤ lastMs 0 oneLate + 6500) :=
  motion_follows 6500 oneLate ⟨by decide, by decide, by decide, by decide, trivial⟩ (by decide)

/-- If no gap is late any more, a correction that has been begun ends with one of the next 127
    gaps, and the time of the motors is not behind the clock there. -/
theorem motion_catches_up (late : Nat) (gaps more : List Gap) (h : Timely late 0 gaps)
    (hcorrection : 0 < (gaps.foldl Motion.gap .start).motionCorrection)
    (hmore : Timely 0 (lastMs 0 gaps) more) (hlen : 127 ≤ more.length)
    (hfit : lastMs 0 (gaps ++ more) + 100 * total (gaps ++ more) + late + 1 < 4294967296) :
    ∃ j ≤ 127, ((gaps ++ more.take j).foldl Motion.gap .start).motionCorrection = 0 ∧
      lastMs 0 (gaps ++ more.take j) ≤
        ((gaps ++ more.take j).foldl Motion.gap .start).motionMS := by
  rw [lastMs_append, total_append] at hfit
  have hclock := le_lastMs hmore
  rcases gaps_behind (start_following late) h (by omega) with ⟨-, hend⟩
  rw [Nat.zero_add] at hend
  generalize hm : gaps.foldl Motion.gap .start = m at hcorrection hend ⊢
  have hlag := Catchup.lag_le hend.bounded (by decide) hcorrection
  rcases Catchup.made_up (n := 64) (lates_le hmore) hlag
    (by rw [length_lates]; exact hlen) with ⟨j, hj, hzero, hdone⟩
  -- The gaps up to there are as many steps.
  have hparts : Timely 0 (lastMs 0 gaps) (more.take j ++ more.drop j) := by
    rw [List.take_append_drop]
    exact hmore
  rcases timely_append hparts with ⟨htake, hdrop⟩
  have hrest := le_lastMs hdrop
  have hsum := total_append (more.take j) (more.drop j)
  rw [← lastMs_append (lastMs 0 gaps), List.take_append_drop] at hrest
  rw [List.take_append_drop] at hsum
  rcases gaps_behind hend (timely_mono (Nat.zero_le late) htake) (by omega) with ⟨hsteps, -⟩
  rw [take_lates, ← hsteps] at hzero hdone
  refine ⟨j, hj, ?_⟩
  rw [List.foldl_append, hm, lastMs_append]
  have hlagj : (((more.take j).foldl Motion.gap m).behind
      (lastMs (lastMs 0 gaps) (more.take j))).lag =
        (lastMs (lastMs 0 gaps) (more.take j) : ℤ) -
          ((more.take j).foldl Motion.gap m).motionMS := rfl
  exact ⟨hzero, by omega⟩

/-- So many gaps that come on time. -/
def evenly (interval : Nat) : Nat → Nat → List Gap
  | _, 0 => []
  | ms, n + 1 => ⟨interval, ms + 100 * interval⟩ :: evenly interval (ms + 100 * interval) n

theorem evenly_timely (interval ms n : Nat) : Timely 0 ms (evenly interval ms n) := by
  induction n generalizing ms with
  | zero => trivial
  | succ n ih => exact ⟨Nat.le_add_right _ _, Nat.le_refl _, ih (ms + 100 * interval)⟩

theorem length_evenly (interval ms n : Nat) : (evenly interval ms n).length = n := by
  induction n generalizing ms with
  | zero => rfl
  | succ n ih => exact congrArg Nat.succ (ih (ms + 100 * interval))

/-- The others come on time. -/
theorem motion_catches_up_one : ∃ j ≤ 127,
    ((oneLate ++ (evenly 10 9000 127).take j).foldl Motion.gap .start).motionCorrection = 0 ∧
      lastMs 0 (oneLate ++ (evenly 10 9000 127).take j) ≤
        ((oneLate ++ (evenly 10 9000 127).take j).foldl Motion.gap .start).motionMS :=
  motion_catches_up 6500 oneLate (evenly 10 9000 127)
    ⟨by decide, by decide, by decide, by decide, trivial⟩ (by decide)
    (evenly_timely 10 9000 127) (length_evenly 10 9000 127).ge (by decide +kernel)

end Gaps

end Shutter

end TimelapsePlus
