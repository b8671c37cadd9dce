import TimelapsePlus.Shutter.KeyframeUpdate

/-!
# The Origin of an Axis

The positions of an axis count from its first keyframe. Where that keyframe has been
given another value, an update takes the value from every keyframe and from the position
the axis is at, and the keyframe itself becomes zero. All the points a curve is drawn
through move by the same amount, and the curve moves with them; so does the axis, and
nothing has to.

The times matter to this. An update puts the first keyframe at zero and the last at the
end of the program, and where they are there already it leaves the times alone.

The range is taken after the values have been moved, and what is done to the group from
there on, for an axis with an end keyframe of its own, is about times.

## Main definitions

* `Axes`: Where the axes are.
* `Group.rebaseAxes`: The part of `updateKeyframeGroup` about them.
* `Group.Timed`: The times of a group are those of a program.

## Theorems

* `curve_sub`: A curve through keyframes that are moved.
* `KeyframeGroup.Moved.interpolateKeyframe`: The value of a group that is moved.
* `highest_spec`, `lowest_spec`: The range takes in every value.
* `Group.update_timed`: An update leaves the times of the program.
* `update_rebases`: An update moves neither the curve nor the axis against the other.
-/

namespace TimelapsePlus

namespace Shutter

open Word Spline

/-- Where the axes are: `motor1.currentPos` and the others. -/
structure Axes where
  motor1 : Int
  motor2 : Int
  motor3 : Int
deriving Repr, DecidableEq

/-- The position of the axis a group is for. -/
def Axes.currentPos (a : Axes) : KeyframeType → Option Int
  | .motor1 => some a.motor1
  | .motor2 => some a.motor2
  | .motor3 => some a.motor3
  | _ => none

/-- The part of `updateKeyframeGroup` about the axes. -/
def Group.rebaseAxes (g : Group) (a : Axes) : Axes :=
  if g.value 0 ≠ 0 then
    match g.type with
    | .motor1 => { a with motor1 := i32 (a.motor1 - g.value 0) }
    | .motor2 => { a with motor2 := i32 (a.motor2 - g.value 0) }
    | .motor3 => { a with motor3 := i32 (a.motor3 - g.value 0) }
    | _ => a
  else a

/-- Only the axes of the motors have a position. -/
theorem Axes.currentPos_eq_some {a : Axes} {type : KeyframeType} {pos : Int}
    (h : a.currentPos type = some pos) : (type = .motor1 ∧ a.motor1 = pos) ∨
      (type = .motor2 ∧ a.motor2 = pos) ∨ (type = .motor3 ∧ a.motor3 = pos) := by
  cases type with
  | motor1 => exact Or.inl ⟨rfl, Option.some.inj h⟩
  | motor2 => exact Or.inr (Or.inl ⟨rfl, Option.some.inj h⟩)
  | motor3 => exact Or.inr (Or.inr ⟨rfl, Option.some.inj h⟩)
  | focus => cases h
  | exposure => cases h
  | interval => cases h

/-- A curve through keyframes that are moved is moved with them. -/
theorem curve_sub (linear : Bool) (p0 p1 p2 p3 b t : ℚ) :
    curve linear (p0 - b) (p1 - b) (p2 - b) (p3 - b) t = curve linear p0 p1 p2 p3 t - b := by
  unfold curve
  by_cases hlinear : linear = true
  · rw [if_pos hlinear, if_pos hlinear]
    exact chord_sub p1 p2 b t
  · rw [if_neg hlinear, if_neg hlinear]
    by_cases hlevel : p1 = p2
    · rw [if_pos hlevel, if_pos (by rw [hlevel])]
    · have hmoved : ¬ p1 - b = p2 - b := fun h => hlevel (sub_left_inj.mp h)
      rw [if_neg hlevel, if_neg hmoved]
      exact catmullRom_sub p0 p1 p2 p3 b t

namespace KeyframeGroup

variable {kf kf' : KeyframeGroup} {b : Int}

/-- One group is another whose values in use are moved. -/
structure Moved (kf kf' : KeyframeGroup) (b : Int) : Prop where
  count : kf'.count = kf.count
  ms : ∀ i, (kf'.keyframes i).ms = (kf.keyframes i).ms
  value : ∀ i, i < kf.count → (kf'.keyframes i).value = (kf.keyframes i).value - b

theorem Moved.next (h : Moved kf kf' b) (ms : Nat) : kf'.next ms = kf.next ms := by
  unfold KeyframeGroup.next
  simp only [h.count, h.ms]

theorem Moved.along (h : Moved kf kf' b) (linear : Bool) {k : Nat} (hk : k < kf.count) (t : ℚ) :
    kf'.along linear k t = kf.along linear k t - b := by
  have hvalue : ∀ i, i < kf.count →
      ((kf'.keyframes i).value : ℚ) = (kf.keyframes i).value - b := by
    intro i hi
    rw [h.value i hi, Int.cast_sub]
  have hite : ∀ (p : Prop) [Decidable p] (x y x' y' : Int), (p → (x' : ℚ) = x - b) →
      (¬ p → (y' : ℚ) = y - b) →
      (((if p then x' else y' : Int)) : ℚ) = ((if p then x else y : Int) : ℚ) - b := by
    intro p _ x y x' y' hx hy
    by_cases hp : p
    · rw [if_pos hp, if_pos hp]
      exact hx hp
    · rw [if_neg hp, if_neg hp]
      exact hy hp
  simp only [KeyframeGroup.along, h.count]
  rw [← curve_sub, hvalue k hk]
  -- Each of the other three points is a keyframe in use or stands in for one.
  have h2 := hite (0 < k) (kf.keyframes (k - 1)).value (kf.keyframes k).value
    (kf'.keyframes (k - 1)).value (kf'.keyframes k).value (fun _ => hvalue _ (by omega))
    (fun _ => hvalue k hk)
  have h1 := hite (0 < k - 1) (kf.keyframes (k - 2)).value _
    (kf'.keyframes (k - 2)).value _ (fun _ => hvalue _ (by omega)) (fun _ => h2)
  have h4 := hite (k < kf.count - 1) (kf.keyframes (k + 1)).value (kf.keyframes k).value
    (kf'.keyframes (k + 1)).value (kf'.keyframes k).value (fun _ => hvalue _ (by omega))
    (fun _ => hvalue k hk)
  rw [h1, h2, h4]

/-- The value of a group that is moved is moved with it. -/
theorem Moved.interpolateKeyframe (h : Moved kf kf' b) (hpos : 0 < kf.count) (ms : Nat)
    (linear : Bool) :
    kf'.interpolateKeyframe ms linear =
      (kf.interpolateKeyframe ms linear).map fun v => v - (b : ℚ) := by
  unfold KeyframeGroup.interpolateKeyframe
  have hlast : kf'.last.ms = kf.last.ms := by
    unfold KeyframeGroup.last
    rw [h.count, h.ms]
  -- The times are the same, so the same stretch is read.
  by_cases hlate : kf.last.ms ≤ ms
  · rw [if_pos hlate, if_pos (by rw [hlast]; exact hlate), Option.map_some]
    unfold KeyframeGroup.last
    rw [h.count, h.value _ (by omega), Int.cast_sub]
  · rw [if_neg hlate, if_neg (by rw [hlast]; exact hlate)]
    unfold KeyframeGroup.reading
    rw [h.next]
    cases hk : kf.next ms with
    | none => rfl
    | some k =>
        have hlt := ((kf.next_eq_some ms k).mp hk).2.1
        have hspan : kf'.span k = kf.span k := by
          unfold KeyframeGroup.span
          rw [h.ms, h.ms]
        have hgone : kf'.gone ms k = kf.gone ms k := by
          unfold KeyframeGroup.gone
          rw [h.ms]
        simp only [hspan, hgone]
        split
        · rfl
        · rw [Option.map_some, h.along linear hlt]

end KeyframeGroup

/-- A fold whose result is past what it starts with, and past each element when it is
    taken in, ends past all of them. -/
theorem foldl_bound {α β : Type} {r : β → β → Prop} (hrefl : ∀ m, r m m)
    (htrans : ∀ {x y z}, r x y → r y z → r x z) {f : β → α → β} {v : α → β}
    (hstep : ∀ m a, r m (f m a) ∧ r (v a) (f m a)) (l : List α) (m : β) :
    r m (l.foldl f m) ∧ ∀ a ∈ l, r (v a) (l.foldl f m) := by
  induction l generalizing m with
  | nil => exact ⟨hrefl m, fun a ha => absurd ha List.not_mem_nil⟩
  | cons k l ih =>
      have hrest := ih (f m k)
      refine ⟨htrans (hstep m k).1 hrest.1, fun a ha => ?_⟩
      rcases List.mem_cons.mp ha with rfl | ha
      · exact htrans (hstep m a).2 hrest.1
      · exact hrest.2 a ha

namespace Group

variable (g : Group)

@[simp] theorem setMs_value (i t j : Nat) : (g.setMs i t).value j = g.value j := by
  by_cases hj : j = i
  · subst hj
    simp only [value, setMs, Function.update_self]
  · exact congrArg Keyframe.value (Function.update_of_ne hj _ g.keyframes)

@[simp] theorem setMs_max (i t : Nat) : (g.setMs i t).max = g.max := rfl

@[simp] theorem setMs_min (i t : Nat) : (g.setMs i t).min = g.min := rfl

/-- The largest value is at least each of them, and at least what it is compared
    with. -/
theorem highest_spec (m : Int) : m ≤ g.highest m ∧ ∀ i, i < g.count → g.value i ≤ g.highest m := by
  have hfold := foldl_bound (r := (· ≤ ·)) le_refl (fun h h' => le_trans h h')
    (f := fun m i => if m < g.value i then g.value i else m) (v := g.value)
    (fun m i => by split <;> omega) (List.range g.count) m
  exact ⟨hfold.1, fun i hi => hfold.2 i (List.mem_range.mpr hi)⟩

theorem lowest_spec (m : Int) : g.lowest m ≤ m ∧ ∀ i, i < g.count → g.lowest m ≤ g.value i := by
  have hfold := foldl_bound (r := (· ≥ ·)) le_refl (fun h h' => le_trans h' h)
    (f := fun m i => if g.value i < m then g.value i else m) (v := g.value)
    (fun m i => by split <;> omega) (List.range g.count) m
  exact ⟨hfold.1, fun i hi => hfold.2 i (List.mem_range.mpr hi)⟩

/-- The values of an axis once it has been rebased. -/
theorem rebase_value (i : Nat) (hi : i < g.count) : g.rebase.value i = g.value i - g.value 0 := by
  unfold rebase
  by_cases hzero : g.value 0 ≠ 0
  · rw [if_pos hzero]
    simp only [value, mapValue]
    by_cases hfirst : i = 0
    · rw [if_pos hfirst, hfirst, Int.sub_self]
    · rw [if_neg hfirst, if_pos hi]
  · rw [if_neg hzero]
    rw [ne_eq, not_not] at hzero
    rw [hzero, Int.sub_zero]

theorem rebase_count : g.rebase.count = g.count := by
  unfold rebase
  split <;> rfl

theorem rebase_hasEndKeyframe : g.rebase.hasEndKeyframe = g.hasEndKeyframe := by
  unfold rebase
  split <;> rfl

/-- What an update of the group of an axis does to the values. -/
structure Rebased (g g' : Group) : Prop where
  count : g'.count = g.count
  hasEndKeyframe : g'.hasEndKeyframe = g.hasEndKeyframe
  value : ∀ i, i < g.count → g'.value i = g.value i - g.value 0
  within : ∀ i, i < g.count → g'.min ≤ g'.value i ∧ g'.value i ≤ g'.max

theorem fitMotor_rebased (steps : Int) : Rebased g (g.fitMotor steps) where
  count := g.rebase_count
  hasEndKeyframe := g.rebase_hasEndKeyframe
  value := g.rebase_value
  within i hi := by
    have hcount : i < g.rebase.count := by rw [g.rebase_count]; exact hi
    exact ⟨(g.rebase.lowest_spec (-1000)).2 i hcount, (g.rebase.highest_spec 1000).2 i hcount⟩

theorem fit_rebased {g : Group} {a : Axes} (s : Scale) {pos : Int}
    (hpos : a.currentPos g.type = some pos) : Rebased g (g.fit s) := by
  unfold fit
  rcases Axes.currentPos_eq_some hpos with ⟨htype, _⟩ | ⟨htype, _⟩ | ⟨htype, _⟩
  · rw [htype]
    exact g.fitMotor_rebased s.motionStep1
  · rw [htype]
    exact g.fitMotor_rebased s.motionStep2
  · rw [htype]
    exact g.fitMotor_rebased s.motionStep3

theorem Rebased.setMs {g g' : Group} (h : Rebased g g') (i t : Nat) : Rebased g (g'.setMs i t) where
  count := h.count
  hasEndKeyframe := h.hasEndKeyframe
  value j hj := by rw [setMs_value]; exact h.value j hj
  within j hj := by rw [setMs_value]; exact h.within j hj

/-- The times of a group are those an update for a program leaves. -/
structure Timed (p : Program) (g : Group) : Prop where
  first : g.ms 0 = 0
  last : g.last.ms = p.storedMs

/-- An update does leave them. -/
theorem update_timed (s : Scale) (p : Program) (g : Group) (htwo : 2 ≤ g.count) :
    (updateKeyframeGroup s p g).Timed p := by
  rcases update_stored s p g with ⟨hcount, hms⟩
  refine ⟨?_, ?_⟩
  · rw [hms, if_neg (by omega), if_pos rfl]
  · refine (hms _).trans ?_
    rw [hcount, if_pos rfl]

variable {g}

/-- A group with the times of a program keeps them in an update. -/
theorem Timed.update_ms {p : Program} (h : g.Timed p) (s : Scale) (j : Nat) :
    (updateKeyframeGroup s p g).ms j = g.ms j := by
  rw [(update_stored s p g).2]
  split
  case isTrue hlast =>
    rw [hlast]
    exact h.last.symm
  case isFalse hlast =>
    split
    case isTrue hfirst =>
      rw [hfirst]
      exact h.first.symm
    case isFalse => rfl

/-- A group whose times are set has two keyframes or more. -/
theorem Timed.two {p : Program} (h : g.Timed p) : 2 ≤ g.count := by
  by_contra hless
  have hzero : g.count - 1 = 0 := by omega
  have hlast : g.ms (g.count - 1) = p.storedMs := h.last
  rw [hzero, h.first] at hlast
  unfold Program.storedMs at hlast
  omega

/-- An update of the group of an axis that ends on a keyframe of its own. -/
theorem update_rebased {a : Axes} (s : Scale) (p : Program) {pos : Int}
    (hpos : a.currentPos g.type = some pos) (hend : g.hasEndKeyframe = true) :
    Rebased g (updateKeyframeGroup s p g) := by
  have hfit := (fit_rebased s hpos).setMs 0 0
  -- A group with an end of its own is not levelled.
  have hlevel : ((g.fit s).setMs 0 0).level = (g.fit s).setMs 0 0 := by
    unfold level
    rw [if_neg]
    rintro ⟨hnot, -⟩
    rw [hfit.hasEndKeyframe, hend] at hnot
    cases hnot
  unfold updateKeyframeGroup
  simp only [hlevel]
  generalize (if p.ramp then u32 (p.duration * 60 * 1000)
    else u32 (u32 (p.photos * p.gap) * 100)) = length
  split
  · exact (hfit.setMs _ _).setMs _ _
  · exact hfit.setMs _ _

/-- The axis is moved as its keyframes are. -/
theorem rebaseAxes_currentPos {a : Axes} {pos : Int} (hpos : a.currentPos g.type = some pos)
    (hlo : -2147483648 ≤ pos - g.value 0) (hhi : pos - g.value 0 ≤ 2147483647) :
    (g.rebaseAxes a).currentPos g.type = some (pos - g.value 0) := by
  unfold rebaseAxes
  by_cases hzero : g.value 0 ≠ 0
  · rw [if_pos hzero]
    rcases Axes.currentPos_eq_some hpos with ⟨htype, rfl⟩ | ⟨htype, rfl⟩ | ⟨htype, rfl⟩
    · rw [htype]
      exact congrArg some (i32_of_mem hlo hhi)
    · rw [htype]
      exact congrArg some (i32_of_mem hlo hhi)
    · rw [htype]
      exact congrArg some (i32_of_mem hlo hhi)
  · rw [if_neg hzero]
    rw [ne_eq, not_not] at hzero
    rw [hzero, Int.sub_zero, hpos]

end Group

/-- An update moves the keyframes of an axis and the axis alike, and the range takes in
    the values they are moved to. -/
theorem update_rebases (s : Scale) (p : Program) (a : Axes) (g : Group) (pos : Int)
    (hpos : a.currentPos g.type = some pos) (hend : g.hasEndKeyframe = true)
    (htimed : g.Timed p) (hlo : -2147483648 ≤ pos - g.value 0)
    (hhi : pos - g.value 0 ≤ 2147483647) :
    (updateKeyframeGroup s p g).value 0 = 0 ∧
      (∃ pos', (g.rebaseAxes a).currentPos g.type = some pos' ∧ ∀ ms linear,
        ((updateKeyframeGroup s p g).interpolateKeyframe ms linear).map (fun v => v - (pos' : ℚ)) =
          (g.interpolateKeyframe ms linear).map fun v => v - (pos : ℚ)) ∧
      ∀ i, i < (updateKeyframeGroup s p g).count →
        (updateKeyframeGroup s p g).min ≤ (updateKeyframeGroup s p g).value i ∧
          (updateKeyframeGroup s p g).value i ≤ (updateKeyframeGroup s p g).max := by
  have hrebased := Group.update_rebased s p hpos hend
  have htwo := htimed.two
  have hmoved : KeyframeGroup.Moved g.toKeyframeGroup
      (updateKeyframeGroup s p g).toKeyframeGroup (g.value 0) :=
    ⟨hrebased.count, htimed.update_ms s, hrebased.value⟩
  refine ⟨?_, ⟨pos - g.value 0, Group.rebaseAxes_currentPos hpos hlo hhi, fun ms linear => ?_⟩, ?_⟩
  · rw [hrebased.value 0 (by omega), Int.sub_self]
  · rw [hmoved.interpolateKeyframe (by omega), Option.map_map]
    -- What is taken from the curve is taken from the position too.
    refine congrArg (fun f => Option.map f _) (funext fun v => ?_)
    simp only [Function.comp_apply, Int.cast_sub]
    ring
  · intro i hi
    rw [hrebased.count] at hi
    exact hrebased.within i hi

/-- Three keyframes of the second axis, the first of them at 500. -/
def offset : Group where
  keyframes
    | 0 => ⟨500, 0, ms_start_lt⟩
    | 1 => ⟨2500, 10000, by decide⟩
    | _ => ⟨-1500, 30000, by decide⟩
  count := 3
  selected := 0
  hasEndKeyframe := true
  type := .motor2
  max := 1000
  min := -1000
  steps := 1
  rangeExtendable := true
  move := true

/-- The settings for it. -/
def plainScale : Scale := ⟨1, 1, 1, 1, 0, 0⟩

/-- The axis is two hundred steps past its first keyframe. -/
theorem update_rebases_offset :
    (updateKeyframeGroup plainScale .plain offset).value 0 = 0 ∧
      (∃ pos', (offset.rebaseAxes ⟨0, 700, 0⟩).currentPos offset.type = some pos' ∧
        ∀ ms linear, ((updateKeyframeGroup plainScale .plain offset).interpolateKeyframe ms
            linear).map (fun v => v - (pos' : ℚ)) =
          (offset.interpolateKeyframe ms linear).map fun v => v - ((700 : Int) : ℚ)) ∧
      ∀ i, i < (updateKeyframeGroup plainScale .plain offset).count →
        (updateKeyframeGroup plainScale .plain offset).min ≤
            (updateKeyframeGroup plainScale .plain offset).value i ∧
          (updateKeyframeGroup plainScale .plain offset).value i ≤
            (updateKeyframeGroup plainScale .plain offset).max :=
  update_rebases plainScale .plain ⟨0, 700, 0⟩ offset 700 rfl rfl ⟨rfl, by decide⟩ (by decide)
    (by decide)

end Shutter

end TimelapsePlus
