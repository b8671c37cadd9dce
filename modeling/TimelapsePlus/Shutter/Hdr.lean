import TimelapsePlus.Shutter.RampLimits

/-!
# Brackets of Exposures

A bracket is some exposures around a middle one, a step apart. `checkHDR` works out the
two ends, half as many steps up and down as there are exposures, and says whether they
are among the shutter speeds. `task` starts from half of one less than there are, and
adds a step for each. All of it is in bytes.

An end that has wrapped is not noticed: the upper one is only compared with the longest
exposure and the lower one with the shortest, and each wraps to the other side. The two
menu items that go up try the values from one on and stop before the first that is
rejected, or at a number of their own if that is the first of all.

## Main definitions

* `checkHDR`: The check. It is true of what is rejected.
* `hdrEv`: The value an exposure of the bracket is taken with.
* `bracketUp`, `hdrExpsUp`: The menu items.
* `Bracketed`: The exposures are a step apart and in range.
* `HdrSound`: What is accepted is such a bracket, and the menu items accept what they
  return.
* `HdrFits`: When that is so.

## Theorems

* `shutterMinEv_lt`: The shortest exposure has a value below 128.
* `hdrEv_eq`: The values, modulo 256.
* `bracketed_iff`: When they are in range.
* `bracketUp_sound_iff`, `hdrExpsUp_sound_iff`: When the menu items are right.
-/

namespace TimelapsePlus

namespace Shutter

open Word Ptp

namespace Ramp

variable (env : Ramp)

/-- `PTP::shutterMin`, the value of the shortest exposure. That of the longest,
    `PTP::shutterMax`, is `bulbMaxEv`. -/
def shutterMinEv : Nat :=
  (Access.shutterMin env.conf.bounds env.camera.shutterAvail.count).run
    (Access.cell env.camera.shutterAvail)

/-- `checkHDR`, which is true where an end is out of range. -/
def checkHDR (exps mid bracket : Nat) : Bool :=
  let up := u8 (sub16 mid (exps / 2 * bracket))
  let down := u8 (mid + exps / 2 * bracket)
  decide (up < bulbMaxEv ∨ env.shutterMinEv < down)

/-- The first number from one on that is rejected. -/
def firstRejected (rejected : Nat → Bool) : Option Nat := (List.range' 1 254).find? rejected

/-- `bracketUp`. -/
def bracketUp (exps mid ev : Nat) : Nat :=
  let max := ((firstRejected fun i => env.checkHDR exps mid i).map fun i => i - 1).getD 1
  if ev < max then ev + 1 else max

/-- `hdrExpsUp`. -/
def hdrExpsUp (mid bracket hdrExps : Nat) : Nat :=
  let max := ((firstRejected fun i => env.checkHDR i mid bracket).map fun i =>
    if i - 1 < 3 then 3 else i - 1).getD 1
  if hdrExps < max then hdrExps + 1 else max

end Ramp

/-- `tv_offset` of an exposure of a bracket. -/
def tvOffset (exps bracket k : Nat) : Nat :=
  u8 (sub16 (u16 (sub16 exps 1 / 2 * bracket)) (u16 (k * bracket)))

/-- The value an exposure of a bracket is taken with. -/
def hdrEv (exps mid bracket k : Nat) : Nat := u8 (sub16 mid (tvOffset exps bracket k))

namespace Ramp

variable (env : Ramp)

/-- The exposures are a step apart, and none is longer than the longest or shorter than
    the shortest. -/
structure Bracketed (exps mid bracket : Nat) : Prop where
  spaced : ∀ k, k + 1 < exps → hdrEv exps mid bracket (k + 1) = hdrEv exps mid bracket k + bracket
  between : ∀ k < exps, bulbMaxEv ≤ hdrEv exps mid bracket k ∧
    hdrEv exps mid bracket k ≤ env.shutterMinEv

/-- What is accepted is such a bracket, and each menu item returns what is accepted or the
    least there is. -/
structure HdrSound (exps mid bracket ev hdrExps : Nat) : Prop where
  accepted : env.checkHDR exps mid bracket = false → env.Bracketed exps mid bracket
  bracketUp : env.checkHDR exps mid (env.bracketUp exps mid ev) = false ∨
    env.bracketUp exps mid ev = 1
  hdrExpsUp : env.checkHDR (env.hdrExpsUp mid bracket hdrExps) mid bracket = false ∨
    env.hdrExpsUp mid bracket hdrExps = 3

/-- A middle value in range. -/
def MidInRange (mid : Nat) : Prop := bulbMaxEv ≤ mid ∧ mid ≤ env.shutterMinEv

/-- When that is so: the ends are in range without wrapping, as `task` has them; and the
    menu items find a first value that is accepted. -/
structure HdrFits (exps mid bracket ev hdrExps : Nat) : Prop where
  accepted : env.checkHDR exps mid bracket = false → 0 < exps →
    bulbMaxEv + (exps - 1) / 2 * bracket ≤ mid ∧ mid + exps / 2 * bracket ≤ env.shutterMinEv
  bracketUp : env.MidInRange mid ∨ env.checkHDR exps mid 1 = false
  hdrExpsUp : (hdrExps = 0 → env.MidInRange mid) ∧
    (hdrExps = 1 → env.checkHDR 2 mid bracket = false)

/-! ### The values -/

/-- The shortest exposure has a value below 128. -/
theorem shutterMinEv_lt : env.shutterMinEv < 128 := by
  unfold shutterMinEv Access.shutterMin
  rw [Query.run_bind, Query.run_search, Query.run_pure]
  cases hfind : List.findSome? (fun i => if Access.plain (Access.cell env.camera.shutterAvail i)
      then some (Access.cell env.camera.shutterAvail i) else none)
      ((List.range env.camera.shutterAvail.count).map fun i : Nat =>
        (env.camera.shutterAvail.count - i : Int)) with
  | none =>
      -- With none listed it is the shortest timed exposure.
      rw [Option.getD_none]
      have hms : (bulbList.getD 1 ⟨0, 0⟩).ev = 61 := rfl
      unfold Access.bulbMin
      rw [hms]
      dsimp only
      split
      · omega
      · omega
  | some v =>
      rcases List.exists_of_findSome?_eq_some hfind with ⟨i, _, hpick⟩
      rw [Option.getD_some]
      split at hpick
      · rename_i hplain
        rw [Option.some.injEq] at hpick
        rw [← hpick]
        exact (of_decide_eq_true hplain).2
      · exact absurd hpick (by simp only [reduceCtorEq, not_false_eq_true])

end Ramp

/-- The values of a bracket go up by a step from the first, modulo 256. -/
theorem hdrEv_eq {exps : Nat} (hpos : 0 < exps) (hbyte : exps < 256) (mid bracket k : Nat) :
    (hdrEv exps mid bracket k : Int) =
      ((mid : Int) - ((exps - 1) / 2 * bracket : Nat) + (k * bracket : Nat)) % 256 := by
  have hone : sub16 exps 1 = exps - 1 := by
    unfold sub16 u16
    omega
  unfold hdrEv tvOffset
  rw [hone]
  generalize (exps - 1) / 2 * bracket = first
  generalize k * bracket = steps
  unfold u8 sub16 u16
  omega

namespace Ramp

variable {env : Ramp} {exps mid bracket : Nat}

/-- The exposures are in range when the first and the last are, without wrapping. -/
theorem bracketed_iff (hpos : 0 < exps) (hbyte : exps < 256) (hmid : mid < 256) :
    env.Bracketed exps mid bracket ↔
      bulbMaxEv + (exps - 1) / 2 * bracket ≤ mid ∧
        mid + exps / 2 * bracket ≤ env.shutterMinEv := by
  have hlast : (exps - 1) * bracket = (exps - 1) / 2 * bracket + exps / 2 * bracket := by
    rw [← Nat.add_mul, show (exps - 1) / 2 + exps / 2 = exps - 1 by omega]
  have hmin := env.shutterMinEv_lt
  constructor
  · intro h
    -- The values go up from the first, as numbers.
    have hall : ∀ k < exps, hdrEv exps mid bracket k = hdrEv exps mid bracket 0 + k * bracket := by
      intro k hk
      induction k with
      | zero => rw [Nat.zero_mul, Nat.add_zero]
      | succ k ih =>
          rw [h.spaced k hk, ih (by omega), Nat.succ_mul]
          omega
    have hfirst := hdrEv_eq hpos hbyte mid bracket 0
    have hend := hall (exps - 1) (by omega)
    have hzero := h.between 0 hpos
    have htop := h.between (exps - 1) (by omega)
    rw [Nat.zero_mul] at hfirst
    generalize (exps - 1) / 2 * bracket = first at *
    omega
  · rintro ⟨hlow, hhigh⟩
    have hvalue : ∀ k < exps, (hdrEv exps mid bracket k : Int) =
        (mid : Int) - ((exps - 1) / 2 * bracket : Nat) + (k * bracket : Nat) := by
      intro k hk
      have hle : k * bracket ≤ (exps - 1) * bracket := Nat.mul_le_mul_right _ (by omega)
      rw [hdrEv_eq hpos hbyte, Int.emod_eq_of_lt (by omega) (by omega)]
    refine ⟨fun k hk => ?_, fun k hk => ?_⟩
    · have h1 := hvalue k (by omega)
      have h2 := hvalue (k + 1) hk
      rw [Nat.succ_mul] at h2
      omega
    · have hk' := hvalue k hk
      have hle : k * bracket ≤ (exps - 1) * bracket := Nat.mul_le_mul_right _ (by omega)
      omega

/-! ### The menu items -/

/-- Where counting up stops. -/
theorem firstRejected_some {rejected : Nat → Bool} {i : Nat} (h : firstRejected rejected = some i) :
    1 ≤ i ∧ rejected i = true ∧ ∀ j, 1 ≤ j → j < i → rejected j = false := by
  rcases List.find?_range'_eq_some.mp h with ⟨hi, hmem, hbefore⟩
  rw [List.mem_range'_1] at hmem
  refine ⟨hmem.1, hi, fun j hone hlt => ?_⟩
  have hj := hbefore j hone hlt
  rwa [Bool.not_eq_true'] at hj

theorem firstRejected_none {rejected : Nat → Bool} (h : firstRejected rejected = none) {j : Nat}
    (hone : 1 ≤ j) (hlast : j < 255) : rejected j = false := by
  have hj := List.find?_eq_none.mp h j (List.mem_range'_1.mpr ⟨hone, by omega⟩)
  rwa [Bool.not_eq_true] at hj

/-- Without a step both ends are the middle value. -/
theorem checkHDR_of_zero (hmid : mid < 256) (h : exps / 2 * bracket = 0) :
    env.checkHDR exps mid bracket = false ↔ env.MidInRange mid := by
  unfold checkHDR MidInRange u8 sub16 u16
  rw [h, decide_eq_false_iff_not]
  omega

/-- When `bracketUp` returns a step that is accepted, or the least. -/
theorem bracketUp_sound_iff (hmid : mid < 256) (ev : Nat) :
    (env.checkHDR exps mid (env.bracketUp exps mid ev) = false ∨
      env.bracketUp exps mid ev = 1) ↔
        env.MidInRange mid ∨ env.checkHDR exps mid 1 = false := by
  unfold bracketUp
  cases hfirst : firstRejected fun i => env.checkHDR exps mid i with
  | none =>
      have hone := firstRejected_none hfirst (j := 1) (by omega) (by omega)
      rw [Option.map_none, Option.getD_none]
      dsimp only
      refine ⟨fun _ => Or.inr hone, fun _ => Or.inr ?_⟩
      split
      · omega
      · rfl
  | some i =>
      rcases firstRejected_some hfirst with ⟨hpos, hrejected, hbefore⟩
      rw [Option.map_some, Option.getD_some]
      dsimp only
      rcases Nat.lt_or_eq_of_le hpos with hmore | rfl
      · -- Whatever is returned has been tried.
        refine ⟨fun _ => Or.inr (hbefore 1 (by omega) hmore), fun _ => Or.inl ?_⟩
        split
        · exact hbefore (ev + 1) (by omega) (by omega)
        · exact hbefore (i - 1) (by omega) (by omega)
      · rw [if_neg (by omega), checkHDR_of_zero hmid (Nat.mul_zero _), hrejected]
        simp only [Nat.sub_self, Nat.zero_ne_one, or_false, Bool.true_eq_false]

/-- When `hdrExpsUp` returns a number that is accepted, or the least. -/
theorem hdrExpsUp_sound_iff (hmid : mid < 256) (hdrExps : Nat) :
    (env.checkHDR (env.hdrExpsUp mid bracket hdrExps) mid bracket = false ∨
      env.hdrExpsUp mid bracket hdrExps = 3) ↔
        (hdrExps = 0 → env.MidInRange mid) ∧
          (hdrExps = 1 → env.checkHDR 2 mid bracket = false) := by
  have hsingle : env.checkHDR 1 mid bracket = false ↔ env.MidInRange mid :=
    checkHDR_of_zero hmid (Nat.zero_mul _)
  unfold hdrExpsUp
  cases hfirst : firstRejected fun i => env.checkHDR i mid bracket with
  | none =>
      have hone := firstRejected_none hfirst (j := 1) (by omega) (by omega)
      have htwo := firstRejected_none hfirst (j := 2) (by omega) (by omega)
      rw [Option.map_none, Option.getD_none]
      dsimp only
      refine ⟨fun _ => ⟨fun _ => hsingle.mp hone, fun _ => htwo⟩, fun _ => Or.inl ?_⟩
      split
      · rwa [show hdrExps + 1 = 1 by omega]
      · exact hone
  | some i =>
      rcases firstRejected_some hfirst with ⟨hpos, hrejected, hbefore⟩
      rw [Option.map_some, Option.getD_some]
      dsimp only
      rcases Nat.lt_or_ge i 4 with hfew | hmany
      · -- Three is the least, and one and two are below it.
        have hthree : (if i - 1 < 3 then 3 else i - 1) = 3 := if_pos (by omega)
        rw [hthree]
        rcases Nat.lt_or_ge hdrExps 2 with hlow | hhigh
        · rw [if_pos (by omega)]
          rcases (show hdrExps = 0 ∨ hdrExps = 1 by omega) with rfl | rfl
          · simp only [Nat.zero_add, hsingle, forall_const, Nat.zero_ne_one, false_implies,
              and_true, Nat.reduceEqDiff, or_false]
          · simp only [Nat.reduceAdd, Nat.reduceEqDiff, or_false, Nat.one_ne_zero, false_implies,
              true_and, forall_const]
        · refine ⟨fun _ => ⟨fun h => by omega, fun h => by omega⟩, fun _ => Or.inr ?_⟩
          split
          · omega
          · rfl
      · have hlast : (if i - 1 < 3 then 3 else i - 1) = i - 1 := if_neg (by omega)
        rw [hlast]
        refine ⟨fun _ => ⟨fun _ => hsingle.mp (hbefore 1 (by omega) (by omega)),
          fun _ => hbefore 2 (by omega) (by omega)⟩, fun _ => Or.inl ?_⟩
        split
        · exact hbefore (hdrExps + 1) (by omega) (by omega)
        · exact hbefore (i - 1) (by omega) (by omega)

end Ramp

/-- The brackets that are accepted stay in range, and the menu items offer such brackets,
    for some settings and no others. -/
theorem hdrSound_iff (env : Ramp) (exps mid bracket ev hdrExps : UInt8) :
    env.HdrSound exps.toNat mid.toNat bracket.toNat ev.toNat hdrExps.toNat ↔
      env.HdrFits exps.toNat mid.toNat bracket.toNat ev.toNat hdrExps.toNat := by
  have hmid := mid.toNat_lt
  have hexps := exps.toNat_lt
  constructor
  · intro h
    exact ⟨fun hok hpos => (Ramp.bracketed_iff hpos hexps hmid).mp (h.accepted hok),
      (Ramp.bracketUp_sound_iff hmid _).mp h.bracketUp,
      (Ramp.hdrExpsUp_sound_iff hmid _).mp h.hdrExpsUp⟩
  · intro h
    refine ⟨fun hok => ?_, (Ramp.bracketUp_sound_iff hmid _).mpr h.bracketUp,
      (Ramp.hdrExpsUp_sound_iff hmid _).mpr h.hdrExpsUp⟩
    rcases Nat.eq_zero_or_pos exps.toNat with hzero | hpos
    · rw [hzero]
      exact ⟨fun k hk => by omega, fun k hk => by omega⟩
    · exact (Ramp.bracketed_iff hpos hexps hmid).mpr (h.accepted hok hpos)

/-- Three exposures ten stops apart around 203 seconds: the upper end wraps to 246 and is
    accepted. -/
theorem hdr_not_sound :
    ¬ ∀ (env : Ramp) (exps mid bracket ev hdrExps : UInt8),
      env.HdrSound exps.toNat mid.toNat bracket.toNat ev.toNat hdrExps.toNat := by
  intro hall
  have hsound := hall factoryRamp 3 20 30 1 3
  have haccepted : factoryRamp.checkHDR 3 20 30 = false := by decide
  have hfirst : hdrEv 3 20 30 0 = 246 := by decide
  have hmin := factoryRamp.shutterMinEv_lt
  have hle := ((hsound.accepted haccepted).between 0 (by decide)).2
  have hval : hdrEv (3 : UInt8).toNat (20 : UInt8).toNat (30 : UInt8).toNat 0 = 246 := hfirst
  omega

end Shutter

end TimelapsePlus
