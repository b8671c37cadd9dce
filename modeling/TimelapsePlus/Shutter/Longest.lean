import TimelapsePlus.Shutter.Balance

/-!
# The Longest Length

Two loops of `calculateExposure` shorten a length that leaves no room in the
interval, and two lengthen one that does. The first two leave when the length
has become short enough or there is nowhere left to go. The other two may not
undo that, and do not: they move only to a length that is below the limit, so
once one of them has moved the length is below it, and as long as none has
everything is as the first two left it.

So a length that is too long in the end was never touched by the loops that
lengthen, and the aperture and the ISO have come to rest. What the caller is
told differs from that in one case: where the aperture that has come to rest
has a mode ahead, it is told the mode.

## Main definitions

* `Ramp.Exhausted`: Nothing is left to shorten the length with.

## Theorems

* `tooLong_adjust`: How the loops that shorten leave.
* `tooShort_adjust`: How the loops that lengthen leave.
* `exhausted_of_tooLong`: A length that is too long in the end leaves nothing.
* `longest_iff`: The length is kept below the limit, or nothing is left, unless
  there is a mode ahead of the widest aperture.
* `longest_mode`: A lens that lists a mode.
-/

namespace TimelapsePlus

namespace Shutter

open Word Ptp

namespace Ramp

variable (env : Ramp)

/-- Every setting that is ramped is as far as it may go: the aperture is the
    widest allowed and the ISO the highest. -/
def Exhausted (aperture iso : Nat) : Prop :=
  (env.enabled .apertureDown = true →
    aperture = apertureWidest env.camera.apertureAvail env.conf.apertureMin) ∧
  (env.enabled .isoUp = true → AtHighestISO env.camera.isoAvail env.conf.isoMax iso)

section Loops

variable {env} {exp fuel : Nat} {s t : Adjust}

/-- A loop that shortens leaves with a length that is not too long, or at rest.
    It does not touch a length that is not too long. -/
theorem tooLong_adjust {l : Adjustment} (hl : l = .apertureDown ∨ l = .isoUp)
    (h : env.adjust exp fuel l s = some t) :
    (t.nextBulbLength ≤ env.bulbMax ∨ env.enabled l = false ∧ t = s ∨
      env.neighbour l t.code = t.code) ∧
    (s.nextBulbLength ≤ env.bulbMax → t.nextBulbLength ≤ env.bulbMax) := by
  rcases adjust_cases h with ⟨hoff, rfl⟩ | ⟨_, n, u, hafter, hleave⟩
  · exact ⟨Or.inr (Or.inl ⟨hoff, rfl⟩), fun hshort => hshort⟩
  · constructor
    · rcases tooLong_leaves hl hleave with ⟨hshort, rfl⟩ | ⟨hrest, rfl⟩
      · exact Or.inl hshort
      · exact Or.inr (Or.inr hrest)
    · intro hshort
      -- The first round leaves.
      cases n with
      | zero =>
          rw [Loop.after_zero, Option.some.injEq] at hafter
          rw [leaves_eq hleave, ← hafter]
          exact hshort
      | succ k =>
          rcases Loop.exists_of_after_succ hafter with ⟨s', hround, -⟩
          have hlong := (round_moves hround).2.2.1 hl
          omega

/-- A loop that lengthens leaves with a length below the limit, or in its first
    round. -/
theorem tooShort_adjust {l : Adjustment} (hl : l = .isoDown ∨ l = .apertureUp)
    (h : env.adjust exp fuel l s = some t) :
    t.nextBulbLength < env.bulbMax ∨ (env.enabled l = false ∧ t = s) ∨
      (env.enabled l = true ∧ env.round exp l s = .error t) := by
  rcases adjust_cases h with hoff | ⟨hon, n, u, hafter, hleave⟩
  · exact Or.inr (Or.inl hoff)
  · cases n with
    | zero =>
        rw [Loop.after_zero, Option.some.injEq] at hafter
        rw [hafter]
        exact Or.inr (Or.inr ⟨hon, hleave⟩)
    | succ k =>
        -- The last move was to a length below the limit, and leaving keeps it.
        left
        have hu : u.nextBulbLength < env.bulbMax := by
          rcases Loop.exists_of_after_succ hafter with ⟨s', hround, hrest⟩
          exact Loop.after_inv _ (fun v => v.nextBulbLength < env.bulbMax)
            (fun v v' _ hv => ((round_moves hv).2.2.2 hl).2) k s' u
            ((round_moves hround).2.2.2 hl).2 hrest
        rw [leaves_eq hleave]
        exact hu

end Loops

section Result

variable {env} {fuel : Nat} {x : Exposure} {a b c d : Adjust}

/-- The limit from below does not make a length too long. -/
theorem lengthen_le_iff (hshort : env.shortest ≤ env.bulbMax) (z : Exposure) :
    (env.lengthen z).nextBulbLength ≤ env.bulbMax ↔ z.nextBulbLength ≤ env.bulbMax := by
  unfold lengthen
  split
  · exact ⟨fun h => le_trans (le_max_right _ _) h, fun h => max_le hshort h⟩
  · exact Iff.rfl

theorem lengthen_aperture (z : Exposure) : (env.lengthen z).nextAperture = z.nextAperture := by
  unfold lengthen
  split <;> rfl

theorem lengthen_iso (z : Exposure) : (env.lengthen z).nextISO = z.nextISO := by
  unfold lengthen
  split <;> rfl

/-- A length that is too long in the end was too long when the last loop was
    entered, and the settings had come to rest. -/
theorem exhausted_of_tooLong (haperture : env.camera.apertureAvail.Monotone)
    (hiso : env.camera.isoAvail.Monotone)
    (ha : env.adjust x.nextBulbLength fuel .apertureDown (start x) = some a)
    (hb : env.adjust x.nextBulbLength fuel .isoUp (a.turnTo x.nextISO x.nextISO) = some b)
    (hc : env.adjust x.nextBulbLength fuel .isoDown b = some c)
    (hd : env.adjust x.nextBulbLength fuel .apertureUp (c.turnTo a.code a.next) = some d)
    (hlong : env.bulbMax < d.nextBulbLength) :
    env.bulbMax < c.nextBulbLength ∧ env.Exhausted a.code c.next ∧
      (env.enabled .apertureUp = true →
        env.round x.nextBulbLength .apertureUp (c.turnTo a.code a.next) = .error d) := by
  have hlast : d.nextBulbLength = c.nextBulbLength ∧ (env.enabled .apertureUp = true →
      env.round x.nextBulbLength .apertureUp (c.turnTo a.code a.next) = .error d) := by
    rcases tooShort_adjust (Or.inr rfl) hd with hlt | ⟨hoff, rfl⟩ | ⟨_, hleave⟩
    · omega
    · exact ⟨rfl, fun hon => absurd hon (by rw [hoff]; exact Bool.false_ne_true)⟩
    · exact ⟨by rw [leaves_eq hleave]; rfl, fun _ => hleave⟩
  have hthird : c.nextBulbLength = b.nextBulbLength ∧
      (env.enabled .isoUp = true → c.next = b.code) := by
    rcases tooShort_adjust (Or.inl rfl) hc with hlt | ⟨hoff, rfl⟩ | ⟨_, hleave⟩
    · omega
    · exact ⟨rfl, fun hon => absurd (hoff.symm.trans hon) Bool.false_ne_true⟩
    · rw [isoDown_leaves hleave]
      exact ⟨rfl, fun _ => rfl⟩
  -- The two loops that shorten were left with a length that was still too long.
  have hsecond := tooLong_adjust (Or.inr rfl) hb
  have hfirst := tooLong_adjust (Or.inl rfl) ha
  have hturn : (a.turnTo x.nextISO x.nextISO).nextBulbLength = a.nextBulbLength := rfl
  have halong : env.bulbMax < a.nextBulbLength := by
    by_contra hle
    have := hsecond.2 (by omega)
    omega
  refine ⟨by omega, ⟨fun hon => ?_, fun hon => ?_⟩, hlast.2⟩
  · rcases hfirst.1 with hle | ⟨hoff, _⟩ | hrest
    · omega
    · exact absurd (hoff.symm.trans hon) Bool.false_ne_true
    · exact eq_apertureWidest haperture hrest
  · rw [hthird.2 hon]
    rcases hsecond.1 with hle | ⟨hoff, _⟩ | hrest
    · omega
    · exact absurd (hoff.symm.trans hon) Bool.false_ne_true
    · exact atHighestISO hiso hrest

end Result

/-- The length `calculateExposure` returns is not too long, or nothing is left to
    shorten it with, exactly when the last loop does not, on entry, find the
    length too long and a mode ahead. -/
theorem longest_iff (env : Ramp) {fuel : Nat} {x y : Exposure}
    (haperture : env.camera.apertureAvail.Monotone) (hiso : env.camera.isoAvail.Monotone)
    (hshort : env.shortest ≤ env.bulbMax) (h : env.calculateExposure fuel x = some y) :
    (y.nextBulbLength ≤ env.bulbMax ∨ env.Exhausted y.nextAperture y.nextISO) ↔
      ¬ ∃ s, env.EndsAtMode x s 0 ∧ env.bulbMax < s.nextBulbLength := by
  rw [calculateExposure_eq_map, Option.map_eq_some_iff] at h
  rcases h with ⟨z, hz, rfl⟩
  rcases adjusted_eq_some hz with ⟨a, b, c, d, ha, hb, hc, hd, rfl⟩
  rw [lengthen_le_iff hshort, lengthen_aperture, lengthen_iso]
  simp only
  have henters : env.Enters x .apertureUp (c.turnTo a.code a.next) :=
    .apertureUp ⟨fuel, ha⟩ ⟨fuel, hb⟩ ⟨fuel, hc⟩
  by_cases hlong : env.bulbMax < d.nextBulbLength
  · rcases exhausted_of_tooLong haperture hiso ha hb hc hd hlong with ⟨hclong, hrest, hleave⟩
    constructor
    · rintro hkept ⟨s, ⟨hon, hs, _, hmode⟩, _⟩
      rw [hs.unique henters] at hmode
      rcases hkept with hle | hexhausted
      · omega
      · -- The pointer is at the mode, and the aperture is not.
        have hdown : env.enabled .apertureDown = true := hon
        rcases apertureUp_leaves (hleave hon) with ⟨hno, _⟩ | ⟨_, hput⟩
        · exact hno hmode
        · have hnext := hexhausted.1 hdown
          rw [← hrest.1 hdown, hput] at hnext
          exact hmode.1 hnext
    · intro hno
      refine Or.inr ⟨fun hon => ?_, hrest.2⟩
      have hup : env.enabled .apertureUp = true := hon
      rcases apertureUp_leaves (hleave hup) with ⟨_, hput⟩ | ⟨hmode, _⟩
      · rw [hput]
        exact hrest.1 hon
      · exact absurd ⟨_, ⟨hup, henters, fun m hm => absurd hm (Nat.not_lt_zero m), hmode⟩, hclong⟩
          hno
  · refine iff_of_true (Or.inl (Nat.le_of_not_lt hlong)) ?_
    rintro ⟨s, ⟨hon, hs, _, hmode⟩, hslong⟩
    rw [hs.unique henters] at hmode hslong
    -- With a mode ahead the last loop leaves in its first round.
    have hleave : env.round x.nextBulbLength .apertureUp (c.turnTo a.code a.next) =
        .error { c.turnTo a.code a.next with next := env.neighbour .apertureUp a.code } := by
      simp only [round, apertureUpRound]
      exact if_pos hmode
    rw [adjust, if_pos hon] at hd
    rw [Loop.run_unique _ _ hd (Loop.run_succ_error _ 0 hleave)] at hlong
    exact hlong hslong

end Ramp

theorem modeRamp_monotone :
    modeRamp.camera.apertureAvail.Monotone ∧ modeRamp.camera.isoAvail.Monotone := by
  have hcount : modeRamp.camera.apertureAvail.count = 2 := rfl
  have hitems : modeRamp.camera.apertureAvail.item 0 < modeRamp.camera.apertureAvail.item 1 := by
    decide
  have hiso : modeRamp.camera.isoAvail.count = 0 := rfl
  refine ⟨Or.inl fun i j hij hj => ?_, Or.inl fun i j _ hj => by omega⟩
  rw [hcount] at hj
  have hi : i = 0 := by omega
  have hj' : j = 1 := by omega
  rw [hi, hj']
  exact hitems

/-- A frame of one second is not too long. -/
theorem longest_iff_mode :
    modeRamp.shortest ≤ modeRamp.bulbMax ∧
      (((1000 : Nat) ≤ modeRamp.bulbMax ∨ modeRamp.Exhausted 255 43) ↔
        ¬ ∃ s, modeRamp.EndsAtMode ⟨1000, 12, 43, 0⟩ s 0 ∧ modeRamp.bulbMax < s.nextBulbLength) := by
  have hshort : modeRamp.shortest ≤ modeRamp.bulbMax := by decide
  have hreturns : modeRamp.calculateExposure 10 ⟨1000, 12, 43, 0⟩ =
      some ⟨1000, 255, 43, 0⟩ := rfl
  exact ⟨hshort, Ramp.longest_iff modeRamp modeRamp_monotone.1 modeRamp_monotone.2 hshort hreturns⟩

/-- A length of 100 seconds is returned as it is, with the aperture at a mode in
    place of f/4, the widest there is. -/
theorem longest_mode :
    modeRamp.camera.apertureAvail.Monotone ∧ modeRamp.camera.isoAvail.Monotone ∧
      modeRamp.shortest ≤ modeRamp.bulbMax ∧
      modeRamp.calculateExposure 10 ⟨100000, 12, 43, 0⟩ = some ⟨100000, 255, 43, 0⟩ ∧
      modeRamp.bulbMax < 100000 ∧ modeRamp.enabled .apertureDown = true ∧
      apertureWidest modeRamp.camera.apertureAvail modeRamp.conf.apertureMin = 12 ∧
      ¬ modeRamp.Exhausted 255 43 := by
  have hwidest : apertureWidest modeRamp.camera.apertureAvail modeRamp.conf.apertureMin = 12 := rfl
  have hon : modeRamp.enabled .apertureDown = true := rfl
  refine ⟨modeRamp_monotone.1, modeRamp_monotone.2, by decide, rfl, by decide, hon, hwidest,
    fun hrest => ?_⟩
  have := hrest.1 hon
  rw [hwidest] at this
  exact absurd this (by decide)

end Shutter

end TimelapsePlus
