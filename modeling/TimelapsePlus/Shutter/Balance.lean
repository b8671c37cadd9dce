import TimelapsePlus.Ptp.Neighbours
import TimelapsePlus.Shutter.Accounting
import TimelapsePlus.Shutter.Termination

/-!
# The Exposure Is Kept

`calculateExposure` trades the bulb length against the aperture and the ISO. It
keeps the books in two sums of stops, one that the caller's shift goes on with
and one the length is calculated from. A move of a setting goes into both, so at
every point of every loop they have grown by the distance the settings have
moved, as far as eight bits can tell, and the length belongs to the second.

Two things can be wrong in what the caller gets. The sum need not fit its eight
bits, which takes a setting that is a mode to begin with. And the caller does
not get the settings the loops moved but what the pointers name, which are set
before a move is decided on. Every way out of a loop puts the pointer back,
except one: the loop that closes the aperture leaves when a code from 127 up is
ahead, and the pointer is left there. The stops to it are in neither sum. The
loop that lowers the ISO makes the same test and puts the pointer back.

## Main definitions

* `Ramp.adjusted`, `Ramp.lengthen`: The calculation up to the limit from below,
  and that limit.
* `Ramp.Conserves`: The books are right.
* `Ramp.ComesTo`: The settings the loops come to.
* `Ramp.SumFits`, `Ramp.EndsAtMode`: The two things that can be wrong.
* `Ramp.Balanced`: The sums after so many stops.

## Theorems

* `adjust_balanced`: A loop adds the distance its setting moves.
* `next_ne_code_iff`: When the pointer is not put back.
* `conserves_iff`: The exposure is kept exactly when neither goes wrong.
* `not_endsAtMode`: A limit of the aperture below 127 keeps the last loop from
  the modes.
* `conserves_automatic`: A camera whose ISO is automatic, and a lens that lists a
  mode.
-/

namespace TimelapsePlus

namespace Shutter

open Word Ptp

namespace Ramp

variable (env : Ramp)

/-- What the pointers name before the length is limited from below. -/
def adjusted (fuel : Nat) (x : Exposure) : Option Exposure :=
  if env.camera.supports.iso || env.camera.supports.aperture || env.camera.supports.shutter then do
    let a ← env.adjust x.nextBulbLength fuel .apertureDown (start x)
    let b ← env.adjust x.nextBulbLength fuel .isoUp (a.turnTo x.nextISO x.nextISO)
    let c ← env.adjust x.nextBulbLength fuel .isoDown b
    let d ← env.adjust x.nextBulbLength fuel .apertureUp (c.turnTo a.code a.next)
    some ⟨d.nextBulbLength, d.next, c.next, d.bulbChangeEv⟩
  else some x

/-- The limit from below. -/
def lengthen (z : Exposure) : Exposure :=
  if env.camera.supports.iso || env.camera.supports.aperture || env.camera.supports.shutter then
    { z with nextBulbLength := max env.shortest z.nextBulbLength }
  else z

theorem calculateExposure_eq_map (fuel : Nat) (x : Exposure) :
    env.calculateExposure fuel x = (env.adjusted fuel x).map env.lengthen := by
  by_cases hany : (env.camera.supports.iso || env.camera.supports.aperture ||
      env.camera.supports.shutter) = true
  · simp only [calculateExposure, adjusted, lengthen, hany, if_true, Option.bind_eq_bind,
      Option.map_bind, Function.comp_def, Option.map_some]
  · simp only [calculateExposure, adjusted, lengthen, if_neg hany, Option.map_some]

/-- What is returned balances with what was given: the shift has grown by the
    stops the settings were changed by, the length is shifted by as many, and a
    setting that is not ramped is kept. -/
structure Conserves (x z : Exposure) : Prop where
  shift : z.bulbChangeEv = total x z.nextAperture z.nextISO
  length : z.nextBulbLength = env.shiftBulb x.nextBulbLength
    (i8 ((z.nextAperture - x.nextAperture) + (z.nextISO - x.nextISO)))
  unchanged : z.nextAperture = x.nextAperture → z.nextISO = x.nextISO →
    z.nextBulbLength = x.nextBulbLength
  aperture : env.enabled .apertureDown = false → z.nextAperture = x.nextAperture
  iso : env.enabled .isoUp = false → z.nextISO = x.nextISO

/-- The loops, each entered where the one before was left, come to an aperture
    and an ISO. -/
def ComesTo (x : Exposure) (aperture iso : Nat) : Prop :=
  ∃ a b c d, env.Leaves x.nextBulbLength .apertureDown (start x) a ∧
    env.Leaves x.nextBulbLength .isoUp (a.turnTo x.nextISO x.nextISO) b ∧
    env.Leaves x.nextBulbLength .isoDown b c ∧
    env.Leaves x.nextBulbLength .apertureUp (c.turnTo a.code a.next) d ∧
    aperture = d.code ∧ iso = c.code

/-- The shift and the stops the loops walk add up to an `int8_t`. -/
def SumFits (x : Exposure) : Prop :=
  ∀ aperture iso, env.ComesTo x aperture iso →
    -128 ≤ total x aperture iso ∧ total x aperture iso ≤ 127

/-- The last loop, entered in a state, walks so many steps and has a mode ahead. -/
def EndsAtMode (x : Exposure) (s : Adjust) (n : Nat) : Prop :=
  env.enabled .apertureUp = true ∧ env.Enters x .apertureUp s ∧
    (∀ m, m < n →
      env.Allows x.nextBulbLength .apertureUp s ((env.neighbour .apertureUp)^[m] s.code)) ∧
    env.ModeAhead ((env.neighbour .apertureUp)^[n] s.code)

/-- The aperture codes are bytes, and the shift is a signed one. -/
structure Typed (x : Exposure) : Prop where
  nextAperture : x.nextAperture < 256
  item : ∀ k, env.camera.apertureAvail.item k < 256
  before : env.camera.apertureAvail.before < 256
  apertureMin : env.conf.apertureMin < 256
  apertureMax : env.conf.apertureMax < 256
  bulbChangeEv : -128 ≤ x.bulbChangeEv ∧ x.bulbChangeEv ≤ 127

section Sums

variable {env} {exp fuel : Nat} {ev stops : Int}

/-- The sums after so many stops, in a calculation whose shift was `ev`. -/
structure Balanced (env : Ramp) (exp : Nat) (ev stops : Int) (s : Adjust) : Prop where
  change : s.bulbChangeEv = i8 (ev + stops)
  shift : s.tmpShift = i8 stops
  length : s.nextBulbLength = env.shiftBulb exp (i8 stops)

theorem balanced_start {x : Exposure} (h : env.Typed x) (hzero : ∀ ms, env.shiftBulb ms 0 = ms) :
    Balanced env x.nextBulbLength x.bulbChangeEv 0 (start x) := by
  refine ⟨?_, rfl, (hzero _).symm⟩
  rw [Int.add_zero, i8_of_mem h.bulbChangeEv.1 h.bulbChangeEv.2]
  rfl

theorem Balanced.turnTo {s : Adjust} (h : Balanced env exp ev stops s) (code next : Nat) :
    Balanced env exp ev stops (s.turnTo code next) :=
  ⟨h.change, h.shift, h.length⟩

/-- A move adds the stops between the codes. -/
theorem Balanced.moved {s : Adjust} (h : Balanced env exp ev stops s) (l : Adjustment) :
    Balanced env exp ev (stops + (env.neighbour l s.code - s.code)) (env.moved exp l s) := by
  have hshift : i8 (s.tmpShift + (env.neighbour l s.code - s.code)) =
      i8 (stops + (env.neighbour l s.code - s.code)) := by
    rw [h.shift, i8_add_i8]
  refine ⟨?_, hshift, by rw [← hshift]; rfl⟩
  simp only [Ramp.moved, Adjust.move]
  rw [h.change, i8_add_i8, Int.add_assoc]

/-- A loop adds the distance its setting moves. All but the last put the pointer
    back. -/
theorem adjust_balanced {l : Adjustment} {s t : Adjust}
    (h : env.adjust exp fuel l s = some t) (hs : Balanced env exp ev stops s)
    (hnext : s.next = s.code) :
    Balanced env exp ev (stops + (t.code - s.code)) t ∧ (l ≠ .apertureUp → t.next = t.code) := by
  refine adjust_inv (fun u => Balanced env exp ev (stops + (u.code - s.code)) u ∧ u.next = u.code)
    (fun u => Balanced env exp ev (stops + (u.code - s.code)) u ∧
      (l ≠ .apertureUp → u.next = u.code))
    (fun hu => ⟨hu.1, fun _ => hu.2⟩) (fun u v _ hu hround => ?_) (fun u v _ hu hround => ?_) ?_ h
  · -- The differences telescope.
    have hmove := hu.1.moved l
    rw [(round_moves hround).1]
    refine ⟨?_, rfl⟩
    have hsum : stops + ((env.moved exp l u).code - s.code : Int) =
        stops + (u.code - s.code) + (env.neighbour l u.code - u.code) := by
      simp only [Ramp.moved, Adjust.move]
      omega
    rw [hsum]
    exact hmove
  · have hput := leaves_next hround hu.2
    rw [leaves_eq hround]
    refine ⟨⟨hu.1.change, hu.1.shift, hu.1.length⟩, fun hl => ?_⟩
    -- Only the last loop can leave at a mode.
    rcases hput with hput | ⟨hup, _⟩
    · exact hput
    · exact absurd hup hl
  · rw [Int.sub_self, Int.add_zero]
    exact ⟨hs, hnext⟩

/-- What holds of a code and of every neighbour holds where a loop leaves. -/
theorem adjust_code {l : Adjustment} {P : Nat → Prop} (hP : ∀ c, P (env.neighbour l c))
    {s t : Adjust} (h : env.adjust exp fuel l s = some t) (hs : P s.code) : P t.code := by
  refine adjust_inv (fun u => P u.code) (fun u => P u.code) id (fun u v _ _ hround => ?_)
    (fun u v _ hu hround => ?_) hs h
  · rw [(round_moves hround).1]
    exact hP _
  · rw [leaves_eq hround]
    exact hu

/-- A loop that is not run changes nothing. -/
theorem adjust_of_not_enabled {l : Adjustment} {s t : Adjust} (hon : env.enabled l = false)
    (h : env.adjust exp fuel l s = some t) : t = s := by
  rcases adjust_cases h with ⟨_, hsame⟩ | ⟨hon', _⟩
  · exact hsame
  · exact absurd (hon.symm.trans hon') Bool.false_ne_true

end Sums

section Mode

variable {env} {exp fuel : Nat}

/-- The last loop leaves the pointer elsewhere than the setting exactly when its
    walk comes before a mode. -/
theorem next_ne_code_iff {s t : Adjust} (hon : env.enabled .apertureUp = true)
    (h : env.adjust exp fuel .apertureUp s = some t) :
    t.next ≠ t.code ↔
      ∃ n, (∀ m, m < n → env.Allows exp .apertureUp s ((env.neighbour .apertureUp)^[m] s.code)) ∧
        env.ModeAhead ((env.neighbour .apertureUp)^[n] s.code) := by
  rw [adjust, if_pos hon] at h
  have hat := At.start (l := .apertureUp) (s := s) env trivial
  constructor
  · intro hne
    rcases Loop.run_eq_some _ fuel s t h with ⟨n, u, _, hafter, hleave⟩
    have hwalk := Loop.walk_of_after (env.apertureUp_goes exp s) (env.apertureUp_throws exp s) hat
      hafter
    rcases apertureUp_leaves hleave with ⟨_, rfl⟩ | ⟨hmode, _⟩
    · exact absurd rfl hne
    · rw [hwalk.1.code_eq] at hmode
      exact ⟨n, hwalk.2, hmode⟩
  · rintro ⟨n, hwalk, hmode⟩
    rcases Loop.after_of_walk (env.apertureUp_goes exp s) hat hwalk with ⟨u, hafter, hu⟩
    rw [← hu.code_eq] at hmode
    -- The round throws there, and a loop leaves with one answer.
    have hleave : env.round exp .apertureUp u =
        .error { u with next := env.neighbour .apertureUp u.code } := by
      simp only [round, apertureUpRound]
      exact if_pos hmode
    have hrun := Loop.run_add _ n 1 hafter
    rw [Loop.run_succ_error _ 0 hleave] at hrun
    rw [Loop.run_unique _ s h hrun]
    exact hmode.1

/-- The loops come to one aperture and one ISO. -/
theorem ComesTo.unique {x : Exposure} {aperture iso aperture' iso' : Nat}
    (h : env.ComesTo x aperture iso) (h' : env.ComesTo x aperture' iso') :
    aperture = aperture' ∧ iso = iso' := by
  rcases h with ⟨a, b, c, d, ha, hb, hc, hd, rfl, rfl⟩
  rcases h' with ⟨a', b', c', d', ha', hb', hc', hd', rfl, rfl⟩
  have hthird := (Enters.isoDown ha hb).unique (.isoDown ha' hb')
  have hlast := (Enters.apertureUp ha hb hc).unique (.apertureUp ha' hb' hc')
  rw [← hthird] at hc'
  rw [← hlast] at hd'
  exact ⟨congrArg Adjust.code (Leaves.unique env _ hd hd'),
    congrArg Adjust.code (Leaves.unique env _ hc hc')⟩

/-- A calculation that ends has left every loop. -/
theorem adjusted_eq_some {x z : Exposure} (h : env.adjusted fuel x = some z) :
    ∃ a b c d, env.adjust x.nextBulbLength fuel .apertureDown (start x) = some a ∧
      env.adjust x.nextBulbLength fuel .isoUp (a.turnTo x.nextISO x.nextISO) = some b ∧
      env.adjust x.nextBulbLength fuel .isoDown b = some c ∧
      env.adjust x.nextBulbLength fuel .apertureUp (c.turnTo a.code a.next) = some d ∧
      z = ⟨d.nextBulbLength, d.next, c.next, d.bulbChangeEv⟩ := by
  by_cases hany : (env.camera.supports.iso || env.camera.supports.aperture ||
      env.camera.supports.shutter) = true
  · rw [adjusted, if_pos hany] at h
    simp only [Option.bind_eq_bind, Option.bind_eq_some_iff, Option.some.injEq] at h
    rcases h with ⟨a, ha, b, hb, c, hc, d, hd, hz⟩
    exact ⟨a, b, c, d, ha, hb, hc, hd, hz.symm⟩
  · -- No loop is run, and the last state is what was given.
    have hskip : ∀ l s, env.adjust x.nextBulbLength fuel l s = some s := by
      intro l s
      rw [adjust, enabled_eq_false hany l, if_neg Bool.false_ne_true]
    rw [adjusted, if_neg hany, Option.some.injEq] at h
    exact ⟨_, _, _, _, hskip _ _, hskip _ _, hskip _ _, hskip _ _, h.symm⟩

end Mode

section Bytes

variable {env}

/-- The aperture codes the loops go to are bytes. -/
theorem aperture_neighbour_lt {x : Exposure} (h : env.Typed x) {l : Adjustment}
    (hl : l = .apertureDown ∨ l = .apertureUp) (code : Nat) : env.neighbour l code < 256 := by
  rcases hl with rfl | rfl
  · have hcell : ∀ c ∈ cells env.camera.apertureAvail, c < 256 := by
      intro c hc
      rcases hc with rfl | ⟨k, _, rfl⟩
      · exact h.before
      · exact h.item k
    simp only [neighbour, apertureDown]
    rw [← max_def_lt]
    exact max_lt (hcell _ (prev_mem_cells env.camera.apertureAvail code)) h.apertureMin
  · exact Nat.lt_of_le_of_lt (apertureUp_le_limit _ _ code) h.apertureMax

end Bytes

section Books

variable {env} {fuel : Nat} {x : Exposure} {a b c d : Adjust}

/-- The aperture the loops come to and the one the pointer is left at are bytes. -/
theorem aperture_lt (hx : env.Typed x)
    (ha : env.adjust x.nextBulbLength fuel .apertureDown (start x) = some a)
    (hd : env.adjust x.nextBulbLength fuel .apertureUp (c.turnTo a.code a.next) = some d)
    (hnext : a.next = a.code) : d.code < 256 ∧ d.next < 256 := by
  have hdown := adjust_code (P := (· < 256)) (aperture_neighbour_lt hx (Or.inl rfl)) ha
    hx.nextAperture
  have hup := adjust_code (P := (· < 256)) (aperture_neighbour_lt hx (Or.inr rfl)) hd hdown
  refine ⟨hup, ?_⟩
  rcases adjust_cases hd with ⟨_, rfl⟩ | ⟨_, n, u, _, hleave⟩
  · -- The pointer is where the first loop left it.
    simp only [Adjust.turnTo]
    rw [hnext]
    exact hdown
  · rcases apertureUp_leaves hleave with ⟨_, rfl⟩ | ⟨_, rfl⟩
    · exact hup
    · exact aperture_neighbour_lt hx (Or.inr rfl) _

/-- The sums once all loops are left: they are right for the settings the loops
    came to. -/
theorem adjusted_balanced (hx : env.Typed x) (hzero : ∀ ms, env.shiftBulb ms 0 = ms)
    (ha : env.adjust x.nextBulbLength fuel .apertureDown (start x) = some a)
    (hb : env.adjust x.nextBulbLength fuel .isoUp (a.turnTo x.nextISO x.nextISO) = some b)
    (hc : env.adjust x.nextBulbLength fuel .isoDown b = some c)
    (hd : env.adjust x.nextBulbLength fuel .apertureUp (c.turnTo a.code a.next) = some d) :
    Balanced env x.nextBulbLength x.bulbChangeEv
      ((d.code - x.nextAperture) + (c.code - x.nextISO)) d ∧ a.next = a.code ∧ c.next = c.code := by
  -- Each loop starts with the sum of the one before.
  have hA := adjust_balanced ha (balanced_start hx hzero) rfl
  have hB := adjust_balanced hb (hA.1.turnTo x.nextISO x.nextISO) rfl
  have hC := adjust_balanced hc hB.1 (hB.2 (by simp only [ne_eq, reduceCtorEq, not_false_eq_true]))
  have hput := hA.2 (by simp only [ne_eq, reduceCtorEq, not_false_eq_true])
  have hD := adjust_balanced hd (hC.1.turnTo a.code a.next) hput
  refine ⟨?_, hput, hC.2 (by simp only [ne_eq, reduceCtorEq, not_false_eq_true])⟩
  have hsum : (0 : Int) + (a.code - x.nextAperture) + (b.code - x.nextISO) + (c.code - b.code) +
      (d.code - a.code) = (d.code - x.nextAperture) + (c.code - x.nextISO) := by
    omega
  rw [← hsum]
  exact hD.1

/-- The exposure is kept exactly when the pointer is where the aperture is and
    the sum fits. -/
theorem adjusted_conserves (hx : env.Typed x) (hzero : ∀ ms, env.shiftBulb ms 0 = ms)
    (ha : env.adjust x.nextBulbLength fuel .apertureDown (start x) = some a)
    (hb : env.adjust x.nextBulbLength fuel .isoUp (a.turnTo x.nextISO x.nextISO) = some b)
    (hc : env.adjust x.nextBulbLength fuel .isoDown b = some c)
    (hd : env.adjust x.nextBulbLength fuel .apertureUp (c.turnTo a.code a.next) = some d) :
    env.Conserves x ⟨d.nextBulbLength, d.next, c.next, d.bulbChangeEv⟩ ↔
      (-128 ≤ total x d.code c.code ∧ total x d.code c.code ≤ 127) ∧ d.next = d.code := by
  rcases adjusted_balanced hx hzero ha hb hc hd with ⟨hbal, hput, hiso⟩
  have hlt := aperture_lt hx ha hd hput
  have hchange : d.bulbChangeEv = i8 (total x d.code c.code) := by
    rw [hbal.change, total, Int.add_assoc]
  constructor
  · intro hkept
    have hshift := hkept.shift
    simp only [hchange, hiso] at hshift
    -- The stops to the pointer are missing from the sum.
    have hstops : total x d.next c.code = total x d.code c.code + (d.next - d.code) := by
      unfold total
      omega
    rw [hstops] at hshift
    have hback := congrArg i8 hshift
    rw [i8_i8] at hback
    have hsame := eq_zero_of_i8_add hback (by omega) (by omega)
    rw [hsame, Int.add_zero] at hshift
    refine ⟨?_, by omega⟩
    rw [← hshift]
    exact i8_mem _
  · rintro ⟨hfits, hnext⟩
    have hlength := hbal.length
    rw [← hnext, ← hiso] at hlength
    -- A setting that is not ramped is kept, for both of its loops are passed over.
    refine ⟨?_, hlength, fun hap hi => ?_, fun hoff => ?_, fun hoff => ?_⟩
    · simp only [hchange, hnext, hiso]
      exact i8_of_mem hfits.1 hfits.2
    · simp only at hap hi ⊢
      rw [hlength, hap, hi, Int.sub_self, Int.sub_self]
      exact hzero _
    · have hup : env.enabled .apertureUp = false := hoff
      simp only
      rw [hnext, adjust_of_not_enabled hup hd, adjust_of_not_enabled hoff ha]
      rfl
    · have hdown : env.enabled .isoDown = false := hoff
      simp only
      rw [hiso, adjust_of_not_enabled hdown hc, adjust_of_not_enabled hoff hb]
      rfl

end Books

/-- `calculateExposure` keeps the exposure exactly when the shift and the stops
    walked add up to an `int8_t` and the last loop has no mode ahead where it
    leaves. -/
theorem conserves_iff (env : Ramp) {fuel : Nat} {x y : Exposure} (hx : env.Typed x)
    (hzero : ∀ ms, env.shiftBulb ms 0 = ms) (h : env.calculateExposure fuel x = some y) :
    (∃ z, env.adjusted fuel x = some z ∧ y = env.lengthen z ∧ env.Conserves x z) ↔
      env.SumFits x ∧ ∀ s n, ¬ env.EndsAtMode x s n := by
  rw [calculateExposure_eq_map, Option.map_eq_some_iff] at h
  rcases h with ⟨z, hz, rfl⟩
  rcases adjusted_eq_some hz with ⟨a, b, c, d, ha, hb, hc, hd, hzd⟩
  have hleft : (∃ w, env.adjusted fuel x = some w ∧ env.lengthen z = env.lengthen w ∧
      env.Conserves x w) ↔ env.Conserves x z := by
    constructor
    · rintro ⟨w, hw, _, hkept⟩
      rw [hz, Option.some.injEq] at hw
      rw [hw]
      exact hkept
    · intro hkept
      exact ⟨z, hz, rfl, hkept⟩
  have hcomesTo : env.ComesTo x d.code c.code :=
    ⟨a, b, c, d, ⟨fuel, ha⟩, ⟨fuel, hb⟩, ⟨fuel, hc⟩, ⟨fuel, hd⟩, rfl, rfl⟩
  rw [hleft, hzd, adjusted_conserves hx hzero ha hb hc hd]
  refine and_congr ⟨fun hfits => ?_, fun hfits => ?_⟩ ⟨fun hnext => ?_, fun hno => ?_⟩
  · intro aperture iso hcomes
    rcases hcomes.unique hcomesTo with ⟨rfl, rfl⟩
    exact hfits
  · exact hfits d.code c.code hcomesTo
  · rintro s n ⟨hon, henters, hwalk, hmode⟩
    rw [henters.unique (.apertureUp ⟨fuel, ha⟩ ⟨fuel, hb⟩ ⟨fuel, hc⟩)] at hwalk hmode
    exact (next_ne_code_iff hon hd).mpr ⟨n, hwalk, hmode⟩ hnext
  · -- A loop that is passed over leaves the pointer where the first one put it.
    by_contra hne
    by_cases hon : env.enabled .apertureUp = true
    · rcases (next_ne_code_iff hon hd).mp hne with ⟨n, hwalk, hmode⟩
      exact hno _ n ⟨hon, .apertureUp ⟨fuel, ha⟩ ⟨fuel, hb⟩ ⟨fuel, hc⟩, hwalk, hmode⟩
    · rw [Bool.not_eq_true] at hon
      rw [adjust_of_not_enabled hon hd] at hne
      exact hne (adjusted_balanced hx hzero ha hb hc hd).2.1

/-- Every step of the last loop keeps the limit, so below 127 there is no mode
    ahead. -/
theorem not_endsAtMode (env : Ramp) (hmax : env.conf.apertureMax < 127) (x : Exposure) (s : Adjust)
    (n : Nat) : ¬ env.EndsAtMode x s n := by
  rintro ⟨_, _, _, hmode⟩
  have := apertureUp_le_limit env.camera.apertureAvail env.conf.apertureMax
    ((env.neighbour .apertureUp)^[n] s.code)
  have hbig := hmode.2
  simp only [neighbour] at this hbig
  omega

end Ramp

theorem isoRamp_typed (codes : List Nat) (code : Nat) {x : Exposure} (hap : x.nextAperture < 256)
    (hev : -128 ≤ x.bulbChangeEv ∧ x.bulbChangeEv ≤ 127)
    (htable : (isoCamera codes code).apertureAvail = .empty apertureCountMax) :
    (isoRamp codes code).Typed x := by
  have hitem : ∀ k, (isoRamp codes code).camera.apertureAvail.item k = 0 := by
    intro k
    simp only [isoRamp, htable, Table.empty]
  have hmin : Settings.factory.apertureMin < 256 := by decide
  have hmax : Settings.factory.apertureMax < 256 := by decide
  refine ⟨hap, fun k => ?_, ?_, hmin, hmax, hev⟩
  · rw [hitem k]
    decide
  · simp only [isoRamp, htable, Table.empty]
    decide

theorem shiftThirds_zero (ms : Nat) : shiftThirds ms 0 = ms := by
  simp only [shiftThirds, Int.le_refl, if_true, Int.toNat_zero, pow_zero, Nat.mul_one, Nat.div_one]

/-- A frame of 40 seconds with ISO 100, 200 and 400 on offer: it is taken in 20
    seconds at ISO 200. -/
theorem conserves_iff_iso :
    (isoRamp [0x48, 0x50, 0x58] 0x48).Typed ⟨40000, 0, 43, 0⟩ ∧
      ((∃ z, (isoRamp [0x48, 0x50, 0x58] 0x48).adjusted 10 ⟨40000, 0, 43, 0⟩ = some z ∧
          ⟨20000, 0, 40, -3⟩ = (isoRamp [0x48, 0x50, 0x58] 0x48).lengthen z ∧
          (isoRamp [0x48, 0x50, 0x58] 0x48).Conserves ⟨40000, 0, 43, 0⟩ z) ↔
        (isoRamp [0x48, 0x50, 0x58] 0x48).SumFits ⟨40000, 0, 43, 0⟩ ∧
          ∀ s n, ¬ (isoRamp [0x48, 0x50, 0x58] 0x48).EndsAtMode ⟨40000, 0, 43, 0⟩ s n) := by
  have htyped : (isoRamp [0x48, 0x50, 0x58] 0x48).Typed ⟨40000, 0, 43, 0⟩ :=
    isoRamp_typed _ _ (by decide) (by decide) rfl
  have hreturns : (isoRamp [0x48, 0x50, 0x58] 0x48).calculateExposure 10 ⟨40000, 0, 43, 0⟩ =
      some ⟨20000, 0, 40, -3⟩ := rfl
  exact ⟨htyped, Ramp.conserves_iff _ htyped shiftThirds_zero hreturns⟩

/-- A Nikon lens that lists f/4 and a code of zero, which the firmware takes for
    a mode. -/
def modeLens : List UInt8 :=
  [0x07, 0x50, 4, 0, 1, 0, 0, 0x90, 0x01, 2, 2, 0, 0x90, 0x01, 0, 0]

/-- A ramp of bulb, ISO and aperture with such a lens, the aperture not limited. -/
def modeRamp : Ramp where
  conf := { Settings.factory with brampMode := .all, apertureMax := 255 }
  camera := (Camera.fresh .nikon).describeAperture 16 (bytes modeLens)
  bulbMax := 30000
  shiftBulb := shiftThirds

/-- With the ISO automatic the first step to ISO 100 adds 45 to the shift in
    place of -211, and the exposure grows to a week. With the lens that lists a
    mode the aperture is left at the mode, the shift and the length are not. -/
theorem conserves_automatic :
    ((isoRamp [0x00, 0x48, 0x50] 0x00).calculateExposure 10 ⟨40000, 0, 254, 0⟩ =
        some ⟨655359999, 0, 40, 42⟩ ∧
      ¬ ∃ z, (isoRamp [0x00, 0x48, 0x50] 0x00).adjusted 10 ⟨40000, 0, 254, 0⟩ = some z ∧
        ⟨655359999, 0, 40, 42⟩ = (isoRamp [0x00, 0x48, 0x50] 0x00).lengthen z ∧
        (isoRamp [0x00, 0x48, 0x50] 0x00).Conserves ⟨40000, 0, 254, 0⟩ z) ∧
    (modeRamp.calculateExposure 10 ⟨1000, 12, 43, 0⟩ = some ⟨1000, 255, 43, 0⟩ ∧
      ¬ ∃ z, modeRamp.adjusted 10 ⟨1000, 12, 43, 0⟩ = some z ∧
        ⟨1000, 255, 43, 0⟩ = modeRamp.lengthen z ∧ modeRamp.Conserves ⟨1000, 12, 43, 0⟩ z) := by
  have hauto : (isoRamp [0x00, 0x48, 0x50] 0x00).adjusted 10 ⟨40000, 0, 254, 0⟩ =
      some ⟨655359999, 0, 40, 42⟩ := rfl
  have hmode : modeRamp.adjusted 10 ⟨1000, 12, 43, 0⟩ = some ⟨1000, 255, 43, 0⟩ := rfl
  refine ⟨⟨rfl, ?_⟩, rfl, ?_⟩
  · rintro ⟨z, hz, _, hkept⟩
    rw [hauto, Option.some.injEq] at hz
    have hshift := hkept.shift
    rw [← hz] at hshift
    exact absurd hshift (by decide)
  · rintro ⟨z, hz, _, hkept⟩
    rw [hmode, Option.some.injEq] at hz
    have hshift := hkept.shift
    rw [← hz] at hshift
    exact absurd hshift (by decide)

end Shutter

end TimelapsePlus
