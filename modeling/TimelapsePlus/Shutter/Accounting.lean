import Mathlib.Logic.Relation
import TimelapsePlus.Shutter.Timer

/-!
# Exposure Accounting

`evShift` is a sum kept in eight bits, and what a frame adds to it is kept in
eight bits too. Nothing is lost as long as every sum fits: the stops a loop adds
are the difference between two codes, and the differences telescope. They do not
fit when the lists lead from a setting to a mode. A camera whose ISO is
automatic has the code 254, and the first step from there is more than 200
stops down.

One more thing has to be asked. The loop that closes the aperture gives up at a
code from 127 on, and gives up with the pointer already there, so that the
aperture moves and the sum does not.

## Main definitions

* `Ramp.Leads`: The codes the lists lead to.
* `Ramp.Fits`: The sums of a frame fit.
* `Timer.Fits`: The sums of a step fit.

## Theorems

* `round_ok`, `round_error`: What a round changes.
* `adjust_keeps`, `adjust_keeps_leads`: A loop keeps the sum.
* `calculateExposure_sum`: A frame adds the stops it moves.
* `step_accounted`: A step keeps the account.
* `run_accounted`: The account holds in every run whose sums fit.
* `evShift_automatic`: A camera whose ISO is automatic.
-/

namespace TimelapsePlus

namespace Shutter

open Word Ptp

namespace Ramp

variable (env : Ramp)

/-- The codes the lists lead to from one, by the loop for a length that is too
    long and by the loop for one that is too short, which stops at the modes. -/
inductive Leads (long short : Adjustment) (code : Nat) : Nat → Prop
  | refl : Leads long short code code
  | long {c : Nat} (hc : Leads long short code c) (hon : env.enabled long = true) :
      Leads long short code (env.neighbour long c)
  | short {c : Nat} (hc : Leads long short code c) (hon : env.enabled short = true)
      (hsmall : env.neighbour short c < 127) : Leads long short code (env.neighbour short c)

/-- `evShift` at an aperture and an ISO a frame could move to. -/
def total (x : Exposure) (aperture iso : Nat) : Int :=
  x.bulbChangeEv + ((aperture : Int) - x.nextAperture) + ((iso : Int) - x.nextISO)

/-- The sums of a frame fit: they do at every aperture and ISO the lists lead
    to, and no such aperture is followed by a mode. -/
def Fits (x : Exposure) : Prop :=
  ∀ a i, env.Leads .apertureDown .apertureUp x.nextAperture a →
    env.Leads .isoUp .isoDown x.nextISO i →
    -128 ≤ total x a i ∧ total x a i ≤ 127 ∧
      (env.enabled .apertureUp = true → env.neighbour .apertureUp a ≠ a →
        env.neighbour .apertureUp a < 127)

section Rounds

variable {env} {exp : Nat} {l : Adjustment} {s t : Adjust}

/-- A round that goes on moves to the neighbour and adds the stops between. -/
theorem round_ok (h : env.round exp l s = .ok t) :
    t.code = env.neighbour l s.code ∧ t.next = t.code ∧
      t.bulbChangeEv = i8 (s.bulbChangeEv + (env.neighbour l s.code - s.code)) ∧
      (l = .isoDown ∨ l = .apertureUp → env.neighbour l s.code < 127) := by
  rcases round_moves h with ⟨rfl, _, _, hshort⟩
  exact ⟨rfl, rfl, rfl, fun hl => (hshort hl).1⟩

/-- A round that ends the loop leaves the setting and the sum, and puts the
    pointer back to the setting unless it has met a mode. -/
theorem round_error (h : env.round exp l s = .error t) (hnext : s.next = s.code) :
    t.code = s.code ∧ t.bulbChangeEv = s.bulbChangeEv ∧
      (t.next = s.code ∨ l = .apertureUp ∧ env.neighbour l s.code ≠ s.code ∧
        127 ≤ env.neighbour l s.code) := by
  have ht := leaves_eq h
  refine ⟨by rw [ht], by rw [ht], ?_⟩
  rcases leaves_next h hnext with hput | ⟨rfl, hmode⟩
  · exact Or.inl hput
  · exact Or.inr ⟨rfl, hmode⟩

end Rounds

/-- The setting, the pointer to it and the sum agree: the code is one that may be
    met, and the sum is the one that belongs to it. -/
structure Keeps (met : Nat → Prop) (sum : Nat → Int) (s : Adjust) : Prop where
  met : met s.code
  sum : s.bulbChangeEv = sum s.code
  next : s.next = s.code

/-- A loop keeps the sum, if every code it may meet has a sum that fits and none
    is a mode. -/
theorem adjust_keeps {exp fuel : Nat} {l : Adjustment} {met : Nat → Prop} {sum : Nat → Int}
    (hstops : ∀ c n, sum n = sum c + ((n : Int) - c))
    (hfits : ∀ c, met c → -128 ≤ sum c ∧ sum c ≤ 127)
    (hmoves : ∀ c, met c → env.enabled l = true →
      (l = .isoDown ∨ l = .apertureUp → env.neighbour l c < 127) → met (env.neighbour l c))
    (hmode : ∀ c, met c → l = .apertureUp → env.enabled l = true → env.neighbour l c ≠ c →
      env.neighbour l c < 127)
    {s t : Adjust} (hs : Keeps met sum s) (h : env.adjust exp fuel l s = some t) :
    Keeps met sum t := by
  refine adjust_inv (Keeps met sum) (Keeps met sum) id (fun u v hon hu hround => ?_)
    (fun u v hon hu hround => ?_) hs h
  · rcases round_ok hround with ⟨hcode, hnext, hsum, hsmall⟩
    have hmet : met v.code := by
      rw [hcode]
      exact hmoves u.code hu.met hon hsmall
    refine ⟨hmet, ?_, hnext⟩
    -- The differences telescope, and the sum fits.
    rw [hsum, hu.sum, ← hcode, ← hstops u.code v.code]
    exact i8_of_mem (hfits _ hmet).1 (hfits _ hmet).2
  · rcases round_error hround hu.next with ⟨hcode, hsum, hnext⟩
    refine ⟨by rw [hcode]; exact hu.met, by rw [hsum, hcode]; exact hu.sum, ?_⟩
    rcases hnext with hnext | ⟨hl, hne, hbig⟩
    · rw [hnext, hcode]
    · -- It would have met a mode, and there is none ahead.
      have hsmall := hmode u.code hu.met hl hon hne
      omega

/-- So it does among the codes the lists lead to. -/
theorem adjust_keeps_leads {exp fuel : Nat} {l long short : Adjustment} {code : Nat}
    {sum : Nat → Int} (hl : l = long ∨ l = short) (hshort : short = .isoDown ∨ short = .apertureUp)
    (hstops : ∀ c n, sum n = sum c + ((n : Int) - c))
    (hfits : ∀ c, env.Leads long short code c → -128 ≤ sum c ∧ sum c ≤ 127)
    (hmode : ∀ c, env.Leads long short code c → l = .apertureUp → env.enabled l = true →
      env.neighbour l c ≠ c → env.neighbour l c < 127)
    {s t : Adjust} (hs : Keeps (env.Leads long short code) sum s)
    (h : env.adjust exp fuel l s = some t) : Keeps (env.Leads long short code) sum t := by
  refine env.adjust_keeps hstops hfits (fun c hc hon hsmall => ?_) hmode hs h
  rcases hl with rfl | rfl
  · exact .long hc hon
  · exact .short hc hon (hsmall hshort)

/-- A frame whose sums fit adds to `evShift` the stops by which it moves the
    aperture and the ISO. -/
theorem calculateExposure_sum {fuel : Nat} {x y : Exposure} (hfits : env.Fits x)
    (hx : -128 ≤ x.bulbChangeEv ∧ x.bulbChangeEv ≤ 127)
    (h : env.calculateExposure fuel x = some y) :
    y.bulbChangeEv = total x y.nextAperture y.nextISO ∧
      -128 ≤ y.bulbChangeEv ∧ y.bulbChangeEv ≤ 127 := by
  by_cases hany : (env.camera.supports.iso || env.camera.supports.aperture ||
      env.camera.supports.shutter) = true
  · rcases calculateExposure_eq_some hany h with ⟨a, b, c, d, ha, hb, hc, hd, hy⟩
    -- The aperture moves while the ISO stands, then the other way round.
    have hapertures : ∀ {i : Nat} {l : Adjustment} {s t : Adjust},
        env.Leads .isoUp .isoDown x.nextISO i → l = .apertureDown ∨ l = .apertureUp →
        Keeps (env.Leads .apertureDown .apertureUp x.nextAperture) (fun a => total x a i) s →
        env.adjust x.nextBulbLength fuel l s = some t →
        Keeps (env.Leads .apertureDown .apertureUp x.nextAperture) (fun a => total x a i) t := by
      intro i l s t hi hl hs ht
      refine env.adjust_keeps_leads hl (Or.inr rfl) (fun c n => by unfold total; omega)
        (fun c hc => ⟨(hfits c i hc hi).1, (hfits c i hc hi).2.1⟩) (fun c hc hup hon => ?_) hs ht
      rw [hup] at hon ⊢
      exact (hfits c i hc hi).2.2 hon
    have hisos : ∀ {a : Nat} {l : Adjustment} {s t : Adjust},
        env.Leads .apertureDown .apertureUp x.nextAperture a → l = .isoUp ∨ l = .isoDown →
        Keeps (env.Leads .isoUp .isoDown x.nextISO) (fun i => total x a i) s →
        env.adjust x.nextBulbLength fuel l s = some t →
        Keeps (env.Leads .isoUp .isoDown x.nextISO) (fun i => total x a i) t := by
      intro a l s t haperture hl hs ht
      refine env.adjust_keeps_leads hl (Or.inl rfl) (fun c n => by unfold total; omega)
        (fun c hc => ⟨(hfits a c haperture hc).1, (hfits a c haperture hc).2.1⟩)
        (fun c hc hup => ?_) hs ht
      rcases hl with rfl | rfl
      · exact absurd hup (by simp only [reduceCtorEq, not_false_eq_true])
      · exact absurd hup (by simp only [reduceCtorEq, not_false_eq_true])
    have ka := hapertures .refl (Or.inl rfl)
      ⟨.refl, by simp only [start, total]; omega, rfl⟩ ha
    have kb := hisos ka.met (Or.inl rfl) ⟨.refl, ka.sum, rfl⟩ hb
    have kc := hisos ka.met (Or.inr rfl) kb hc
    have kd := hapertures (s := c.turnTo a.code a.next) kc.met (Or.inr rfl)
      ⟨ka.met, kc.sum, ka.next⟩ hd
    have hfit := hfits d.code c.code kd.met kc.met
    rw [hy, kd.next, kc.next, kd.sum]
    exact ⟨rfl, hfit.1, hfit.2.1⟩
  · -- There is nothing to set, and nothing moves.
    rw [calculateExposure, if_neg hany, Option.some.injEq] at h
    rw [← h]
    exact ⟨by unfold total; omega, hx⟩

end Ramp

namespace Timer

/-- The sums of a step fit. -/
def Fits (t : Timer) : Label → Prop
  | .frame env bulbLength _ => env.Fits (t.exposure bulbLength)
  | .task _ =>
      t.Resumes → -128 ≤ t.evShift + t.apertureEvShift ∧ t.evShift + t.apertureEvShift ≤ 127
  | _ => True

/-- The account holds, and `evShift` is a value its type has. -/
structure Sound (t : Timer) : Prop where
  accounted : t.Accounted
  range : -128 ≤ t.evShift ∧ t.evShift ≤ 127

theorem begin_sound (t : Timer) (camera : Camera) (rampMax rampMin : Int) :
    (t.begin camera rampMax rampMin).Sound := by
  refine ⟨?_, by simp only [begin]; omega⟩
  simp only [Accounted, begin]
  omega

/-- What a step leaves alone keeps the account. -/
theorem Sound.congr {t u : Timer} (ht : t.Sound) (hshift : u.evShift = t.evShift)
    (haperture : u.aperture = t.aperture) (hiso : u.iso = t.iso)
    (hapertureStart : u.apertureStart = t.apertureStart) (hisoStart : u.isoStart = t.isoStart)
    (haccepted : u.accepted = t.accepted) : u.Sound := by
  refine ⟨?_, by rw [hshift]; exact ht.range⟩
  have := ht.accounted
  unfold Accounted at this ⊢
  rw [hshift, haperture, hiso, hapertureStart, hisoStart, haccepted]
  exact this

theorem accept_sound {t : Timer} (ht : t.Sound)
    (hfits : -128 ≤ t.evShift + t.apertureEvShift ∧ t.evShift + t.apertureEvShift ≤ 127) :
    t.accept.Sound := by
  have hexact : i8 (t.evShift + t.apertureEvShift) = t.evShift + t.apertureEvShift :=
    i8_of_mem hfits.1 hfits.2
  refine ⟨?_, by rw [accept, hexact]; exact hfits⟩
  have := ht.accounted
  unfold Accounted at this ⊢
  simp only [accept]
  rw [hexact]
  omega

theorem resume_sound {t : Timer} (ht : t.Sound)
    (hfits : t.Resumes → -128 ≤ t.evShift + t.apertureEvShift ∧
      t.evShift + t.apertureEvShift ≤ 127) : t.resume.Sound := by
  unfold resume
  by_cases hres : t.Resumes
  · rw [if_pos hres]
    exact accept_sound ht (hfits hres)
  · rw [if_neg hres]
    split
    · split
      · exact ht.congr rfl rfl rfl rfl rfl rfl
      · exact ht.congr rfl rfl rfl rfl rfl rfl
    · exact ht

theorem whilePaused_sound {t : Timer} (ht : t.Sound) (v : View) : (t.whilePaused v).Sound := by
  unfold whilePaused
  split
  · exact ht.congr rfl rfl rfl rfl rfl rfl
  · split
    · exact ht.congr rfl rfl rfl rfl rfl rfl
    · split
      · exact ht
      · exact ht.congr rfl rfl rfl rfl rfl rfl

theorem startPause_sound {t : Timer} (ht : t.Sound) (v : View) : (t.startPause v).Sound := by
  unfold startPause
  split
  · exact ht.congr rfl rfl rfl rfl rfl rfl
  · exact ht

theorem task_sound {t : Timer} (ht : t.Sound) (v : View)
    (hfits : t.Resumes → -128 ≤ t.evShift + t.apertureEvShift ∧
      t.evShift + t.apertureEvShift ≤ 127) : (t.task v).Sound := by
  have hr := resume_sound ht hfits
  unfold task
  by_cases hpaused : t.resume.paused = true
  · simp only [hpaused, if_true]
    exact whilePaused_sound hr v
  · simp only [hpaused]
    refine startPause_sound ?_ v
    split
    · exact hr.congr rfl rfl rfl rfl rfl rfl
    · exact hr

/-- A step whose sums fit keeps the account. -/
theorem step_accounted {t u : Timer} (l : Label) (ht : t.Sound) (hfits : t.Fits l)
    (h : t.step l = some u) : u.Sound := by
  cases l with
  | begin camera rampMax rampMin =>
      rw [step, Option.some.injEq] at h
      rw [← h]
      exact begin_sound t camera rampMax rampMin
  | frame env bulbLength fuel =>
      rw [step, Option.map_eq_some_iff] at h
      rcases h with ⟨y, hy, hu⟩
      rcases env.calculateExposure_sum hfits ht.range hy with ⟨hsum, hrange⟩
      rw [← hu]
      refine ⟨?_, hrange⟩
      have := ht.accounted
      unfold Accounted at this ⊢
      simp only [frame]
      rw [hsum]
      simp only [Ramp.total, exposure]
      omega
  | task v =>
      rw [step, Option.some.injEq] at h
      rw [← h]
      exact task_sound ht v hfits
  | pause p =>
      rw [step, Option.some.injEq] at h
      rw [← h]
      unfold pause
      split
      · split
        · exact ht
        · exact ht.congr rfl rfl rfl rfl rfl rfl
      · split
        · exact ht
        · exact ht.congr rfl rfl rfl rfl rfl rfl
  | key up =>
      rw [step, Option.some.injEq] at h
      rw [← h]
      unfold key
      split
      · exact ht.congr rfl rfl rfl rfl rfl rfl
      · exact ht

end Timer

/-- In every run whose sums fit, `evShift` is the stops from the aperture and the
    ISO the run started with and the shifts accepted, from the start of the run
    on. -/
theorem run_accounted (t u : Timer) (camera : Camera) (rampMax rampMin : Int)
    (h : Run Timer.step Timer.Fits (t.begin camera rampMax rampMin) u) : u.Accounted :=
  (h.invariant Timer.Sound (fun _ l _ hinv hfits hstep => Timer.step_accounted l hinv hfits hstep)
    (Timer.begin_sound t camera rampMax rampMin)).accounted

/-- A run that has not begun. -/
def Timer.idle : Timer :=
  ⟨0, 0, 0, 0, 0, 0, 0, false, 0, false, false, false, 0, 0, 0⟩

/-- A Canon that offers the ISO codes listed and is set to one of them. -/
def isoCamera (codes : List Nat) (code : Nat) : Camera :=
  ((Camera.fresh .eos).applyValues eosDpcIso codes).applyProperty eosDpcIso code

/-- A ramp of bulb and ISO with such a camera, in a half-minute interval. -/
def isoRamp (codes : List Nat) (code : Nat) : Ramp where
  conf := Settings.factory
  camera := isoCamera codes code
  bulbMax := 30000
  shiftBulb := shiftThirds

/-- With ISO 100, 200 and 400 on offer, the sums fit. -/
theorem isoRamp_fits (bulbLength : Nat) :
    (isoRamp [0x48, 0x50, 0x58] 0x48).Fits ⟨bulbLength, 0, 43, 0⟩ := by
  have haperture : (isoRamp [0x48, 0x50, 0x58] 0x48).enabled .apertureDown = false ∧
      (isoRamp [0x48, 0x50, 0x58] 0x48).enabled .apertureUp = false := by
    decide
  have hiso : ∀ c ∈ [43, 40, 37],
      (isoRamp [0x48, 0x50, 0x58] 0x48).neighbour .isoUp c ∈ [43, 40, 37] ∧
      (isoRamp [0x48, 0x50, 0x58] 0x48).neighbour .isoDown c ∈ [43, 40, 37] := by
    decide
  intro a i ha hi
  have hzero : a = 0 := by
    cases ha with
    | refl => rfl
    | long _ hon =>
        rw [haperture.1] at hon
        exact absurd hon (by decide)
    | short _ hon _ =>
        rw [haperture.2] at hon
        exact absurd hon (by decide)
  have hmem : i ∈ [43, 40, 37] := by
    induction hi with
    | refl => exact List.mem_cons_self
    | long _ _ ih => exact (hiso _ ih).1
    | short _ _ _ ih => exact (hiso _ ih).2
  rw [hzero, haperture.2]
  simp only [List.mem_cons, List.not_mem_nil, or_false] at hmem
  refine ⟨?_, ?_, fun hon => absurd hon (by decide)⟩
  · simp only [Ramp.total]
    omega
  · simp only [Ramp.total]
    omega

/-- A frame of 40 seconds raises the ISO to 200. -/
theorem run_accounted_iso : ∃ u, Run Timer.step Timer.Fits
    (Timer.idle.begin (isoCamera [0x48, 0x50, 0x58] 0x48) 30 (-30)) u ∧ u.iso = 40 ∧
      u.Accounted := by
  have hstep : (Timer.step (Timer.idle.begin (isoCamera [0x48, 0x50, 0x58] 0x48) 30 (-30))
      (.frame (isoRamp [0x48, 0x50, 0x58] 0x48) 40000 5)).map Timer.iso = some 40 := rfl
  rcases Option.map_eq_some_iff.mp hstep with ⟨u, hu, hiso⟩
  have hexposure : (Timer.idle.begin (isoCamera [0x48, 0x50, 0x58] 0x48) 30 (-30)).exposure 40000 =
      ⟨40000, 0, 43, 0⟩ := rfl
  have hfits := isoRamp_fits 40000
  rw [← hexposure] at hfits
  have hrun : Run Timer.step Timer.Fits
      (Timer.idle.begin (isoCamera [0x48, 0x50, 0x58] 0x48) 30 (-30)) u :=
    .tail (.frame (isoRamp [0x48, 0x50, 0x58] 0x48) 40000 5) .refl hfits hu
  exact ⟨u, hrun, hiso, run_accounted _ u _ _ _ hrun⟩

/-- A camera whose ISO is automatic: the ramp sets ISO 100 and then 200, and
    `evShift` is 42 where it should be -214. -/
theorem evShift_automatic : ∃ u, Run Timer.step (fun _ _ => True)
    (Timer.idle.begin (isoCamera [0x00, 0x48, 0x50] 0x00) 30 (-30)) u ∧ ¬ u.Accounted := by
  have hsteps : (steps Timer.step (Timer.idle.begin (isoCamera [0x00, 0x48, 0x50] 0x00) 30 (-30))
      [.frame (isoRamp [0x00, 0x48, 0x50] 0x00) 40000 5]).map (fun u => decide u.Accounted) =
        some false := rfl
  rcases Option.map_eq_some_iff.mp hsteps with ⟨u, hrun, hfails⟩
  exact ⟨u, run_of_steps _ hrun, of_decide_eq_false hfails⟩

end Shutter

end TimelapsePlus
