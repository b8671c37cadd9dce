import TimelapsePlus.Lib.Walk
import TimelapsePlus.Ptp.Camera
import TimelapsePlus.Shutter.Settings

/-!
# The Exposure of a Frame

`calculateExposure` turns the bulb length a frame of an exposure ramp asks for
into one the interval leaves room for. Four loops run in turn. While the length
is too long the aperture is opened, then the ISO is raised; after that the ISO
is lowered and the aperture closed as long as the length stays below the limit.
Each loop goes from a code of the camera's list to its neighbour, and adds the
stops gained to `bulbChangeEv`, which is the run's `evShift`, and to the shift
the length is calculated from.

The loops work on local copies of the aperture and the ISO, and on what the
caller's pointers name. The two differ while a round is deciding, and the
pointers are what the caller gets.

The lengths are calculated in floating point by `shiftBulb`, which stays a
parameter: nothing here depends on what it returns.

## Main definitions

* `Ramp`: What the calculation reads.
* `shiftThirds`: `shiftBulb` in exact arithmetic.
* `bulbTime`: The length of a timed exposure.
* `Exposure`: What the caller's pointers name.
* `Adjust`: The state of a loop.
* `Adjustment`: The four loops.
* `tooLongRound`, `isoDownRound`, `apertureUpRound`: One round of a loop.
* `Ramp.calculateExposure`: The calculation, each loop for a bounded number of
  rounds.
* `Ramp.ModeAhead`: The next aperture is a mode.

## Theorems

* `round_moves`: What a round that goes on does.
* `tooLong_leaves`, `isoDown_leaves`, `apertureUp_leaves`: What a round that
  leaves does.
* `adjust_cases`, `adjust_inv`: How a loop is left, and what holds there.
* `listedTime_isSome`: The lengths `bulbTime` falls back on are listed.
-/

namespace TimelapsePlus

namespace Shutter

open Word Ptp

/-- What the calculation reads: the settings, the camera, the longest length the
    interval leaves room for, and the function that shifts a length by third
    stops. -/
structure Ramp where
  conf : Settings
  camera : Camera
  bulbMax : Nat
  shiftBulb : Nat → Int → Nat

/-- `shiftBulb` in exact arithmetic: the length times a power of
    `CUBE_ROOT_OF_2`, rounded down. -/
def shiftThirds (ms : Nat) (ev : Int) : Nat :=
  if 0 ≤ ev then ms * 125992104989 ^ ev.toNat / 100000000000 ^ ev.toNat
  else ms * 100000000000 ^ (-ev).toNat / 125992104989 ^ (-ev).toNat

/-- `MAX_EXTENDED_RAMP_SHUTTER`. -/
def maxExtendedRampShutter : Int := 69

/-- `PTP::bulbMax`, the value of the longest timed exposure. -/
def bulbMaxEv : Nat := 4

/-- `PTP::bulbMin`, the value of the shortest. -/
def bulbMinEv (conf : Settings) : Nat := min 61 conf.camera.bulbMin

/-- The length listed for a value: timed exposures in milliseconds, and past the
    shortest of them the shutter table, whose Nikon codes are lengths. -/
def listedTime (bulbMin : Nat) (ev : Int) : Option Nat :=
  if (bulbMin : Int) < ev then
    (ptpShutterList.find? fun d => decide ((d.ev : Int) = ev)).map fun d => d.nikon / 10
  else (bulbList.find? fun d => decide ((d.ev : Int) = ev)).map BulbSettings.ms

namespace Ramp

variable (env : Ramp)

/-- `PTP::bulbTime` of an integer value. A value that is not listed is shifted
    from the end of the list it lies past. -/
def bulbTime (ev : Int) : Nat :=
  if ev = 0 then 0
  else match listedTime (bulbMinEv env.conf) ev with
    | some ms => ms
    | none =>
        if ev < bulbMaxEv then
          env.shiftBulb ((listedTime (bulbMinEv env.conf) bulbMaxEv).getD 0) (i8 (bulbMaxEv - ev))
        else
          env.shiftBulb ((listedTime (bulbMinEv env.conf) (bulbMinEv env.conf)).getD 0)
            (i8 (ev - bulbMinEv env.conf))

end Ramp

/-- What the pointers `calculateExposure` is given name. -/
structure Exposure where
  nextBulbLength : Nat
  nextAperture : Nat
  nextISO : Nat
  bulbChangeEv : Int
deriving Repr, DecidableEq

/-- The state of a loop: the local copy of the setting it adjusts, what the
    pointer to that setting names, and the sums. -/
structure Adjust where
  code : Nat
  next : Nat
  bulbChangeEv : Int
  tmpShift : Int
  nextBulbLength : Nat
deriving Repr, DecidableEq

namespace Adjust

/-- The setting moves to another code, and the stops between are added up. -/
def move (s : Adjust) (next : Nat) : Adjust where
  code := next
  next := next
  bulbChangeEv := i8 (s.bulbChangeEv + (next - s.code))
  tmpShift := i8 (s.tmpShift + (next - s.code))
  nextBulbLength := s.nextBulbLength

/-- Go on with the other setting. -/
def turnTo (s : Adjust) (code next : Nat) : Adjust := { s with code := code, next := next }

end Adjust

/-- The four loops, by the neighbour each goes to. -/
inductive Adjustment
  | apertureDown
  | isoUp
  | isoDown
  | apertureUp
deriving Repr, DecidableEq

section Rounds

variable (env : Ramp) (exp : Nat)

/-- One round of the loops for a length that is too long. -/
def tooLongRound (neighbour : Nat → Nat) (s : Adjust) : Except Adjust Adjust :=
  if s.nextBulbLength ≤ env.bulbMax then .error s
  else if neighbour s.code = s.code then .error { s with next := neighbour s.code }
  else
    let t := s.move (neighbour s.code)
    .ok { t with nextBulbLength := env.shiftBulb exp t.tmpShift }

/-- The length after a move to another code, which is tested before the move. -/
def bulbLengthTest (s : Adjust) (next : Nat) : Nat :=
  env.shiftBulb exp (i8 (s.tmpShift + (next - s.code)))

/-- One round of the loop that lowers the ISO. Codes from 127 up are not
    settings but modes. -/
def isoDownRound (s : Adjust) : Except Adjust Adjust :=
  let next := isoDown env.camera.isoAvail s.code
  if next ≠ s.code ∧ next < 127 ∧ bulbLengthTest env exp s next < env.bulbMax then
    .ok { s.move next with nextBulbLength := bulbLengthTest env exp s next }
  else .error { s with next := s.code }

/-- One round of the loop that closes the aperture. A code from 127 up ends it
    without the pointer being put back. -/
def apertureUpRound (s : Adjust) : Except Adjust Adjust :=
  let next := apertureUp env.camera.apertureAvail env.conf.apertureMax s.code
  if next ≠ s.code ∧ 127 ≤ next then .error { s with next := next }
  else if next ≠ s.code ∧ bulbLengthTest env exp s next < env.bulbMax then
    let t := s.move next
    .ok { t with nextBulbLength := env.shiftBulb exp t.tmpShift }
  else .error { s with next := s.code }

end Rounds

namespace Ramp

variable (env : Ramp)

/-- Where each loop goes from a code. -/
def neighbour : Adjustment → Nat → Nat
  | .apertureDown => apertureDown env.camera.apertureAvail env.conf.apertureMin
  | .isoUp => isoUp env.camera.isoAvail env.conf.isoMax
  | .isoDown => isoDown env.camera.isoAvail
  | .apertureUp => apertureUp env.camera.apertureAvail env.conf.apertureMax

/-- The loop is run at all. -/
def enabled : Adjustment → Bool
  | .apertureDown | .apertureUp => env.conf.brampMode.aperture && env.camera.supports.aperture
  | .isoUp | .isoDown => env.conf.brampMode.iso && env.camera.supports.iso

/-- One round of a loop. -/
def round (exp : Nat) (l : Adjustment) : Adjust → Except Adjust Adjust :=
  match l with
  | .apertureDown => tooLongRound env exp (env.neighbour .apertureDown)
  | .isoUp => tooLongRound env exp (env.neighbour .isoUp)
  | .isoDown => isoDownRound env exp
  | .apertureUp => apertureUpRound env exp

/-- A loop, if it is run. -/
def adjust (exp fuel : Nat) (l : Adjustment) (s : Adjust) : Option Adjust :=
  if env.enabled l then Loop.run (env.round exp l) fuel s else some s

/-- The state the first loop starts in. -/
def start (x : Exposure) : Adjust where
  code := x.nextAperture
  next := x.nextAperture
  bulbChangeEv := x.bulbChangeEv
  tmpShift := 0
  nextBulbLength := x.nextBulbLength

/-- The shortest length the ramp may use. -/
def shortest : Nat :=
  if env.conf.extendedRamp then env.bulbTime maxExtendedRampShutter
  else env.bulbTime (i8 (bulbMinEv env.conf))

/-- The calculation, each loop for at most so many rounds. -/
def calculateExposure (fuel : Nat) (x : Exposure) : Option Exposure :=
  if env.camera.supports.iso || env.camera.supports.aperture || env.camera.supports.shutter then do
    let a ← env.adjust x.nextBulbLength fuel .apertureDown (start x)
    let b ← env.adjust x.nextBulbLength fuel .isoUp (a.turnTo x.nextISO x.nextISO)
    let c ← env.adjust x.nextBulbLength fuel .isoDown b
    let d ← env.adjust x.nextBulbLength fuel .apertureUp (c.turnTo a.code a.next)
    some ⟨max env.shortest d.nextBulbLength, d.next, c.next, d.bulbChangeEv⟩
  else some x

/-- The code after one is a mode. -/
def ModeAhead (code : Nat) : Prop :=
  env.neighbour .apertureUp code ≠ code ∧ 127 ≤ env.neighbour .apertureUp code

section Rounds

variable {env} {exp : Nat} {s t : Adjust}

/-- The state a move to the neighbour leads to, with the length for its sum. -/
def moved (env : Ramp) (exp : Nat) (l : Adjustment) (s : Adjust) : Adjust :=
  { s.move (env.neighbour l s.code) with
    nextBulbLength := env.shiftBulb exp (i8 (s.tmpShift + (env.neighbour l s.code - s.code))) }

/-- A round that goes on moves to the neighbour and calculates the length again:
    a length that was too long, or one that is short enough after the move. -/
theorem round_moves {l : Adjustment} (h : env.round exp l s = .ok t) :
    t = env.moved exp l s ∧ env.neighbour l s.code ≠ s.code ∧
      (l = .apertureDown ∨ l = .isoUp → env.bulbMax < s.nextBulbLength) ∧
      (l = .isoDown ∨ l = .apertureUp →
        env.neighbour l s.code < 127 ∧ t.nextBulbLength < env.bulbMax) := by
  have hlong : ∀ n, tooLongRound env exp n s = .ok t → env.bulbMax < s.nextBulbLength ∧
      n s.code ≠ s.code ∧ t = { s.move (n s.code) with
        nextBulbLength := env.shiftBulb exp (i8 (s.tmpShift + (n s.code - s.code))) } := by
    intro n hn
    unfold tooLongRound at hn
    split at hn
    · exact absurd hn (by simp only [reduceCtorEq, not_false_eq_true])
    · split at hn
      · exact absurd hn (by simp only [reduceCtorEq, not_false_eq_true])
      · rename_i hlong hne
        rw [Except.ok.injEq] at hn
        exact ⟨Nat.lt_of_not_le hlong, hne, hn.symm⟩
  cases l with
  | apertureDown =>
      rcases hlong _ h with ⟨hmax, hne, rfl⟩
      exact ⟨rfl, hne, fun _ => hmax, fun hl => by simp only [reduceCtorEq, or_self] at hl⟩
  | isoUp =>
      rcases hlong _ h with ⟨hmax, hne, rfl⟩
      exact ⟨rfl, hne, fun _ => hmax, fun hl => by simp only [reduceCtorEq, or_self] at hl⟩
  | isoDown =>
      simp only [round, isoDownRound] at h
      split at h
      · rename_i hgo
        rw [Except.ok.injEq] at h
        rw [← h]
        exact ⟨rfl, hgo.1, fun hl => by simp only [reduceCtorEq, or_self] at hl,
          fun _ => ⟨hgo.2.1, hgo.2.2⟩⟩
      · exact absurd h (by simp only [reduceCtorEq, not_false_eq_true])
  | apertureUp =>
      simp only [round, apertureUpRound] at h
      split at h
      · exact absurd h (by simp only [reduceCtorEq, not_false_eq_true])
      · rename_i hsmall
        split at h
        · rename_i hgo
          rw [Except.ok.injEq] at h
          rw [← h]
          refine ⟨rfl, hgo.1, fun hl => by simp only [reduceCtorEq, or_self] at hl, fun _ => ?_⟩
          exact ⟨Nat.lt_of_not_le fun hbig => hsmall ⟨hgo.1, hbig⟩, hgo.2⟩
        · exact absurd h (by simp only [reduceCtorEq, not_false_eq_true])

/-- The loops for a length that is too long leave when it no longer is, or where
    there is no neighbour. -/
theorem tooLong_leaves {l : Adjustment} (hl : l = .apertureDown ∨ l = .isoUp)
    (h : env.round exp l s = .error t) :
    (s.nextBulbLength ≤ env.bulbMax ∧ t = s) ∨
      (env.neighbour l s.code = s.code ∧ t = { s with next := s.code }) := by
  have hround : env.round exp l = tooLongRound env exp (env.neighbour l) := by
    rcases hl with rfl | rfl <;> rfl
  rw [hround, tooLongRound] at h
  split at h
  · rename_i hshort
    rw [Except.error.injEq] at h
    exact Or.inl ⟨hshort, h.symm⟩
  · split at h
    · rename_i hrest
      rw [Except.error.injEq, hrest] at h
      exact Or.inr ⟨hrest, h.symm⟩
    · exact absurd h (by simp only [reduceCtorEq, not_false_eq_true])

theorem isoDown_leaves (h : env.round exp .isoDown s = .error t) :
    t = { s with next := s.code } := by
  simp only [round, isoDownRound] at h
  split at h
  · exact absurd h (by simp only [reduceCtorEq, not_false_eq_true])
  · rw [Except.error.injEq] at h
    exact h.symm

/-- The last loop leaves before a mode with the pointer at the mode. -/
theorem apertureUp_leaves (h : env.round exp .apertureUp s = .error t) :
    (¬ env.ModeAhead s.code ∧ t = { s with next := s.code }) ∨
      (env.ModeAhead s.code ∧ t = { s with next := env.neighbour .apertureUp s.code }) := by
  simp only [round, apertureUpRound] at h
  split at h
  · rename_i hmode
    rw [Except.error.injEq] at h
    exact Or.inr ⟨hmode, h.symm⟩
  · rename_i hmode
    split at h
    · exact absurd h (by simp only [reduceCtorEq, not_false_eq_true])
    · rw [Except.error.injEq] at h
      exact Or.inl ⟨hmode, h.symm⟩

/-- Leaving keeps all but the pointer. -/
theorem leaves_eq {l : Adjustment} (h : env.round exp l s = .error t) :
    t = { s with next := t.next } := by
  have hlong : l = .apertureDown ∨ l = .isoUp → t = { s with next := t.next } := by
    intro hl
    rcases tooLong_leaves hl h with ⟨_, rfl⟩ | ⟨_, rfl⟩
    · rfl
    · rfl
  cases l with
  | apertureDown => exact hlong (Or.inl rfl)
  | isoUp => exact hlong (Or.inr rfl)
  | isoDown => rw [isoDown_leaves h]
  | apertureUp =>
      rcases apertureUp_leaves h with ⟨_, rfl⟩ | ⟨_, rfl⟩
      · rfl
      · rfl

/-- The pointer is where the setting is, unless a mode is ahead. -/
theorem leaves_next {l : Adjustment} (h : env.round exp l s = .error t) (hnext : s.next = s.code) :
    t.next = s.code ∨ l = .apertureUp ∧ env.ModeAhead s.code := by
  have hlong : l = .apertureDown ∨ l = .isoUp → t.next = s.code := by
    intro hl
    rcases tooLong_leaves hl h with ⟨_, rfl⟩ | ⟨_, rfl⟩
    · exact hnext
    · rfl
  cases l with
  | apertureDown => exact Or.inl (hlong (Or.inl rfl))
  | isoUp => exact Or.inl (hlong (Or.inr rfl))
  | isoDown =>
      rw [isoDown_leaves h]
      exact Or.inl rfl
  | apertureUp =>
      rcases apertureUp_leaves h with ⟨_, rfl⟩ | ⟨hmode, rfl⟩
      · exact Or.inl rfl
      · exact Or.inr ⟨rfl, hmode⟩

end Rounds

section Loops

variable {env} {exp fuel : Nat} {l : Adjustment} {s t : Adjust}

/-- A loop is passed over, or makes some rounds and leaves. -/
theorem adjust_cases (h : env.adjust exp fuel l s = some t) :
    (env.enabled l = false ∧ t = s) ∨
      (env.enabled l = true ∧ ∃ n u, Loop.after (env.round exp l) n s = some u ∧
        env.round exp l u = .error t) := by
  unfold adjust at h
  by_cases hon : env.enabled l = true
  · rw [if_pos hon] at h
    rcases Loop.run_eq_some _ fuel s t h with ⟨n, u, _, hafter, hleave⟩
    exact Or.inr ⟨hon, n, u, hafter, hleave⟩
  · rw [if_neg hon, Option.some.injEq] at h
    rw [Bool.not_eq_true] at hon
    exact Or.inl ⟨hon, h.symm⟩

/-- What the rounds of a loop keep holds where it is left. -/
theorem adjust_inv (I J : Adjust → Prop) (hskip : I s → J s)
    (hok : ∀ u v, env.enabled l = true → I u → env.round exp l u = .ok v → I v)
    (herror : ∀ u v, env.enabled l = true → I u → env.round exp l u = .error v → J v)
    (hs : I s) (h : env.adjust exp fuel l s = some t) : J t := by
  rcases adjust_cases h with ⟨_, rfl⟩ | ⟨hon, n, u, hafter, hleave⟩
  · exact hskip hs
  · have hu := Loop.after_inv _ I (fun v w hv hround => hok v w hon hv hround) n s u hs hafter
    exact herror u t hon hu hleave

/-- A calculation that ends has left every loop. -/
theorem calculateExposure_eq_some {x y : Exposure}
    (hany : (env.camera.supports.iso || env.camera.supports.aperture ||
      env.camera.supports.shutter) = true) (h : env.calculateExposure fuel x = some y) :
    ∃ a b c d, env.adjust x.nextBulbLength fuel .apertureDown (start x) = some a ∧
      env.adjust x.nextBulbLength fuel .isoUp (a.turnTo x.nextISO x.nextISO) = some b ∧
      env.adjust x.nextBulbLength fuel .isoDown b = some c ∧
      env.adjust x.nextBulbLength fuel .apertureUp (c.turnTo a.code a.next) = some d ∧
      y = ⟨max env.shortest d.nextBulbLength, d.next, c.next, d.bulbChangeEv⟩ := by
  rw [calculateExposure, if_pos hany] at h
  simp only [Option.bind_eq_bind, Option.bind_eq_some_iff, Option.some.injEq] at h
  rcases h with ⟨a, ha, b, hb, c, hc, d, hd, hy⟩
  exact ⟨a, b, c, d, ha, hb, hc, hd, hy.symm⟩

end Loops

end Ramp

/-- The lengths `bulbTime` falls back on are listed, so its recursive calls need
    not be followed further. -/
theorem listedTime_isSome {bulbMin : Nat} (hlo : bulbMaxEv ≤ bulbMin) (hhi : bulbMin ≤ 61) :
    (listedTime bulbMin bulbMaxEv).isSome ∧ (listedTime bulbMin bulbMin).isSome := by
  have hall : ∀ m ∈ List.range 62, bulbMaxEv ≤ m →
      (listedTime m bulbMaxEv).isSome ∧ (listedTime m m).isSome := by
    decide +kernel
  exact hall bulbMin (List.mem_range.mpr (by omega)) hlo

end Shutter

end TimelapsePlus
