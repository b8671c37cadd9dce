import TimelapsePlus.Shutter.Once

/-!
# Bulb with PC-Sync

With the auxiliary port in sync mode, the camera closes the sync input when its
shutter has really opened, and from then on an exposure should last as long as
was asked for, less what closing takes. If the input never closes, the exposure
lasts as long as without sync, and two seconds longer if it was to wait for the
input. `closeAt` is the tick this closes the bulb on, as a function of what the
sync input was on each tick; the tick that opens the bulb is number zero.

The clock has one number for the length after the input has closed, and zero
stands for having none. So where closing takes as long as the exposure or
longer, the input is not looked at. And the length of the exposure is unsigned,
so that an offset it cannot take wraps around.

## Main definitions

* `pins`: The sync input as ticks find it.
* `closeAt`: The tick a bulb is to be closed on.
* `syncLength`: How long an exposure lasts if the input never closes.
* `World.SyncTimed`: A bulb is closed when it is to be.
* `World.Timed`: How the clock relates to what the sync input was.

## Theorems

* `step_timed`, `path_closed`: When the code closes a bulb.
* `exists_path`: The sync input can do anything.
* `syncTimed_iff`: The bulbs that are closed when they are to be.
* `unarmed_sync`: A short exposure that does not take the sync input.
-/

namespace TimelapsePlus

namespace Shutter

open Word

/-- The sync input as each tick finds it. -/
def pins : Bool → List World.Action → List Bool
  | _, [] => []
  | pin, .tick _ :: as => pin :: pins pin as
  | _, .environment _ pin _ :: as => pins pin as
  | pin, .resume :: as => pins pin as
  | pin, .callIn _ _ :: as => pins pin as
  | pin, .bulb _ :: as => pins pin as
  | pin, .cancelBulb :: as => pins pin as

/-- The tick a bulb is to be closed on, when without the sync input it lasts some
    length, and some ticks after the input has closed. -/
def closeAt (length after : Int) (ps : List Bool) : Int :=
  match ps.findIdx? id with
  | none => length
  | some i => if (i : Int) + 1 < length then i + 1 + after else length

/-- How long an exposure lasts if the sync input never closes. -/
def syncLength (conf : Settings) (duration : Nat) : Int :=
  duration + (if conf.pcSyncRequired then 2000 else 0) +
    if conf.camera.negBulbOffset then -(conf.camera.bulbOffset : Int) else conf.camera.bulbOffset

section CloseAt

variable (length after : Int) {ps : List Bool}

theorem closeAt_nil : closeAt length after [] = length := rfl

/-- An open input changes nothing. -/
theorem closeAt_append_open (ps : List Bool) :
    closeAt length after (ps ++ [false]) = closeAt length after ps := by
  unfold closeAt
  rw [List.findIdx?_append]
  cases ps.findIdx? id with
  | none => rfl
  | some i => rfl

/-- Once the input has closed, what it does later changes nothing. -/
theorem closeAt_append_of_some {i : Nat} (h : ps.findIdx? id = some i) (p : Bool) :
    closeAt length after (ps ++ [p]) = closeAt length after ps := by
  unfold closeAt
  rw [List.findIdx?_append, h]
  rfl

/-- The input closes. -/
theorem closeAt_append_of_none (h : ps.findIdx? id = none) :
    closeAt length after (ps ++ [true]) =
      if (ps.length : Int) + 1 < length then ps.length + 1 + after else length := by
  unfold closeAt
  rw [List.findIdx?_append, h]
  simp only [List.findIdx?_cons, id_eq, if_true, Option.map_some, Option.none_or, Nat.zero_add]

theorem closeAt_of_none (h : ps.findIdx? id = none) : closeAt length after ps = length := by
  unfold closeAt
  rw [h]

theorem closeAt_replicate (n : Nat) :
    closeAt length after (List.replicate n false) = length := by
  induction n with
  | zero => rfl
  | succ k ih => rw [List.replicate_succ', closeAt_append_open, ih]

end CloseAt

namespace World

/-- The bulb that is open in one state has been closed in a later one. -/
def Closed (w v : World) : Prop := w.log.count .bulbEnd < v.log.count .bulbEnd

/-- The exposure goes on: nothing is asked for or cancelled, and no tick starts
    the bulb again while the code that opens it is being sent. -/
def Timing (w : World) : Action → Prop
  | .tick _ => w.clock.newBulb = true → w.frames = []
  | .bulb _ | .cancelBulb => False
  | .resume | .callIn _ _ | .environment _ _ _ => True

instance (w : World) (a : Action) : Decidable (w.Timing a) :=
  match a with
  | .tick _ => inferInstanceAs (Decidable (_ → _))
  | .bulb _ | .cancelBulb => .isFalse id
  | .resume | .callIn _ _ | .environment _ _ _ => .isTrue trivial

/-- A bulb that is started on the next tick is closed when it is to be, whatever
    the sync input does. -/
def SyncTimed (w : World) (io : Io) : Prop :=
  ∀ as v, Path step Timing (w.count io) as v →
    ((w.count io).Closed v ↔
      closeAt (syncLength w.conf w.clock.bulbDuration)
          (max 1 (w.clock.bulbDuration - w.conf.camera.bulbEndOffset)) (pins w.syncPin as) ≤
        (pins w.syncPin as).length)

/-- The tick the code closes a bulb on: with no length for the time after the
    input has closed, the input is not looked at. -/
def codeAt (length after : Nat) (ps : List Bool) : Int :=
  if after = 0 then length else closeAt length after ps

/-- How the clock relates to what the sync input was: the code that opens the bulb
    is being sent, the bulb is running, or it has been closed. -/
inductive Timed (w : World) (length after : Nat) : List Bool → World → Prop
  | sending (v : World) (n : Nat) (hframes : v.frames = [⟨.start, n⟩])
      (hnew : v.clock.newBulb = true) (hlasts : lasts v.finishStart.clock.bulbDuration = length)
      (hsync : v.clock.bulbDurationPCsync = after)
      (hopen : v.log.count .bulbEnd = w.log.count .bulbEnd) : Timed w length after [] v
  | running (v : World) (ps : List Bool) (hframes : v.frames = []) (hnew : v.clock.newBulb = false)
      (hrun : v.clock.bulbRunning = true) (hword : v.clock.bulbDuration < 4294967296)
      (hlasts : (lasts v.clock.bulbDuration : Int) + ps.length = codeAt length after ps)
      (hsync : v.clock.bulbDurationPCsync = after ∧ ps.findIdx? id = none ∨
        v.clock.bulbDurationPCsync = 0 ∧ (after = 0 ∨ ∃ i, ps.findIdx? id = some i))
      (hopen : v.log.count .bulbEnd = w.log.count .bulbEnd) : Timed w length after ps v
  | closed (v : World) (ps : List Bool) (hdone : codeAt length after ps ≤ ps.length)
      (hclosed : w.Closed v) : Timed w length after ps v

theorem Steady.count_bulbEnd {w v : World} (h : w.Steady v) :
    v.log.count .bulbEnd = w.log.count .bulbEnd := by
  rcases h.log with ⟨es, hes, hnot⟩
  have hnone : es.count .bulbEnd = 0 := List.count_eq_zero.mpr fun hmem => hnot _ hmem trivial
  rw [hes, List.count_append, hnone, Nat.zero_add]

theorem ending_count (w : World) : w.ending.log.count .bulbEnd = w.log.count .bulbEnd + 1 := by
  have hlog : w.ending.log = .bulbEnd :: .skipped :: w.log := rfl
  rw [hlog, List.count_cons_self]
  rfl

theorem passing_count (w : World) : w.passing.log.count .bulbEnd = w.log.count .bulbEnd := by
  rw [w.passing_log]

/-- What has been closed stays closed. -/
theorem Stepped.count_le {w v : World} {a : Action} (h : w.Stepped a v) :
    w.log.count .bulbEnd ≤ v.log.count .bulbEnd := by
  rcases h.log with ⟨es, hes⟩
  rw [hes, List.count_append]
  exact Nat.le_add_left _ _

theorem Ticked.syncPin {w v : World} (h : w.Ticked v) : v.syncPin = w.syncPin := by
  cases h with
  | sendsStart v hnew _ _ hv =>
      refine hv.syncPin.trans ?_
      rw [starting_eq]
      rfl
  | starts v hnew hv =>
      refine hv.syncPin.trans ?_
      rw [starting_eq]
      rfl
  | sendsStop v hnew hrun hend hv => exact hv.syncPin
  | ends v hnew hrun hend hv => exact hv.syncPin
  | syncs => rfl
  | services =>
      have hsteady := w.passing_steady
      generalize w.passing.service = u at hsteady ⊢
      exact hsteady.syncPin.trans w.passing_sync.2

/-- A tick finds the sync input where the step before has left it. -/
theorem Stepped.pins_cons {w v : World} {a : Action} (h : w.Stepped a v) (as : List Action) :
    pins w.syncPin (a :: as) = pins w.syncPin [a] ++ pins v.syncPin as := by
  cases h with
  | tick htick =>
      rw [htick.syncPin]
      rfl
  | resume hframes hresumed =>
      cases hresumed with
      | start v hv =>
          have hpin : v.finishStart.leave.syncPin = w.syncPin := hv.syncPin
          rw [hpin]
          rfl
      | stop v hv =>
          have hpin : v.finishEnd.leave.syncPin = w.syncPin := hv.syncPin
          rw [hpin]
          rfl
  | callIn =>
      rw [(w.callIn_steady _ _).syncPin]
      rfl
  | bulb => rfl
  | cancelBulb => rfl
  | environment => rfl

/-- A tick on which the input closes too late changes nothing. -/
theorem codeAt_append_le {length after : Nat} {ps : List Bool}
    (h : codeAt length after ps ≤ ps.length + 1) (p : Bool) :
    codeAt length after (ps ++ [p]) ≤ (ps ++ [p]).length := by
  have hlength : ((ps ++ [p]).length : Int) = ps.length + 1 := by
    rw [List.length_append]
    rfl
  rw [hlength]
  unfold codeAt at h ⊢
  by_cases hafter : after = 0
  · rw [if_pos hafter] at h ⊢
    exact h
  · rw [if_neg hafter] at h ⊢
    cases hp : ps.findIdx? id with
    | some i => rwa [closeAt_append_of_some _ _ hp]
    | none =>
        rw [closeAt_of_none _ _ hp] at h
        cases p with
        | false => rwa [closeAt_append_open, closeAt_of_none _ _ hp]
        | true => rwa [closeAt_append_of_none _ _ hp, if_neg (by omega)]

/-- A tick on which the input does not close, or has closed, or is not looked at,
    changes nothing. -/
theorem codeAt_append_eq {length after : Nat} {ps : List Bool} {p : Bool}
    (h : after = 0 ∨ p = false ∨ ∃ i, ps.findIdx? id = some i) :
    codeAt length after (ps ++ [p]) = codeAt length after ps := by
  unfold codeAt
  rcases h with hafter | hp | ⟨i, hi⟩
  · rw [if_pos hafter, if_pos hafter]
  · rw [hp, closeAt_append_open]
  · rw [closeAt_append_of_some _ _ hi]

theorem findIdx_append_open {ps : List Bool} (h : ps.findIdx? id = none) :
    (ps ++ [false]).findIdx? id = none := by
  rw [List.findIdx?_append, h]
  rfl

theorem findIdx_append_of_some {ps : List Bool} {i : Nat} (h : ps.findIdx? id = some i) (p : Bool) :
    (ps ++ [p]).findIdx? id = some i := by
  rw [List.findIdx?_append, h]
  rfl

theorem findIdx_append_closed {ps : List Bool} (h : ps.findIdx? id = none) :
    (ps ++ [true]).findIdx? id = some ps.length := by
  rw [List.findIdx?_append, h]
  simp only [List.findIdx?_cons, id_eq, if_true, Option.map_some, Option.none_or, Nat.zero_add]

theorem lasts_pos (duration : Nat) : 0 < lasts duration := by
  unfold lasts
  split <;> omega

theorem lasts_eq_one {duration : Nat} (h : duration < 4294967296) (hend : sub32 duration 1 = 0) :
    lasts duration = 1 := by
  unfold sub32 u32 at hend
  unfold lasts
  rw [if_neg (by omega)]
  omega

theorem Steady.finishStart_duration {w v : World} (h : w.Steady v) :
    v.finishStart.clock.bulbDuration = w.finishStart.clock.bulbDuration := by
  simp only [finishStart, h.conf, h.bulbDuration]

/-- A bulb that has just been started has its whole length to go. -/
theorem timed_started {w v : World} {length after : Nat} (hframes : v.frames = [])
    (hlasts : lasts v.finishStart.clock.bulbDuration = length)
    (hsync : v.clock.bulbDurationPCsync = after)
    (hopen : v.log.count .bulbEnd = w.log.count .bulbEnd) :
    Timed w length after [] v.finishStart.leave := by
  refine .running _ [] hframes rfl rfl (finishStart_duration_lt v) ?_ (Or.inl ⟨hsync, rfl⟩) hopen
  have hcode : codeAt length after [] = length := by
    unfold codeAt
    rw [closeAt_nil, ite_self]
  rw [hcode, ← hlasts]
  exact add_zero _

/-- A tick while the bulb is running. -/
theorem Ticked.timed {w v u : World} {length after : Nat} {ps : List Bool} (htick : v.Ticked u)
    (hafter : after < 4294967296) (hframes : v.frames = []) (hnew : v.clock.newBulb = false)
    (hrun : v.clock.bulbRunning = true) (hword : v.clock.bulbDuration < 4294967296)
    (hlasts : (lasts v.clock.bulbDuration : Int) + ps.length = codeAt length after ps)
    (hsync : v.clock.bulbDurationPCsync = after ∧ ps.findIdx? id = none ∨
      v.clock.bulbDurationPCsync = 0 ∧ (after = 0 ∨ ∃ i, ps.findIdx? id = some i))
    (hopen : v.log.count .bulbEnd = w.log.count .bulbEnd) :
    Timed w length after (ps ++ [v.syncPin]) u := by
  have henter : v.enter.frames = [] := by
    simp only [enter, hframes]
  have hlength : ((ps ++ [v.syncPin]).length : Int) = ps.length + 1 := by
    rw [List.length_append]
    rfl
  -- A bulb that ends has one tick to go.
  have hlast : sub32 v.clock.bulbDuration 1 = 0 →
      codeAt length after (ps ++ [v.syncPin]) ≤ (ps ++ [v.syncPin]).length := by
    intro hend
    rw [lasts_eq_one hword hend] at hlasts
    exact codeAt_append_le (by omega) v.syncPin
  cases htick with
  | sendsStart _ h => exact absurd (hnew.symm.trans h) Bool.noConfusion
  | starts _ h => exact absurd (hnew.symm.trans h) Bool.noConfusion
  | sendsStop u _ _ hend hu =>
      refine .closed _ _ (hlast hend) ?_
      have hcount := hu.steady.count_bulbEnd.trans v.ending_count
      exact Nat.lt_of_lt_of_eq (by omega) hcount.symm
  | ends u _ _ hend hu =>
      refine .closed _ _ (hlast hend) ?_
      have hcount := hu.steady.count_bulbEnd.trans v.ending_count
      exact Nat.lt_of_lt_of_eq (by omega) hcount.symm
  | syncs _ _ hend harmed hpin =>
      -- The input closes for the first time, and before the last tick.
      rcases hsync with ⟨hafter', hnone⟩ | ⟨hzero, _⟩
      · have hnot : after ≠ 0 := by
          rw [← hafter']
          exact harmed
        have hlater := lasts_sub hword hend
        have hpos := lasts_pos (sub32 v.clock.bulbDuration 1)
        unfold codeAt at hlasts
        rw [if_neg hnot, closeAt_of_none _ _ hnone] at hlasts
        have hcode : codeAt length after (ps ++ [v.syncPin]) = ps.length + 1 + after := by
          unfold codeAt
          rw [if_neg hnot, hpin, closeAt_append_of_none _ _ hnone, if_pos (by omega)]
        have hduration : v.enter.syncTick.leave.clock.bulbDuration = after := hafter'
        refine .running _ _ henter hnew hrun (hduration ▸ hafter) ?_ ?_ hopen
        · rw [hduration, hcode, hlength, lasts, if_neg hnot]
          omega
        · rw [hpin]
          exact Or.inr ⟨rfl, Or.inr ⟨_, findIdx_append_closed hnone⟩⟩
      · exact absurd hzero harmed
  | services _ hgo =>
      have hu := v.passing_steady
      generalize v.passing.service = u at hu ⊢
      rcases hgo hrun with ⟨hend, hignored⟩
      have hlater := lasts_sub hword hend
      have hduration : u.leave.clock.bulbDuration = sub32 v.clock.bulbDuration 1 :=
        hu.bulbDuration.trans (passing_duration hrun)
      have hcount := hu.count_bulbEnd.trans v.passing_count
      -- The input is open, or it is not looked at any more.
      have hsame : after = 0 ∨ v.syncPin = false ∨ ∃ i, ps.findIdx? id = some i := by
        rcases hsync with ⟨hafter', _⟩ | ⟨_, hdone⟩
        · by_cases hzero : after = 0
          · exact Or.inl hzero
          · refine Or.inr (Or.inl ?_)
            by_contra hpin
            rw [Bool.not_eq_false] at hpin
            exact hignored ⟨by rw [hafter']; exact hzero, hpin⟩
        · exact hdone.imp_right Or.inr
      refine .running _ _ (hu.frames.trans (v.passing_frames.trans henter))
        (hu.newBulb.trans (v.passing_newBulb.trans hnew))
        (hu.bulbRunning.trans (v.passing_bulbRunning.trans hrun)) ?_ ?_ ?_ (hcount.trans hopen)
      · rw [hduration]
        exact sub32_lt _ _
      · rw [hduration, codeAt_append_eq hsame, hlength]
        omega
      · have hkept : u.leave.clock.bulbDurationPCsync = v.clock.bulbDurationPCsync :=
          hu.bulbDurationPCsync.trans v.passing_sync.1
        rw [hkept]
        rcases hsync with ⟨hafter', hnone⟩ | ⟨hzero, hdone⟩
        · rcases hsame with hnot | hopened | ⟨i, hi⟩
          · exact Or.inr ⟨hafter'.trans hnot, Or.inl hnot⟩
          · rw [hopened]
            exact Or.inl ⟨hafter', findIdx_append_open hnone⟩
          · rw [hnone] at hi
            exact absurd hi (by simp only [reduceCtorEq, not_false_eq_true])
        · refine Or.inr ⟨hzero, hdone.imp_right fun hclosed => ?_⟩
          rcases hclosed with ⟨i, hi⟩
          exact ⟨i, findIdx_append_of_some hi v.syncPin⟩

/-- A step of the exposure. -/
theorem step_timed {w v u : World} {length after : Nat} {ps : List Bool} (a : Action)
    (hafter : after < 4294967296) (h : Timed w length after ps v) (hok : v.Timing a)
    (hstep : v.step a = some u) : Timed w length after (ps ++ pins v.syncPin [a]) u := by
  have hstepped := step_stepped hstep
  cases h with
  | closed v ps hdone hclosed =>
      refine .closed _ _ ?_ (Nat.lt_of_lt_of_le hclosed hstepped.count_le)
      cases a with
      | tick io => exact codeAt_append_le (by omega) v.syncPin
      | _ =>
          rw [pins, pins, List.append_nil]
          exact hdone
  | sending v n hframes hnew hlasts hsync hopen =>
      cases hstepped with
      | tick htick => exact absurd (hframes.symm.trans (hok hnew)) (List.cons_ne_nil _ _)
      | callIn hnone => exact absurd (hframes.symm.trans hnone) (List.cons_ne_nil _ _)
      | bulb => exact absurd hok id
      | cancelBulb => exact absurd hok id
      | environment => exact .sending _ n hframes hnew hlasts hsync hopen
      | resume hsending hresumed =>
          rw [hframes, List.cons.injEq, Frame.mk.injEq] at hsending
          rcases hsending with ⟨⟨hkind, _⟩, hfs⟩
          rw [← hkind, ← hfs] at hresumed
          cases hresumed with
          | start u hu =>
              refine timed_started hu.frames ?_ (hu.steady.bulbDurationPCsync.trans hsync)
                (hu.steady.count_bulbEnd.trans hopen)
              rw [hu.steady.finishStart_duration]
              exact hlasts
  | running v ps hframes hnew hrun hword hlasts hsync hopen =>
      cases hstepped with
      | tick htick => exact htick.timed hafter hframes hnew hrun hword hlasts hsync hopen
      | @callIn time fn =>
          have hu := v.callIn_steady time fn
          rw [pins, pins, List.append_nil]
          refine .running _ _ (hu.frames.trans hframes) (hu.newBulb.trans hnew)
            (hu.bulbRunning.trans hrun) ?_ ?_ ?_ (hu.count_bulbEnd.trans hopen)
          · rw [hu.bulbDuration]
            exact hword
          · rw [hu.bulbDuration]
            exact hlasts
          · rw [hu.bulbDurationPCsync]
            exact hsync
      | bulb => exact absurd hok id
      | cancelBulb => exact absurd hok id
      | environment =>
          rw [pins, pins, List.append_nil]
          exact .running _ _ hframes hnew hrun hword hlasts hsync hopen
      | resume hsending => exact absurd (hframes.symm.trans hsending) (List.cons_ne_nil _ _).symm

/-- A bulb is closed exactly from the tick on that the code closes it on. -/
theorem Timed.closed_iff {w v : World} {length after : Nat} {ps : List Bool}
    (h : Timed w length after ps v) (hpos : 0 < length) :
    w.Closed v ↔ codeAt length after ps ≤ ps.length := by
  unfold Closed
  cases h with
  | closed v ps hdone hclosed => exact ⟨fun _ => hdone, fun _ => hclosed⟩
  | sending v n hframes hnew hlasts hsync hopen =>
      have hcode : codeAt length after [] = length := by
        unfold codeAt
        rw [closeAt_nil, ite_self]
      rw [hopen, hcode, List.length_nil]
      omega
  | running v ps hframes hnew hrun hword hlasts hsync hopen =>
      have hgo := lasts_pos v.clock.bulbDuration
      rw [hopen]
      omega

/-- Along every path a bulb is closed when the code closes it. -/
theorem path_closed {w v u : World} {length after : Nat} {ps : List Bool} {as : List Action}
    (hafter : after < 4294967296) (hpos : 0 < length) (h : Timed w length after ps v)
    (hpath : Path step Timing v as u) :
    w.Closed u ↔ codeAt length after (ps ++ pins v.syncPin as) ≤
      (ps ++ pins v.syncPin as).length := by
  induction hpath generalizing ps with
  | nil v =>
      rw [pins, List.append_nil]
      exact h.closed_iff hpos
  | cons a as hok hstep _ ih =>
      have hnext := ih (step_timed a hafter h hok hstep)
      rwa [List.append_assoc, ← (step_stepped hstep).pins_cons] at hnext

/-- A bulb that has been asked for, with the sync input open. -/
structure Armed (w : World) : Prop where
  newBulb : w.clock.newBulb = true
  frames : w.frames = []
  word : w.clock.bulbDuration < 4294967296
  auxPort : w.conf.auxPort = .sync
  syncPin : w.syncPin = false

/-- The length a bulb is started with, in ticks. -/
def startLength (w : World) : Nat := lasts w.starting.finishStart.clock.bulbDuration

/-- The length a bulb is given when the sync input closes. -/
def syncedLength (w : World) : Nat := w.clock.bulbDuration - w.conf.camera.bulbEndOffset

theorem Armed.starting_sync {w : World} (h : w.Armed) :
    w.starting.clock.bulbDurationPCsync = w.syncedLength := by
  rw [starting_eq, syncedLength]
  simp only [h.auxPort, h.syncPin, true_and]
  split
  · rfl
  · omega

/-- The tick that starts a bulb is number zero. -/
theorem Armed.timed {w v : World} (h : w.Armed) (htick : w.Ticked v) :
    Timed v w.startLength w.syncedLength [] v := by
  have henter : w.enter.frames = [] := by
    simp only [enter, h.frames]
  have hframes : w.starting.frames = [] := by
    rw [starting_eq]
    exact henter
  cases htick with
  | sendsStart v hnew _ _ hv =>
      refine .sending _ w.irTicks ?_ ?_ ?_ (hv.steady.bulbDurationPCsync.trans h.starting_sync) rfl
      · simp only [leave, hv.frames, hframes]
      · refine hv.steady.newBulb.trans ?_
        rw [starting_eq]
        exact hnew
      · have hduration := hv.steady.finishStart_duration
        rw [startLength, ← hduration]
        rfl
  | starts v hnew hv =>
      refine timed_started (hv.frames.trans hframes) ?_
        (hv.steady.bulbDurationPCsync.trans h.starting_sync) rfl
      rw [hv.steady.finishStart_duration]
      rfl
  | sendsStop _ hnew => exact absurd (h.newBulb.symm.trans hnew) Bool.noConfusion
  | ends _ hnew => exact absurd (h.newBulb.symm.trans hnew) Bool.noConfusion
  | syncs hnew => exact absurd (h.newBulb.symm.trans hnew) Bool.noConfusion
  | services hnew => exact absurd (h.newBulb.symm.trans hnew) Bool.noConfusion

/-- A bulb is started with its length as a word. -/
theorem Armed.starting_duration {w : World} (h : w.Armed) :
    (w.starting.finishStart.clock.bulbDuration : Int) =
      syncLength w.conf w.clock.bulbDuration % 4294967296 := by
  have hword := h.word
  rw [starting_eq]
  simp only [finishStart, h.auxPort, h.syncPin, true_and, syncLength, enter]
  cases w.conf.pcSyncRequired with
  | false =>
      cases w.conf.camera.negBulbOffset with
      | false => simp only [Bool.false_eq_true, if_false, u32]; omega
      | true => simp only [Bool.false_eq_true, if_false, if_true, sub32, u32]; omega
  | true =>
      cases w.conf.camera.negBulbOffset with
      | false => simp only [Bool.false_eq_true, if_false, if_true, u32]; omega
      | true => simp only [if_true, sub32, u32]; omega

/-- The length is right if it is one that can be counted down. -/
theorem Armed.startLength_eq {w : World} (h : w.Armed) :
    (w.startLength : Int) = syncLength w.conf w.clock.bulbDuration ↔
      1 ≤ syncLength w.conf w.clock.bulbDuration ∧
        syncLength w.conf w.clock.bulbDuration ≤ 4294967296 := by
  have hduration := h.starting_duration
  unfold startLength lasts
  split
  · omega
  · omega

theorem Ticked.newBulb {w v : World} (h : w.Ticked v) (hnew : w.clock.newBulb = false) :
    v.clock.newBulb = false := by
  cases h with
  | sendsStart _ h => exact absurd (hnew.symm.trans h) Bool.noConfusion
  | starts => rfl
  | sendsStop v _ _ _ hv => exact hv.steady.newBulb.trans hnew
  | ends v _ _ _ hv => exact hv.steady.newBulb.trans hnew
  | syncs => exact hnew
  | services => exact w.passing_steady.newBulb.trans (w.passing_newBulb.trans hnew)

/-- The sync input can do anything. -/
theorem exists_path {w : World} (hnew : w.clock.newBulb = false) (ps : List Bool) :
    ∃ as v, Path step Timing w as v ∧ pins w.syncPin as = ps := by
  induction ps generalizing w with
  | nil => exact ⟨[], w, .nil w, rfl⟩
  | cons p ps ih =>
      -- The input is set, and then the tick comes.
      have htick := count_ticked { w with syncPin := p } .ok
      rcases ih (htick.newBulb hnew) with ⟨as, v, hpath, hpins⟩
      refine ⟨.environment w.cablePin p w.link :: .tick .ok :: as, v, ?_, ?_⟩
      · refine .cons _ _ trivial rfl (.cons _ _ (fun h => ?_) rfl hpath)
        exact absurd (hnew.symm.trans h) Bool.noConfusion
      · rw [htick.syncPin] at hpins
        rw [← hpins]
        rfl

theorem Resumed.started {w v : World} {fs : List Frame} (h : w.Resumed fs .start v) :
    v.clock.newBulb = false ∧ v.syncPin = w.syncPin := by
  cases h with
  | start v hv => exact ⟨rfl, hv.syncPin⟩

theorem Armed.started {w v : World} (h : w.Armed) (htick : w.Ticked v) :
    v.clock.newBulb = false ∨ v.frames = [⟨.start, w.irTicks⟩] := by
  cases htick with
  | sendsStart v hnew _ _ hv =>
      refine Or.inr ?_
      rw [starting_eq] at hv
      simp only [leave, hv.frames, enter, h.frames]
  | starts => exact Or.inl rfl
  | sendsStop _ hnew => exact absurd (h.newBulb.symm.trans hnew) Bool.noConfusion
  | ends _ hnew => exact absurd (h.newBulb.symm.trans hnew) Bool.noConfusion
  | syncs hnew => exact absurd (h.newBulb.symm.trans hnew) Bool.noConfusion
  | services hnew => exact absurd (h.newBulb.symm.trans hnew) Bool.noConfusion

/-- So it can after a bulb has been started, unless a code is being sent that
    takes some ticks. -/
theorem Armed.exists_path {w : World} (h : w.Armed) (io : Io)
    (hsend : (w.count io).frames = [] ∨ w.irTicks = 0) (ps : List Bool) :
    ∃ as v, Path step Timing (w.count io) as v ∧ pins (w.count io).syncPin as = ps := by
  have hstarted := h.started (w.count_ticked io)
  revert hsend hstarted
  generalize w.count io = v
  intro hsend hstarted
  rcases hstarted with hnew | hframes
  · exact World.exists_path hnew ps
  · have hzero : w.irTicks = 0 := by
      rcases hsend with hnone | hzero
      · exact absurd (hframes.symm.trans hnone) (List.cons_ne_nil _ _)
      · exact hzero
    rw [hzero] at hframes
    -- The rest of the tick comes first.
    rcases (v.resume_resumed ⟨.start, 0⟩ []).started with ⟨hnew, hpin⟩
    have hstep : v.step .resume = some (v.resume ⟨.start, 0⟩ []) := by
      rw [step, hframes]
      exact if_pos rfl
    rcases World.exists_path hnew ps with ⟨as, u, hpath, hpins⟩
    refine ⟨.resume :: as, u, .cons _ _ trivial hstep hpath, ?_⟩
    rw [hpin] at hpins
    exact hpins

end World

/-- A bulb with the sync input open is closed when it is to be exactly when its
    length can be counted down and there is time left after the input has closed,
    or no time for it to close. -/
theorem syncTimed_iff (w : World) (io : Io) (h : w.Armed)
    (hsend : (w.count io).frames = [] ∨ w.irTicks = 0) :
    w.SyncTimed io ↔ 1 ≤ syncLength w.conf w.clock.bulbDuration ∧
      syncLength w.conf w.clock.bulbDuration ≤ 4294967296 ∧
      (w.conf.camera.bulbEndOffset < w.clock.bulbDuration ∨
        syncLength w.conf w.clock.bulbDuration ≤ 2) := by
  have hword : w.syncedLength < 4294967296 := by
    have := h.word
    unfold World.syncedLength
    omega
  have htimed := h.timed (w.count_ticked io)
  have hpin : (w.count io).syncPin = w.syncPin := (w.count_ticked io).syncPin
  have hpos : 0 < w.startLength := World.lasts_pos _
  have hlength := h.startLength_eq
  -- What the code does along a path.
  have hcode : ∀ as v, Path World.step World.Timing (w.count io) as v →
      ((w.count io).Closed v ↔
        World.codeAt w.startLength w.syncedLength (pins w.syncPin as) ≤
          (pins w.syncPin as).length) := by
    intro as v hpath
    have hclosed := World.path_closed hword hpos htimed hpath
    rwa [List.nil_append, hpin] at hclosed
  unfold World.SyncTimed
  generalize hL : syncLength w.conf w.clock.bulbDuration = L at *
  constructor
  · intro hsync
    -- The code and the claim agree on whatever the sync input does.
    have hagree : ∀ ps : List Bool,
        World.codeAt w.startLength w.syncedLength ps ≤ ps.length ↔
          closeAt L (max 1 (w.clock.bulbDuration - w.conf.camera.bulbEndOffset)) ps ≤
            ps.length := by
      intro ps
      rcases h.exists_path io hsend ps with ⟨as, v, hpath, hpins⟩
      rw [hpin] at hpins
      have hone := hcode as v hpath
      have htwo := hsync as v hpath
      rw [hpins] at hone htwo
      exact hone.symm.trans htwo
    have hnil := hagree []
    have hnever := hagree (List.replicate w.startLength false)
    have hclosed := hagree [true, false]
    have hle : w.startLength ≤ 4294967296 := World.lasts_le (World.finishStart_duration_lt _)
    have hlate : World.codeAt w.startLength w.syncedLength (List.replicate w.startLength false) =
        w.startLength := by
      unfold World.codeAt
      rw [closeAt_replicate, ite_self]
    have hnow : World.codeAt w.startLength w.syncedLength [] = w.startLength := by
      unfold World.codeAt
      rw [closeAt_nil, ite_self]
    rw [hlate, closeAt_replicate, List.length_replicate] at hnever
    rw [hnow, closeAt_nil, List.length_nil] at hnil
    refine ⟨by omega, by omega, ?_⟩
    by_cases hafter : w.conf.camera.bulbEndOffset < w.clock.bulbDuration
    · exact Or.inl hafter
    · -- There is no time left: the input closes on the first tick.
      have hzero : w.syncedLength = 0 := by
        unfold World.syncedLength
        omega
      have hfirst : closeAt L (max 1 (w.clock.bulbDuration - w.conf.camera.bulbEndOffset))
          [true, false] = if (0 : Int) + 1 < L then 0 + 1 + 1 else L := by
        rw [max_eq_left (by omega)]
        rfl
      have hignored : World.codeAt w.startLength w.syncedLength [true, false] = w.startLength := by
        unfold World.codeAt
        rw [if_pos hzero]
      rw [hignored, hfirst] at hclosed
      refine Or.inr ?_
      by_cases hlong : (0 : Int) + 1 < L
      · rw [if_pos hlong] at hclosed
        have htwo : (w.startLength : Int) ≤ 2 := hclosed.mpr (Int.le_refl 2)
        omega
      · omega
  · rintro ⟨hlo, hhi, hafter⟩ as v hpath
    rw [hcode as v hpath]
    have heq := hlength.mpr ⟨hlo, hhi⟩
    unfold World.codeAt
    by_cases htime : w.conf.camera.bulbEndOffset < w.clock.bulbDuration
    · have hleft : w.syncedLength ≠ 0 := by
        unfold World.syncedLength
        omega
      have hmax : (w.syncedLength : Int) =
          max 1 ((w.clock.bulbDuration : Int) - w.conf.camera.bulbEndOffset) := by
        unfold World.syncedLength
        rw [max_eq_right (by omega)]
        omega
      rw [if_neg hleft, heq, hmax]
    · have hzero : w.syncedLength = 0 := by
        unfold World.syncedLength
        omega
      have hshort := hafter.resolve_left htime
      rw [if_pos hzero, heq, max_eq_left (by omega)]
      unfold closeAt
      cases (pins w.syncPin as).findIdx? id with
      | none => rfl
      | some i =>
          simp only
          split
          · omega
          · rfl

/-- Settings for a camera on the cable, with PC-sync. -/
def syncSettings : Settings := { cableSettings with auxPort := .sync }

/-- An exposure of a tenth of a second, closed when it is to be. -/
theorem syncTimed_cable :
    ((World.idle syncSettings 0 .none).bulb 100).SyncTimed .ok := by
  refine (syncTimed_iff _ .ok ⟨rfl, rfl, ?_, rfl, rfl⟩ (Or.inr rfl)).mpr ?_
  · decide
  · decide

/-- An exposure of five milliseconds, when closing takes eight. The sync input
    closes on the first tick, and on the second the bulb is not closed. -/
theorem unarmed_sync : ∃ w : World, w.Armed ∧ ¬ w.SyncTimed .ok := by
  refine ⟨(World.idle syncSettings 0 .none).bulb 5, ⟨rfl, rfl, by decide +kernel, rfl, rfl⟩, ?_⟩
  intro hsync
  have hallowed : allowed World.step World.Timing
      (((World.idle syncSettings 0 .none).bulb 5).count .ok)
      [.environment false true .none, .tick .ok, .tick .ok] = true := rfl
  have hopen : (steps World.step (((World.idle syncSettings 0 .none).bulb 5).count .ok)
      [.environment false true .none, .tick .ok, .tick .ok]).map
        (fun v => v.log.count .bulbEnd) = some 0 := rfl
  rcases path_of_allowed _ hallowed with ⟨v, hsteps, hpath⟩
  rw [hsteps, Option.map_some, Option.some.injEq] at hopen
  have hclosed : (((World.idle syncSettings 0 .none).bulb 5).count .ok).Closed v :=
    (hsync _ v hpath).mpr (by decide)
  unfold World.Closed at hclosed
  omega

end Shutter

end TimelapsePlus
