import TimelapsePlus.Lib.Run
import TimelapsePlus.Ptp.Session

/-!
# The Busy Time-out

A capture makes the camera busy, and an event of the camera ends that. Should the
event not come, `checkEvent` drops the flag some seconds after it has first seen it.
That second is kept in a static variable, zero standing for none, and only the
time-out itself clears it. So a second remembered from an exposure that ended well,
or before a reset of the clock, is taken for the start of the next exposure.

Time is counted as the clock counts it, in whole seconds. Beside the clock, two
numbers are kept that are not in the code: the seconds the camera has been busy
without a break, and the seconds since `checkEvent` first saw it busy.

## Main definitions

* `Timed`: A session, the clock, and how long the camera has been busy.
* `Happening`, `Timed.step`: What can happen.
* `Timed.Drops`: The time-out drops the flag.
* `Timed.Kept`: It does so after five seconds, and not before.
* `Timed.Clean`: No second is remembered that is not of this exposure.
* `Timed.Following`: What clean steps keep.

## Theorems

* `step_calm`: Only `checkEvent` touches the second remembered.
* `expireBusy_busy`: When the time-out drops the flag.
* `step_following`: A clean step keeps the second remembered true.
* `run_timeout`: In a clean run the time-out is kept.
* `timeout_stale`: An exposure that times out as it begins.
-/

namespace TimelapsePlus

namespace Ptp

open Word

/-- What a Canon camera reports does not make it busy. -/
theorem apply_busy (c : Camera) (o : Option Output) (h : (c.apply o).busy = true) :
    c.busy = true := by
  unfold Camera.apply Camera.applyChange Camera.applyProperty Camera.applyValues at h
  grind

/-- Nor do the events of a Nikon. -/
theorem foldl_applyPtpEvent_busy (events : List (Nat × Nat)) (c : Camera) :
    (events.foldl Camera.applyPtpEvent c).busy = c.busy := by
  induction events generalizing c with
  | nil => rfl
  | cons e events ih =>
      rw [List.foldl_cons, ih]
      unfold Camera.applyPtpEvent
      grind

/-- Nor the properties of a Sony. -/
theorem applySony_busy (c : Camera) (p : SonyProperty) : (c.applySony p).busy = c.busy := by
  unfold Camera.applySony
  grind

namespace Session

/-- The second remembered is left alone, and the camera does not become busy. -/
structure Calm (s s' : Session) : Prop where
  seconds : s'.busySeconds = s.busySeconds
  busy : s'.camera.busy = true → s.camera.busy = true

theorem Calm.refl (s : Session) : Calm s s := ⟨rfl, id⟩

theorem Calm.trans {s t u : Session} (h : Calm s t) (h' : Calm t u) : Calm s u :=
  ⟨h'.seconds.trans h.seconds, fun hbusy => h.busy (h'.busy hbusy)⟩

theorem eosStep_calm (s : Session) (phase : Phase) (ret : Ret) :
    Calm s (s.eosStep phase ret) := by
  simp only [eosStep]
  split
  · exact ⟨rfl, id⟩
  · exact ⟨rfl, apply_busy s.camera _⟩

theorem sonyStep_calm (s : Session) (i : Nat) (ret : Ret) : Calm s (s.sonyStep i ret) := by
  unfold sonyStep SonyFrame.turn
  grind [Calm, applySony_busy]

theorem sonyReadProperties_calm (s : Session) : Calm s s.sonyReadProperties.session := by
  simp only [sonyReadProperties, ask]
  split <;> exact ⟨rfl, id⟩

theorem nikonUpdate_calm (s : Session) : Calm s s.nikonUpdate := by
  unfold nikonUpdate
  split <;> exact ⟨rfl, id⟩

theorem applyPtpEvent_busy (c : Camera) (e : Nat × Nat) : (c.applyPtpEvent e).busy = c.busy :=
  foldl_applyPtpEvent_busy [e] c

theorem nikonPoll_calm (s : Session) (event : List UInt8) : Calm s (s.nikonPoll event) := by
  simp only [nikonPoll]
  split
  · split
    · exact ⟨rfl, id⟩
    · refine ⟨rfl, fun h => ?_⟩
      rw [applyPtpEvent_busy] at h
      exact absurd h Bool.false_ne_true
  · split
    · exact ⟨rfl, id⟩
    · refine ⟨rfl, fun h => ?_⟩
      rw [applyPtpEvent_busy] at h
      exact absurd h Bool.false_ne_true

theorem nikonEventsStep_calm (s : Session) (event : List UInt8) :
    Calm s (s.nikonEventsStep event).session := by
  unfold nikonEventsStep
  split
  · simp only [ask]
    split
    · exact ⟨rfl, id⟩
    · refine Calm.trans ?_ (nikonUpdate_calm _)
      refine ⟨rfl, fun h => ?_⟩
      simp only [foldl_applyPtpEvent_busy] at h
      exact h
  · exact (nikonPoll_calm s event).trans (nikonUpdate_calm _)

theorem askProperty_calm (s : Session) (p : NikonProperty) :
    Calm s (s.askProperty p).session := by
  simp only [askProperty, ask]
  split <;> exact ⟨rfl, id⟩

theorem describe_calm (s : Session) (p : NikonProperty) : Calm s (s.describe p) := by
  cases p with
  | iso =>
      refine ⟨rfl, fun h => ?_⟩
      simp only [describe, Camera.describeIso] at h
      split at h <;> exact h
  | aperture =>
      refine ⟨rfl, fun h => ?_⟩
      simp only [describe, Camera.describeAperture] at h
      split at h <;> exact h
  | shutter =>
      refine ⟨rfl, fun h => ?_⟩
      simp only [describe, Camera.describeShutter] at h
      split at h <;> exact h

theorem setFocus_calm (s : Session) (value : Nat) : Calm s (s.setFocus value).session := by
  unfold setFocus
  split <;> exact ⟨rfl, id⟩

theorem sonyEvent_calm (s : Session) (event : List UInt8) : Calm s (s.sonyEvent event) := by
  simp only [sonyEvent]
  split
  · exact ⟨rfl, fun h => absurd h Bool.false_ne_true⟩
  · split <;> exact ⟨rfl, id⟩

theorem sonyCheck_calm (s : Session) (event : List UInt8) :
    Calm s (s.sonyCheck event).session := by
  simp only [sonyCheck]
  split
  · exact (sonyEvent_calm s event).trans (sonyReadProperties_calm _)
  · exact sonyEvent_calm s event

theorem eosCheck_calm (s : Session) : Calm s s.eosCheck.session := by
  simp only [eosCheck, ask]
  split
  · exact ⟨rfl, id⟩
  · refine ⟨rfl, fun h => ?_⟩
    simp only [Bool.and_eq_true] at h
    exact h.1

/-- Only a Nikon that says it is not ready becomes busy by being asked. -/
theorem nikonCheck_seconds (s : Session) (event : List UInt8) :
    (s.nikonCheck event).session.busySeconds = s.busySeconds := by
  unfold nikonCheck
  split
  · simp only [ask]
    split <;> rfl
  · rfl

/-- What `checkEvent` remembers is what its time-out leaves. -/
theorem checkEvent_seconds (s : Session) (now : Nat) (event : List UInt8)
    (hready : s.camera.ready = true) (hbulb : s.camera.bulbOpen = false) :
    (s.checkEvent now event).session.busySeconds = (s.expireBusy now).busySeconds := by
  unfold checkEvent
  rw [if_neg (by rw [hready, hbulb]; decide)]
  simp only
  split
  · exact nikonCheck_seconds _ event
  · exact (sonyCheck_calm _ event).seconds
  · exact (eosCheck_calm _).seconds
  · rfl

/-- Only `checkEvent` touches the second remembered, or makes the camera busy. -/
theorem step_calm (s : Session) (l : Label) (o : Outcome)
    (hl : ∀ now event, l ≠ .checkEvent now event) (h : s.step l = some o) :
    Calm s o.session := by
  unfold step at h
  cases htask : s.task with
  | idle =>
      rw [htask] at h
      cases l with
      | checkEvent now event => exact absurd rfl (hl now event)
      | setFocus value =>
          cases h
          exact setFocus_calm s value
      | readProperties =>
          cases h
          exact sonyReadProperties_calm s
      | init protocol supports =>
          cases h
          exact ⟨rfl, fun h => absurd h Bool.false_ne_true⟩
      | close =>
          cases h
          exact ⟨rfl, fun h => absurd h Bool.false_ne_true⟩
      | proceed => exact absurd h (by simp only [reduceCtorEq, not_false_eq_true])
      | _ =>
          cases h
          exact ⟨rfl, id⟩
  | _ =>
      rw [htask] at h
      cases l with
      | proceed =>
          cases h
          first
            | exact nikonEventsStep_calm s _
            | exact askProperty_calm s _
            | exact describe_calm s _
            | exact eosStep_calm s _ _
            | exact sonyStep_calm s _ _
      | _ => exact absurd h (by simp only [reduceCtorEq, not_false_eq_true])

/-- The time-out drops the flag of a busy camera when a second is remembered that is
    five seconds ago. -/
theorem expireBusy_busy (s : Session) (now : Nat) (hbusy : s.camera.busy = true) :
    (s.expireBusy now).camera.busy = false ↔
      s.busySeconds ≠ 0 ∧ busyTimeoutSeconds ≤ sub32 now s.busySeconds := by
  unfold expireBusy
  rw [if_pos hbusy]
  by_cases hzero : s.busySeconds ≠ 0
  · rw [if_pos hzero]
    by_cases hlong : busyTimeoutSeconds ≤ sub32 now s.busySeconds
    · rw [if_pos hlong]
      exact iff_of_true rfl ⟨hzero, hlong⟩
    · rw [if_neg hlong, hbusy]
      exact iff_of_false (fun h => Bool.false_ne_true h.symm) (fun h => hlong h.2)
  · rw [if_neg hzero]
    exact iff_of_false (fun h => Bool.false_ne_true (h.symm.trans hbusy)) (fun h => hzero h.1)

/-- What the time-out remembers of a busy camera: nothing once it drops the flag, this
    second when it has none yet, and else what it did. -/
theorem expireBusy_seconds (s : Session) (now : Nat) (hbusy : s.camera.busy = true) :
    (s.expireBusy now).busySeconds =
      if (s.expireBusy now).camera.busy = false then 0
      else if s.busySeconds = 0 then now else s.busySeconds := by
  unfold expireBusy
  rw [if_pos hbusy]
  by_cases hzero : s.busySeconds ≠ 0
  · rw [if_pos hzero]
    by_cases hlong : busyTimeoutSeconds ≤ sub32 now s.busySeconds
    · rw [if_pos hlong, if_pos rfl]
    · rw [if_neg hlong, hbusy, if_neg (fun h => Bool.false_ne_true h.symm), if_neg hzero]
  · rw [if_neg hzero, if_neg (fun h => Bool.false_ne_true (h.symm.trans hbusy)),
      if_pos (not_not.mp hzero)]

/-- The time-out leaves a camera alone that is not busy. -/
theorem expireBusy_of_ready (s : Session) (now : Nat) (hbusy : s.camera.busy = false) :
    s.expireBusy now = s := by
  unfold expireBusy
  rw [if_neg (by rw [hbusy]; exact Bool.false_ne_true)]

end Session

/-- A session, the clock's seconds, and, while the camera is busy, the seconds it
    has been so without a break and those since `checkEvent` first saw it. -/
structure Timed where
  session : Session
  seconds : Nat
  age : Nat
  watched : Option Nat

/-- What can happen: a second passes; the clock is reset; a capture makes the camera
    busy; a bulb is opened or closed; `checkEvent` is called; the session takes
    another step. -/
inductive Happening
  | second
  | reset
  | capture
  | bulb (isOpen : Bool)
  | checkEvent (event : List UInt8)
  | call (l : Label)

namespace Timed

/-- `checkEvent` looks at the busy flag. -/
def Looks (s : Timed) : Prop :=
  s.session.camera.ready = true ∧ s.session.camera.bulbOpen = false ∧
    s.session.camera.busy = true

instance (s : Timed) : Decidable s.Looks := inferInstanceAs (Decidable (_ ∧ _ ∧ _))

/-- A call of `checkEvent` would drop the flag by its time-out. -/
def Drops (s : Timed) : Prop :=
  s.Looks ∧ (s.session.expireBusy s.seconds).camera.busy = false

instance (s : Timed) : Decidable s.Drops := inferInstanceAs (Decidable (_ ∧ _))

/-- The session has gone on. Only a camera busy before and after has been busy
    without a break. -/
def goesOn (s : Timed) (session : Session) : Timed :=
  if s.session.camera.busy = true ∧ session.camera.busy = true then { s with session := session }
  else { s with session := session, age := 0, watched := none }

/-- `checkEvent` has looked: it has dropped the flag, or watches from now on. -/
def looked (s : Timed) : Timed :=
  if s.Drops then { s with age := 0, watched := none }
  else if s.Looks then { s with watched := some (s.watched.getD 0) }
  else s

/-- One step. -/
def step (s : Timed) : Happening → Option Timed
  | .second =>
    some { s with
      seconds := u32 (s.seconds + 1)
      age := s.age + 1
      watched := s.watched.map (· + 1) }
  | .reset => some { s with seconds := 0 }
  | .capture =>
    if s.session.camera.ready then
      some (s.goesOn { s.session with camera.busy := true })
    else none
  | .bulb isOpen => some { s with session.camera.bulbOpen := isOpen }
  | .checkEvent event =>
    (s.session.step (.checkEvent s.seconds event)).map fun o => s.looked.goesOn o.session
  | .call (.checkEvent _ _) => none
  | .call l => (s.session.step l).map fun o => s.goesOn o.session

/-- The time-out drops the flag only when the camera has been busy for five seconds,
    and does drop it when it has been watched for as long. -/
def Kept (s : Timed) : Prop :=
  (s.Drops → busyTimeoutSeconds ≤ s.age) ∧
    (s.Looks → (∃ n, s.watched = some n ∧ busyTimeoutSeconds ≤ n) → s.Drops)

/-- No second is remembered when the camera becomes busy or the clock is reset under
    a busy one, and none is to be remembered that is second zero. -/
def Clean (s : Timed) : Happening → Prop
  | .second => s.seconds + 1 < 4294967296
  | .reset => s.session.camera.busy = true → s.session.busySeconds = 0
  | .capture => s.session.camera.busy = false → s.session.busySeconds = 0
  | .bulb _ => True
  | .checkEvent event =>
    (s.Looks → s.session.busySeconds = 0 → s.seconds ≠ 0) ∧
      (s.session.camera.busy = false →
        (s.session.checkEvent s.seconds event).session.camera.busy = true →
          s.session.busySeconds = 0)
  | .call _ => True

instance (s : Timed) (h : Happening) : Decidable (s.Clean h) :=
  match h with
  | .second => inferInstanceAs (Decidable (_ < _))
  | .reset => inferInstanceAs (Decidable (_ → _))
  | .capture => inferInstanceAs (Decidable (_ → _))
  | .bulb _ => inferInstanceAs (Decidable True)
  | .checkEvent _ => inferInstanceAs (Decidable ((_ → _ → _) ∧ (_ → _ → _)))
  | .call _ => inferInstanceAs (Decidable True)

/-- What clean steps keep: while the camera is busy, the second remembered is the
    one it was first seen in, and it was not seen before it was busy. -/
structure Following (s : Timed) : Prop where
  small : s.seconds < 4294967296
  unseen : s.session.camera.busy = true → s.watched = none → s.session.busySeconds = 0
  seen : s.session.camera.busy = true → ∀ n, s.watched = some n →
    s.session.busySeconds ≠ 0 ∧ s.session.busySeconds + n = s.seconds ∧ n ≤ s.age

/-- The time-out as it is while the second remembered is true. -/
theorem Following.drops_iff {s : Timed} (h : s.Following) :
    s.Drops ↔ s.Looks ∧ ∃ n, s.watched = some n ∧ busyTimeoutSeconds ≤ n := by
  unfold Drops
  refine and_congr_right fun hlooks => ?_
  have hbusy := hlooks.2.2
  rw [Session.expireBusy_busy _ _ hbusy]
  cases hw : s.watched with
  | none =>
      have hzero := h.unseen hbusy hw
      constructor
      · rintro ⟨hne, -⟩
        exact absurd hzero hne
      · rintro ⟨n, hn, -⟩
        exact absurd hn (by simp only [reduceCtorEq, not_false_eq_true])
  | some n =>
      obtain ⟨hne, hclock, -⟩ := h.seen hbusy n hw
      have hsub : sub32 s.seconds s.session.busySeconds = n := by
        rw [sub32_of_le h.small (by omega)]
        omega
      rw [hsub]
      constructor
      · rintro ⟨-, hlong⟩
        exact ⟨n, rfl, hlong⟩
      · rintro ⟨m, hm, hlong⟩
        rw [← Option.some.inj hm] at hlong
        exact ⟨hne, hlong⟩

/-- While the second remembered is true the time-out is kept. -/
theorem Following.kept {s : Timed} (h : s.Following) : s.Kept := by
  constructor
  · intro hdrops
    obtain ⟨hlooks, n, hn, hlong⟩ := h.drops_iff.mp hdrops
    exact hlong.trans (h.seen hlooks.2.2 n hn).2.2
  · intro hlooks hwatched
    exact h.drops_iff.mpr ⟨hlooks, hwatched⟩

/-- The session has gone on, and the second remembered with it. -/
theorem goesOn_following {s : Timed} {session : Session} (hs : s.Following)
    (hsame : s.session.camera.busy = true → session.camera.busy = true →
      session.busySeconds = s.session.busySeconds)
    (hnew : s.session.camera.busy = false → session.camera.busy = true →
      session.busySeconds = 0) : (s.goesOn session).Following := by
  unfold goesOn
  by_cases hboth : s.session.camera.busy = true ∧ session.camera.busy = true
  · rw [if_pos hboth]
    have heq := hsame hboth.1 hboth.2
    exact
      { small := hs.small
        unseen := by
          intro hbusy hnone
          exact heq.trans (hs.unseen hboth.1 hnone)
        seen := by
          intro hbusy n hn
          have := hs.seen hboth.1 n hn
          simp only
          rw [heq]
          exact this }
  · rw [if_neg hboth]
    refine ⟨hs.small, ?_, ?_⟩
    · intro hbusy _
      refine hnew ?_ hbusy
      exact Bool.not_eq_true _ ▸ fun h => hboth ⟨h, hbusy⟩
    · intro _ n hn
      exact absurd hn (by simp only [reduceCtorEq, not_false_eq_true])

/-- What is remembered once `checkEvent` has looked at a busy camera. -/
theorem looked_following {s : Timed} (hs : s.Following) (hlooks : s.Looks)
    (hfirst : s.session.busySeconds = 0 → s.seconds ≠ 0) {session : Session}
    (hseconds : session.busySeconds = (s.session.expireBusy s.seconds).busySeconds) :
    (s.looked.goesOn session).Following := by
  have hbusy := hlooks.2.2
  rw [Session.expireBusy_seconds _ _ hbusy] at hseconds
  have hsession : s.looked.session = s.session := by
    unfold looked
    split_ifs <;> rfl
  unfold goesOn
  rw [hsession]
  by_cases hagain : session.camera.busy = true
  · rw [if_pos ⟨hbusy, hagain⟩]
    by_cases hdrops : s.Drops
    · -- The flag was dropped, and the camera says that it is busy still.
      rw [if_pos hdrops.2] at hseconds
      simp only [looked, if_pos hdrops]
      exact
        { small := hs.small
          unseen := fun _ _ => hseconds
          seen := fun _ n hn => absurd hn (by simp only [reduceCtorEq, not_false_eq_true]) }
    · have hkeeps : ¬ (s.session.expireBusy s.seconds).camera.busy = false :=
        fun h => hdrops ⟨hlooks, h⟩
      rw [if_neg hkeeps] at hseconds
      simp only [looked, if_neg hdrops, if_pos hlooks]
      refine ⟨hs.small, fun _ h => absurd h (by simp only [reduceCtorEq, not_false_eq_true]), ?_⟩
      intro _ n hn
      rw [Option.some.injEq] at hn
      cases hw : s.watched with
      | none =>
          -- The camera is seen for the first time, in this second.
          have hzero := hs.unseen hbusy hw
          rw [if_pos hzero] at hseconds
          rw [hw, Option.getD_none] at hn
          have := hfirst hzero
          simp only
          omega
      | some m =>
          obtain ⟨hne, hclock, hage⟩ := hs.seen hbusy m hw
          rw [if_neg hne] at hseconds
          rw [hw, Option.getD_some] at hn
          simp only
          omega
  · rw [if_neg fun h => hagain h.2]
    refine ⟨?_, fun h => absurd h hagain, fun h => absurd h hagain⟩
    simp only [looked]
    split_ifs <;> exact hs.small

/-- A call of `checkEvent`. -/
theorem checkEvent_following {s t : Timed} (event : List UInt8) (hs : s.Following)
    (hclean : s.Clean (.checkEvent event)) (hstep : s.step (.checkEvent event) = some t) :
    t.Following := by
  rcases Option.map_eq_some_iff.mp hstep with ⟨o, ho, rfl⟩
  have hidle : o = s.session.checkEvent s.seconds event := by
    unfold Session.step at ho
    split at ho <;> simp_all only [Label.checkEvent.injEq, Option.some.injEq, reduceCtorEq]
  by_cases hlooks : s.Looks
  · refine looked_following hs hlooks (hclean.1 hlooks) ?_
    rw [hidle]
    exact Session.checkEvent_seconds _ _ event hlooks.1 hlooks.2.1
  · have hlooked : s.looked = s := by
      unfold looked
      rw [if_neg fun h => hlooks h.1, if_neg hlooks]
    rw [hlooked]
    by_cases hcalls : s.session.camera.ready = false ∨ s.session.camera.bulbOpen = true
    · -- The call returns at once.
      have hsession : o.session = s.session := by
        rw [hidle, Session.checkEvent, if_pos hcalls]
        rfl
      rw [hsession]
      refine goesOn_following hs (fun _ _ => rfl) ?_
      intro h h'
      exact absurd (h.symm.trans h') Bool.false_ne_true
    · rw [not_or, Bool.not_eq_false, Bool.not_eq_true] at hcalls
      have hready : s.session.camera.busy = false := by
        rw [← Bool.not_eq_true]
        exact fun h => hlooks ⟨hcalls.1, hcalls.2, h⟩
      refine goesOn_following hs (fun h => absurd (hready.symm.trans h) Bool.false_ne_true) ?_
      intro _ hnew
      rw [hidle] at hnew ⊢
      rw [Session.checkEvent_seconds _ _ event hcalls.1 hcalls.2,
        Session.expireBusy_of_ready _ _ hready]
      exact hclean.2 hready hnew

/-- A clean step keeps the second remembered true. -/
theorem step_following {s t : Timed} (h : Happening) (hs : s.Following) (hclean : s.Clean h)
    (hstep : s.step h = some t) : t.Following := by
  cases h with
  | second =>
      obtain rfl := Option.some.inj hstep
      have hclock : u32 (s.seconds + 1) = s.seconds + 1 := u32_of_lt hclean
      refine ⟨u32_lt _, ?_, ?_⟩
      · intro hbusy hnone
        exact hs.unseen hbusy (Option.map_eq_none_iff.mp hnone)
      · intro hbusy n hn
        obtain ⟨m, hm, rfl⟩ := Option.map_eq_some_iff.mp hn
        have := hs.seen hbusy m hm
        simp only [hclock]
        omega
  | reset =>
      obtain rfl := Option.some.inj hstep
      refine ⟨(by decide : 0 < 4294967296), hs.unseen, ?_⟩
      -- Under a busy camera there is nothing to be remembered.
      intro hbusy n hn
      exact absurd (hclean hbusy) (hs.seen hbusy n hn).1
  | capture =>
      simp only [step] at hstep
      split at hstep
      · obtain rfl := Option.some.inj hstep
        exact goesOn_following hs (fun _ _ => rfl) (fun hready _ => hclean hready)
      · exact absurd hstep (by simp only [reduceCtorEq, not_false_eq_true])
  | bulb isOpen =>
      obtain rfl := Option.some.inj hstep
      exact ⟨hs.small, hs.unseen, hs.seen⟩
  | checkEvent event => exact checkEvent_following event hs hclean hstep
  | call l =>
      have hcall : ∃ o, s.session.step l = some o ∧ s.goesOn o.session = t ∧
          ∀ now event, l ≠ .checkEvent now event := by
        unfold step at hstep
        cases l with
        | checkEvent now event =>
            exact absurd hstep (by simp only [reduceCtorEq, not_false_eq_true])
        | _ =>
            rcases Option.map_eq_some_iff.mp hstep with ⟨o, ho, heq⟩
            refine ⟨o, ho, heq, fun now event => ?_⟩
            simp only [ne_eq, reduceCtorEq, not_false_eq_true]
      obtain ⟨o, ho, rfl, hl⟩ := hcall
      have hcalm := Session.step_calm s.session l o hl ho
      refine goesOn_following hs (fun _ _ => hcalm.seconds) ?_
      intro hready hbusy
      exact absurd ((hcalm.busy hbusy).symm.trans hready) (by decide)

/-- In a run whose steps are clean, from a camera that is not busy, the time-out is
    kept. -/
theorem run_timeout (session : Session) (seconds : Nat) (hready : session.camera.busy = false)
    (hsmall : seconds < 4294967296) (s : Timed)
    (h : Run step Clean ⟨session, seconds, 0, none⟩ s) : s.Kept := by
  refine (h.invariant Following (fun _ l _ hs hclean hstep => step_following l hs hclean hstep)
    ⟨hsmall, ?_, ?_⟩).kept
  · intro hbusy
    exact absurd (hbusy.symm.trans hready) (by decide)
  · intro hbusy
    exact absurd (hbusy.symm.trans hready) (by decide)

/-- A Sony camera at rest. -/
def sonySession : Session where
  camera := { Camera.fresh .sony with needUpdate := false }
  driver := Driver.idle []
  task := .idle
  count := 0
  busySeconds := 0

/-- A capture whose event does not come is dropped after five seconds. -/
theorem run_timeout_sony : ∃ s, Run step Clean ⟨sonySession, 0, 0, none⟩ s ∧ s.Drops ∧ s.Kept := by
  have hallowed : allowed step Clean ⟨sonySession, 0, 0, none⟩
      [.second, .capture, .checkEvent [], .second, .second, .second, .second, .second] = true := rfl
  have hdrops : (steps step ⟨sonySession, 0, 0, none⟩
      [.second, .capture, .checkEvent [], .second, .second, .second, .second, .second]).map
        (fun s => decide s.Drops) = some true := rfl
  rcases run_of_allowed _ hallowed with ⟨s, hsteps, hrun⟩
  rw [hsteps, Option.map_some, Option.some.injEq, decide_eq_true_eq] at hdrops
  exact ⟨s, hrun, hdrops, run_timeout sonySession 0 rfl (by decide) s hrun⟩

/-- The header of the event that an object has been created. -/
def objectCreated : List UInt8 := [12, 0, 0, 0, 4, 0, 0x02, 0xC2, 0, 0, 0, 0]

/-- A capture ends well, and five seconds later there is the next. Its first call of
    `checkEvent` drops the flag, in the second it was set. -/
theorem timeout_stale : ∃ s, Run step (fun _ _ => True) ⟨sonySession, 0, 0, none⟩ s ∧
    ¬ s.Kept := by
  have hlate : (steps step ⟨sonySession, 0, 0, none⟩
      [.second, .capture, .checkEvent [], .checkEvent objectCreated, .second, .second, .second,
        .second, .second, .capture]).map (fun s => (decide s.Drops, s.age)) = some (true, 0) := rfl
  rcases Option.map_eq_some_iff.mp hlate with ⟨s, hsteps, hage⟩
  rw [Prod.mk.injEq, decide_eq_true_eq] at hage
  refine ⟨s, run_of_steps _ hsteps, fun hkept => ?_⟩
  have hlong := hkept.1 hage.1
  rw [hage.2] at hlong
  exact absurd hlong (by decide)

end Timed

end Ptp

end TimelapsePlus
