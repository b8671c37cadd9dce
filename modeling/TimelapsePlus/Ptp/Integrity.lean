import TimelapsePlus.Lib.Run
import TimelapsePlus.Ptp.Transaction

/-!
# Transaction Integrity

Which sessions keep the driver's transactions their own. A transaction made
while bytes of an earlier reply remain fetches those instead, so it is a matter
of which calls leave bytes behind: a parser that returns early while data
remain, or a caller that takes a long reply for an error. The flag that makes
the next transaction ignore errors is left behind by a call made while the
driver refuses to make any.

The condition is on the camera's answers. Each is made of whole containers, a
reply that is not parsed piece by piece fits the buffer, and where a parser
meets something it returns early at, no data remain.

## Main definitions

* `Frame.AtZeroSize`, `SonyFrame.AtBadProperty`: Where the parsers return early.
* `Session.Clean`: A step meets the condition.
* `Session.Sound`: What every such step preserves.

## Theorems

* `step_keeps`: A step that meets the condition.
* `run_integrity`: A run of them.
* `capture_not_sent`: A capture that was never sent succeeds.
-/

namespace TimelapsePlus

namespace Ptp

open Word Usb

/-- The Canon parser is at an event of size zero. -/
def Frame.AtZeroSize (f : Frame) : Prop :=
  ∃ i, f.phase = .events i ∧ i < f.driver.bytesReceived ∧ i + 4 < bufferSize ∧
    le32 f.driver.buffer i = 0

/-- The Sony loop is at a property it cannot read. -/
def SonyFrame.AtBadProperty (f : SonyFrame) : Prop :=
  f.i < f.driver.bytesReceived ∧ ¬ (f.ret = .dataRemaining ∧ bufferSize / 2 < f.i) ∧
    ∃ err, sonyProperty f.driver.buffer f.i = .error err

/-- Where the parsers go on from a fetch. -/
structure Going (d : Driver) (ret : Ret) : Prop where
  synced : Synced d
  flag : d.ignoreErrors = false
  more : 0 < d.bytesRemaining → ret = .dataRemaining

/-- Where a call leaves the driver when it returns. -/
structure Rested (d : Driver) : Prop where
  synced : Synced d
  flag : d.ignoreErrors = false
  remaining : d.bytesRemaining = 0

/-- What a turn of the Canon parser leaves. -/
def TurnKeeps : Except (Nat × Driver) Frame → Prop
  | .ok f => Going f.driver f.ret
  | .error (_, d) => Rested d

theorem Going.of_settled {r : Ret × Driver} (h : Settled r) : Going r.2 r.1 :=
  ⟨h.synced, h.flag, h.more.mpr⟩

theorem Settled.rest {r : Ret × Driver} (h : Settled r) (hne : r.1 ≠ .dataRemaining) :
    r.2.bytesRemaining = 0 := by
  by_cases hpos : 0 < r.2.bytesRemaining
  · exact absurd (h.more.mpr hpos) hne
  · omega

/-- A fetch that a parser makes. -/
theorem fetchData_settled (d : Driver) (offset : Nat) (hs : Synced d)
    (hflag : d.ignoreErrors = false) (hoff : offset < bufferSize) :
    Settled (d.fetchData offset) := by
  have hflag' : (d.fetchData offset).2.ignoreErrors = false :=
    (Driver.fetchData_frame d offset).2.1.trans hflag
  by_cases hrem : 0 < d.bytesRemaining
  · rcases fetchData_synced d offset hs hrem hoff with ⟨hsynced, hmore⟩
    exact ⟨hsynced, hmore, hflag'⟩
  · rw [Driver.fetchData_of_remaining_zero d offset (by omega)] at hflag' ⊢
    exact ⟨hs, iff_of_false (by simp only [reduceCtorEq, not_false_eq_true]) hrem, hflag'⟩

/-- A turn of the Canon parser keeps the driver's place, and returns with no
    bytes remaining unless it is at an event of size zero. -/
theorem turn_going (f : Frame) (h : Going f.driver f.ret)
    (hclean : f.AtZeroSize → f.driver.bytesRemaining = 0) :
    TurnKeeps f.turn.next := by
  rcases f with ⟨phase, ret, d⟩
  have hrest : ret ≠ .dataRemaining → d.bytesRemaining = 0 := fun hne => by
    by_cases hpos : 0 < d.bytesRemaining
    · exact absurd (h.more hpos) hne
    · omega
  have hfetch : ∀ offset top, offset < bufferSize →
      TurnKeeps (Frame.fetch ⟨phase, ret, d⟩ offset top).next := by
    intro offset top hoff
    have hsettled := fetchData_settled d offset h.synced h.flag hoff
    unfold Frame.fetch
    by_cases herr : (d.fetchData offset).1 = .error
    · simp only [if_pos herr]
      exact ⟨hsettled.synced, hsettled.flag, hsettled.rest (by rw [herr]; decide)⟩
    · simp only [if_neg herr]
      exact .of_settled hsettled
  cases phase with
  | next =>
      simp only [Frame.turn]
      by_cases hmore : ret = .dataRemaining
      · simp only [if_pos hmore]
        exact hfetch 0 0 (by decide)
      · simp only [if_neg hmore]
        exact ⟨h.synced, h.flag, hrest hmore⟩
  | skip eventSize =>
      simp only [Frame.turn]
      by_cases hskip : bufferSize < eventSize ∧ ret = .dataRemaining
      · simp only [if_pos hskip]
        exact .of_settled (fetchData_settled d 0 h.synced h.flag (by decide))
      · simp only [if_neg hskip]
        exact h
  | scan i =>
      simp only [Frame.turn]
      by_cases hmore : ret = .dataRemaining
      · simp only [if_pos hmore]
        cases firstNonZero d.buffer (d.bytesReceived - u16 i) (u16 i) with
        | some x => exact h
        | none => exact .of_settled (fetchData_settled d 0 h.synced h.flag (by decide))
      · simp only [if_neg hmore]
        exact h
  | events i =>
      simp only [Frame.turn, Frame.eventsTurn]
      by_cases hend : d.bytesReceived ≤ i
      · simp only [if_pos hend]
        exact h
      simp only [if_neg hend]
      by_cases hcut : bufferSize ≤ i + 4
      · simp only [if_pos hcut]
        by_cases hmore : ret = .dataRemaining
        · simp only [if_pos hmore]
          exact hfetch _ _ (by unfold bufferSize at *; omega)
        · simp only [if_neg hmore]
          exact ⟨h.synced, h.flag, hrest hmore⟩
      simp only [if_neg hcut]
      by_cases hzero : le32 d.buffer i = 0
      · simp only [if_pos hzero]
        exact ⟨h.synced, h.flag, hclean ⟨i, rfl, Nat.lt_of_not_le hend, Nat.lt_of_not_le hcut,
          hzero⟩⟩
      simp only [if_neg hzero]
      by_cases hlong : bufferSize < u32 (le32 d.buffer i + i)
      · simp only [if_pos hlong]
        by_cases hmore : ret = .dataRemaining
        · simp only [if_pos hmore]
          by_cases hbig : bufferSize < le32 d.buffer i
          · simp only [if_pos hbig]
            exact h
          · simp only [if_neg hbig]
            -- An event at the start of the buffer would fit.
            have hpos : 0 < i := by
              by_contra hnot
              have hi : i = 0 := by omega
              rw [hi, Nat.add_zero, u32_of_lt (le32_lt d.buffer 0)] at hlong
              rw [hi] at hbig
              omega
            exact hfetch _ _ (by unfold bufferSize; omega)
        · simp only [if_neg hmore]
          exact ⟨h.synced, h.flag, hrest hmore⟩
      · simp only [if_neg hlong]
        exact h

/-- A turn of the Sony loop keeps the driver's place, and returns with no bytes
    remaining unless it is at a property it cannot read. -/
theorem sonyTurn_going (f : SonyFrame) (c : Camera) (h : Going f.driver f.ret)
    (hi : 0 < f.driver.bytesRemaining → f.i < bufferSize)
    (hclean : f.AtBadProperty → f.driver.bytesRemaining = 0) :
    match f.turn c with
    | .ok (f', _) => Going f'.driver f'.ret ∧ (0 < f'.driver.bytesRemaining → f'.i < bufferSize)
    | .error (_, d) => Rested d := by
  rcases f with ⟨i, ret, d⟩
  have hreceived := h.synced.received
  simp only at h hi hreceived
  simp only [SonyFrame.turn]
  by_cases hend : d.bytesReceived ≤ i
  · simp only [if_pos hend]
    refine ⟨h.synced, h.flag, ?_⟩
    by_cases hpos : 0 < d.bytesRemaining
    · have hfull := hreceived hpos
      have hlt := hi hpos
      omega
    · omega
  simp only [if_neg hend]
  by_cases hfetch : ret = .dataRemaining ∧ bufferSize / 2 < i
  · have hsettled := fetchData_settled d (bufferSize - i) h.synced h.flag
      (by unfold bufferSize at *; omega)
    simp only [if_pos hfetch]
    by_cases herr : (d.fetchData (bufferSize - i)).1 = .error
    · simp only [if_pos herr]
      exact ⟨hsettled.synced, hsettled.flag, hsettled.rest (by rw [herr]; decide)⟩
    · simp only [if_neg herr]
      exact ⟨.of_settled hsettled, fun _ => by decide⟩
  simp only [if_neg hfetch]
  cases hp : sonyProperty d.buffer i with
  | error err =>
      exact ⟨h.synced, h.flag, hclean ⟨Nat.lt_of_not_le hend, hfetch, err, hp⟩⟩
  | ok r =>
      rcases r with ⟨p, next⟩
      refine ⟨h, fun hpos => ?_⟩
      -- While data remain a property is read from the first half of the buffer.
      have hhalf : i ≤ bufferSize / 2 := by
        by_contra hlt
        exact hfetch ⟨h.more hpos, by omega⟩
      have hnext := sonyProperty_next_le hp
      simp only
      unfold bufferSize at *
      omega

namespace Session

/-- The calls that read a long reply piece by piece. -/
def Parses (s : Session) (l : Label) : Prop :=
  match s.task, l with
  | .idle, .checkEvent _ _ => True
  | .idle, .readProperties => True
  | _, _ => False

/-- A step meets the condition: the transaction it makes is answered with whole
    containers, which hold no more than a buffer of data unless they are read
    piece by piece; it does not ask for errors to be ignored while the driver
    makes no transactions; a parser does not come to where it returns early
    while data remain; and the hardware comes up with nothing on the pipe. -/
def Clean (s : Session) (l : Label) : Prop :=
  (∀ o q, s.step l = some o → o.request = some q → q.Answered ∧
    (q.before.ignoreErrors = true → q.before.error = 0) ∧ (¬ s.Parses l → q.Short)) ∧
  match s.task, l with
  | .idle, .enable usb => usb.packets = []
  | .eos phase ret, .proceed =>
      (Frame.mk phase ret s.driver).AtZeroSize → s.driver.bytesRemaining = 0
  | .sony i ret, .proceed =>
      (SonyFrame.mk i ret s.driver).AtBadProperty → s.driver.bytesRemaining = 0
  | _, _ => True

/-- What every step that meets the condition preserves. -/
structure Sound (s : Session) : Prop where
  synced : Synced s.driver
  flag : s.driver.ignoreErrors = false
  rest : match s.task with
    | .eos _ ret => 0 < s.driver.bytesRemaining → ret = .dataRemaining
    | .sony i ret => 0 < s.driver.bytesRemaining → ret = .dataRemaining ∧ i < bufferSize
    | _ => s.driver.bytesRemaining = 0

/-- A driver at rest is sound, whatever the task. -/
theorem Sound.of_rested {s : Session} (h : Rested s.driver) : s.Sound where
  synced := h.synced
  flag := h.flag
  rest := by
    have hrem := h.remaining
    cases s.task with
    | eos phase ret => exact fun hpos => absurd hpos (by omega)
    | sony i ret => exact fun hpos => absurd hpos (by omega)
    | _ => exact hrem

theorem Sound.rested {s : Session} (h : s.Sound) (heos : ∀ phase ret, s.task ≠ .eos phase ret)
    (hsony : ∀ i ret, s.task ≠ .sony i ret) : Rested s.driver where
  synced := h.synced
  flag := h.flag
  remaining := by
    have hrest := h.rest
    cases htask : s.task with
    | eos phase ret => exact absurd htask (heos phase ret)
    | sony i ret => exact absurd htask (hsony i ret)
    | _ =>
        rw [htask] at hrest
        exact hrest

/-- A step did what it was asked for, and left the session sound. -/
structure Keeps (o : Outcome) : Prop where
  sound : o.session.Sound
  own : ∀ q, o.request = some q → q.run.1 ≠ .error → q.Own

/-- The transaction of a step meets the condition. -/
def Asks (parses : Prop) (o : Outcome) : Prop :=
  ∀ q, o.request = some q → q.Answered ∧
    (q.before.ignoreErrors = true → q.before.error = 0) ∧ (¬ parses → q.Short)

theorem quiet_keeps (s : Session) (h : s.Sound) : Keeps s.quiet :=
  ⟨h, fun _ hq => absurd hq (by simp only [quiet, reduceCtorEq, not_false_eq_true])⟩

section Ask

variable (s : Session) (opCode : Nat) (receive : Bool) (params : List Nat) (data : List UInt8)
  (next : Ret → Session → Session)

theorem ask_keeps (hs : Synced s.driver) (hrem : s.driver.bytesRemaining = 0) {parses : Prop}
    (hasks : Asks parses (s.ask opCode receive params data next))
    (hnext : ∀ ret d, Settled (ret, d) → (receive = false ∨ ¬ parses → d.bytesRemaining = 0) →
      (next ret { s with driver := d }).Sound) :
    Keeps (s.ask opCode receive params data next) := by
  rcases hasks _ rfl with ⟨hanswered, hflag, hshort⟩
  have hspec := Request.run_spec ⟨s.driver, opCode, receive, params, data⟩ hs hrem hanswered hflag
  refine ⟨hnext _ _ hspec.settled fun h => hspec.rest (h.imp_right hshort), fun q hq => ?_⟩
  have hsame : (⟨s.driver, opCode, receive, params, data⟩ : Request) = q := by
    simpa only [ask, Option.some.injEq] using hq
  rw [← hsame]
  exact hspec.own

/-- A step that only looks at what the transaction returns. -/
theorem ask_keeps_of_short (hs : Synced s.driver) (hrem : s.driver.bytesRemaining = 0)
    {parses : Prop} (hasks : Asks parses (s.ask opCode receive params data next))
    (hshort : receive = false ∨ ¬ parses) (hnext : ∀ ret t, (next ret t).driver = t.driver) :
    Keeps (s.ask opCode receive params data next) :=
  ask_keeps s opCode receive params data next hs hrem hasks fun ret d hsettled hzero =>
    .of_rested (by
      rw [hnext]
      exact ⟨hsettled.synced, hsettled.flag, hzero hshort⟩)

end Ask

theorem nikonUpdate_driver (s : Session) : s.nikonUpdate.driver = s.driver := by
  unfold nikonUpdate
  split
  · rfl
  · rfl

/-- Reading the event pipe leaves everything but the container alone. -/
theorem getEvent_rested (d : Driver) (event : List UInt8) (h : Rested d) :
    Rested (d.getEvent event).2 := by
  unfold Driver.getEvent
  split
  · exact h
  · exact ⟨h.synced.congr rfl rfl rfl rfl, h.flag, h.remaining⟩

theorem nikonPoll_driver (s : Session) (event : List UInt8) :
    (s.nikonPoll event).driver = (s.driver.getEvent event).2 := by
  have hcount : (if 10 < s.count then { s with camera.needUpdate := true, count := 0 }
      else { s with count := u8 (s.count + 1) }).driver = s.driver := by
    split
    · rfl
    · rfl
  unfold nikonPoll
  generalize (if 10 < s.count then { s with camera.needUpdate := true, count := 0 }
    else { s with count := u8 (s.count + 1) }) = t at hcount
  rw [← hcount]
  simp only
  split
  · rfl
  · rfl

theorem nikonCheck_keeps (s : Session) (event : List UInt8) (h : Rested s.driver)
    (hasks : Asks True (s.nikonCheck event)) : Keeps (s.nikonCheck event) := by
  unfold nikonCheck at hasks ⊢
  split at hasks
  · rename_i hready
    rw [if_pos hready]
    refine ask_keeps_of_short _ _ _ _ _ _ (h.synced.congr rfl rfl rfl rfl) h.remaining hasks
      (.inl rfl) fun ret t => ?_
    split
    · rfl
    · rfl
  · rename_i hready
    rw [if_neg hready]
    exact quiet_keeps _ (.of_rested h)

theorem nikonEventsStep_keeps (s : Session) (event : List UInt8) (h : Rested s.driver)
    (hasks : Asks False (s.nikonEventsStep event)) : Keeps (s.nikonEventsStep event) := by
  unfold nikonEventsStep at hasks ⊢
  split at hasks
  · rename_i hevent
    rw [if_pos hevent]
    refine ask_keeps_of_short _ _ _ _ _ _ h.synced h.remaining hasks (.inr id) fun ret t => ?_
    split
    · rfl
    · exact nikonUpdate_driver _
  · rename_i hevent
    rw [if_neg hevent]
    refine quiet_keeps _ (.of_rested ?_)
    rw [nikonUpdate_driver, nikonPoll_driver]
    exact getEvent_rested _ _ h

theorem askProperty_keeps (s : Session) (p : NikonProperty) (h : Rested s.driver)
    (hasks : Asks False (s.askProperty p)) : Keeps (s.askProperty p) := by
  refine ask_keeps_of_short _ _ _ _ _ _ h.synced h.remaining hasks (.inr id) fun ret t => ?_
  split
  · rfl
  · rfl

theorem sonyReadProperties_keeps (s : Session) (h : Rested s.driver)
    (hasks : Asks True s.sonyReadProperties) : Keeps s.sonyReadProperties := by
  refine ask_keeps _ _ _ _ _ _ h.synced h.remaining hasks fun ret d hsettled _ => ?_
  have hmore : 0 < d.bytesRemaining → ret = .dataRemaining := hsettled.more.mpr
  split
  · rename_i herr
    refine .of_rested ⟨hsettled.synced, hsettled.flag, hsettled.rest ?_⟩
    simp only [herr, ne_eq, reduceCtorEq, not_false_eq_true]
  · exact ⟨hsettled.synced, hsettled.flag, fun hpos => ⟨hmore hpos, by decide⟩⟩

theorem sonyEvent_rested (s : Session) (event : List UInt8) (h : Rested s.driver) :
    Rested (s.sonyEvent event).driver := by
  unfold sonyEvent
  simp only
  split
  · exact getEvent_rested _ _ h
  · split
    · exact getEvent_rested _ _ h
    · exact getEvent_rested _ _ h

theorem eosCheck_keeps (s : Session) (h : Rested s.driver) (hasks : Asks True s.eosCheck) :
    Keeps s.eosCheck := by
  refine ask_keeps _ _ _ _ _ _ h.synced h.remaining hasks fun ret d hsettled _ => ?_
  split
  · rename_i herr
    refine .of_rested ⟨hsettled.synced, hsettled.flag, hsettled.rest ?_⟩
    simp only [herr, ne_eq, reduceCtorEq, not_false_eq_true]
  · exact ⟨hsettled.synced, hsettled.flag, hsettled.more.mpr⟩

theorem expireBusy_driver (s : Session) (now : Nat) :
    (s.expireBusy now).driver = s.driver := by
  unfold expireBusy
  repeat' split
  all_goals rfl

theorem checkEvent_keeps (s : Session) (now : Nat) (event : List UInt8) (h : Rested s.driver)
    (hasks : Asks True (s.checkEvent now event)) :
    Keeps (s.checkEvent now event) := by
  have hrested : Rested (s.expireBusy now).driver := by
    rw [expireBusy_driver]
    exact h
  unfold checkEvent at hasks ⊢
  by_cases hskip : s.camera.ready = false ∨ s.camera.bulbOpen
  · rw [if_pos hskip]
    exact quiet_keeps _ (.of_rested h)
  rw [if_neg hskip] at hasks ⊢
  simp only at hasks ⊢
  cases hprotocol : (s.expireBusy now).camera.protocol with
  | nikon =>
      rw [hprotocol] at hasks
      exact nikonCheck_keeps _ event hrested hasks
  | sony =>
      rw [hprotocol] at hasks
      simp only [sonyCheck] at hasks ⊢
      split at hasks
      · rename_i hupdate
        rw [if_pos hupdate]
        exact sonyReadProperties_keeps _ (sonyEvent_rested _ event hrested) hasks
      · rename_i hupdate
        rw [if_neg hupdate]
        exact quiet_keeps _ (.of_rested (sonyEvent_rested _ event hrested))
  | eos =>
      rw [hprotocol] at hasks
      exact eosCheck_keeps _ hrested hasks
  | none => exact quiet_keeps _ (.of_rested hrested)
  | generic => exact quiet_keeps _ (.of_rested hrested)

theorem setFocus_keeps (s : Session) (value : Nat) (h : Rested s.driver)
    (hasks : Asks False (s.setFocus value)) : Keeps (s.setFocus value) := by
  unfold setFocus at hasks ⊢
  split at hasks
  · rename_i hready
    rw [if_pos hready]
    exact ask_keeps_of_short _ _ _ _ _ _ (h.synced.congr rfl rfl rfl rfl) h.remaining hasks
      (.inl rfl) fun _ _ => rfl
  · rename_i hready
    rw [if_neg hready]
    exact quiet_keeps _ (.of_rested h)

theorem describe_driver (s : Session) (p : NikonProperty) :
    (s.describe p).driver = s.driver := by
  cases p with
  | iso => rfl
  | aperture => rfl
  | shutter => rfl

theorem eosStep_sound (s : Session) (phase : Phase) (ret : Ret) (htask : s.task = .eos phase ret)
    (h : s.Sound) (hclean : (Frame.mk phase ret s.driver).AtZeroSize → s.driver.bytesRemaining = 0) :
    (s.eosStep phase ret).Sound := by
  have hrest := h.rest
  rw [htask] at hrest
  have hturn := turn_going ⟨phase, ret, s.driver⟩ ⟨h.synced, h.flag, hrest⟩ hclean
  cases hn : (Frame.turn ⟨phase, ret, s.driver⟩).next with
  | error r =>
      rw [hn] at hturn
      simp only [eosStep, hn]
      exact .of_rested hturn
  | ok f =>
      rw [hn] at hturn
      simp only [eosStep, hn]
      exact ⟨hturn.synced, hturn.flag, hturn.more⟩

theorem sonyStep_sound (s : Session) (i : Nat) (ret : Ret) (htask : s.task = .sony i ret)
    (h : s.Sound)
    (hclean : (SonyFrame.mk i ret s.driver).AtBadProperty → s.driver.bytesRemaining = 0) :
    (s.sonyStep i ret).Sound := by
  have hrest := h.rest
  rw [htask] at hrest
  have hturn := sonyTurn_going ⟨i, ret, s.driver⟩ s.camera
    ⟨h.synced, h.flag, fun hpos => (hrest hpos).1⟩ (fun hpos => (hrest hpos).2) hclean
  cases hn : SonyFrame.turn ⟨i, ret, s.driver⟩ s.camera with
  | error r =>
      rw [hn] at hturn
      simp only [sonyStep, hn]
      exact .of_rested hturn
  | ok r =>
      rw [hn] at hturn
      simp only [sonyStep, hn]
      exact ⟨hturn.1.synced, hturn.1.flag, fun hpos => ⟨hturn.1.more hpos, hturn.2 hpos⟩⟩

/-- A step that meets the condition does what it was asked for, and leaves the
    session sound. -/
theorem step_keeps (s : Session) (l : Label) (o : Outcome) (h : s.Sound) (hclean : s.Clean l)
    (hstep : s.step l = some o) : Keeps o := by
  rcases hclean with ⟨hrequest, hplace⟩
  have hasks : Asks (s.Parses l) o := fun q hq => hrequest o q hstep hq
  unfold step at hstep
  unfold Parses at hasks
  cases htask : s.task with
  | idle =>
      have hrested := h.rested (by simp [htask]) (by simp [htask])
      rw [htask] at hstep hasks hplace
      cases l with
      | checkEvent now event =>
          cases hstep
          exact checkEvent_keeps s now event hrested hasks
      | command opCode receive params data =>
          cases hstep
          exact ask_keeps_of_short _ _ _ _ _ _ hrested.synced hrested.remaining hasks (.inr id)
            fun _ _ => rfl
      | setFocus value =>
          cases hstep
          exact setFocus_keeps s value hrested hasks
      | readProperties =>
          cases hstep
          exact sonyReadProperties_keeps s hrested hasks
      | init protocol supports =>
          cases hstep
          exact quiet_keeps _ (.of_rested hrested)
      | close =>
          cases hstep
          exact quiet_keeps _ (.of_rested hrested)
      | enable usb =>
          cases hstep
          exact quiet_keeps _ (.of_rested ⟨.of_empty rfl hplace, h.flag, rfl⟩)
      | proceed => exact absurd hstep (by simp)
  | events event =>
      have hrested := h.rested (by simp [htask]) (by simp [htask])
      rw [htask] at hstep hasks
      cases l with
      | proceed =>
          cases hstep
          exact nikonEventsStep_keeps s event hrested hasks
      | _ => exact absurd hstep (by simp)
  | ask p =>
      have hrested := h.rested (by simp [htask]) (by simp [htask])
      rw [htask] at hstep hasks
      cases l with
      | proceed =>
          cases hstep
          exact askProperty_keeps s p hrested hasks
      | _ => exact absurd hstep (by simp)
  | describe p =>
      have hrested := h.rested (by simp [htask]) (by simp [htask])
      rw [htask] at hstep
      cases l with
      | proceed =>
          cases hstep
          refine quiet_keeps _ (.of_rested ?_)
          rw [describe_driver]
          exact hrested
      | _ => exact absurd hstep (by simp)
  | eos phase ret =>
      rw [htask] at hstep hplace
      cases l with
      | proceed =>
          cases hstep
          exact quiet_keeps _ (eosStep_sound s phase ret htask h hplace)
      | _ => exact absurd hstep (by simp)
  | sony i ret =>
      rw [htask] at hstep hplace
      cases l with
      | proceed =>
          cases hstep
          exact quiet_keeps _ (sonyStep_sound s i ret htask h hplace)
      | _ => exact absurd hstep (by simp)

end Session

/-- In every run whose steps all meet the condition, from a session at rest: a
    transaction that succeeds is its own, and when a call has returned no bytes
    remain and no errors will be ignored. -/
theorem run_integrity (s s' : Session) (hs : Rested s.driver)
    (h : Run Session.next Session.Clean s s') :
    (s'.task = .idle → s'.driver.bytesRemaining = 0 ∧ s'.driver.ignoreErrors = false) ∧
      ∀ l o q, s'.Clean l → s'.step l = some o → o.request = some q → q.run.1 ≠ .error → q.Own := by
  have hsound : s'.Sound := by
    refine h.invariant Session.Sound (fun t l u hinv hclean hnext => ?_) (.of_rested hs)
    rcases Option.map_eq_some_iff.mp hnext with ⟨o, hstep, rfl⟩
    exact (Session.step_keeps t l o hinv hclean hstep).sound
  refine ⟨fun htask => ?_, fun l o q hclean hstep hq =>
    (Session.step_keeps s' l o hsound hclean hstep).own q hq⟩
  have hrest := hsound.rest
  rw [htask] at hrest
  exact ⟨hrest, hsound.flag⟩

def eosOcCapture : Nat := 0x910F

/-- A Canon camera at rest, with these answers to come. -/
def eosSession (answers : List Answer) : Session where
  camera := Camera.fresh .eos
  driver := Driver.idle answers
  task := .idle
  count := 0
  busySeconds := 0

/-- A capture that is answered is sent. -/
theorem run_integrity_capture :
    (Request.mk (Driver.idle [⟨noError, noError, [okResponse]⟩]) eosOcCapture false [] []).Own := by
  have hrested : Rested (eosSession [⟨noError, noError, [okResponse]⟩]).driver :=
    ⟨.of_empty rfl rfl, rfl, rfl⟩
  have hclean : (eosSession [⟨noError, noError, [okResponse]⟩]).Clean
      (.command eosOcCapture false [] []) := by
    refine ⟨fun o q hstep hq => ?_, trivial⟩
    cases hstep
    cases hq
    exact ⟨.response okResponse responseOk (.inl rfl) rfl isResponse_okResponse,
      fun h => absurd h (by decide), fun _ => by unfold Request.Short; decide⟩
  exact (run_integrity _ _ hrested .refl).2 _ _ _ hclean rfl rfl (by decide)

theorem receiveBlockHeader_sent (h : Host) (block : Nat → UInt8) :
    (receiveBlockHeader h block).2.2.sent = h.sent := by
  unfold receiveBlockHeader
  split
  · rfl
  · split
    · rfl
    · simp only
      split
      · split
        · rfl
        · rfl
      · rfl

theorem receiveResponse_sent (h : Host) : (receiveResponse h).2.sent = h.sent := by
  have hheader := receiveBlockHeader_sent h (fun _ => 0)
  unfold receiveResponse receiveResponseCode
  grind

theorem readData_sent (h : Host) (buffer : Nat → UInt8) (dst n : Nat) :
    (readData h buffer dst n).2.2.sent = h.sent := by
  unfold readData
  split
  · rfl
  · rfl

/-- A fetch sends nothing. -/
theorem fetchData_sent (d : Driver) (offset : Nat) :
    (d.fetchData offset).2.usb.sent = d.usb.sent := by
  have hread := readData_sent d.usb (carryOver d.buffer offset) offset
    (fetchLength d.bytesRemaining offset)
  unfold Driver.fetchData
  by_cases hrem : 0 < d.bytesRemaining
  · simp only [if_pos hrem]
    split
    · exact hread
    · split
      · split
        · exact (receiveResponse_sent _).trans hread
        · exact (receiveResponse_sent _).trans hread
      · exact hread
  · rw [if_neg hrem]

/-- Two answers: to the request for events, all zero bytes, more than the buffer
    holds; and to whatever comes next. -/
def zeroAnswers (zeros : List UInt8) : List Answer :=
  [⟨noError, noError, [dataContainer eosOcEventGet zeros, okResponse]⟩,
    ⟨noError, noError, [okResponse]⟩]

/-- A list of events that starts with one of size zero, and does not fit the
    buffer: the bytes after the buffer stay, and the capture that comes next
    fetches them. It succeeds, and no command has been sent. -/
theorem capture_not_sent : ∃ s o q, Run Session.next (fun _ _ => True)
      (eosSession (zeroAnswers (List.replicate 904 0))) s ∧
    s.task = .idle ∧ s.step (.command eosOcCapture false [] []) = some o ∧ o.request = some q ∧
    q.run.1 = .ok ∧ q.run.2.usb.sent = s.driver.usb.sent ∧ ¬ q.Own := by
  generalize hzeros : List.replicate 904 (0 : UInt8) = zeros
  have hlen : zeros.length = 904 := by rw [← hzeros, List.length_replicate]
  have hbyte : ∀ j, bytes zeros j = 0 := fun j => by
    rw [← hzeros, bytes, List.getD_eq_getElem?_getD, List.getElem?_replicate]
    split
    · rfl
    · rfl
  have hanswers : Answers (Driver.idle (zeroAnswers zeros)) eosOcEventGet zeros :=
    answers_idle eosOcEventGet zeros _ (by decide) (by omega)
  rcases transaction_window _ eosOcEventGet [] zeros hanswers
    with ⟨d, hrun, hwindow, _, herror, _⟩
  have hreceived := hwindow.received
  have hremaining := hwindow.remaining
  rw [hlen] at hreceived hremaining
  have hfull : d.bytesReceived = bufferSize := by unfold bufferSize at *; omega
  have hmore : d.bytesRemaining = 4 := by unfold bufferSize at *; omega
  rw [hmore, if_neg (by decide)] at hrun
  -- The parser comes to the first event and returns, and the next command fetches.
  have hcheck : Session.next (eosSession (zeroAnswers zeros)) (.checkEvent 0 []) = some
      { eosSession (zeroAnswers zeros) with
        driver := d, task := .eos (.events 0) .dataRemaining } := by
    have hstart : (Request.mk (Driver.idle (zeroAnswers zeros)) eosOcEventGet true [] []).run
        = (.dataRemaining, d) := hrun
    simp only [Session.next, Session.step, Session.checkEvent, Session.expireBusy, Session.eosCheck,
      Session.ask, eosSession, Camera.fresh, hstart, Option.map_some, Bool.true_eq_false,
      Bool.false_eq_true, Bool.false_and, or_self, reduceCtorEq, if_false]
  have hzero : le32 d.buffer 0 = 0 := by
    have hshows : ∀ j, j < 4 → d.buffer j = 0 := fun j hj => by
      rw [hwindow.shows j (by rw [hfull]; unfold bufferSize; omega), hbyte]
    unfold le32
    rw [hshows 0 (by omega), hshows (0 + 1) (by omega), hshows (0 + 2) (by omega),
      hshows (0 + 3) (by omega)]
    rfl
  have hproceed : Session.next { eosSession (zeroAnswers zeros) with
      driver := d, task := .eos (.events 0) .dataRemaining } .proceed = some
        { eosSession (zeroAnswers zeros) with driver := d } := by
    have hturn : (Frame.turn ⟨.events 0, .dataRemaining, d⟩).next = .error (1, d) := by
      simp only [Frame.turn, Frame.eventsTurn, hfull, hzero]
      rfl
    change some (Session.eosStep _ _ _) = _
    simp only [Session.eosStep, hturn]
    rfl
  rcases fetchData_window d zeros 0 0 [] hwindow (by omega) (by decide) with ⟨d', hfetch, hwindow'⟩
  have hlast : d'.bytesRemaining = 0 := by
    have hreceived' := hwindow'.received
    have hremaining' := hwindow'.remaining
    rw [hlen] at hreceived' hremaining'
    unfold bufferSize at *
    omega
  have hcapture : (Request.mk d eosOcCapture false [] []).run = (.ok, d') := by
    have hpos : 0 < d.bytesRemaining := by omega
    rw [hlast, if_pos rfl] at hfetch
    rw [Request.run, Driver.transaction, if_neg (not_not.mpr herror), if_pos hpos, hfetch]
  have hsent : d'.usb.sent = d.usb.sent := by
    have hnothing := fetchData_sent d 0
    rwa [hfetch] at hnothing
  refine ⟨{ eosSession (zeroAnswers zeros) with driver := d }, _, _,
    .tail .proceed (.tail (.checkEvent 0 []) .refl trivial hcheck) trivial hproceed, rfl, rfl, rfl,
    ?_, ?_, ?_⟩
  · rw [hcapture]
  · rw [hcapture]
    exact hsent
  · intro hown
    have hmade := hown.sent
    rw [hcapture] at hmade
    simp only [hsent, Request.containers] at hmade
    exact absurd (congrArg List.length hmade) (by simp)

end Ptp

end TimelapsePlus
