import TimelapsePlus.Lib.Loop
import TimelapsePlus.Ptp.Camera
import TimelapsePlus.Ptp.Driver

/-!
# Canon Event Parser

The Canon part of `PTP::checkEvent`: the loop that reads the reply to
`EOS_OC_EVENT_GET` event by event, fetching the next buffer of the reply when
the one at hand runs out. The loops of the source are one loop here, over a
`Frame` that says where in them the parser stands.

An event that does not fit in what is left of the buffer is handled by its
size. One that would fit in a buffer is carried over to the start of the next.
A larger one is skipped: whole buffers first, and then, once what is left of it
is no more than a buffer, by looking for a byte that is not zero, from the
offset the event would end at, had the buffer it ends in been read.

The size is an unchecked word of the camera's, and the 32-bit arithmetic on it
is kept: a sum may wrap. A turn of the loop also reports how far into
`PTP_Buffer` it read, as one past the highest index, and what it did to the
stream of events; neither is looked at by the code.

## Main definitions

* `Phase`: Where in the loops the parser stands.
* `Frame`: The parser's position, the last return code and the driver.
* `Output`: What a turn of the loop did to the stream of events.
* `readEvery`: The listed values of an event.
* `readChange`: What an event changes, read from the buffer.
* `Frame.turn`: One turn of the loop.
* `Walk`, `Walk.step`: The parser with the camera it applies changes to.
* `eosEvents`: The Canon part of `checkEvent`.

## Theorems

* `walk_run`: The parser's way through the buffer does not depend
  on the camera.
* `walk_top_le_iff`: How far a run reads is how far its turns read.
-/

namespace TimelapsePlus

namespace Ptp

open Word

def eosOcEventGet : Nat := 0x9116

/-- Where in the loops the parser stands: at the bottom of the outer loop, at
    the top of the inner one, skipping whole buffers of an event, or looking
    for the byte after it. -/
inductive Phase
  | next
  | events (i : Nat)
  | skip (eventSize : Nat)
  | scan (i : Nat)
deriving Repr, DecidableEq

structure Frame where
  phase : Phase
  ret : Ret
  driver : Driver

/-- What a turn of the loop did to the stream of events, by position in the
    camera's reply. -/
inductive Output
  | applied (pos : Nat) (change : Change)
  | oversize (pos eventSize : Nat)
  | resumed (pos : Nat)
deriving Repr, DecidableEq

/-- The position in the reply of an index of the buffer. -/
def Driver.position (d : Driver) (i : Nat) : Nat :=
  d.bytesTotal - d.bytesRemaining - d.bytesReceived + i

/-- The bytes at every fourth index, `n` of them. -/
def readEvery (buffer : Nat → UInt8) : Nat → Nat → List Nat
  | 0, _ => []
  | n + 1, i => (buffer i).toNat :: readEvery buffer n (i + 4)

/-- The properties whose listed values are read. -/
def IsListed (item : Nat) : Prop :=
  item = eosDpcIso ∨ item = eosDpcShutter ∨ item = eosDpcAperture

instance (item : Nat) : Decidable (IsListed item) :=
  inferInstanceAs (Decidable (_ ∨ _ ∨ _))

/-- The number of values an event of this size lists: `event_size / 4 - 5`. -/
def valueCount (eventSize : Nat) : Nat := sub32 (eventSize / 4) 5

/-- What the event at an index changes, and one past the highest index read for
    it. Its type, item and value are read for every event. -/
def readChange (buffer : Nat → UInt8) (i eventSize : Nat) : Change × Nat :=
  let eventType := le32 buffer (i + 4)
  let eventItem := le32 buffer (i + 8)
  let eventValue := le32 buffer (i + 12)
  if eventType = eosEcPropertyChange then (.property eventItem eventValue, i + 16)
  else if eventType = eosEcPropertyValues then
    if IsListed eventItem then
      let n := valueCount eventSize
      (.values eventItem (readEvery buffer n (i + 20)),
        max (i + 16) (if n = 0 then 0 else i + 20 + 4 * (n - 1) + 1))
    else (.values eventItem [], i + 16)
  else if eventType = eosEcObjectCreated then (.object eventItem, i + 16)
  else (.other eventType, i + 16)

/-- The first index from `x` on, below `x + n`, of a byte that is not zero. -/
def firstNonZero (buffer : Nat → UInt8) : Nat → Nat → Option Nat
  | 0, _ => none
  | n + 1, x => if buffer x ≠ 0 then some x else firstNonZero buffer n (x + 1)

/-- A turn of the loop: where it goes, or the value the function returns and the
    driver it leaves; one past the highest index of the buffer it read; and what
    it did to the stream. -/
structure Turn where
  next : Except (Nat × Driver) Frame
  top : Nat
  output : Option Output

/-- Fetch the next buffer, keeping the last `offset` bytes, and go on at its
    start. -/
def Frame.fetch (f : Frame) (offset top : Nat) : Turn :=
  let r := f.driver.fetchData offset
  if r.1 = .error then ⟨.error (1, r.2), top, none⟩
  else ⟨.ok ⟨.events 0, r.1, r.2⟩, top, none⟩

/-- A turn at the top of the inner loop. -/
def Frame.eventsTurn (f : Frame) (i : Nat) : Turn :=
  let d := f.driver
  if d.bytesReceived ≤ i then ⟨.ok { f with phase := .next }, 0, none⟩
  else if bufferSize ≤ i + 4 then
    -- The size word may be cut: go on at the start of a buffer.
    if f.ret = .dataRemaining then f.fetch (bufferSize - i) 0 else ⟨.error (1, d), 0, none⟩
  else
    let eventSize := le32 d.buffer i
    if eventSize = 0 then ⟨.error (1, d), i + 4, none⟩
    else if bufferSize < u32 (eventSize + i) then
      if f.ret = .dataRemaining then
        if bufferSize < eventSize then
          ⟨.ok { f with phase := .skip (sub32 eventSize (bufferSize - i)) }, i + 4,
            some (.oversize (d.position i) eventSize)⟩
        else f.fetch (bufferSize - i) (i + 4)
      else ⟨.error (1, d), i + 4, none⟩
    else
      let c := readChange d.buffer i eventSize
      ⟨.ok { f with phase := .events (u32 (i + eventSize)) }, c.2,
        some (.applied (d.position i) c.1)⟩

/-- One turn of the loop. -/
def Frame.turn (f : Frame) : Turn :=
  let d := f.driver
  match f.phase with
  | .next => if f.ret = .dataRemaining then f.fetch 0 0 else ⟨.error (0, d), 0, none⟩
  | .events i => f.eventsTurn i
  | .skip eventSize =>
      if bufferSize < eventSize ∧ f.ret = .dataRemaining then
        let r := d.fetchData 0
        ⟨.ok ⟨.skip (sub32 eventSize r.2.bytesReceived), r.1, r.2⟩, 0, none⟩
      else ⟨.ok { f with phase := .scan eventSize }, 0, none⟩
  | .scan i =>
      if f.ret = .dataRemaining then
        let start := u16 i
        match firstNonZero d.buffer (d.bytesReceived - start) start with
        | some x => ⟨.ok { f with phase := .events x }, x + 1, some (.resumed (d.position x))⟩
        | none =>
            let r := d.fetchData 0
            ⟨.ok ⟨.scan 0, r.1, r.2⟩, if start < d.bytesReceived then d.bytesReceived else 0, none⟩
      else ⟨.ok { f with phase := .events i }, 0, some (.resumed (d.position i))⟩

/-- The loop's way through the buffer, whatever the events change. -/
def Frame.body (f : Frame) : Except (Nat × Driver) Frame := f.turn.next

/-- The parser with the camera it applies changes to, one past the highest index
    it has read, and what it has done to the stream. -/
structure Walk where
  frame : Frame
  camera : Camera
  top : Nat
  log : List Output

/-- The effect of a turn on the camera. -/
def Camera.apply (c : Camera) : Option Output → Camera
  | some (.applied _ change) => c.applyChange change
  | _ => c

/-- One turn of the parser: the next state, or the value returned and the state
    it is returned from. -/
def Walk.step (w : Walk) : Except (Nat × Walk) Walk :=
  let t := w.frame.turn
  match t.next with
  | .error (code, d) =>
      .error (code, { w with frame := { w.frame with driver := d }, top := max w.top t.top })
  | .ok f => .ok
      { frame := f
        camera := w.camera.apply t.output
        top := max w.top t.top
        log := w.log ++ t.output.toList }

theorem step_eq_ok (w w' : Walk) (h : w.step = .ok w') :
    w.frame.turn.next = .ok w'.frame ∧ w'.camera = w.camera.apply w.frame.turn.output ∧
      w'.top = max w.top w.frame.turn.top ∧ w'.log = w.log ++ w.frame.turn.output.toList := by
  unfold Walk.step at h
  cases hn : w.frame.turn.next with
  | error a =>
      simp only [hn] at h
      exact absurd h (by simp only [reduceCtorEq, not_false_eq_true])
  | ok f =>
      simp only [hn, Except.ok.injEq] at h
      subst h
      exact ⟨rfl, rfl, rfl, rfl⟩

theorem step_eq_error (w w' : Walk) (code : Nat) (h : w.step = .error (code, w')) :
    w.frame.turn.next = .error (code, w'.frame.driver) ∧ w'.camera = w.camera ∧
      w'.top = max w.top w.frame.turn.top ∧ w'.log = w.log := by
  unfold Walk.step at h
  cases hn : w.frame.turn.next with
  | error a =>
      simp only [hn, Except.error.injEq, Prod.mk.injEq] at h
      rcases h with ⟨hcode, hw⟩
      subst hw
      exact ⟨by rw [← hcode], rfl, rfl, rfl⟩
  | ok f =>
      simp only [hn] at h
      exact absurd h (by simp only [reduceCtorEq, not_false_eq_true])

/-- The parser's way through the buffer does not depend on the camera. -/
theorem walk_run (n : Nat) (w : Walk) :
    Loop.run Frame.body n w.frame
      = (Loop.run Walk.step n w).map fun r => (r.1, r.2.frame.driver) :=
  Loop.run_map Walk.step Frame.body Walk.frame _
    (fun w w' h => (step_eq_ok w w' h).1)
    (fun w r h => (step_eq_error w r.2 r.1 h).1) n w

/-- How far a run reads is how far its turns read. -/
theorem walk_top_le_iff (bound n : Nat) (w w' : Walk) (code : Nat)
    (h : Loop.run Walk.step n w = some (code, w')) :
    w'.top ≤ bound ↔ w.top ≤ bound ∧
      ∀ k f, Loop.after Frame.body k w.frame = some f → f.turn.top ≤ bound := by
  induction n generalizing w with
  | zero => exact absurd h (by simp only [Loop.run, reduceCtorEq, not_false_eq_true])
  | succ m ih =>
      cases hs : w.step with
      | error r =>
          rw [Loop.run_succ_error Walk.step m hs, Option.some.injEq] at h
          subst h
          rcases step_eq_error w w' code hs with ⟨hnext, _, htop, _⟩
          rw [htop, Nat.max_le]
          refine and_congr_right fun _ => ⟨fun hle k f hk => ?_, fun hall => hall 0 w.frame rfl⟩
          -- The turn that returns is the only one reached.
          cases k with
          | zero =>
              simp only [Loop.after, Option.some.injEq] at hk
              rw [← hk]
              exact hle
          | succ j =>
              simp only [Loop.after, Frame.body, hnext, reduceCtorEq] at hk
      | ok w1 =>
          rw [Loop.run_succ_ok Walk.step m hs] at h
          rcases step_eq_ok w w1 hs with ⟨hnext, _, htop, _⟩
          rw [ih w1 h, htop, Nat.max_le, and_assoc]
          refine and_congr_right fun _ => ⟨fun hle k f hk => ?_, fun hall => ⟨hall 0 w.frame rfl,
            fun k f hk => hall (k + 1) f ?_⟩⟩
          · cases k with
            | zero =>
                simp only [Loop.after, Option.some.injEq] at hk
                rw [← hk]
                exact hle.1
            | succ j =>
                rw [Loop.after_succ_ok Frame.body j hnext] at hk
                exact hle.2 j f hk
          · rw [Loop.after_succ_ok Frame.body k hnext]
            exact hk

/-- The parser after the transaction that asks for the events. -/
def eosStart (c : Camera) (d : Driver) : Walk :=
  let r := d.transaction eosOcEventGet true [] []
  { frame := ⟨.events 0, r.1, r.2⟩
    camera := { c with busy := c.busy && decide (r.2.bytesReceived ≠ 0) }
    top := 0
    log := [] }

/-- The Canon part of `PTP::checkEvent`, for at most `fuel` turns of its loop:
    the value returned and the state at that point. -/
def eosEvents (fuel : Nat) (c : Camera) (d : Driver) : Option (Nat × Walk) :=
  if (eosStart c d).frame.ret = .error then
    some (1, { eosStart c d with camera := c })
  else Loop.run Walk.step fuel (eosStart c d)

end Ptp

end TimelapsePlus
