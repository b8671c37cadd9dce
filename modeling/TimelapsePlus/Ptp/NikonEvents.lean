import TimelapsePlus.Ptp.Session
import TimelapsePlus.Ptp.SonyStream

/-!
# The Events of a Nikon

The reply to `NIKON_OC_EVENT_GET` is a count of two bytes that the firmware makes no use
of, and a record of six bytes for each event. The records are read up to the length of the
reply. But the loop only asks whether a record begins before it, and so a record that is not
complete is read with what the buffer still holds of another reply, or with what is behind
the buffer. The count is read whatever the length.

A reply that is longer than the buffer is not read at all. What does not fit remains with
the driver, as it does for a Canon, but it is taken for an error here.

## Main definitions

* `eventAt`: A record.
* `readEvents`, `readReply`: The events that are read, and where they are looked for.
* `nikonRecords`: The complete records of a reply.
* `Session.eventsRead`: What is read of the answer of the camera.
* `Session.EventsExact`: These are the complete records, and nothing else is looked at.

## Theorems

* `run_readReply`: The reading is that of `checkEvent`.
* `nikonEventsStep_eq`: The events that are read are those that take effect.
* `nikonEvents_eq`: A record for every place where one begins.
* `mem_touched_readReply`: All of these are looked at.
* `eventsExact_iff`: The lengths for which that is what it is to be.
* `stale_event`: An event that is made up from an earlier reply.
-/

namespace TimelapsePlus

namespace Ptp

open Word Usb Query

/-- The record at an index. -/
def eventAt (buffer : Nat → UInt8) (i : Nat) : Nat × Nat := (le16 buffer i, le32 buffer (i + 2))

/-- The loop of `checkEvent` from an index on, and where it looks. -/
def readEvents (received : Nat) : Nat → Nat → Query Nat UInt8 (List (Nat × Nat))
  | 0, _ => return []
  | n + 1, i =>
      let rest := if bufferSize ≤ i + 6 then pure [] else readEvents received n (i + 6)
      if received ≤ i then return []
      else do
        let tevent ← look16 i
        let eventValue ← look32 (i + 2)
        let events ← rest
        return (tevent, eventValue) :: events

/-- The count, and the loop. -/
def readReply (received : Nat) : Query Nat UInt8 (List (Nat × Nat)) := do
  let _nevents ← look16 0
  readEvents received received 2

/-- The complete records of a reply, in order. -/
def nikonRecords (reply : List UInt8) : List (Nat × Nat) :=
  (List.range ((reply.length - 2) / 6)).map fun k => eventAt (bytes reply) (2 + 6 * k)

namespace Session

/-- What `checkEvent` reads of the answer. -/
def eventsRead (s : Session) : Query Nat UInt8 (List (Nat × Nat)) :=
  let r := s.driver.transaction nikonOcEventGet true [] []
  if r.1 = .ok then readReply r.2.bytesReceived else pure []

/-- The events that are read are the complete records of the reply, and nothing is looked at
    but what has been received. -/
def EventsExact (s : Session) (reply : List UInt8) : Prop :=
  let d := (s.driver.transaction nikonOcEventGet true [] []).2
  s.eventsRead.run d.buffer = nikonRecords reply ∧
    ∀ i ∈ s.eventsRead.touched d.buffer, i < d.bytesReceived

end Session

section Reading

variable {buffer : Nat → UInt8} {received : Nat}

theorem run_readEvents (n i : Nat) :
    (readEvents received n i).run buffer = nikonEvents buffer received n i := by
  induction n generalizing i with
  | zero => rfl
  | succ n ih =>
      unfold readEvents nikonEvents
      by_cases hend : received ≤ i
      · rw [if_pos hend, if_pos hend]
        rfl
      · rw [if_neg hend, if_neg hend]
        simp only [run_bind, run_look16, run_look32, run_pure]
        split
        · rfl
        · rw [ih]

/-- The reading is that of `checkEvent`. -/
theorem run_readReply :
    (readReply received).run buffer = nikonEvents buffer received received 2 := by
  unfold readReply
  rw [run_bind, run_readEvents]

/-- There is a record for every place where one begins, as long as the buffer does not end
    before. -/
theorem nikonEvents_eq (hreceived : received ≤ bufferSize) {n i : Nat} (h : received ≤ i + n) :
    nikonEvents buffer received n i =
      (List.range ((received - i + 5) / 6)).map fun k => eventAt buffer (i + 6 * k) := by
  induction n generalizing i with
  | zero =>
      have hnone : (received - i + 5) / 6 = 0 := by omega
      rw [hnone]
      rfl
  | succ n ih =>
      unfold nikonEvents
      by_cases hend : received ≤ i
      · have hnone : (received - i + 5) / 6 = 0 := by omega
        rw [if_pos hend, hnone]
        rfl
      · have hmore : (received - i + 5) / 6 = (received - (i + 6) + 5) / 6 + 1 := by omega
        rw [if_neg hend, ih (by omega), hmore, List.range_succ_eq_map, List.map_cons, List.map_map]
        -- Where the buffer ends no record begins.
        have hlast : (if bufferSize ≤ i + 6 then [] else
            (List.range ((received - (i + 6) + 5) / 6)).map fun k => eventAt buffer (i + 6 + 6 * k))
            = (List.range ((received - (i + 6) + 5) / 6)).map
              fun k => eventAt buffer (i + 6 + 6 * k) := by
          split
          · have hnone : (received - (i + 6) + 5) / 6 = 0 := by omega
            rw [hnone]
            rfl
          · rfl
        rw [hlast]
        refine congrArg _ (List.map_congr_left fun k _ => ?_)
        rw [Function.comp_apply, Nat.succ_eq_add_one, Nat.mul_succ, Nat.add_assoc,
          Nat.add_comm 6]

/-- The bytes of all these records are looked at, and no others. -/
theorem mem_touched_readEvents (hreceived : received ≤ bufferSize) {n i j : Nat}
    (h : received ≤ i + n) : j ∈ (readEvents received n i).touched buffer ↔
      i ≤ j ∧ j < i + 6 * ((received - i + 5) / 6) := by
  induction n generalizing i with
  | zero =>
      have hnone : j ∉ (readEvents received 0 i).touched buffer := List.not_mem_nil
      exact ⟨fun hj => absurd hj hnone, fun hj => by omega⟩
  | succ n ih =>
      have hcode : (look16 i).touched buffer = [i, i + 1] := rfl
      have hvalue : (look32 (i + 2)).touched buffer = [i + 2, i + 3, i + 4, i + 5] := rfl
      unfold readEvents
      by_cases hend : received ≤ i
      · rw [if_pos hend]
        exact ⟨fun hj => absurd hj List.not_mem_nil, fun hj => by omega⟩
      · rw [if_neg hend]
        simp only [touched_bind, hcode, hvalue, touched_pure, List.append_nil, List.mem_append,
          List.mem_cons, List.not_mem_nil, or_false]
        by_cases hlast : bufferSize ≤ i + 6
        · simp only [if_pos hlast, touched_pure, List.not_mem_nil, or_false]
          omega
        · rw [if_neg hlast, ih (by omega)]
          omega

theorem mem_touched_readReply (hreceived : received ≤ bufferSize) {j : Nat} :
    j ∈ (readReply received).touched buffer ↔ j < 2 + 6 * ((received - 2 + 5) / 6) := by
  have hcount : (look16 0).touched buffer = [0, 1] := rfl
  unfold readReply
  rw [touched_bind, List.mem_append, hcount, mem_touched_readEvents hreceived (by omega)]
  simp only [List.mem_cons, List.not_mem_nil, or_false]
  omega

end Reading

namespace Session

variable {s : Session} {reply : List UInt8}

/-- The events that are read are those that take effect. -/
theorem nikonEventsStep_eq (event : List UInt8) (h : s.camera.supports.event = true) :
    (s.nikonEventsStep event).session =
      let r := s.driver.transaction nikonOcEventGet true [] []
      let t := { s with
        driver := r.2
        camera := (s.eventsRead.run r.2.buffer).foldl Camera.applyPtpEvent s.camera }
      if r.1 = .ok then t.nikonUpdate else { t with task := .idle } := by
  unfold nikonEventsStep eventsRead
  rw [if_pos h]
  unfold ask Request.run
  dsimp only
  by_cases hok : (s.driver.transaction nikonOcEventGet true [] []).1 = .ok
  · rw [if_neg (not_not.mpr hok), if_pos hok, if_pos hok, run_readReply]
  · rw [if_pos hok, if_neg hok, if_neg hok]
    rfl

/-- No more than 150 events are read. -/
theorem length_eventsRead_le (s : Session) :
    (s.eventsRead.run (s.driver.transaction nikonOcEventGet true [] []).2.buffer).length ≤
      150 := by
  unfold eventsRead
  by_cases hok : (s.driver.transaction nikonOcEventGet true [] []).1 = .ok
  · have hreceived := Driver.transaction_received_le s.driver nikonOcEventGet []
      (by rw [hok]; decide)
    have hsize : bufferSize = 900 := rfl
    rw [if_pos hok, run_readReply, nikonEvents_eq hreceived (by omega), List.length_map,
      List.length_range]
    omega
  · rw [if_neg hok]
    exact Nat.zero_le _

theorem length_nikonRecords (reply : List UInt8) :
    (nikonRecords reply).length = (reply.length - 2) / 6 := by
  rw [nikonRecords, List.length_map, List.length_range]

/-- A reply that fits in the buffer. -/
theorem eventsExact_of_le (h : Announces s.driver nikonOcEventGet reply)
    (hle : reply.length ≤ bufferSize) :
    s.EventsExact reply ↔ 2 ≤ reply.length ∧ (reply.length - 2) % 6 = 0 := by
  have hsize : bufferSize = 900 := rfl
  have hanswers : Answers s.driver nikonOcEventGet reply :=
    ⟨h.error, h.remaining, h.configured, h.idle, h.command, by omega, h.packets⟩
  rcases transaction_window s.driver nikonOcEventGet [] reply hanswers with ⟨d, hr, hw, -⟩
  have hreceived : d.bytesReceived = reply.length := by
    have hmin := hw.received
    omega
  have hremaining : d.bytesRemaining = 0 := by
    have hrest := hw.remaining
    omega
  rw [if_pos hremaining] at hr
  unfold EventsExact eventsRead
  rw [hr]
  dsimp only
  rw [if_pos rfl, run_readReply, nikonEvents_eq (by omega) (by omega), hreceived]
  simp only [mem_touched_readReply hle]
  constructor
  · rintro ⟨hevents, htouched⟩
    have hlength := congrArg List.length hevents
    rw [length_nikonRecords, List.length_map, List.length_range] at hlength
    -- The count is looked at.
    have hcount := htouched 1 (by omega)
    omega
  · rintro ⟨htwo, hwhole⟩
    refine ⟨?_, fun i hi => by omega⟩
    have hsame : (reply.length - 2 + 5) / 6 = (reply.length - 2) / 6 := by omega
    rw [hsame]
    refine List.map_congr_left fun k hk => ?_
    have hlt := List.mem_range.mp hk
    -- A complete record lies in what has been received.
    have hshows : ∀ j, j < 6 → d.buffer (2 + 6 * k + j) = bytes reply (2 + 6 * k + j) := by
      intro j hj
      rw [hw.shows _ (by omega), Nat.zero_add]
    have hvalue : le32 d.buffer (2 + 6 * k + 2) = le32 (bytes reply) (2 + 6 * k + 2) :=
      le32_congr fun j hj => by rw [Nat.add_assoc, hshows (2 + j) (by omega)]
    unfold eventAt le16
    rw [hvalue, hshows 1 (by omega), ← Nat.add_zero (2 + 6 * k), hshows 0 (by omega)]

/-- A reply that does not is not read. -/
theorem not_eventsExact_of_lt (h : Announces s.driver nikonOcEventGet reply)
    (hlt : bufferSize < reply.length) : ¬ s.EventsExact reply := by
  have hsize : bufferSize = 900 := rfl
  rintro ⟨hevents, _⟩
  have hlength := congrArg List.length hevents
  rw [length_nikonRecords] at hlength
  by_cases hword : reply.length < 65536
  · have hanswers : Answers s.driver nikonOcEventGet reply :=
      ⟨h.error, h.remaining, h.configured, h.idle, h.command, hword, h.packets⟩
    rcases transaction_window s.driver nikonOcEventGet [] reply hanswers with ⟨d, hr, hw, -⟩
    have hremaining : d.bytesRemaining ≠ 0 := by
      have hmin := hw.received
      have hrest := hw.remaining
      omega
    rw [if_neg hremaining] at hr
    unfold eventsRead at hlength
    rw [hr, if_neg fun h => Ret.noConfusion h] at hlength
    have hnone : (0 : Nat) = (reply.length - 2) / 6 := hlength
    omega
  · -- The driver has lost the length, and no more are read than the buffer holds.
    have hle := length_eventsRead_le s
    rw [hlength] at hle
    omega

/-- The events that are read are those of the reply if and only if it has a count, complete
    records and nothing else, and no more of them than the buffer holds. -/
theorem eventsExact_iff (s : Session) (reply : List UInt8)
    (h : Announces s.driver nikonOcEventGet reply) :
    s.EventsExact reply ↔ ∃ k ≤ 149, reply.length = 2 + 6 * k := by
  have hsize : bufferSize = 900 := rfl
  by_cases hle : reply.length ≤ bufferSize
  · rw [eventsExact_of_le h hle]
    constructor
    · rintro ⟨htwo, hwhole⟩
      exact ⟨(reply.length - 2) / 6, by omega, by omega⟩
    · rintro ⟨k, hk, hlen⟩
      omega
  · refine ⟨fun hexact => absurd hexact (not_eventsExact_of_lt h (by omega)), ?_⟩
    rintro ⟨k, hk, hlen⟩
    omega

/-- A Nikon about to be asked for its events. The buffer holds what is left over from earlier
    replies. -/
def eventsAsked (buffer : Nat → UInt8) (reply : List UInt8) : Session where
  camera := { Camera.fresh .nikon with supports.event := true }
  driver := { Driver.idle [⟨noError, noError,
    [dataContainer nikonOcEventGet reply, okResponse]⟩] with buffer := buffer }
  task := .events []
  count := 0
  busySeconds := 0

theorem announces_eventsAsked (buffer : Nat → UInt8) {reply : List UInt8}
    (hlen : reply.length < 65536) :
    Announces (eventsAsked buffer reply).driver nikonOcEventGet reply := by
  have h := (answers_idle nikonOcEventGet reply [] (by decide) hlen).announces
  exact ⟨h.error, h.remaining, h.configured, h.idle, h.command, h.packets⟩

/-- One event, and nothing else. -/
theorem eventsExact_one :
    (eventsAsked (fun _ => 0) [1, 0, 0x02, 0x40, 5, 0, 0, 0]).EventsExact
      [1, 0, 0x02, 0x40, 5, 0, 0, 0] :=
  (eventsExact_iff _ _ (announces_eventsAsked _ (by decide))).mpr ⟨1, by decide, rfl⟩

/-- The reply ends with the code of an event, that an object has been created. The object is
    the one that an earlier reply has told of. -/
theorem stale_event :
    Announces (eventsAsked (bytes [1, 0, 0x02, 0x40, 77, 0, 0, 0]) [1, 0, 0x02, 0x40]).driver
      nikonOcEventGet [1, 0, 0x02, 0x40] ∧
    ((eventsAsked (bytes [1, 0, 0x02, 0x40, 77, 0, 0, 0]) [1, 0, 0x02, 0x40]).nikonEventsStep
      []).session.camera.currentObject = 77 ∧
    ¬ (eventsAsked (bytes [1, 0, 0x02, 0x40, 77, 0, 0, 0]) [1, 0, 0x02, 0x40]).EventsExact
      [1, 0, 0x02, 0x40] := by
  have h := announces_eventsAsked (bytes [1, 0, 0x02, 0x40, 77, 0, 0, 0])
    (show [1, 0, 0x02, 0x40].length < 65536 by decide)
  refine ⟨h, by decide +kernel, fun hexact => ?_⟩
  exact absurd ((eventsExact_of_le h (by decide)).mp hexact).2 (by decide)

end Session

end Ptp

end TimelapsePlus
