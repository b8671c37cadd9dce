import TimelapsePlus.Lib.Run
import TimelapsePlus.Bluetooth.Driver

/-!
# The Mode of the Serial Line

The serial line is in data mode only while the driver takes itself to be connected.
The guards of the commands rest on it: a command that changes the state is given only
while nothing is connected, and then the line is in command mode, where `cmdMode` has
nothing to do and cannot fail.

So each part of the driver is looked at twice. In command mode none of them leaves it,
but for `dataMode` and the handler of `BRSP`. And each keeps `Tied`, also where it
leaves the line in data mode because the module has not said `OK`.

## Main definitions

* `Radio.Tied`: The line is in data mode only while the driver is connected.
* `Radio.Started`: The driver is at its start.

## Theorems

* `command_cmd`, `unlinked_cmd`: Commands stay in command mode.
* `sendCMD_tied`, `disconnect_tied` and their like: A command keeps `Tied`.
* `connectLine_tied` and its like: So does a handler.
* `task_tied`, `waitEvent_tied`: So do `task` and the wait for a line.
* `modes_run`: The line is in data mode only while the driver is connected.
-/

namespace TimelapsePlus

namespace Bluetooth

namespace Radio

/-- The line is in data mode only while the driver is connected. -/
def Tied (s : Radio) : Prop := s.bt.mode = .data → s.state = .connected

/-- The driver is at its start. -/
def Started (s : Radio) : Prop := s.bt.mode = .cmd

theorem tied_cmd {s : Radio} (h : s.bt.mode = .cmd) : s.Tied := by
  intro hdata
  rw [h] at hdata
  exact absurd hdata (by simp only [reduceCtorEq, not_false_eq_true])

theorem tied_connected {s : Radio} (h : s.state = .connected) : s.Tied := fun _ => h

/-- Unless the driver is connected, the line is in command mode. -/
theorem Tied.cmd {s : Radio} (h : s.Tied) (hstate : s.state ≠ .connected) : s.bt.mode = .cmd := by
  cases hmode : s.bt.mode with
  | cmd => rfl
  | data => exact absurd (h hmode) hstate

theorem Tied.congr {s t : Radio} (h : s.Tied) (hmode : t.bt.mode = s.bt.mode)
    (hstate : t.state = s.state) : t.Tied := by
  unfold Tied
  rw [hmode, hstate]
  exact h

section Cmd

/-! ### In command mode -/

variable {s : Radio} (h : s.bt.mode = .cmd)

include h

theorem sendCMD_mode (text : List Char) : (s.sendCMD text).bt.mode = .cmd := by
  rw [sendCMD_cmd s text h, send_bt]
  exact h

theorem command_cmd (text : List Char) : (s.command text).1.bt.mode = .cmd :=
  (checkOK_mode _).trans (sendCMD_mode h text)

theorem unlinked_cmd (text : List Char) (leave : Radio → Radio)
    (hleave : ∀ t, (leave t).bt = t.bt) : (s.unlinked text leave).1.bt.mode = .cmd := by
  unfold unlinked
  split_ifs
  · exact h
  · exact h
  · rw [checkOK_mode, hleave]
    exact sendCMD_mode h text

theorem cancel_cmd : s.cancel.1.bt.mode = .cmd := unlinked_cmd h _ _ fun _ => rfl

theorem version_cmd : s.version.1.bt.mode = .cmd := by
  have hread : (s.command ['A', 'T', 'V', '?', '\r']).1.read.1.bt.mode = .cmd :=
    (read_mode _).trans (command_cmd h _)
  unfold version
  simp only
  split_ifs
  · exact h
  · exact hread
  · exact hread

end Cmd

section Commands

/-! ### Commands -/

variable {s : Radio} (h : s.Tied)

include h

theorem send_tied (text : List Char) : (s.send text).Tied := by
  rcases send_state s text with hsame | ⟨hsleep, -⟩
  · exact h.congr (by rw [send_bt]) hsame
  · -- A module that sleeps is not in data mode.
    have hcmd := h.cmd (by rw [hsleep]; simp only [ne_eq, reduceCtorEq, not_false_eq_true])
    exact tied_cmd (by rw [send_bt]; exact hcmd)

theorem checkOK_tied : s.checkOK.1.Tied := h.congr (checkOK_mode s) (checkOK_state s)

theorem cmdMode_tied : s.cmdMode.1.Tied := by
  unfold cmdMode
  simp only
  split_ifs
  · exact h
  · exact tied_cmd rfl
  · exact checkOK_tied (send_tied h _)
  · exact h

theorem sendCMD_tied (text : List Char) : (s.sendCMD text).Tied := by
  unfold sendCMD
  split_ifs
  · exact h
  · exact send_tied (cmdMode_tied h) text

theorem command_tied (text : List Char) : (s.command text).1.Tied :=
  checkOK_tied (sendCMD_tied h text)

theorem disconnect_tied : s.disconnect.1.Tied := by
  unfold disconnect
  split_ifs
  · exact h
  · exact command_tied h _

/-- The guard of a command lets it through only in command mode. -/
theorem unlinked_tied (text : List Char) (leave : Radio → Radio)
    (hleave : ∀ t, (leave t).bt = t.bt) : (s.unlinked text leave).1.Tied := by
  by_cases hlinked : s.state.linked = true
  · unfold unlinked
    split_ifs
    · exact h
    · exact h
  · refine tied_cmd (unlinked_cmd (h.cmd fun hstate => hlinked ?_) text leave hleave)
    rw [hstate]
    rfl

theorem cancel_tied : s.cancel.1.Tied := unlinked_tied h _ _ fun _ => rfl

theorem cancelScan_tied : s.cancelScan.1.Tied := unlinked_tied h _ _ fun _ => rfl

theorem advertise_tied : s.advertise.1.Tied := unlinked_tied h _ _ fun _ => rfl

/-- A state that is not linked is not the connected one. -/
theorem cmd_of_unlinked (hlinked : ¬ s.state.linked = true) : s.bt.mode = .cmd := by
  refine h.cmd fun hstate => hlinked ?_
  rw [hstate]
  rfl

theorem scan_tied : s.scan.1.Tied := by
  unfold scan
  split_ifs with hpresent hlinked
  · exact h
  · exact h
  · have hcmd : s.bt.mode = .cmd := cmd_of_unlinked h hlinked
    exact tied_cmd (command_cmd (s := { s with state := .scan, newDevices := 0 }) hcmd _)

theorem connect_tied (addr : List Char) : (s.connect addr).1.Tied := by
  unfold connect
  split_ifs
  · exact h
  · exact checkOK_tied (sendCMD_tied (sendCMD_tied (sendCMD_tied (cancel_tied h) _) _) _)

theorem version_tied : s.version.1.Tied := by
  have hread : (s.command ['A', 'T', 'V', '?', '\r']).1.read.1.Tied :=
    (command_tied h _).congr (read_mode _) (read_state _)
  unfold version
  simp only
  split_ifs
  · exact h
  · exact hread
  · exact hread

theorem sleep_tied : s.sleep.1.Tied := by
  unfold sleep
  split_ifs with hpresent hlinked
  · exact h
  · exact h
  · have hversion : ({ s.cancel.1 with state := .sleep } : Radio).version.1.bt.mode = .cmd :=
      version_cmd (s := { s.cancel.1 with state := .sleep })
        (cancel_cmd (cmd_of_unlinked h hlinked))
    simp only
    split_ifs
    · exact tied_cmd (command_cmd hversion _)
    · exact tied_cmd hversion

theorem dataMode_tied : s.dataMode.1.Tied := by
  unfold dataMode
  simp only
  split_ifs with hpresent hstate
  · exact h
  · -- The module may be told to change the mode while the driver is connected.
    refine tied_connected ?_
    show (s.send _).checkOK.1.state = .connected
    rw [checkOK_state]
    rcases send_state s ['A', 'T', 'M', 'D', '\r'] with hsame | ⟨hsleep, -⟩
    · rw [hsame, hstate]
    · rw [hstate] at hsleep
      exact absurd hsleep (by simp only [reduceCtorEq, not_false_eq_true])
  · exact checkOK_tied (send_tied h _)
  · exact h
  · exact h

end Commands

section Lines

/-! ### Lines -/

variable {r : Radio × Event} (h : r.1.Tied)

include h

theorem discovery_tied : (discovery r).1.Tied := by
  unfold discovery
  split_ifs
  · exact h.congr rfl rfl
  · exact h

theorem connectLine_tied : (connectLine r).1.Tied := by
  unfold connectLine
  simp only
  split_ifs
  · exact tied_connected rfl
  · exact tied_connected rfl
  · exact h

theorem brspLine_tied : (brspLine r).1.Tied := by
  unfold brspLine
  split_ifs
  · exact tied_connected rfl
  · exact tied_cmd (sendCMD_mode rfl _)
  · exact h

theorem gattDc_tied : (gattDc r).1.Tied := by
  unfold gattDc
  split_ifs with hstarts hnmx hgm
  · exact tied_cmd rfl
  · -- A characteristic is looked for in command mode.
    refine tied_cmd (h.cmd ?_)
    rw [hgm.1]
    simp only [ne_eq, reduceCtorEq, not_false_eq_true]
  · exact h
  · exact h

theorem gattDone_tied : (gattDone r).1.Tied := by
  unfold gattDone
  by_cases hstarts : r.1.starts textGattDone = true
  · rw [if_pos hstarts]
    cases hstate : r.1.state with
    | checkingNmx =>
        have hcmd : r.1.bt.mode = .cmd := h.cmd (by
          rw [hstate]
          simp only [ne_eq, reduceCtorEq, not_false_eq_true])
        exact tied_cmd (sendCMD_mode (s := { r.1 with state := .checkingGm }) hcmd _)
    | checkingGm => exact disconnect_tied (tied_connected rfl)
    | authorizingGm => exact tied_cmd (sendCMD_mode rfl _)
    | sleep | idle | scan | connected | connectedNmx | connectedGm => exact h
  · rw [if_neg hstarts]
    exact h

theorem disconnectLine_tied : (disconnectLine r).1.Tied := by
  unfold disconnectLine
  split_ifs
  · exact tied_cmd rfl
  · exact h

theorem doneLine_tied : (doneLine r).1.Tied := by
  unfold doneLine
  split_ifs
  · exact h.congr rfl rfl
  · exact h

theorem awaited_tied : (awaited r).1.Tied := by
  unfold awaited
  split_ifs
  · exact h.congr rfl rfl
  · exact h

end Lines

theorem handle_tied {s : Radio} (h : s.Tied) (len : Nat) : (s.handle len).1.Tied := by
  unfold handle
  split_ifs
  · exact h
  · exact awaited_tied (doneLine_tied (disconnectLine_tied (gattDone_tied (gattDc_tied
      (brspLine_tied (connectLine_tied (discovery_tied h)))))))
  · unfold packet
    split_ifs
    · exact tied_cmd rfl
    · exact h
    · exact h

/-- A call of `task` keeps `Tied`. -/
theorem task_tied {s : Radio} (h : s.Tied) : s.task.1.Tied := by
  unfold task
  split_ifs
  · exact tied_cmd rfl
  · exact h
  · exact h.congr rfl rfl
  · exact (handle_tied (h.congr (read_mode s) (read_state s)) s.read.2).congr rfl rfl

theorem awaitLine_tied (n : Nat) {s : Radio} (h : s.Tied) (event : Event) :
    (awaitLine n s event).1.Tied := by
  induction n generalizing s event with
  | zero => exact h.congr rfl rfl
  | succ n ih =>
      rw [awaitLine]
      by_cases hfound : s.task.1.waitEventStatus = 2
      · rw [if_pos hfound]
        exact (task_tied h).congr rfl rfl
      · rw [if_neg hfound]
        exact ih (task_tied h) _

theorem waitEvent_tied {s : Radio} (h : s.Tied) (text : List UInt8) :
    (s.waitEvent text).1.Tied := by
  unfold waitEvent
  split_ifs
  · exact h
  · have hawait : ({ s with waitEventString := text, waitEventStatus := 1 } : Radio).Tied :=
      h.congr rfl rfl
    exact awaitLine_tied _ hawait _

/-- Every call keeps `Tied`, whatever the module does during it. -/
theorem step_tied {s t : Radio} (l : Label) (h : s.Tied) (hstep : s.step l = some t) :
    t.Tied := by
  obtain rfl := Option.some.inj hstep
  have hmeets : (s.meets l).Tied := h.congr rfl rfl
  cases hrequest : l.request with
  | scan => exact scan_tied hmeets
  | cancel => exact cancel_tied hmeets
  | cancelScan => exact cancelScan_tied hmeets
  | connect addr => exact connect_tied hmeets addr
  | disconnect => exact disconnect_tied hmeets
  | advertise => exact advertise_tied hmeets
  | sleep => exact sleep_tied hmeets
  | version => exact version_tied hmeets
  | dataMode => exact dataMode_tied hmeets
  | cmdMode => exact cmdMode_tied hmeets
  | sendCMD text => exact sendCMD_tied hmeets text
  | task =>
      show (tell (s.meets l).task).Tied
      unfold tell
      split_ifs
      · exact (task_tied hmeets).congr rfl rfl
      · exact task_tied hmeets
  | waitEvent text => exact waitEvent_tied hmeets text

/-- In every state the driver comes to, by any calls and whatever the module sends,
    the line is in data mode only while the driver is connected. -/
theorem modes_run (s₀ s : Radio) (hstart : s₀.Started)
    (h : Run step (fun _ _ => True) s₀ s) (hdata : s.bt.mode = .data) :
    s.state = .connected :=
  h.invariant Tied (fun _ l _ hs _ hstep => step_tied l hs hstep) (tied_cmd hstart) hdata

/-- What has connected takes packets. -/
theorem modes_run_data : ∃ s, Run step (fun _ _ => True) fresh s ∧ s.bt.mode = .data ∧
    s.state = .connected := by
  have hrun : (steps step fresh
      [⟨.task, [arrival ['C', 'O', 'N', 'N', 'E', 'C', 'T']], []⟩,
        ⟨.task, [arrival ['B', 'R', 'S', 'P', ',', '0', ',', '1']], []⟩]).map
      (fun s => decide (s.bt.mode = .data)) = some true := by decide +kernel
  rcases Option.map_eq_some_iff.mp hrun with ⟨s, hsteps, hdata⟩
  have hs := run_of_steps _ hsteps
  exact ⟨s, hs, of_decide_eq_true hdata, modes_run fresh s rfl hs (of_decide_eq_true hdata)⟩

end Radio

end Bluetooth

end TimelapsePlus
