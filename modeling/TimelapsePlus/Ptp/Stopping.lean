import TimelapsePlus.Ptp.Connection

/-!
# After an Error

A transaction that fails leaves its code behind as the error, and takes the driver's
readiness away. From then on no transaction is made: each finds the error and returns it.
What takes the error away is a camera that is attached or taken off, or the controller being
brought up. `PTP_Task` goes on looking at the interface, and `PTP_Disable` closes the
session, so what opens and closes one can still be sent.

## Main definitions

* `Connection.Happening.clears`: What takes an error away.
* `Connection.Uncleared`: Nothing does.

## Theorems

* `step_stopped`: What a step does after an error.
* `error_stops`: After an error no more is sent than the opening and closing of sessions.
-/

namespace TimelapsePlus

namespace Ptp

open Word Usb

/-- What takes an error away. Of the ends of turns it is the one that brings the controller
    up. -/
def Connection.Happening.clears (usbMode : Bool) : Connection.Happening → Bool
  | .attached => true
  | .unattached => true
  | .hostError => true
  | .enable => true
  | .turn host => host && !usbMode
  | _ => false

namespace Connection

variable {c d : Connection}

/-- Nothing takes an error away. -/
def Uncleared (c : Connection) (l : Happening) : Prop := l.clears c.usbMode = false

instance (c : Connection) (l : Happening) : Decidable (c.Uncleared l) :=
  inferInstanceAs (Decidable (_ = _))

theorem ptpTask_stopped (herror : c.driver.error ≠ 0) (released : Bool) :
    Driver.Stopped c.driver (c.ptpTask released).driver := by
  have hopen := Driver.openSession_stopped c.driver released
  have herror' : (c.driver.openSession released).error ≠ 0 := by
    rw [hopen.error]
    exact herror
  unfold ptpTask
  split
  · split
    · exact .refl _
    · simp only [Driver.transaction_error herror', reduceCtorEq, if_false]
      exact hopen
  · exact .of_sent rfl nofun rfl

theorem init_stopped (herror : c.driver.error ≠ 0) (protocol : Protocol) :
    (c.init protocol).driver = c.driver := Driver.greet_stopped herror _

theorem notify_stopped (herror : c.driver.error ≠ 0) (protocol : Protocol) :
    (c.notify protocol).driver = c.driver := by
  unfold notify messageNotify
  split
  · rfl
  · split
    · split
      · rfl
      · exact @init_stopped { c with chksum := c.driver.ready } herror protocol
    · split
      · rfl
      · rfl

theorem shutdown_stopped (c : Connection) : Driver.Stopped c.driver c.shutdown.driver := by
  have hcommand := Driver.sessionCommand_stopped c.driver operationCloseSession (Or.inr rfl)
  exact ⟨hcommand.error, nofun, hcommand.sent⟩

/-- After an error, each step that does not take it away leaves it, and sends no more than
    what opens and closes sessions. -/
theorem step_stopped (herror : c.driver.error ≠ 0) {l : Happening} (hl : c.Uncleared l)
    (hstep : c.step l = some d) : Driver.Stopped c.driver d.driver := by
  cases l with
  | attached => cases hl
  | unattached => cases hl
  | hostError => cases hl
  | enable => cases hl
  | enumerated descriptor camera =>
      simp only [step, Option.ite_none_right_eq_some] at hstep
      rcases hstep with ⟨-, hstep⟩
      cases camera with
      | none =>
          simp only [Option.some.injEq] at hstep
          subst hstep
          exact .of_sent rfl (fun h => h) rfl
      | some answers =>
          simp only [Option.some.injEq] at hstep
          subst hstep
          exact .of_sent rfl (fun h => h) rfl
  | transaction opCode receive params data =>
      simp only [step, Driver.transaction_error herror, Option.some.injEq] at hstep
      subst hstep
      exact .refl _
  | fetchData offset =>
      simp only [step, Option.some.injEq] at hstep
      subst hstep
      exact Driver.fetchData_stopped c.driver offset
  | disable =>
      simp only [step, Option.ite_none_right_eq_some, Option.some.injEq] at hstep
      rcases hstep with ⟨-, rfl⟩
      exact shutdown_stopped { c with disabled := true }
  | look released protocol =>
      have htask := ptpTask_stopped herror released
      have herror' : (c.ptpTask released).driver.error ≠ 0 := by
        rw [htask.error]
        exact herror
      cases henabling : c.enabling with
      | idle =>
          simp only [step, henabling, reduceCtorEq] at hstep
      | trying n =>
          simp only [step, henabling, Option.some.injEq] at hstep
          subst hstep
          unfold look
          simp only
          split
          · show Driver.Stopped c.driver ((c.ptpTask released).init protocol).driver
            rw [init_stopped herror']
            exact htask
          · exact htask
      | found =>
          simp only [step, henabling, Option.some.injEq] at hstep
          subst hstep
          exact htask
  | notify protocol =>
      simp only [step, Option.ite_none_right_eq_some, Option.some.injEq] at hstep
      rcases hstep with ⟨-, rfl⟩
      show Driver.Stopped c.driver (c.notify protocol).driver
      rw [notify_stopped herror]
      exact .refl _
  | poll released =>
      simp only [step, Option.ite_none_right_eq_some, Option.some.injEq] at hstep
      rcases hstep with ⟨-, rfl⟩
      split
      · exact ptpTask_stopped herror released
      · exact .refl _
  | turn host =>
      simp only [step, Option.ite_none_right_eq_some, Option.some.injEq] at hstep
      rcases hstep with ⟨-, rfl⟩
      show Driver.Stopped c.driver (c.turn host).driver
      unfold turn
      split
      · exact .refl _
      · split
        · next hup =>
            -- The controller is not brought up.
            have hclears : (host && !c.usbMode) = false := hl
            rw [hup.1, hup.2] at hclears
            cases hclears
        · split
          · exact shutdown_stopped { c with usbMode := false }
          · exact .refl _

/-- After an error, and until a camera is attached or taken off or the controller brought up,
    the driver is not ready, the error stays as it is, and nothing is sent but what opens and
    closes sessions. -/
theorem error_stops (hrun : Run step (fun _ _ => True) powerUp c) (herror : c.driver.error ≠ 0)
    (hmore : Run step Uncleared c d) :
    d.driver.error = c.driver.error ∧ d.driver.ready = false ∧
      ∃ sent, d.driver.usb.sent = sent ++ c.driver.usb.sent ∧ ∀ m ∈ sent, OpensOrCloses m := by
  have hstopped := hmore.invariant (fun e => Driver.Stopped c.driver e.driver)
    (fun e l e' he hl hstep => by
      refine he.trans (step_stopped ?_ hl hstep)
      rw [he.error]
      exact herror) (.refl _)
  refine ⟨hstopped.error, Bool.eq_false_iff.mpr fun hready => ?_, hstopped.sent⟩
  exact herror (run_clean hrun (hstopped.ready hready))

/-- A camera is plugged in and fails. -/
def failing : List Happening :=
  round true ++ [.attached, .enumerated [] opens] ++ round true ++
    [.notify .nikon, .poll false, .transaction 0x100E false [] []]

/-- It is asked once more, and then the cable is pulled out. -/
def pulled : List Happening :=
  [.turn true, .transaction 0x100E false [] []] ++ round false

/-- The error is the operation, and all that is sent is what closes the session. -/
theorem error_stops_failed : ∃ c d, steps step powerUp failing = some c ∧
    steps step c pulled = some d ∧ c.driver.error = 0x100E ∧ d.driver.error = c.driver.error ∧
      d.driver.ready = false ∧
      ∃ sent, d.driver.usb.sent = sent ++ c.driver.usb.sent ∧ ∀ m ∈ sent, OpensOrCloses m := by
  have herror : (steps step powerUp failing).map (fun c => c.driver.error) = some 0x100E := rfl
  have hallowed : (steps step powerUp failing).map (fun c => allowed step Uncleared c pulled) =
      some true := rfl
  cases hsteps : steps step powerUp failing with
  | none =>
      rw [hsteps] at herror
      cases herror
  | some c =>
      rw [hsteps, Option.map_some, Option.some.injEq] at herror hallowed
      rcases run_of_allowed pulled hallowed with ⟨d, hsteps', hmore⟩
      have hne : c.driver.error ≠ 0 := by
        rw [herror]
        decide
      exact ⟨c, d, rfl, hsteps', herror, error_stops (run_of_steps failing hsteps) hne hmore⟩

end Connection

end Ptp

end TimelapsePlus
