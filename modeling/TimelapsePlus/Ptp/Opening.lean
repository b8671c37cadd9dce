import TimelapsePlus.Ptp.Integrity
import TimelapsePlus.Ptp.Modes

/-!
# Opening a Session

The session with a camera is opened by a command of its own, before the first transaction,
and closed by another. Neither is a transaction, and neither looks at the error that the
last transaction has left. The interface is up or down, the driver is ready or not, and a
camera that does not open a session is to have its configuration taken away.

What a transaction can do to all this is little. It brings nothing up: the driver is ready
after it only if it was, and the interface is up only if it was. When it ends well there
was no error, and there is none.

## Main definitions

* `Driver.sessionCommand`, `Driver.openSession`: `PTP_OpenSession`, and what closes it.
* `Driver.shutdown`, `Driver.enable`: Taking the driver down, and bringing it up.
* `Driver.Loses`: The driver has come to no more.
* `Driver.Clean`: A driver that is ready has no error.
* `Driver.Stopped`: An error stays, and no transaction is made.

## Theorems

* `transaction_loses`: A transaction brings nothing up.
* `transaction_ok`: One that ends well is made without an error, and leaves none.
* `greet_loses`, `greet_ok`: The same of the transactions that `init` makes.
* `openSession_stopped`, `fetchData_stopped`: What is sent after an error.
-/

namespace TimelapsePlus

namespace Ptp

open Word Usb

def operationGetDeviceInfo : Nat := 0x1001
def operationOpenSession : Nat := 0x1002
def operationCloseSession : Nat := 0x1003

/-- The opening or the closing of a session. -/
def OpensOrCloses (m : Sent) : Prop :=
  m = .command operationOpenSession [1] ∨ m = .command operationCloseSession [1]

namespace Driver

/-- The header that the session's commands are sent from, and the response is read into. -/
def sessionHeader (operation : Nat) : List UInt8 :=
  [16, 0, 0, 0, 1, 0, UInt8.ofNat operation, UInt8.ofNat (operation / 256), 0, 0, 0, 0, 1, 0, 0, 0]

/-- `SI_Host_OpenSession` and `SI_Host_CloseSession`: whether they end well. -/
def sessionCommand (d : Driver) (operation : Nat) : Bool × Driver :=
  let c := sendCommand d.usb operation [1]
  if c.1 ≠ noError then (false, { d with usb := c.2 })
  else
    let r := receiveBlockHeader c.2 (store (fun _ => 0) 0 (sessionHeader operation))
    let ok := r.1 = noError ∧ le16 r.2.1 4 = containerResponseBlock ∧ le16 r.2.1 6 = responseOk
    (decide ok, { d with usb := r.2.2 })

/-- `PTP_OpenSession`. A camera that does not open one is to have its configuration taken
    away; `released` says whether it lets go of it. -/
def openSession (d : Driver) (released : Bool) : Driver :=
  let r := d.sessionCommand operationOpenSession
  if r.1 then r.2
  else { r.2 with usb.configured := r.2.usb.configured && !released }

/-- `PTP_Disable` and `PTP_Shutdown`, up to what they make of the controller. -/
def shutdown (d : Driver) : Driver :=
  let d := (d.sessionCommand operationCloseSession).2
  { d with ready := false, bytesRemaining := 0, usb.configured := false, usb.packets := [] }

/-- `PTP_Enable`. -/
def enable (d : Driver) : Driver :=
  { d with
    bytesRemaining := 0
    ready := false
    error := 0
    usb.configured := false
    usb.packets := [] }

end Driver

/-- The interface is up no more than it was. -/
theorem sendCommand_configured (h : Host) (operation : Nat) (params : List Nat) :
    (sendCommand h operation params).2.configured = h.configured := by
  unfold sendCommand
  split
  · rfl
  · split
    · rfl
    · rfl

theorem sendBlockHeader_configured (h : Host) (status operation : Nat) (data : List UInt8) :
    (sendBlockHeader h status operation data).2.configured = h.configured := by
  unfold sendBlockHeader
  split
  · rfl
  · split
    · rfl
    · rfl

theorem receiveBlockHeader_configured (h : Host) (block : Nat → UInt8) :
    (receiveBlockHeader h block).2.2.configured = h.configured := by
  unfold receiveBlockHeader
  split
  · rfl
  · split
    · rfl
    · simp only
      split
      · split
        · rfl
        · rfl
      · rfl

theorem readData_configured (h : Host) (buffer : Nat → UInt8) (dst n : Nat) :
    (readData h buffer dst n).2.2.configured = h.configured := by
  unfold readData
  split
  · rfl
  · rfl

theorem receiveResponseCode_configured (h : Host) (block : Nat → UInt8) :
    (receiveResponseCode h block).2.2.configured = h.configured := by
  have hheader := receiveBlockHeader_configured h block
  unfold receiveResponseCode
  split
  · rfl
  · simp only
    split
    · exact hheader
    · split
      · exact hheader
      · exact hheader

namespace Driver

/-- The driver has come to no more: it is ready only if it was, and without an error if it
    had none, and its interface is up only if it was. -/
structure Loses (d d' : Driver) : Prop where
  ready : d'.ready = true → d.ready = true ∧ (d.error = 0 → d'.error = 0)
  configured : d'.usb.configured = true → d.usb.configured = true

variable {d d' d'' : Driver}

theorem Loses.trans (h : Loses d d') (h' : Loses d' d'') : Loses d d'' where
  ready := fun hready => by
    rcases h'.ready hready with ⟨hready', herror'⟩
    rcases h.ready hready' with ⟨hready, herror⟩
    exact ⟨hready, fun h => herror' (herror h)⟩
  configured := fun hup => h.configured (h'.configured hup)

/-- Nothing but the rest of the driver is changed. -/
theorem Loses.of_same (hready : d'.ready = d.ready) (herror : d'.error = d.error)
    (husb : d'.usb.configured = d.usb.configured) : Loses d d' where
  ready := fun h => ⟨hready.symm.trans h, herror.trans⟩
  configured := fun h => husb.symm.trans h

/-- A driver that is ready has no error. -/
def Clean (d : Driver) : Prop := d.ready = true → d.error = 0

theorem Loses.clean (h : Loses d d') (hclean : d.Clean) : d'.Clean := fun hready =>
  (h.ready hready).2 (hclean (h.ready hready).1)

theorem Loses.refl (d : Driver) : Loses d d := .of_same rfl rfl rfl

theorem fetchData_loses (d : Driver) (offset : Nat) : Loses d (d.fetchData offset).2 := by
  have hread := readData_configured d.usb (carryOver d.buffer offset) offset
    (fetchLength d.bytesRemaining offset)
  unfold fetchData
  by_cases hremaining : 0 < d.bytesRemaining
  · simp only [if_pos hremaining]
    split
    · exact .of_same rfl rfl hread
    · split
      · split
        · exact ⟨fun h => ⟨h, fun herror => herror⟩, fun h => absurd h Bool.false_ne_true⟩
        · exact .of_same rfl rfl ((receiveResponseCode_configured _ _).trans hread)
      · exact .of_same rfl rfl hread
  · rw [if_neg hremaining]
    exact .refl d

/-- The end of a transaction is well, or the driver is not ready after it. -/
theorem receiveEnd_cases (d : Driver) (opCode err : Nat) :
    (d.receiveEnd opCode err).1 = .ok ∧ (d.receiveEnd opCode err).2.error = d.error ∧
        (d.receiveEnd opCode err).2.ready = d.ready ∨
      (d.receiveEnd opCode err).1 = .error ∧ (d.receiveEnd opCode err).2.ready = false := by
  unfold receiveEnd
  grind

theorem receiveEnd_configured (d : Driver) (opCode err : Nat) :
    (d.receiveEnd opCode err).2.usb.configured = d.usb.configured := by
  have hcode := receiveResponseCode_configured d.usb d.block
  unfold receiveEnd
  grind

theorem receiveEnd_loses (d : Driver) (opCode err : Nat) :
    Loses d (d.receiveEnd opCode err).2 := by
  have husb := receiveEnd_configured d opCode err
  rcases receiveEnd_cases d opCode err with ⟨-, herror, hready⟩ | ⟨-, hready⟩
  · exact .of_same hready herror husb
  · exact ⟨fun h => absurd (hready.symm.trans h) Bool.false_ne_true, fun h => husb.symm.trans h⟩

/-- The driver is as well as it was. -/
structure Stays (d d' : Driver) : Prop where
  ready : d'.ready = d.ready
  error : d'.error = d.error

/-- It is so if what it came from is. -/
theorem Stays.behind (h : Stays d' d'') (hready : d'.ready = d.ready)
    (herror : d'.error = d.error) : Stays d d'' :=
  ⟨h.ready.trans hready, h.error.trans herror⟩

theorem receiveEnd_ok {d : Driver} {opCode err : Nat} (h : (d.receiveEnd opCode err).1 = .ok) :
    Stays d (d.receiveEnd opCode err).2 := by
  rcases receiveEnd_cases d opCode err with ⟨-, herror, hready⟩ | ⟨hbad, -⟩
  · exact ⟨hready, herror⟩
  · rw [hbad] at h
    cases h

theorem receiveHeader_loses (d : Driver) (opCode : Nat) : Loses d (d.receiveHeader opCode).2 := by
  have hheader := receiveBlockHeader_configured d.usb (store d.block 0 [0, 0, 0, 0])
  unfold receiveHeader
  simp only
  split
  · exact .of_same rfl rfl hheader
  · split
    · exact .of_same rfl rfl hheader
    · exact .of_same rfl rfl hheader

theorem receiveHeader_stays (d : Driver) (opCode : Nat) :
    Stays d (d.receiveHeader opCode).2 := by
  unfold receiveHeader
  simp only
  split
  · exact ⟨rfl, rfl⟩
  · split
    · exact ⟨rfl, rfl⟩
    · exact ⟨rfl, rfl⟩

theorem receiveData_loses (d : Driver) (opCode err : Nat) :
    Loses d (d.receiveData opCode err).2 := by
  have hread := readData_configured d.usb d.buffer 0
  unfold receiveData
  split
  · exact receiveEnd_loses d opCode err
  · split
    · simp only
      split
      · exact .of_same rfl rfl (hread _)
      · refine Loses.trans ?_ (receiveEnd_loses _ opCode _)
        exact .of_same rfl rfl (hread _)
    · split
      · refine Loses.trans ?_ (receiveEnd_loses _ opCode _)
        exact .of_same rfl rfl (hread _)
      · refine Loses.trans ?_ (receiveEnd_loses _ opCode _)
        exact .of_same rfl rfl rfl

theorem receiveData_ok {d : Driver} {opCode err : Nat}
    (h : (d.receiveData opCode err).1 = .ok) : Stays d (d.receiveData opCode err).2 := by
  unfold receiveData at h ⊢
  by_cases herr : err ≠ noError
  · rw [if_pos herr] at h ⊢
    exact receiveEnd_ok h
  · rw [if_neg herr] at h ⊢
    by_cases hlong : bufferSize < d.bytesReceived
    · simp only [if_pos hlong] at h ⊢
      split at h
      · cases h
      · next hbad =>
          rw [if_neg hbad]
          exact (receiveEnd_ok h).behind rfl rfl
    · simp only [if_neg hlong] at h ⊢
      split at h
      · next hsome =>
          rw [if_pos hsome]
          exact (receiveEnd_ok h).behind rfl rfl
      · next hnone =>
          rw [if_neg hnone]
          exact (receiveEnd_ok h).behind rfl rfl

theorem fetchData_ready (d : Driver) (offset : Nat) : (d.fetchData offset).2.ready = d.ready := by
  unfold fetchData
  grind

/-- A transaction brings nothing up. -/
theorem transaction_loses (d : Driver) (opCode : Nat) (receive : Bool) (params : List Nat)
    (data : List UInt8) : Loses d (d.transaction opCode receive params data).2 := by
  have hsend := sendCommand_configured d.usb opCode params
  unfold transaction
  split
  · exact .refl d
  · split
    · exact fetchData_loses d 0
    · simp only
      split
      · refine Loses.trans ?_ (receiveEnd_loses _ opCode _)
        exact .of_same rfl rfl ((sendBlockHeader_configured _ _ _ _).trans hsend)
      · have hsent : Loses d { d with usb := (sendCommand d.usb opCode params).2 } :=
          .of_same rfl rfl hsend
        split
        · exact hsent.trans ((receiveHeader_loses _ opCode).trans (receiveData_loses _ opCode _))
        · exact hsent.trans (receiveEnd_loses _ opCode _)

/-- A transaction that is well is made without an error, and leaves the driver as well as it
    was. -/
theorem transaction_ok {d : Driver} {opCode : Nat} {receive : Bool} {params : List Nat}
    {data : List UInt8} (h : (d.transaction opCode receive params data).1 = .ok) :
    d.error = 0 ∧ Stays d (d.transaction opCode receive params data).2 := by
  unfold transaction at h ⊢
  by_cases herror : d.error ≠ 0
  · rw [if_pos herror] at h
    cases h
  · refine ⟨not_not.mp herror, ?_⟩
    rw [if_neg herror] at h ⊢
    by_cases hremaining : 0 < d.bytesRemaining
    · rw [if_pos hremaining]
      exact ⟨fetchData_ready d 0, (fetchData_frame d 0).1⟩
    · simp only [if_neg hremaining] at h ⊢
      split at h
      · next hdata =>
          rw [if_pos hdata]
          exact (receiveEnd_ok h).behind rfl rfl
      · next hdata =>
          rw [if_neg hdata]
          split at h
          · next hreceive =>
              rw [if_pos hreceive]
              have hheader := receiveHeader_stays
                { d with usb := (sendCommand d.usb opCode params).2 } opCode
              exact (receiveData_ok h).behind hheader.ready hheader.error
          · next hreceive =>
              rw [if_neg hreceive]
              exact (receiveEnd_ok h).behind rfl rfl

theorem greet_loses (d : Driver) (greetings : List (Nat × Bool × List Nat)) :
    Loses d (greet d greetings).2 := by
  induction greetings generalizing d with
  | nil => exact .refl d
  | cons greeting rest ih =>
      rcases greeting with ⟨opCode, receive, params⟩
      have hask := transaction_loses d opCode receive params []
      unfold greet
      simp only
      split
      · exact hask
      · exact hask.trans (ih _)

/-- A camera that has been greeted is as well as it was. -/
theorem greet_ok {d : Driver} {greetings : List (Nat × Bool × List Nat)}
    (h : (greet d greetings).1 = true) : (greet d greetings).2.ready = d.ready := by
  induction greetings generalizing d with
  | nil => rfl
  | cons greeting rest ih =>
      rcases greeting with ⟨opCode, receive, params⟩
      unfold greet at h ⊢
      simp only at h ⊢
      split at h
      · cases h
      · next hask =>
          rw [if_neg hask]
          exact (ih h).trans (transaction_ok (not_not.mp hask)).2.ready

/-- The commands that open and close a session change nothing but the pipe. -/
theorem sessionCommand_loses (d : Driver) (operation : Nat) :
    Loses d (d.sessionCommand operation).2 := by
  have hsend := sendCommand_configured d.usb operation [1]
  unfold sessionCommand
  simp only
  split
  · exact .of_same rfl rfl hsend
  · exact .of_same rfl rfl ((receiveBlockHeader_configured _ _).trans hsend)

theorem openSession_loses (d : Driver) (released : Bool) :
    Loses d (d.openSession released) := by
  have hcommand := sessionCommand_loses d operationOpenSession
  unfold openSession
  simp only
  split
  · exact hcommand
  · exact ⟨hcommand.ready, fun h => hcommand.configured (Bool.and_eq_true_iff.mp h).1⟩

/-- An error stays, and no more is sent than what opens and closes sessions. -/
structure Stopped (d d' : Driver) : Prop where
  error : d'.error = d.error
  ready : d'.ready = true → d.ready = true
  sent : ∃ sent, d'.usb.sent = sent ++ d.usb.sent ∧ ∀ m ∈ sent, OpensOrCloses m

theorem Stopped.of_sent (herror : d'.error = d.error) (hready : d'.ready = true → d.ready = true)
    (hsent : d'.usb.sent = d.usb.sent) : Stopped d d' :=
  ⟨herror, hready, [], hsent, fun _ hm => absurd hm List.not_mem_nil⟩

theorem Stopped.refl (d : Driver) : Stopped d d := .of_sent rfl (fun h => h) rfl

theorem Stopped.trans (h : Stopped d d') (h' : Stopped d' d'') : Stopped d d'' := by
  rcases h.sent with ⟨sent, hsent, hall⟩
  rcases h'.sent with ⟨sent', hsent', hall'⟩
  refine ⟨h'.error.trans h.error, fun hready => h.ready (h'.ready hready), sent' ++ sent, ?_,
    fun m hm => ?_⟩
  · rw [hsent', hsent, List.append_assoc]
  · rcases List.mem_append.mp hm with hm | hm
    · exact hall' m hm
    · exact hall m hm

/-- A command is sent, or it is not. -/
theorem sendCommand_sent (h : Host) (operation : Nat) (params : List Nat) :
    (sendCommand h operation params).2.sent = h.sent ∨
      (sendCommand h operation params).2.sent = .command operation params :: h.sent := by
  unfold sendCommand
  split
  · exact Or.inl rfl
  · split
    · exact Or.inl rfl
    · exact Or.inr rfl

theorem sessionCommand_stopped (d : Driver) (operation : Nat)
    (hsession : OpensOrCloses (.command operation [1])) :
    Stopped d (d.sessionCommand operation).2 := by
  have hsame : (d.sessionCommand operation).2.usb.sent =
      (sendCommand d.usb operation [1]).2.sent := by
    unfold sessionCommand
    simp only
    split
    · rfl
    · exact receiveBlockHeader_sent _ _
  have hloses := sessionCommand_loses d operation
  have herror : (d.sessionCommand operation).2.error = d.error := by
    unfold sessionCommand
    simp only
    split
    · rfl
    · rfl
  refine ⟨herror, fun hready => (hloses.ready hready).1, ?_⟩
  rw [hsame]
  rcases sendCommand_sent d.usb operation [1] with hsent | hsent
  · exact ⟨[], hsent, fun _ hm => absurd hm List.not_mem_nil⟩
  · refine ⟨[.command operation [1]], hsent, fun m hm => ?_⟩
    rw [List.mem_singleton.mp hm]
    exact hsession

theorem openSession_stopped (d : Driver) (released : Bool) :
    Stopped d (d.openSession released) := by
  have hcommand := sessionCommand_stopped d operationOpenSession (Or.inl rfl)
  unfold openSession
  simp only
  split
  · exact hcommand
  · exact ⟨hcommand.error, hcommand.ready, hcommand.sent⟩

/-- After an error a transaction is not made. -/
theorem transaction_error {d : Driver} (herror : d.error ≠ 0) (opCode : Nat) (receive : Bool)
    (params : List Nat) (data : List UInt8) :
    d.transaction opCode receive params data = (.error, d) := by
  rw [transaction, if_pos herror]

theorem fetchData_stopped (d : Driver) (offset : Nat) : Stopped d (d.fetchData offset).2 :=
  .of_sent (fetchData_frame d offset).1 (fun h => (fetchData_ready d offset).symm.trans h)
    (fetchData_sent d offset)

theorem greet_stopped {d : Driver} (herror : d.error ≠ 0)
    (greetings : List (Nat × Bool × List Nat)) : (greet d greetings).2 = d := by
  cases greetings with
  | nil => rfl
  | cons greeting rest =>
      rcases greeting with ⟨opCode, receive, params⟩
      unfold greet
      simp only [transaction_error herror]
      rfl

end Driver

end Ptp

end TimelapsePlus
