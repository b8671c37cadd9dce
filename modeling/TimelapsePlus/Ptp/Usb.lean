import TimelapsePlus.Lib.Word

/-!
# Still Image Host

The USB host side of the still image class: sending a command container to the
camera and reading containers back. The camera is the environment here. What
it will do with each command to come is a script of `Answer`s, and nothing is
assumed about the script: an answer may refuse the command, send too little,
too much, or nothing at all.

The camera's bytes arrive as packets. A read takes bytes from the packet in
the bank and goes to the next one only when it needs a byte more, so that a
packet read to its last byte stays in the bank, empty, until the next read.
A read that waits for a packet that never comes fails with what ended the
wait. Reading a container header ignores that failure, so a header cut short
keeps the bytes of the header read before it.

## Main definitions

* `Silence`: How a wait for a packet that does not come ends.
* `Answer`: What the camera does with one command.
* `Sent`: A container sent to the camera.
* `Host`: The host's side of the interface.
* `readStream`: Reading bytes of the packets that have arrived.
* `sendCommand`, `sendBlockHeader`: Sending a command and its data block.
* `receiveBlockHeader`, `readData`: Reading a header, and the bytes after it.
* `receiveResponse`, `receiveResponseCode`: Reading the response container.
* `IsResponse`: A packet is a response container with a given code.

## Theorems

* `readStream_append`: A read of bytes that have arrived hands them over.
* `readStream_packet`: A read within the next packet leaves the rest of it.
* `receiveBlockHeader_data`: Reading the header of a data container.
* `receiveBlockHeader_response`: Reading a response takes its whole packet.
* `receiveResponseCode_response`: A response is good when its code is.
* `readData_append`: Reading data that has arrived succeeds.
-/

namespace TimelapsePlus

namespace Usb

open Word

/-- How a wait for a packet that does not come ends. -/
inductive Silence
  | stalled
  | disconnected
  | timeout
deriving Repr, DecidableEq

/-- The error code of a wait that ended. -/
def Silence.code : Silence → Nat
  | .stalled => 1
  | .disconnected => 2
  | .timeout => 3

/-- `PIPE_RWSTREAM_NoError`. -/
def noError : Nat := 0

/-- `PIPE_RWSTREAM_DeviceDisconnected`. -/
def deviceDisconnected : Nat := 2

/-- `SI_ERROR_LOGICAL_CMD_FAILED`. -/
def logicalCmdFailed : Nat := 0x80

/-- `PTP_RESPONSE_OK`. -/
def responseOk : Nat := 0x2001

/-- `PIMA_CONTAINER_ResponseBlock`. -/
def containerResponseBlock : Nat := 3

/-- `PIMA_COMMAND_SIZE`: the length of a container with so many parameters. -/
def commandSize (params : Nat) : Nat := 12 + 4 * params

/-- What the camera does with one command: how sending the command and its
    data block ends, and the packets it then puts on the pipe. -/
structure Answer where
  command : Nat
  block : Nat
  packets : List (List UInt8)
deriving Repr, DecidableEq

/-- A container the camera has accepted. -/
inductive Sent
  | command (operation : Nat) (params : List Nat)
  | block (operation : Nat) (data : List UInt8)
deriving Repr, DecidableEq

/-- The host's side of the interface: the answers still to come, the packets
    that have arrived and not been read, and what was sent, newest first. -/
structure Host where
  configured : Bool
  wait : Silence
  answers : List Answer
  packets : List (List UInt8)
  sent : List Sent
deriving Repr, DecidableEq

/-- Read `n` bytes: the bytes, the packets left, and the error code. -/
def readStream (wait : Silence) : Nat → List (List UInt8) →
    List UInt8 × List (List UInt8) × Nat
  | _, [] => ([], [], wait.code)
  | n, p :: ps =>
      if n ≤ p.length then (p.take n, p.drop n :: ps, noError)
      else
        let r := readStream wait (n - p.length) ps
        (p ++ r.1, r.2)

/-- The answer to the next command. A camera whose script has run out takes
    the command and says nothing. -/
def Host.answer (h : Host) : Answer := h.answers.headD ⟨noError, noError, []⟩

def sendCommand (h : Host) (operation : Nat) (params : List Nat) : Nat × Host :=
  if h.configured = false then (deviceDisconnected, h)
  else if h.answer.command ≠ noError then
    (h.answer.command, { h with answers := h.answers.tail })
  else
    (noError, { h with
      answers := h.answers.tail
      packets := h.packets ++ h.answer.packets
      sent := .command operation params :: h.sent })

/-- Send the data block of the command just sent; `status` is how the camera
    takes it. -/
def sendBlockHeader (h : Host) (status operation : Nat) (data : List UInt8) : Nat × Host :=
  if h.configured = false then (deviceDisconnected, h)
  else if status ≠ noError then (status, h)
  else (noError, { h with sent := .block operation data :: h.sent })

def receiveBlockHeader (h : Host) (block : Nat → UInt8) : Nat × (Nat → UInt8) × Host :=
  if h.configured = false then (deviceDisconnected, block, h)
  else if h.packets = [] then (h.wait.code, block, h)
  else
    -- The result of reading the header is not looked at.
    let r := readStream h.wait (commandSize 0) h.packets
    let block := store block 0 r.1
    if le16 block 4 = containerResponseBlock then
      let paramBytes := u8 (sub32 (le32 block 0) (commandSize 0))
      if paramBytes = 0 then (noError, block, { h with packets := r.2.1.tail })
      else
        let s := readStream h.wait paramBytes r.2.1
        (noError, store block (commandSize 0) s.1, { h with packets := s.2.1.tail })
    else (noError, block, { h with packets := r.2.1 })

def readData (h : Host) (buffer : Nat → UInt8) (dst n : Nat) : Nat × (Nat → UInt8) × Host :=
  if h.configured = false then (deviceDisconnected, buffer, h)
  else
    let r := readStream h.wait n h.packets
    (r.2.2, store buffer dst r.1, { h with packets := r.2.1 })

def receiveResponseCode (h : Host) (block : Nat → UInt8) : Nat × (Nat → UInt8) × Host :=
  if h.configured = false then (deviceDisconnected, block, h)
  else
    let r := receiveBlockHeader h block
    if r.1 ≠ noError then r
    else if le16 r.2.1 4 ≠ containerResponseBlock ∨ le16 r.2.1 6 ≠ responseOk then
      (logicalCmdFailed, r.2)
    else (noError, r.2)

/-- As `receiveResponseCode`, into a header of its own. -/
def receiveResponse (h : Host) : Nat × Host :=
  let r := receiveResponseCode h (fun _ => 0)
  (r.1, r.2.2)

/-- A read of bytes that have arrived hands them over, and leaves what comes
    after them as it was. -/
theorem readStream_append (wait : Silence) (D R : List (List UInt8)) (n : Nat)
    (hn : n ≤ D.flatten.length) (hne : D ++ R ≠ []) :
    ∃ D', readStream wait n (D ++ R) = (D.flatten.take n, D' ++ R, noError) ∧
      D'.flatten = D.flatten.drop n := by
  induction D generalizing n with
  | nil =>
      have hzero : n = 0 := by simpa using hn
      subst hzero
      cases R with
      | nil => exact absurd rfl hne
      | cons p ps => exact ⟨[], by simp [readStream], rfl⟩
  | cons p D ih =>
      rw [List.cons_append, readStream, List.flatten_cons]
      rw [List.flatten_cons, List.length_append] at hn
      by_cases hp : n ≤ p.length
      · refine ⟨p.drop n :: D, ?_, ?_⟩
        · rw [if_pos hp, List.take_append_of_le_length hp, List.cons_append]
        · rw [List.flatten_cons, List.drop_append_of_le_length hp]
      · -- The packet is used up and the read goes on in those after it.
        have hD : D ≠ [] := by
          intro h
          rw [h, List.flatten_nil, List.length_nil] at hn
          omega
        rcases ih (n - p.length) (by omega) (by simp [hD]) with ⟨D', hr, hD'⟩
        have htake : p.take n = p := List.take_of_length_le (by omega)
        have hdrop : p.drop n = [] := List.drop_of_length_le (by omega)
        refine ⟨D', ?_, ?_⟩
        · rw [if_neg hp, hr, List.take_append, htake]
        · rw [hD', List.drop_append, hdrop, List.nil_append]

/-- A read within a packet that follows only empty ones leaves the rest of the
    packet in the bank. -/
theorem readStream_packet (wait : Silence) (D R : List (List UInt8)) (p : List UInt8) (n : Nat)
    (hD : D.flatten = []) (hpos : 0 < n) (hn : n ≤ p.length) :
    readStream wait n (D ++ p :: R) = (p.take n, p.drop n :: R, noError) := by
  induction D with
  | nil => rw [List.nil_append, readStream, if_pos hn]
  | cons q D ih =>
      rw [List.flatten_cons, List.append_eq_nil_iff] at hD
      rcases hD with ⟨rfl, hD⟩
      rw [List.cons_append, readStream, if_neg (by rw [List.length_nil]; omega), List.length_nil,
        Nat.sub_zero, ih hD]
      rfl

/-- A packet is a response container with this code, and nothing else. -/
structure IsResponse (p : List UInt8) (code : Nat) : Prop where
  min : commandSize 0 ≤ p.length
  max : p.length < commandSize 0 + 256
  dataLength : le32 (bytes p) 0 = p.length
  type : le16 (bytes p) 4 = containerResponseBlock
  code : le16 (bytes p) 6 = code

/-- The bytes of a stored header are those of the bytes stored. -/
theorem store_take (mem : Nat → UInt8) (l : List UInt8) {n i : Nat} (hn : n ≤ l.length)
    (hi : i < n) : store mem 0 (l.take n) i = bytes l i := by
  rw [store_of_mem mem 0 _ (by omega) (by rw [List.length_take]; omega), Nat.sub_zero]
  unfold bytes
  rw [List.getD_eq_getElem?_getD, List.getD_eq_getElem?_getD, List.getElem?_take_of_lt hi]

theorem le32_store_take (mem : Nat → UInt8) (l : List UInt8) {n i : Nat} (hn : n ≤ l.length)
    (hi : i + 4 ≤ n) : le32 (store mem 0 (l.take n)) i = le32 (bytes l) i :=
  le32_congr fun _ _ => store_take mem l hn (by omega)

theorem le16_store_take (mem : Nat → UInt8) (l : List UInt8) {n i : Nat} (hn : n ≤ l.length)
    (hi : i + 2 ≤ n) : le16 (store mem 0 (l.take n)) i = le16 (bytes l) i := by
  unfold le16
  rw [store_take mem l hn (by omega), store_take mem l hn (by omega)]

/-- Reading the header of a container that is not a response leaves the bytes
    after it to be read. -/
theorem receiveBlockHeader_data (h : Host) (block : Nat → UInt8) (D R : List (List UInt8))
    (hconf : h.configured = true) (hp : h.packets = D ++ R)
    (hlen : commandSize 0 ≤ D.flatten.length)
    (htype : le16 (bytes D.flatten) 4 ≠ containerResponseBlock) :
    ∃ D', receiveBlockHeader h block
        = (noError, store block 0 (D.flatten.take (commandSize 0)), { h with packets := D' ++ R })
      ∧ D'.flatten = D.flatten.drop (commandSize 0) := by
  have hne : D ++ R ≠ [] := by
    intro hnil
    rw [List.append_eq_nil_iff] at hnil
    rw [hnil.1] at hlen
    exact absurd hlen (by decide)
  rcases readStream_append h.wait D R (commandSize 0) hlen hne with ⟨D', hr, hD'⟩
  refine ⟨D', ?_, hD'⟩
  have hword := le16_store_take block D.flatten (i := 4) hlen (by decide)
  rw [receiveBlockHeader, if_neg (by simp [hconf]), if_neg (by rw [hp]; exact hne), hp, hr]
  simp only [hword, if_neg htype]

/-- Reading a response takes its whole packet out of the pipe. -/
theorem receiveBlockHeader_response (h : Host) (block : Nat → UInt8) (D R : List (List UInt8))
    (p : List UInt8) (code : Nat) (hconf : h.configured = true) (hp : h.packets = D ++ p :: R)
    (hD : D.flatten = []) (hresp : IsResponse p code) :
    ∃ block', receiveBlockHeader h block = (noError, block', { h with packets := R })
      ∧ le16 block' 4 = containerResponseBlock ∧ le16 block' 6 = code
      ∧ le32 block' 0 = p.length := by
  have hmin := hresp.min
  have hmax := hresp.max
  simp only [commandSize] at hmin hmax
  have hr := readStream_packet h.wait D R p (commandSize 0) hD (by decide) hresp.min
  have h4 := le16_store_take block p (i := 4) hresp.min (by decide)
  have h6 := le16_store_take block p (i := 6) hresp.min (by decide)
  have h0 := le32_store_take block p (i := 0) hresp.min (by decide)
  rw [hresp.type] at h4
  rw [hresp.code] at h6
  rw [hresp.dataLength] at h0
  rw [receiveBlockHeader, if_neg (by simp [hconf]), if_neg (by rw [hp]; simp), hp, hr]
  have hparam : u8 (sub32 p.length (commandSize 0)) = p.length - 12 := by
    rw [sub32_of_le (by omega) hresp.min, u8_of_lt (by simp only [commandSize]; omega)]
    rfl
  simp only [h4, h0, if_true, hparam]
  by_cases hzero : p.length - 12 = 0
  · rw [if_pos hzero]
    exact ⟨_, rfl, h4, h6, h0⟩
  · rw [if_neg hzero]
    have hs := readStream_packet h.wait [] R (p.drop (commandSize 0)) (p.length - 12) rfl
      (by omega) (by rw [List.length_drop]; simp only [commandSize]; omega)
    rw [List.nil_append] at hs
    rw [hs]
    refine ⟨_, rfl, ?_, ?_, ?_⟩
    · rw [le16_store_of_le _ _ (by decide), h4]
    · rw [le16_store_of_le _ _ (by decide), h6]
    · rw [le32_store_of_le _ _ (by decide), h0]

theorem receiveResponseCode_response (h : Host) (block : Nat → UInt8) (D R : List (List UInt8))
    (p : List UInt8) (code : Nat) (hconf : h.configured = true) (hp : h.packets = D ++ p :: R)
    (hD : D.flatten = []) (hresp : IsResponse p code) :
    ∃ block', receiveResponseCode h block
        = (if code = responseOk then noError else logicalCmdFailed, block', { h with packets := R })
      ∧ le16 block' 6 = code := by
  rcases receiveBlockHeader_response h block D R p code hconf hp hD hresp with
    ⟨block', hr, h4, h6, _⟩
  refine ⟨block', ?_, h6⟩
  rw [receiveResponseCode, if_neg (by simp [hconf]), hr]
  simp only [ne_eq, not_true_eq_false, if_false, h4, h6, false_or]
  by_cases hcode : code = responseOk
  · rw [if_neg (not_not.mpr hcode), if_pos hcode]
  · rw [if_pos hcode, if_neg hcode]

theorem readData_append (h : Host) (buffer : Nat → UInt8) (dst n : Nat) (D R : List (List UInt8))
    (hconf : h.configured = true) (hp : h.packets = D ++ R) (hn : n ≤ D.flatten.length)
    (hne : D ++ R ≠ []) :
    ∃ D', readData h buffer dst n
        = (noError, store buffer dst (D.flatten.take n), { h with packets := D' ++ R })
      ∧ D'.flatten = D.flatten.drop n := by
  rcases readStream_append h.wait D R n hn hne with ⟨D', hr, hD'⟩
  refine ⟨D', ?_, hD'⟩
  rw [readData, if_neg (by simp [hconf]), hp, hr]

end Usb

end TimelapsePlus
