import TimelapsePlus.Ptp.Usb

/-!
# PTP Driver

One buffer, and two ways of filling it. `transaction` sends an operation and
reads the first buffer of the reply; a reply longer than the buffer leaves a
count of bytes remaining, and `fetchData` reads the next buffer of it. The
response container that ends a reply is read with its last bytes, so it is
`fetchData` that reads it when the reply is long.

The counts are 16 bits wide, and a container's length is cut to them. While
bytes remain, `transaction` sends nothing and fetches instead.

`fetchData` can carry the last bytes of the buffer over to its start, so that
an item cut by the end of the buffer is read whole. The relation between the
buffer and the camera's reply is the same with and without: the buffer is a
window on the reply, and a fetch moves it forward.

## Main definitions

* `Ret`: What the driver's functions return.
* `Driver`: The driver's variables, with the interface below them.
* `Driver.transaction`: `PTP_Transaction`.
* `Driver.fetchData`: `PTP_FetchData`.
* `dataContainer`, `okResponse`, `Driver.idle`: A camera that answers, and the
  driver about to ask it.
* `Announces`, `Answers`: The camera answers the next command with a reply, and one
  whose length is a word.
* `Window`: The buffer shows a reply from a position on, and the rest of the
  reply is waiting.

## Theorems

* `fetchData_remaining_lt`: A fetch leaves fewer bytes remaining.
* `fetchData_received_le`: A fetch receives no more than the buffer holds.
* `fetchData_frame`: A fetch leaves the error and the flags alone.
* `receiveEnd_frame`: The end of a transaction leaves the buffer alone.
* `transaction_received_le`: Nor does a transaction receive more than that.
* `fetchData_window`: A fetch moves the window forward.
* `receiveHeader_word`, `receiveHeader_data`: Reading the header of the operation's
  own data.
* `Announces.header`: A transaction comes to the data phase of a reply.
* `transaction_window`: A reply that arrives puts the window at its start.
-/

namespace TimelapsePlus

namespace Ptp

open Word Usb

/-- `PTP_BUFFER_SIZE`. -/
def bufferSize : Nat := 900

/-- `PTP_RETURN_OK`, `PTP_RETURN_ERROR` and `PTP_RETURN_DATA_REMAINING`. -/
inductive Ret
  | ok
  | error
  | dataRemaining
deriving Repr, DecidableEq

/-- The driver's variables. The buffer is a memory from `PTP_Buffer[0]` on: its
    first `bufferSize` bytes are the buffer, and what follows is whatever the
    linker put there. -/
structure Driver where
  buffer : Nat → UInt8
  bytesReceived : Nat
  bytesRemaining : Nat
  bytesTotal : Nat
  error : Nat
  responseCode : Nat
  ready : Bool
  ignoreErrors : Bool
  block : Nat → UInt8
  usb : Host

/-- Carry the last `offset` bytes of the buffer over to its start. -/
def carryOver (buffer : Nat → UInt8) (offset : Nat) (i : Nat) : UInt8 :=
  if i < offset then buffer (bufferSize - offset + i) else buffer i

/-- How many bytes the next fetch asks for. -/
def fetchLength (remaining offset : Nat) : Nat :=
  let received := if bufferSize < remaining then bufferSize else remaining
  if 0 < offset ∧ bufferSize < received + offset then bufferSize - offset else received

namespace Driver

/-- `PTP_FetchData`, for an offset within the buffer. -/
def fetchData (d : Driver) (offset : Nat) : Ret × Driver :=
  if 0 < d.bytesRemaining then
    let received := fetchLength d.bytesRemaining offset
    let r := readData d.usb (carryOver d.buffer offset) offset received
    let d' := { d with
      buffer := r.2.1
      bytesReceived := received
      bytesRemaining := d.bytesRemaining - received
      usb := r.2.2 }
    if r.1 ≠ noError then (.error, d')
    else
      let d' := { d' with bytesReceived := received + offset }
      if d'.bytesRemaining = 0 then
        let s := receiveResponse d'.usb
        -- A bad response takes the interface down.
        if s.1 ≠ noError then (.error, { d' with usb := { s.2 with configured := false } })
        else (.ok, { d' with usb := s.2 })
      else (.dataRemaining, d')
  else (.error, d)

/-- The header of a reply, and the counts it sets: an error code and the
    driver after. -/
def receiveHeader (d : Driver) (opCode : Nat) : Nat × Driver :=
  let r := receiveBlockHeader d.usb (store d.block 0 [0, 0, 0, 0])
  let code := le16 r.2.1 6
  let length := le32 r.2.1 0
  let d' := { d with block := r.2.1, usb := r.2.2 }
  if code ≠ responseOk ∧ code ≠ opCode then
    (1, { d' with responseCode := code, bytesReceived := 0, bytesTotal := 0 })
  else if commandSize 0 ≤ length then
    (r.1, { d' with
      bytesReceived := u16 (length - commandSize 0)
      bytesTotal := u16 (length - commandSize 0) })
  else (1, { d' with responseCode := 0x5001, bytesReceived := 0, bytesTotal := 0 })

/-- The end of a transaction: the response container, and the driver's error
    state. -/
def receiveEnd (d : Driver) (opCode err : Nat) : Ret × Driver :=
  let r := receiveResponseCode d.usb d.block
  let code := le16 r.2.1 6
  let d' := if err = noError then { d with block := r.2.1, usb := r.2.2, responseCode := code }
    else d
  let err' := if err = noError then
      -- A busy camera is no error.
      if code = 0x2019 ∨ d.ignoreErrors then noError else r.1
    else err
  if err' = noError then (.ok, { d' with ignoreErrors := false })
  else (.error, { d' with
    ignoreErrors := false
    responseCode := if d'.responseCode = responseOk then err' else d'.responseCode
    error := opCode
    ready := false })

/-- The data phase of a reply, once its header is in. -/
def receiveData (d : Driver) (opCode err : Nat) : Ret × Driver :=
  if err ≠ noError then d.receiveEnd opCode err
  else if bufferSize < d.bytesReceived then
    let r := readData d.usb d.buffer 0 bufferSize
    let d' := { d with
      buffer := r.2.1
      bytesReceived := bufferSize
      bytesRemaining := d.bytesReceived - bufferSize
      ignoreErrors := false
      usb := r.2.2 }
    if r.1 = noError then (.dataRemaining, d') else d'.receiveEnd opCode r.1
  else if 0 < d.bytesReceived then
    let r := readData d.usb d.buffer 0 d.bytesReceived
    { d with buffer := r.2.1, bytesRemaining := 0, usb := r.2.2 }.receiveEnd opCode r.1
  else { d with bytesRemaining := 0 }.receiveEnd opCode noError

/-- The header of a data block the host sends. -/
def blockHeader (opCode length : Nat) : List UInt8 :=
  [UInt8.ofNat (commandSize 0 + length), 0, 0, 0, 2, 0, UInt8.ofNat opCode,
    UInt8.ofNat (opCode / 256), 0, 0, 0, 0]

/-- `PTP_Transaction`. `data` is what the host sends, and empty when it sends
    none. -/
def transaction (d : Driver) (opCode : Nat) (receive : Bool) (params : List Nat)
    (data : List UInt8) : Ret × Driver :=
  if d.error ≠ 0 then (.error, d)
  else if 0 < d.bytesRemaining then d.fetchData 0
  else
    let c := sendCommand d.usb opCode params
    let d' := { d with usb := c.2 }
    if c.1 = noError ∧ data ≠ [] then
      let b := sendBlockHeader d'.usb d.usb.answer.block opCode data
      { d' with
        block := store d.block 0 (blockHeader opCode data.length ++ data)
        usb := b.2 }.receiveEnd opCode b.1
    else if c.1 = noError ∧ receive then
      let h := d'.receiveHeader opCode
      h.2.receiveData opCode h.1
    else d'.receiveEnd opCode c.1

theorem fetchData_of_remaining_zero (d : Driver) (offset : Nat) (h : d.bytesRemaining = 0) :
    d.fetchData offset = (.error, d) := by
  rw [fetchData, if_neg (by omega)]

/-- What every fetch does to the counts, whatever the camera sends. -/
theorem fetchData_counts (d : Driver) (offset : Nat) (h : 0 < d.bytesRemaining) :
    (d.fetchData offset).2.bytesRemaining
      = d.bytesRemaining - fetchLength d.bytesRemaining offset ∧
    (d.fetchData offset).2.bytesReceived ≤ fetchLength d.bytesRemaining offset + offset := by
  rw [fetchData, if_pos h]
  by_cases hr : (readData d.usb (carryOver d.buffer offset) offset
      (fetchLength d.bytesRemaining offset)).1 ≠ noError
  · simp only [if_pos hr]
    exact ⟨trivial, Nat.le_add_right _ _⟩
  · simp only [if_neg hr]
    split
    · split
      · exact ⟨rfl, Nat.le_refl _⟩
      · exact ⟨rfl, Nat.le_refl _⟩
    · exact ⟨rfl, Nat.le_refl _⟩

/-- A fetch asks for what is left, or for what fits behind the bytes carried
    over. -/
theorem fetchLength_eq (remaining : Nat) {offset : Nat} (hoff : offset ≤ bufferSize) :
    fetchLength remaining offset = min remaining (bufferSize - offset) := by
  unfold fetchLength
  by_cases hrem : bufferSize < remaining
  · rw [if_pos hrem]
    by_cases hcarry : 0 < offset ∧ bufferSize < bufferSize + offset
    · rw [if_pos hcarry]
      omega
    · rw [if_neg hcarry]
      omega
  · rw [if_neg hrem]
    by_cases hcarry : 0 < offset ∧ bufferSize < remaining + offset
    · rw [if_pos hcarry]
      omega
    · rw [if_neg hcarry]
      omega

/-- A fetch leaves fewer bytes remaining, also when it fails. -/
theorem fetchData_remaining_lt (d : Driver) (offset : Nat) (hrem : 0 < d.bytesRemaining)
    (hoff : offset < bufferSize) :
    (d.fetchData offset).2.bytesRemaining < d.bytesRemaining := by
  rw [(fetchData_counts d offset hrem).1, fetchLength_eq _ (Nat.le_of_lt hoff)]
  omega

theorem fetchData_received_le (d : Driver) (offset : Nat) (hoff : offset ≤ bufferSize)
    (hd : d.bytesReceived ≤ bufferSize) :
    (d.fetchData offset).2.bytesReceived ≤ bufferSize := by
  by_cases h : 0 < d.bytesRemaining
  · have hcount := (fetchData_counts d offset h).2
    rw [fetchLength_eq _ hoff] at hcount
    omega
  · rw [fetchData_of_remaining_zero d offset (by omega)]
    exact hd

/-- Data remain after a fetch only when the count says so. -/
theorem fetchData_dataRemaining (d : Driver) (offset : Nat)
    (h : (d.fetchData offset).1 = .dataRemaining) :
    0 < (d.fetchData offset).2.bytesRemaining := by
  unfold fetchData at h ⊢
  grind

/-- A fetch leaves the driver's error, its flags and the reply's length alone. -/
theorem fetchData_frame (d : Driver) (offset : Nat) :
    (d.fetchData offset).2.error = d.error ∧
    (d.fetchData offset).2.ignoreErrors = d.ignoreErrors ∧
    (d.fetchData offset).2.responseCode = d.responseCode ∧
    (d.fetchData offset).2.bytesTotal = d.bytesTotal := by
  unfold fetchData
  grind

/-- The end of a transaction leaves the counts and the buffer alone. -/
theorem receiveEnd_frame (d : Driver) (opCode err : Nat) :
    (d.receiveEnd opCode err).2.bytesReceived = d.bytesReceived ∧
    (d.receiveEnd opCode err).2.bytesRemaining = d.bytesRemaining ∧
    (d.receiveEnd opCode err).2.buffer = d.buffer ∧
    (d.receiveEnd opCode err).2.ignoreErrors = false := by
  unfold receiveEnd
  grind

/-- A transaction that failed before its end returns the error. -/
theorem receiveEnd_error (d : Driver) (opCode err : Nat) (h : err ≠ noError) :
    (d.receiveEnd opCode err).1 = .error := by
  unfold receiveEnd
  simp only [if_neg h]

theorem receiveData_received_le (d : Driver) (opCode err : Nat)
    (h : (d.receiveData opCode err).1 ≠ .error) :
    (d.receiveData opCode err).2.bytesReceived ≤ bufferSize := by
  unfold receiveData at h ⊢
  by_cases herr : err ≠ noError
  · rw [if_pos herr] at h
    exact absurd (receiveEnd_error d opCode err herr) h
  rw [if_neg herr] at h ⊢
  by_cases hlong : bufferSize < d.bytesReceived
  · simp only [if_pos hlong] at h ⊢
    split
    · exact Nat.le_refl _
    · rw [(receiveEnd_frame _ _ _).1]
  rw [if_neg hlong] at h ⊢
  split
  · rw [(receiveEnd_frame _ _ _).1]
    exact Nat.le_of_not_lt hlong
  · rw [(receiveEnd_frame _ _ _).1]
    exact Nat.le_of_not_lt hlong

/-- A transaction that succeeds has received no more than the buffer holds. -/
theorem transaction_received_le (d : Driver) (opCode : Nat) (params : List Nat)
    (h : (d.transaction opCode true params []).1 ≠ .error) :
    (d.transaction opCode true params []).2.bytesReceived ≤ bufferSize := by
  unfold transaction at h ⊢
  by_cases herror : d.error ≠ 0
  · rw [if_pos herror] at h
    exact absurd rfl h
  rw [if_neg herror] at h ⊢
  by_cases hrem : 0 < d.bytesRemaining
  · rw [if_pos hrem] at h ⊢
    have hcount := (fetchData_counts d 0 hrem).2
    rw [fetchLength_eq _ (Nat.zero_le _)] at hcount
    omega
  · simp only [if_neg hrem, ne_eq, not_true_eq_false, and_false, if_false, and_true] at h ⊢
    by_cases hsend : (sendCommand d.usb opCode params).1 = noError
    · simp only [if_pos hsend] at h ⊢
      exact receiveData_received_le _ _ _ h
    · simp only [if_neg hsend] at h
      exact absurd (receiveEnd_error _ _ _ hsend) h

end Driver

/-- A list of bytes is the data container of an operation's reply. -/
structure IsData (l : List UInt8) (opCode : Nat) (reply : List UInt8) : Prop where
  length : l.length = commandSize 0 + reply.length
  drop : l.drop (commandSize 0) = reply
  dataLength : le32 (bytes l) 0 = commandSize 0 + reply.length
  type : le16 (bytes l) 4 ≠ containerResponseBlock
  code : le16 (bytes l) 6 = opCode

/-- The data container of a reply. -/
def dataContainer (opCode : Nat) (reply : List UInt8) : List UInt8 :=
  encode32 (commandSize 0 + reply.length) ++
    ([2, 0, UInt8.ofNat opCode, UInt8.ofNat (opCode / 256), 0, 0, 0, 0] ++ reply)

/-- The response container that says all is well. -/
def okResponse : List UInt8 := [12, 0, 0, 0, 3, 0, 0x01, 0x20, 0, 0, 0, 0]

/-- A driver at rest, connected to a camera with these answers to come. -/
def Driver.idle (answers : List Answer) : Driver where
  buffer := fun _ => 0
  bytesReceived := 0
  bytesRemaining := 0
  bytesTotal := 0
  error := 0
  responseCode := responseOk
  ready := true
  ignoreErrors := false
  block := fun _ => 0
  usb :=
    { configured := true
      wait := .timeout
      answers := answers
      packets := []
      sent := [] }

/-- The driver is at rest, and the camera answers the next command, taken to be
    this operation, with a reply of any length that a container can announce. -/
structure Announces (d : Driver) (opCode : Nat) (reply : List UInt8) : Prop where
  error : d.error = 0
  remaining : d.bytesRemaining = 0
  configured : d.usb.configured = true
  idle : d.usb.packets = []
  command : d.usb.answer.command = noError
  packets : ∃ D p, d.usb.answer.packets = D ++ [p] ∧ IsData D.flatten opCode reply ∧
    IsResponse p responseOk

/-- The driver is at rest, and the camera answers the next command, taken to be
    this operation, with this reply. -/
structure Answers (d : Driver) (opCode : Nat) (reply : List UInt8) : Prop where
  error : d.error = 0
  remaining : d.bytesRemaining = 0
  configured : d.usb.configured = true
  idle : d.usb.packets = []
  command : d.usb.answer.command = noError
  length : reply.length < 65536
  packets : ∃ D p, d.usb.answer.packets = D ++ [p] ∧ IsData D.flatten opCode reply ∧
    IsResponse p responseOk

theorem Answers.announces {d : Driver} {opCode : Nat} {reply : List UInt8}
    (h : Answers d opCode reply) : Announces d opCode reply :=
  ⟨h.error, h.remaining, h.configured, h.idle, h.command, h.packets⟩

theorem isData_dataContainer (opCode : Nat) (reply : List UInt8) (hop : opCode < 65536)
    (hlen : commandSize 0 + reply.length < 4294967296) :
    IsData (dataContainer opCode reply) opCode reply where
  length := by
    simp only [dataContainer, encode32, List.length_append, List.length_cons, List.length_nil,
      commandSize]
    omega
  drop := rfl
  dataLength := le32_encode32 hlen _
  type := by
    change (2 : UInt8).toNat + 256 * (0 : UInt8).toNat ≠ containerResponseBlock
    decide
  code := by
    have hbyte : ∀ m : Nat, (UInt8.ofNat m).toNat = m % 256 := fun m => UInt8.toNat_ofNat'
    change (UInt8.ofNat opCode).toNat + 256 * (UInt8.ofNat (opCode / 256)).toNat = opCode
    rw [hbyte, hbyte]
    omega

theorem isResponse_okResponse : IsResponse okResponse responseOk :=
  ⟨by decide, by decide, by decide, by decide, by decide⟩

/-- A camera that answers with a reply, and the driver about to ask it. -/
theorem answers_idle (opCode : Nat) (reply : List UInt8) (rest : List Answer)
    (hop : opCode < 65536) (hlen : reply.length < 65536) :
    Answers (Driver.idle (⟨noError, noError, [dataContainer opCode reply, okResponse]⟩ :: rest))
      opCode reply where
  error := rfl
  remaining := rfl
  configured := rfl
  idle := rfl
  command := rfl
  length := hlen
  packets := ⟨[dataContainer opCode reply], okResponse, rfl, by
    rw [List.flatten_singleton]
    exact isData_dataContainer opCode reply hop (by simp only [commandSize]; omega),
    isResponse_okResponse⟩

/-- The buffer shows a reply from position `base` on, and the camera has sent
    what remains of it and its response. `rest` is what it has sent after
    that. -/
structure Window (d : Driver) (reply : List UInt8) (base : Nat)
    (rest : List (List UInt8)) : Prop where
  received : d.bytesReceived = min bufferSize (reply.length - base)
  remaining : d.bytesRemaining = reply.length - base - d.bytesReceived
  shows : ∀ j, j < d.bytesReceived → d.buffer j = bytes reply (base + j)
  configured : d.usb.configured = true
  waiting : 0 < d.bytesRemaining → ∃ D p, d.usb.packets = D ++ p :: rest ∧
    D.flatten = reply.drop (base + d.bytesReceived) ∧ IsResponse p responseOk
  finished : d.bytesRemaining = 0 → d.usb.packets = rest

/-- While data remain the buffer is full, and they are what the reply has behind it. -/
theorem Window.full {d : Driver} {reply : List UInt8} {base : Nat} {rest : List (List UInt8)}
    (hw : Window d reply base rest) (hrem : 0 < d.bytesRemaining) :
    d.bytesReceived = bufferSize ∧ base + bufferSize + d.bytesRemaining = reply.length := by
  have hreceived := hw.received
  have hremaining := hw.remaining
  omega

/-- The buffer after a fetch: the bytes carried over, then the bytes read. -/
theorem store_carryOver_shows (buffer : Nat → UInt8) (reply : List UInt8) (base offset n : Nat)
    (hoff : offset ≤ bufferSize) (hn : base + bufferSize + n ≤ reply.length)
    (hshows : ∀ j, j < bufferSize → buffer j = bytes reply (base + j)) (j : Nat)
    (hj : j < n + offset) :
    store (carryOver buffer offset) offset ((reply.drop (base + bufferSize)).take n) j
      = bytes reply (base + bufferSize - offset + j) := by
  by_cases hlt : j < offset
  · rw [store_of_not_mem _ _ _ (Or.inl hlt), carryOver, if_pos hlt, hshows _ (by omega)]
    congr 1
    omega
  · have hin : j < offset + ((reply.drop (base + bufferSize)).take n).length := by
      rw [List.length_take, List.length_drop]
      omega
    rw [store_of_mem _ _ _ (by omega) hin]
    unfold bytes
    rw [List.getD_eq_getElem?_getD, List.getD_eq_getElem?_getD,
      List.getElem?_take_of_lt (by omega), List.getElem?_drop]
    congr 2
    omega

/-- A fetch moves the window forward, over all of it but the bytes carried
    over, and says whether data remain. -/
theorem fetchData_window (d : Driver) (reply : List UInt8) (base offset : Nat)
    (rest : List (List UInt8)) (hw : Window d reply base rest) (hrem : 0 < d.bytesRemaining)
    (hoff : offset < bufferSize) :
    ∃ d', d.fetchData offset
        = (if d'.bytesRemaining = 0 then .ok else .dataRemaining, d')
      ∧ Window d' reply (base + bufferSize - offset) rest := by
  rcases hw.full hrem with ⟨hfull, hlength⟩
  have hlen := Driver.fetchLength_eq d.bytesRemaining (Nat.le_of_lt hoff)
  have hn : fetchLength d.bytesRemaining offset ≤ d.bytesRemaining := by omega
  rcases hw.waiting hrem with ⟨D, p, hp, hD, hresp⟩
  have hDlen : D.flatten.length = d.bytesRemaining := by
    rw [hD, List.length_drop]
    omega
  rcases readData_append d.usb (carryOver d.buffer offset) offset
    (fetchLength d.bytesRemaining offset) D (p :: rest) hw.configured hp (by omega) (by simp)
    with ⟨D', hr, hD'⟩
  rw [hD, hfull] at hr
  have hshows := store_carryOver_shows d.buffer reply base offset
    (fetchLength d.bytesRemaining offset) (Nat.le_of_lt hoff) (by omega)
    (fun j hj => hw.shows j (by omega))
  rw [Driver.fetchData, if_pos hrem]
  simp only [hr, ne_eq, not_true_eq_false, if_false]
  by_cases hlast : d.bytesRemaining - fetchLength d.bytesRemaining offset = 0
  · -- The last bytes of the reply: the response follows them.
    have hnil : D'.flatten = [] := by
      rw [hD', List.drop_eq_nil_iff]
      omega
    rcases receiveResponseCode_response { d.usb with packets := D' ++ p :: rest }
      (fun _ => 0) D' rest p responseOk hw.configured rfl hnil hresp with ⟨block, hcode, _⟩
    simp only [if_true] at hcode
    rw [if_pos hlast]
    simp only [receiveResponse, hcode, not_true_eq_false, if_false]
    refine ⟨_, Prod.ext ?_ rfl, ?_⟩
    · exact (if_pos hlast).symm
    exact {
      received := by simp only; omega
      remaining := by simp only; omega
      shows := hshows
      configured := hw.configured
      waiting := fun hpos => absurd hpos (by simp only; omega)
      finished := fun _ => rfl }
  · rw [if_neg hlast]
    refine ⟨_, Prod.ext ?_ rfl, ?_⟩
    · exact (if_neg hlast).symm
    exact {
      received := by simp only; omega
      remaining := by simp only; omega
      shows := hshows
      configured := hw.configured
      waiting := fun _ => ⟨D', p, rfl, by
        rw [hD', hD, hfull, List.drop_drop]
        congr 1
        simp only
        omega, hresp⟩
      finished := fun hzero => absurd hzero hlast }

/-- The header of the operation's own data sets the counts, as far as their words go. -/
theorem receiveHeader_word (d : Driver) (opCode : Nat) (reply : List UInt8)
    (D R : List (List UInt8)) (hconf : d.usb.configured = true) (hp : d.usb.packets = D ++ R)
    (hdata : IsData D.flatten opCode reply) :
    ∃ D' block, d.receiveHeader opCode
        = (noError, { d with
            block := block
            usb := { d.usb with packets := D' ++ R }
            bytesReceived := u16 reply.length
            bytesTotal := u16 reply.length })
      ∧ D'.flatten = reply := by
  have hmin : commandSize 0 ≤ D.flatten.length := by
    rw [hdata.length]
    exact Nat.le_add_right _ _
  rcases receiveBlockHeader_data d.usb (store d.block 0 [0, 0, 0, 0]) D R hconf hp hmin hdata.type
    with ⟨D', hr, hD'⟩
  rw [hdata.drop] at hD'
  refine ⟨D', store (store d.block 0 [0, 0, 0, 0]) 0 (D.flatten.take (commandSize 0)), ?_, hD'⟩
  have hcode := le16_store_take (store d.block 0 [0, 0, 0, 0]) D.flatten (i := 6) hmin (by decide)
  have hword := le32_store_take (store d.block 0 [0, 0, 0, 0]) D.flatten (i := 0) hmin (by decide)
  rw [hdata.code] at hcode
  rw [hdata.dataLength] at hword
  have hcount : commandSize 0 + reply.length - commandSize 0 = reply.length :=
    Nat.add_sub_cancel_left _ _
  rw [Driver.receiveHeader, hr]
  simp only [hcode, hword, hcount, Nat.le_add_right, if_true, ne_eq, not_true_eq_false,
    and_false, if_false]

/-- They are right for a reply whose length is a word. -/
theorem receiveHeader_data (d : Driver) (opCode : Nat) (reply : List UInt8)
    (D R : List (List UInt8)) (hconf : d.usb.configured = true) (hp : d.usb.packets = D ++ R)
    (hdata : IsData D.flatten opCode reply) (hlen : reply.length < 65536) :
    ∃ D' block, d.receiveHeader opCode
        = (noError, { d with
            block := block
            usb := { d.usb with packets := D' ++ R }
            bytesReceived := reply.length
            bytesTotal := reply.length })
      ∧ D'.flatten = reply := by
  have hword := receiveHeader_word d opCode reply D R hconf hp hdata
  rwa [u16_of_lt hlen] at hword

/-- A response that arrives ends the transaction: well when its code is good,
    or says the camera is busy, or when errors are ignored. -/
theorem receiveEnd_response (d : Driver) (opCode code : Nat) (D rest : List (List UInt8))
    (p : List UInt8) (hconf : d.usb.configured = true) (hp : d.usb.packets = D ++ p :: rest)
    (hD : D.flatten = []) (hresp : IsResponse p code)
    (hgood : code = responseOk ∨ code = 0x2019 ∨ d.ignoreErrors = true) :
    d.receiveEnd opCode noError
      = (.ok, { d with
          block := (receiveResponseCode d.usb d.block).2.1
          usb := { d.usb with packets := rest }
          responseCode := code
          ignoreErrors := false }) := by
  rcases receiveResponseCode_response d.usb d.block D rest p code hconf hp hD hresp
    with ⟨block, hr, hcode⟩
  have herr : (if code = 0x2019 ∨ d.ignoreErrors = true then noError
      else if code = responseOk then noError else logicalCmdFailed) = noError := by
    rcases hgood with h | h | h
    · rw [if_pos h, ite_self]
    · rw [if_pos (Or.inl h)]
    · rw [if_pos (Or.inr h)]
  rw [Driver.receiveEnd, hr]
  simp only [hcode, herr, if_true]

/-- The data phase of a reply that arrives puts the window at its start. -/
theorem receiveData_window (d : Driver) (opCode : Nat) (reply : List UInt8)
    (D rest : List (List UInt8)) (p : List UInt8) (hconf : d.usb.configured = true)
    (hp : d.usb.packets = D ++ p :: rest) (hD : D.flatten = reply)
    (hreceived : d.bytesReceived = reply.length) (hresp : IsResponse p responseOk) :
    ∃ d', d.receiveData opCode noError
        = (if d'.bytesRemaining = 0 then .ok else .dataRemaining, d')
      ∧ Window d' reply 0 rest ∧ d'.bytesTotal = d.bytesTotal ∧ d'.error = d.error
      ∧ d'.ignoreErrors = false ∧ d'.usb.answers = d.usb.answers ∧ d'.usb.sent = d.usb.sent := by
  have hDlen : D.flatten.length = reply.length := by rw [hD]
  rw [Driver.receiveData, if_neg (not_not.mpr rfl), hreceived]
  by_cases hlong : bufferSize < reply.length
  · -- The buffer is filled and the response is left for the last fetch.
    rcases readData_append d.usb d.buffer 0 bufferSize D (p :: rest) hconf hp (by omega) (by simp)
      with ⟨D', hr, hD'⟩
    simp only [if_pos hlong, hr, if_true]
    refine ⟨_, Prod.ext ?_ rfl, ?_, rfl, rfl, rfl, rfl, rfl⟩
    · have hne : reply.length - bufferSize ≠ 0 := by omega
      simp only [hne, if_false]
    exact {
      received := by simp only; omega
      remaining := by simp only; omega
      shows := fun j hj => by
        rw [Nat.zero_add, hD]
        exact store_take d.buffer reply (Nat.le_of_lt hlong) hj
      configured := hconf
      waiting := fun _ => ⟨D', p, rfl, by rw [hD', hD, Nat.zero_add], hresp⟩
      finished := fun hzero => absurd hzero (by simp only; omega) }
  · rw [if_neg hlong]
    by_cases hpos : 0 < reply.length
    · rcases readData_append d.usb d.buffer 0 reply.length D (p :: rest) hconf hp (by omega)
        (by simp) with ⟨D', hr, hD'⟩
      have hnil : D'.flatten = [] := by
        rw [hD', List.drop_eq_nil_iff]
        omega
      simp only [if_pos hpos, hr]
      have hend := receiveEnd_response { d with
          buffer := store d.buffer 0 (D.flatten.take reply.length)
          bytesRemaining := 0
          usb := { d.usb with packets := D' ++ p :: rest } } opCode responseOk D' rest p hconf rfl
        hnil hresp (Or.inl rfl)
      simp only [hreceived] at hend
      rw [hend]
      refine ⟨_, Prod.ext rfl rfl, ?_, rfl, rfl, rfl, rfl, rfl⟩
      exact {
        received := by simp only; omega
        remaining := by simp only; omega
        shows := fun j hj => by
          rw [Nat.zero_add, hD]
          exact store_take d.buffer reply (Nat.le_refl _) hj
        configured := hconf
        waiting := fun h => absurd h (Nat.lt_irrefl 0)
        finished := fun _ => rfl }
    · have hnil : D.flatten = [] := by
        rw [← List.length_eq_zero_iff]
        omega
      rw [if_neg hpos]
      have hend := receiveEnd_response { d with bytesRemaining := 0 } opCode responseOk D rest p
        hconf hp hnil hresp (Or.inl rfl)
      simp only [hreceived] at hend
      rw [hend]
      refine ⟨_, Prod.ext rfl rfl, ?_, rfl, rfl, rfl, rfl, rfl⟩
      exact {
        received := by simp only; omega
        remaining := by simp only; omega
        shows := fun j hj => absurd hj (by simp only; omega)
        configured := hconf
        waiting := fun h => absurd h (Nat.lt_irrefl 0)
        finished := fun _ => rfl }

/-- A command the camera takes puts its answer on the pipe. -/
theorem sendCommand_accepted (h : Host) (operation : Nat) (params : List Nat)
    (hconf : h.configured = true) (hcommand : h.answer.command = noError) :
    sendCommand h operation params = (noError, { h with
      answers := h.answers.tail
      packets := h.packets ++ h.answer.packets
      sent := .command operation params :: h.sent }) := by
  rw [sendCommand, if_neg (by simp [hconf]), if_neg (not_not.mpr hcommand)]

/-- A transaction comes to the data phase of a reply that is announced. -/
theorem Announces.header {d : Driver} {opCode : Nat} {reply : List UInt8}
    (h : Announces d opCode reply) (params : List Nat) :
    ∃ D block p, d.transaction opCode true params []
        = { d with
            block := block
            bytesReceived := u16 reply.length
            bytesTotal := u16 reply.length
            usb := { d.usb with
              answers := d.usb.answers.tail
              packets := D ++ [p]
              sent := .command opCode params :: d.usb.sent } }.receiveData opCode noError
      ∧ D.flatten = reply ∧ IsResponse p responseOk := by
  rcases h.packets with ⟨D, p, hanswer, hdata, hresp⟩
  have hpackets : d.usb.packets ++ d.usb.answer.packets = D ++ [p] := by
    rw [h.idle, hanswer, List.nil_append]
  rw [Driver.transaction, if_neg (not_not.mpr h.error), if_neg (by rw [h.remaining]; omega),
    sendCommand_accepted d.usb opCode params h.configured h.command]
  simp only [ne_eq, not_true_eq_false, and_false, if_false, true_and, if_true]
  rcases receiveHeader_word { d with usb := { d.usb with
      answers := d.usb.answers.tail
      packets := d.usb.packets ++ d.usb.answer.packets
      sent := .command opCode params :: d.usb.sent } } opCode reply D [p] h.configured hpackets
      hdata with ⟨D', block, hheader, hD'⟩
  rw [hheader]
  exact ⟨D', block, p, rfl, hD', hresp⟩

/-- A reply that arrives, and is good, puts the window at its start. -/
theorem transaction_window (d : Driver) (opCode : Nat) (params : List Nat) (reply : List UInt8)
    (h : Answers d opCode reply) :
    ∃ d', d.transaction opCode true params []
        = (if d'.bytesRemaining = 0 then .ok else .dataRemaining, d')
      ∧ Window d' reply 0 [] ∧ d'.bytesTotal = reply.length ∧ d'.error = 0
      ∧ d'.ignoreErrors = false ∧ d'.usb.answers = d.usb.answers.tail
      ∧ d'.usb.sent = .command opCode params :: d.usb.sent := by
  rcases h.announces.header params with ⟨D', block, p, hheader, hD', hresp⟩
  rw [u16_of_lt h.length] at hheader
  rw [hheader]
  rcases receiveData_window { d with
      block := block
      bytesReceived := reply.length
      bytesTotal := reply.length
      usb := { d.usb with
        answers := d.usb.answers.tail
        packets := D' ++ [p]
        sent := .command opCode params :: d.usb.sent } } opCode reply D' [] p h.configured rfl hD'
      rfl hresp with ⟨d', hr, hw, htotal, herr, hignore, hanswers, hsent⟩
  exact ⟨d', hr, hw, htotal, by rw [herr]; exact h.error, hignore, hanswers, hsent⟩

end Ptp

end TimelapsePlus
