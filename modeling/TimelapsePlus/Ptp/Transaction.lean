import TimelapsePlus.Ptp.EosStream
import TimelapsePlus.Ptp.Session

/-!
# Transactions

When a transaction that says it succeeded did what it was asked for. A
transaction made while bytes of an earlier reply remain fetches those instead,
so the driver has to start with none, and to know where on the pipe it stands.
It knows as long as the camera answers with whole containers: then the pipe
holds what remains of the reply and its response, and nothing else (`Synced`).
A transaction and a fetch both keep it so, whatever the containers hold and
also when they fail.

## Main definitions

* `Synced`: The pipe holds what remains of the reply, and its response.
* `Settled`: What holds after any transaction.
* `Request.Answered`: The camera answers a transaction with whole containers.
* `Request.Short`: Its reply fits the buffer.
* `Request.Own`: The transaction was made, and the buffer holds its reply.

## Theorems

* `fetchData_synced`: A fetch keeps the driver's place.
* `receiveData_nothing`, `receiveData_settled`: The data phase, with nothing and
  with the data on the pipe.
* `run_spec`: What a transaction does, made when no bytes remain.
-/

namespace TimelapsePlus

namespace Ptp

open Word Usb

/-- The driver has not lost its place on the pipe: with no bytes remaining the
    pipe is empty, and else it holds them and a response. -/
structure Synced (d : Driver) : Prop where
  idle : d.bytesRemaining = 0 → d.error = 0 → d.usb.configured = true → d.usb.packets = []
  error : 0 < d.bytesRemaining → d.error = 0
  configured : 0 < d.bytesRemaining → d.usb.configured = true
  received : 0 < d.bytesRemaining → d.bytesReceived = bufferSize
  waiting : 0 < d.bytesRemaining → ∃ D p code, d.usb.packets = D ++ [p] ∧
    D.flatten.length = d.bytesRemaining ∧ IsResponse p code

/-- With nothing on the pipe and nothing remaining the driver is in its place. -/
theorem Synced.of_empty {d : Driver} (hremaining : d.bytesRemaining = 0)
    (hpackets : d.usb.packets = []) : Synced d where
  idle := fun _ _ _ => hpackets
  error := fun h => absurd h (by omega)
  configured := fun h => absurd h (by omega)
  received := fun h => absurd h (by omega)
  waiting := fun h => absurd h (by omega)

/-- So is a driver whose interface is down. -/
theorem Synced.of_down {d : Driver} (hremaining : d.bytesRemaining = 0)
    (hdown : d.usb.configured = false) : Synced d where
  idle := fun _ _ h => absurd h (by rw [hdown]; decide)
  error := fun h => absurd h (by omega)
  configured := fun h => absurd h (by omega)
  received := fun h => absurd h (by omega)
  waiting := fun h => absurd h (by omega)

/-- The driver's place is a matter of its counts, its error and the pipe. -/
theorem Synced.congr {d d' : Driver} (h : Synced d)
    (hremaining : d'.bytesRemaining = d.bytesRemaining)
    (hreceived : d'.bytesReceived = d.bytesReceived) (herror : d'.error = d.error)
    (husb : d'.usb = d.usb) : Synced d' where
  idle := by rw [hremaining, herror, husb]; exact h.idle
  error := by rw [hremaining, herror]; exact h.error
  configured := by rw [hremaining, husb]; exact h.configured
  received := by rw [hremaining, hreceived]; exact h.received
  waiting := by rw [hremaining, husb]; exact h.waiting

/-- A fetch keeps the driver's place, also when it fails; it says that data
    remain exactly when they do, and one that fails leaves none. -/
theorem fetchData_synced (d : Driver) (offset : Nat) (h : Synced d) (hrem : 0 < d.bytesRemaining)
    (hoff : offset < bufferSize) :
    Synced (d.fetchData offset).2 ∧
      ((d.fetchData offset).1 = .dataRemaining ↔ 0 < (d.fetchData offset).2.bytesRemaining) := by
  rcases h.waiting hrem with ⟨D, p, code, hp, hlen, hresp⟩
  have hconf := h.configured hrem
  have hfetch := Driver.fetchLength_eq d.bytesRemaining (Nat.le_of_lt hoff)
  rcases readData_append d.usb (carryOver d.buffer offset) offset
    (fetchLength d.bytesRemaining offset) D [p] hconf hp (by omega) (by simp)
    with ⟨D', hr, hD'⟩
  have hD'len : D'.flatten.length = d.bytesRemaining - fetchLength d.bytesRemaining offset := by
    rw [hD', List.length_drop, hlen]
  rw [Driver.fetchData, if_pos hrem]
  simp only [hr, ne_eq, not_true_eq_false, if_false]
  by_cases hlast : d.bytesRemaining - fetchLength d.bytesRemaining offset = 0
  · -- The last bytes of the reply: the response follows them, good or bad.
    have hnil : D'.flatten = [] := by
      rw [← List.length_eq_zero_iff]
      omega
    rcases receiveResponseCode_response { d.usb with packets := D' ++ [p] } (fun _ => 0) D' [] p
      code hconf rfl hnil hresp with ⟨block, hcode, _⟩
    rw [if_pos hlast]
    simp only [receiveResponse, hcode]
    by_cases hok : code = responseOk
    · simp only [if_pos hok, not_true_eq_false, if_false]
      exact ⟨.of_empty hlast rfl, by simp only [reduceCtorEq, false_iff]; omega⟩
    · simp only [if_neg hok]
      rw [if_pos (by decide)]
      exact ⟨.of_down hlast rfl, by simp only [reduceCtorEq, false_iff]; omega⟩
  · rw [if_neg hlast]
    refine ⟨?_, by simp only [true_iff]; omega⟩
    exact {
      idle := fun hzero => absurd hzero hlast
      error := fun _ => h.error hrem
      configured := fun _ => hconf
      received := fun _ => by simp only; omega
      waiting := fun _ => ⟨D', p, code, rfl, hD'len, hresp⟩ }

/-- What a fetch and a transaction have in common, whatever arrives. -/
structure Settled (r : Ret × Driver) : Prop where
  synced : Synced r.2
  more : r.1 = .dataRemaining ↔ 0 < r.2.bytesRemaining
  flag : r.2.ignoreErrors = false

theorem receiveEnd_ne_dataRemaining (d : Driver) (opCode err : Nat) :
    (d.receiveEnd opCode err).1 ≠ .dataRemaining := by
  unfold Driver.receiveEnd
  grind

/-- The end of a transaction reads from the pipe only if nothing went wrong. -/
theorem receiveEnd_usb (d : Driver) (opCode err : Nat) :
    (d.receiveEnd opCode err).2.usb
      = if err = noError then (receiveResponseCode d.usb d.block).2.2 else d.usb := by
  unfold Driver.receiveEnd
  grind

/-- A transaction that ends with nothing on the pipe. -/
theorem receiveEnd_settled (d : Driver) (opCode err : Nat) (hremaining : d.bytesRemaining = 0)
    (hpackets : (d.receiveEnd opCode err).2.usb.packets = []) :
    Settled (d.receiveEnd opCode err) := by
  rcases Driver.receiveEnd_frame d opCode err with ⟨_, hrem, _, hflag⟩
  rw [hremaining] at hrem
  exact ⟨.of_empty hrem hpackets, iff_of_false (receiveEnd_ne_dataRemaining d opCode err)
    (by omega), hflag⟩

/-- The response is read off the pipe, good or bad. -/
theorem receiveEnd_usb_response (d : Driver) (opCode code : Nat) (D : List (List UInt8))
    (p : List UInt8) (hconf : d.usb.configured = true) (hp : d.usb.packets = D ++ [p])
    (hD : D.flatten = []) (hresp : IsResponse p code) :
    (d.receiveEnd opCode noError).2.usb = { d.usb with packets := [] } := by
  rcases receiveResponseCode_response d.usb d.block D [] p code hconf hp hD hresp
    with ⟨block, hr, _⟩
  rw [receiveEnd_usb, if_pos rfl, hr]

theorem receiveResponseCode_nothing (h : Host) (block : Nat → UInt8) (hp : h.packets = []) :
    (receiveResponseCode h block).2.2 = h := by
  unfold receiveResponseCode receiveBlockHeader
  rw [if_pos hp]
  grind

theorem silence_code_ne (w : Silence) : w.code ≠ noError := by
  cases w with
  | stalled => exact Nat.one_ne_zero
  | disconnected => exact Nat.succ_ne_zero 1
  | timeout => exact Nat.succ_ne_zero 2

theorem readData_nothing (h : Host) (buffer : Nat → UInt8) (dst n : Nat) (hp : h.packets = []) :
    (readData h buffer dst n).1 ≠ noError ∧ (readData h buffer dst n).2.2 = h := by
  rcases h with ⟨configured, wait, answers, packets, sent⟩
  simp only at hp
  subst hp
  have hread : readStream wait n [] = ([], [], wait.code) := by cases n <;> rfl
  unfold readData
  split
  · exact ⟨Nat.succ_ne_zero 1, rfl⟩
  · simp only [hread]
    exact ⟨silence_code_ne wait, trivial⟩

/-- A data phase with nothing on the pipe fails, unless there are no data. -/
theorem receiveData_nothing (d : Driver) (opCode err : Nat) (hp : d.usb.packets = [])
    (hremaining : d.bytesRemaining = 0) (hreceived : d.bytesReceived ≤ bufferSize) :
    Settled (d.receiveData opCode err) ∧ (d.receiveData opCode err).2.bytesRemaining = 0 ∧
      (d.receiveData opCode err).2.usb = d.usb ∧
      ((d.receiveData opCode err).1 ≠ .error →
        (d.receiveData opCode err).2.bytesReceived = 0) := by
  unfold Driver.receiveData
  by_cases herr : err ≠ noError
  · have husb : (d.receiveEnd opCode err).2.usb = d.usb := by
      rw [receiveEnd_usb, if_neg herr]
    rw [if_pos herr]
    exact ⟨receiveEnd_settled d opCode err hremaining (by rw [husb]; exact hp),
      by rw [(Driver.receiveEnd_frame d opCode err).2.1]; exact hremaining, husb,
      fun hne => absurd (Driver.receiveEnd_error d opCode err herr) hne⟩
  rw [if_neg herr, if_neg (by omega)]
  by_cases hpos : 0 < d.bytesReceived
  · rw [if_pos hpos]
    rcases readData_nothing d.usb d.buffer 0 d.bytesReceived hp with ⟨hne, husb⟩
    generalize readData d.usb d.buffer 0 d.bytesReceived = r at hne husb
    rcases r with ⟨code, buffer, usb⟩
    simp only at hne husb
    subst husb
    simp only
    generalize hd' : ({ d with buffer := buffer, bytesRemaining := 0 } : Driver) = d'
    have husb : (d'.receiveEnd opCode code).2.usb = d.usb := by
      rw [receiveEnd_usb, if_neg hne, ← hd']
    have hremaining' : d'.bytesRemaining = 0 := by rw [← hd']
    exact ⟨receiveEnd_settled d' opCode code hremaining' (by rw [husb]; exact hp),
      by rw [(Driver.receiveEnd_frame d' opCode code).2.1]; exact hremaining', husb,
      fun h => absurd (Driver.receiveEnd_error d' opCode code hne) h⟩
  · rw [if_neg hpos]
    generalize hd' : ({ d with bytesRemaining := 0 } : Driver) = d'
    have husb : (d'.receiveEnd opCode noError).2.usb = d.usb := by
      rw [receiveEnd_usb, if_pos rfl, ← hd']
      exact receiveResponseCode_nothing d.usb d.block hp
    have hremaining' : d'.bytesRemaining = 0 := by rw [← hd']
    refine ⟨receiveEnd_settled d' opCode noError hremaining' (by rw [husb]; exact hp),
      by rw [(Driver.receiveEnd_frame d' opCode noError).2.1]; exact hremaining', husb, fun _ => ?_⟩
    rw [(Driver.receiveEnd_frame d' opCode noError).1, ← hd']
    simp only
    omega

/-- The header of a response, read where data were expected, takes it off the
    pipe. -/
theorem receiveHeader_response (d : Driver) (opCode code : Nat) (p : List UInt8)
    (hconf : d.usb.configured = true) (hp : d.usb.packets = [p]) (hresp : IsResponse p code) :
    (d.receiveHeader opCode).2.usb = { d.usb with packets := [] } ∧
      (d.receiveHeader opCode).2.bytesRemaining = d.bytesRemaining ∧
      (d.receiveHeader opCode).2.bytesReceived ≤ bufferSize := by
  have hmax := hresp.max
  rcases receiveBlockHeader_response d.usb (store d.block 0 [0, 0, 0, 0]) [] [] p code hconf hp rfl
    hresp with ⟨block, hr, _, _, hlength⟩
  rw [Driver.receiveHeader, hr]
  simp only [hlength]
  have hsmall : u16 (p.length - commandSize 0) ≤ bufferSize := by
    have hle : u16 (p.length - commandSize 0) ≤ p.length - commandSize 0 := Nat.mod_le _ _
    simp only [commandSize] at hmax hle ⊢
    unfold bufferSize
    omega
  split
  · exact ⟨rfl, rfl, Nat.zero_le _⟩
  · split
    · exact ⟨rfl, rfl, hsmall⟩
    · exact ⟨rfl, rfl, Nat.zero_le _⟩

/-- The data phase of a reply, whatever its response: the buffer holds its start,
    and the driver keeps its place. -/
theorem receiveData_settled (d : Driver) (opCode code : Nat) (D : List (List UInt8))
    (p : List UInt8) (hconf : d.usb.configured = true) (hp : d.usb.packets = D ++ [p])
    (hreceived : d.bytesReceived = D.flatten.length) (herror : d.error = 0)
    (hresp : IsResponse p code) :
    Settled (d.receiveData opCode noError) ∧
      (D.flatten.length ≤ bufferSize → (d.receiveData opCode noError).2.bytesRemaining = 0) ∧
      (d.receiveData opCode noError).2.usb.sent = d.usb.sent ∧
      ∀ j, j < (d.receiveData opCode noError).2.bytesReceived → j < D.flatten.length ∧
        (d.receiveData opCode noError).2.buffer j = bytes D.flatten j := by
  unfold Driver.receiveData
  rw [if_neg (not_not.mpr rfl), hreceived]
  by_cases hlong : bufferSize < D.flatten.length
  · -- The buffer is filled, and the rest of the reply waits with its response.
    rcases readData_append d.usb d.buffer 0 bufferSize D [p] hconf hp (by omega) (by simp)
      with ⟨D', hr, hD'⟩
    have hD'len : D'.flatten.length = D.flatten.length - bufferSize := by
      rw [hD', List.length_drop]
    simp only [if_pos hlong, hr, if_true]
    refine ⟨⟨?_, by simp only [true_iff]; omega, rfl⟩, fun h => absurd hlong (by omega), trivial,
      fun j hj => ⟨Nat.lt_trans hj hlong, store_take d.buffer D.flatten (by omega) hj⟩⟩
    exact {
      idle := fun h => absurd h (by simp only; omega)
      error := fun _ => herror
      configured := fun _ => hconf
      received := fun _ => rfl
      waiting := fun _ => ⟨D', p, code, rfl, hD'len, hresp⟩ }
  rw [if_neg hlong]
  by_cases hpos : 0 < D.flatten.length
  · rcases readData_append d.usb d.buffer 0 D.flatten.length D [p] hconf hp (by omega) (by simp)
      with ⟨D', hr, hD'⟩
    have hnil : D'.flatten = [] := by
      rw [hD', List.drop_length]
    simp only [if_pos hpos, hr]
    generalize hd' : ({ d with
      buffer := store d.buffer 0 (D.flatten.take D.flatten.length)
      bytesReceived := D.flatten.length
      bytesRemaining := 0
      usb := { d.usb with packets := D' ++ [p] } } : Driver) = d'
    rcases Driver.receiveEnd_frame d' opCode noError with ⟨hrec, hrem, hbuffer, _⟩
    have husb := receiveEnd_usb_response d' opCode code D' p (by rw [← hd']; exact hconf)
      (by rw [← hd']) hnil hresp
    have hzero : d'.bytesRemaining = 0 := by rw [← hd']
    refine ⟨receiveEnd_settled d' opCode noError hzero (by rw [husb]),
      fun _ => by rw [hrem]; exact hzero, by rw [husb, ← hd'], fun j hj => ?_⟩
    rw [hrec, ← hd'] at hj
    rw [hbuffer, ← hd']
    exact ⟨hj, store_take d.buffer D.flatten (Nat.le_refl _) hj⟩
  · have hnil : D.flatten = [] := by
      rw [← List.length_eq_zero_iff]
      omega
    rw [if_neg hpos]
    generalize hd' : ({ d with
      bytesReceived := D.flatten.length
      bytesRemaining := 0 } : Driver) = d'
    rcases Driver.receiveEnd_frame d' opCode noError with ⟨hrec, hrem, _, _⟩
    have husb := receiveEnd_usb_response d' opCode code D p (by rw [← hd']; exact hconf)
      (by rw [← hd']; exact hp) hnil hresp
    have hzero : d'.bytesRemaining = 0 := by rw [← hd']
    refine ⟨receiveEnd_settled d' opCode noError hzero (by rw [husb]),
      fun _ => by rw [hrem]; exact hzero, by rw [husb, ← hd'], fun j hj => ?_⟩
    rw [hrec, ← hd'] at hj
    exact absurd hj (by simp only; omega)

namespace Request

/-- The camera answers a transaction with whole containers: it refuses the
    command or the data block and sends nothing, or sends a response, or the
    operation's data and a response. -/
inductive Answered (q : Request) : Prop
  | refused (hcommand : q.before.usb.answer.command ≠ noError)
  | blocked (hdata : q.data ≠ []) (hblock : q.before.usb.answer.block ≠ noError)
      (hpackets : q.before.usb.answer.packets = [])
  | response (p : List UInt8) (code : Nat)
      (hblock : q.data = [] ∨ q.before.usb.answer.block = noError)
      (hpackets : q.before.usb.answer.packets = [p]) (hresponse : IsResponse p code)
  | data (D : List (List UInt8)) (p : List UInt8) (code : Nat) (reply : List UInt8)
      (hreceive : q.receive = true) (hdata : q.data = [])
      (hpackets : q.before.usb.answer.packets = D ++ [p]) (hreply : IsData D.flatten q.opCode reply)
      (hlength : reply.length < 65536) (hresponse : IsResponse p code)

/-- The first container the camera answers with holds no more data than the
    buffer does. -/
def Short (q : Request) : Prop :=
  le32 (bytes q.before.usb.answer.packets.flatten) 0 ≤ commandSize 0 + bufferSize

/-- The containers a transaction sends, newest first. -/
def containers (q : Request) : List Sent :=
  if q.data ≠ [] then [.block q.opCode q.data, .command q.opCode q.params]
  else [.command q.opCode q.params]

/-- The transaction was made, and what is in the buffer is the data the camera
    answered it with. -/
structure Own (q : Request) : Prop where
  sent : q.run.2.usb.sent = q.containers ++ q.before.usb.sent
  reply : q.receive = true → q.data = [] → ∀ j, j < q.run.2.bytesReceived →
    q.run.2.buffer j = bytes q.before.usb.answer.packets.flatten (commandSize 0 + j)

/-- The data of an answer, as they lie in all it puts on the pipe. -/
theorem bytes_answer {D : List (List UInt8)} {p reply : List UInt8} {opCode j : Nat}
    (h : IsData D.flatten opCode reply) (hj : j < reply.length) :
    bytes (D ++ [p]).flatten (commandSize 0 + j) = bytes reply j := by
  refine bytes_of_drop (r := p) ?_ hj
  rw [List.flatten_append, List.flatten_singleton,
    List.drop_append_of_le_length (by rw [h.length]; omega), h.drop]

theorem Short.length {q : Request} (h : q.Short) {D : List (List UInt8)} {p reply : List UInt8}
    (hpackets : q.before.usb.answer.packets = D ++ [p]) (hreply : IsData D.flatten q.opCode reply) :
    reply.length ≤ bufferSize := by
  have hlong : commandSize 0 ≤ D.flatten.length := by
    rw [hreply.length]
    omega
  have hword : le32 (bytes (D ++ [p]).flatten) 0 = le32 (bytes D.flatten) 0 := by
    refine le32_congr fun k hk => ?_
    simp only [commandSize] at hlong
    rw [List.flatten_append]
    unfold bytes
    rw [List.getD_eq_getElem?_getD, List.getD_eq_getElem?_getD,
      List.getElem?_append_left (by omega)]
  unfold Short at h
  rw [hpackets, hword, hreply.dataLength] at h
  omega

/-- The driver once the camera has taken the command. -/
def asked (q : Request) : Driver :=
  { q.before with usb := { q.before.usb with
      answers := q.before.usb.answers.tail
      packets := q.before.usb.packets ++ q.before.usb.answer.packets
      sent := .command q.opCode q.params :: q.before.usb.sent } }

section Accepted

variable {q : Request} (herror : q.before.error = 0) (hrem : q.before.bytesRemaining = 0)
  (hconf : q.before.usb.configured = true)

include herror hrem

/-- A command that cannot be sent, or is refused, ends the transaction. -/
theorem run_of_not_sent (code : Nat) (usb : Host) (hcode : code ≠ noError)
    (hsend : sendCommand q.before.usb q.opCode q.params = (code, usb)) :
    q.run = { q.before with usb := usb }.receiveEnd q.opCode code := by
  rw [run, Driver.transaction, if_neg (not_not.mpr herror), if_neg (by omega), hsend]
  simp only [hcode, false_and, if_false]

include hconf

theorem run_of_receive (hcommand : q.before.usb.answer.command = noError)
    (hreceive : q.receive = true) (hdata : q.data = []) :
    q.run = (q.asked.receiveHeader q.opCode).2.receiveData q.opCode
      (q.asked.receiveHeader q.opCode).1 := by
  rw [run, Driver.transaction, if_neg (not_not.mpr herror), if_neg (by omega),
    sendCommand_accepted q.before.usb q.opCode q.params hconf hcommand, hreceive, hdata]
  simp only [ne_eq, not_true_eq_false, and_false, if_false, and_self, if_true]
  rfl

theorem run_of_plain (hcommand : q.before.usb.answer.command = noError)
    (hreceive : q.receive = false) (hdata : q.data = []) :
    q.run = q.asked.receiveEnd q.opCode noError := by
  rw [run, Driver.transaction, if_neg (not_not.mpr herror), if_neg (by omega),
    sendCommand_accepted q.before.usb q.opCode q.params hconf hcommand, hreceive, hdata]
  simp only [ne_eq, not_true_eq_false, and_false, if_false, Bool.false_eq_true]
  rfl

theorem run_of_send (hcommand : q.before.usb.answer.command = noError) (hdata : q.data ≠ []) :
    q.run = { q.asked with
      block := store q.before.block 0 (Driver.blockHeader q.opCode q.data.length ++ q.data)
      usb := (sendBlockHeader q.asked.usb q.before.usb.answer.block q.opCode q.data).2 }.receiveEnd
        q.opCode (sendBlockHeader q.asked.usb q.before.usb.answer.block q.opCode q.data).1 := by
  rw [run, Driver.transaction, if_neg (not_not.mpr herror), if_neg (by omega),
    sendCommand_accepted q.before.usb q.opCode q.params hconf hcommand]
  simp only [ne_eq, hdata, not_false_eq_true, and_self, if_true]
  rfl

end Accepted

/-- What a transaction made with no bytes remaining does. -/
structure Spec (q : Request) : Prop where
  settled : Settled q.run
  own : q.run.1 ≠ .error → q.Own
  rest : q.receive = false ∨ q.Short → q.run.2.bytesRemaining = 0

/-- A transaction that ends without data phase. -/
theorem spec_of_receiveEnd {q : Request} (d : Driver) (err : Nat)
    (hrun : q.run = d.receiveEnd q.opCode err) (hrem : d.bytesRemaining = 0)
    (hpackets : q.run.2.usb.packets = []) (hsent : q.run.1 ≠ .error →
      q.run.2.usb.sent = q.containers ++ q.before.usb.sent)
    (hplain : err = noError → q.receive = true → q.data ≠ []) : q.Spec where
  settled := by
    rw [hrun] at hpackets ⊢
    exact receiveEnd_settled d q.opCode err hrem hpackets
  own := fun hne => ⟨hsent hne, fun hreceive hdata => by
    by_cases herr : err = noError
    · exact absurd hdata (hplain herr hreceive)
    · rw [hrun] at hne
      exact absurd (Driver.receiveEnd_error d q.opCode err herr) hne⟩
  rest := fun _ => by
    rw [hrun, (Driver.receiveEnd_frame d q.opCode err).2.1]
    exact hrem

/-- A transaction whose data phase finds a response and nothing else. -/
theorem spec_of_response {q : Request} (herror : q.before.error = 0)
    (hrem : q.before.bytesRemaining = 0) (hconf : q.before.usb.configured = true)
    (hidle : q.before.usb.packets = []) (hcommand : q.before.usb.answer.command = noError)
    (hreceive : q.receive = true) (hdata : q.data = []) (p : List UInt8) (code : Nat)
    (hpackets : q.before.usb.answer.packets = [p]) (hresp : IsResponse p code) : q.Spec := by
  have hp : q.asked.usb.packets = [p] := by
    rw [asked, hidle, hpackets]
    rfl
  rcases receiveHeader_response q.asked q.opCode code p hconf hp hresp with ⟨husb, hrem', hrec⟩
  rcases receiveData_nothing (q.asked.receiveHeader q.opCode).2 q.opCode
    (q.asked.receiveHeader q.opCode).1 (by rw [husb]) (by rw [hrem']; exact hrem) hrec
    with ⟨hsettled, hzero, husb', hnone⟩
  have hrun := run_of_receive herror hrem hconf hcommand hreceive hdata
  rw [← hrun] at hsettled hzero husb' hnone
  refine ⟨hsettled, fun hne => ⟨?_, fun _ _ j hj => ?_⟩, fun _ => hzero⟩
  · rw [husb', husb, containers, if_neg (not_not.mpr hdata)]
    rfl
  · rw [hnone hne] at hj
    exact absurd hj (Nat.not_lt_zero j)

/-- A transaction whose data phase finds the operation's data. -/
theorem spec_of_data {q : Request} (herror : q.before.error = 0)
    (hrem : q.before.bytesRemaining = 0) (hconf : q.before.usb.configured = true)
    (hidle : q.before.usb.packets = []) (hcommand : q.before.usb.answer.command = noError)
    (D : List (List UInt8)) (p : List UInt8) (code : Nat) (reply : List UInt8)
    (hreceive : q.receive = true) (hdata : q.data = [])
    (hpackets : q.before.usb.answer.packets = D ++ [p]) (hreply : IsData D.flatten q.opCode reply)
    (hlength : reply.length < 65536) (hresp : IsResponse p code) : q.Spec := by
  have hp : q.asked.usb.packets = D ++ [p] := by
    rw [asked, hidle, hpackets]
    rfl
  rcases receiveHeader_data q.asked q.opCode reply D [p] hconf hp hreply hlength
    with ⟨D', block, hheader, hD'⟩
  have hrun := run_of_receive herror hrem hconf hcommand hreceive hdata
  rw [hheader] at hrun
  simp only at hrun
  rcases receiveData_settled { q.asked with
      block := block
      usb := { q.asked.usb with packets := D' ++ [p] }
      bytesReceived := reply.length
      bytesTotal := reply.length } q.opCode code D' p hconf rfl (by rw [hD']) herror hresp
    with ⟨hsettled, hshort, hsent, hshows⟩
  rw [← hrun] at hsettled hshort hsent hshows
  refine ⟨hsettled, fun _ => ⟨?_, fun _ _ j hj => ?_⟩, fun h => ?_⟩
  · rw [hsent, containers, if_neg (not_not.mpr hdata)]
    rfl
  · rcases hshows j hj with ⟨hlt, hbyte⟩
    rw [hD'] at hlt hbyte
    rw [hbyte, hpackets, bytes_answer hreply hlt]
  · rcases h with hplain | hfits
    · exact absurd hplain (by rw [hreceive]; decide)
    · exact hshort (by rw [hD']; exact hfits.length hpackets hreply)

/-- A transaction made with no bytes remaining, answered with whole containers:
    the driver keeps its place, and one that succeeds is its own. -/
theorem run_spec (q : Request) (hs : Synced q.before) (hrem : q.before.bytesRemaining = 0)
    (hanswer : q.Answered) (hflag : q.before.ignoreErrors = true → q.before.error = 0) :
    q.Spec := by
  by_cases herror : q.before.error ≠ 0
  · -- Nothing is done until the connection is reset.
    have hrun : q.run = (.error, q.before) := by
      rw [run, Driver.transaction, if_pos herror]
    have hclear : q.before.ignoreErrors = false := by
      cases hignore : q.before.ignoreErrors with
      | false => rfl
      | true => exact absurd (hflag hignore) herror
    refine ⟨?_, fun hne => absurd (by rw [hrun]) hne, fun _ => by rw [hrun]; exact hrem⟩
    rw [hrun]
    exact ⟨hs, iff_of_false (by simp only [reduceCtorEq, not_false_eq_true])
      (by rw [hrem]; exact Nat.lt_irrefl 0), hclear⟩
  have herror : q.before.error = 0 := not_not.mp herror
  by_cases hconf : q.before.usb.configured = false
  · have hdown : deviceDisconnected ≠ noError := Nat.succ_ne_zero 1
    have hsend : sendCommand q.before.usb q.opCode q.params
        = (deviceDisconnected, q.before.usb) := by
      rw [sendCommand, if_pos hconf]
    have hrun := run_of_not_sent herror hrem deviceDisconnected _ hdown hsend
    have herr := Driver.receiveEnd_error q.before q.opCode deviceDisconnected hdown
    rcases Driver.receiveEnd_frame q.before q.opCode deviceDisconnected with ⟨_, hrem', _, hclear⟩
    have husb := receiveEnd_usb q.before q.opCode deviceDisconnected
    rw [if_neg hdown] at husb
    refine ⟨?_, fun hne => absurd (by rw [hrun]; exact herr) hne, fun _ => by
      rw [hrun]
      exact hrem'.trans hrem⟩
    have hnone := hrem'.trans hrem
    rw [hrun]
    exact ⟨.of_down hnone (by rw [husb]; exact hconf),
      iff_of_false (receiveEnd_ne_dataRemaining _ _ _) (Nat.not_lt.mpr hnone.le), hclear⟩
  have hconf : q.before.usb.configured = true := by simpa using hconf
  have hidle := hs.idle hrem herror hconf
  by_cases hcommand : q.before.usb.answer.command ≠ noError
  · have hsend : sendCommand q.before.usb q.opCode q.params = (q.before.usb.answer.command,
        { q.before.usb with answers := q.before.usb.answers.tail }) := by
      rw [sendCommand, if_neg (by simp [hconf]), if_pos hcommand]
    have hrun := run_of_not_sent herror hrem _ _ hcommand hsend
    refine spec_of_receiveEnd _ _ hrun hrem ?_ (fun hne => ?_) (fun h => absurd h hcommand)
    · rw [hrun, receiveEnd_usb, if_neg hcommand]
      exact hidle
    · rw [hrun] at hne
      exact absurd (Driver.receiveEnd_error _ _ _ hcommand) hne
  have hcommand : q.before.usb.answer.command = noError := not_not.mp hcommand
  cases hanswer with
  | refused hrefused => exact absurd hcommand hrefused
  | blocked hdata hblock hpackets =>
      have hrun := run_of_send herror hrem hconf hcommand hdata
      have hsend : sendBlockHeader q.asked.usb q.before.usb.answer.block q.opCode q.data
          = (q.before.usb.answer.block, q.asked.usb) := by
        rw [sendBlockHeader, if_neg (by simp [asked, hconf]), if_pos hblock]
      rw [hsend] at hrun
      refine spec_of_receiveEnd _ _ hrun hrem ?_ (fun hne => ?_) (fun h => absurd h hblock)
      · rw [hrun, receiveEnd_usb, if_neg hblock]
        simp only [asked, hidle, hpackets, List.append_nil]
      · rw [hrun] at hne
        exact absurd (Driver.receiveEnd_error _ _ _ hblock) hne
  | response p code hblock hpackets hresp =>
      by_cases hdata : q.data = []
      · cases hreceive : q.receive with
        | true =>
            exact spec_of_response herror hrem hconf hidle hcommand hreceive hdata p code hpackets
              hresp
        | false =>
            have hrun := run_of_plain herror hrem hconf hcommand hreceive hdata
            have husb := receiveEnd_usb_response q.asked q.opCode code [] p hconf
              (by simp only [asked, hidle, hpackets, List.nil_append]) rfl hresp
            rw [← hrun] at husb
            refine spec_of_receiveEnd _ _ hrun hrem (by rw [husb]) (fun _ => ?_)
              (fun _ h => absurd h (by rw [hreceive]; decide))
            rw [husb, containers, if_neg (not_not.mpr hdata)]
            rfl
      · have hblock : q.before.usb.answer.block = noError := hblock.resolve_left hdata
        have hrun := run_of_send herror hrem hconf hcommand hdata
        have hsend : sendBlockHeader q.asked.usb q.before.usb.answer.block q.opCode q.data =
            (noError,
              { q.asked.usb with sent := .block q.opCode q.data :: q.asked.usb.sent }) := by
          rw [sendBlockHeader, if_neg (by simp [asked, hconf]), if_neg (not_not.mpr hblock)]
        rw [hsend] at hrun
        have husb := receiveEnd_usb_response { q.asked with
            block := store q.before.block 0 (Driver.blockHeader q.opCode q.data.length ++ q.data)
            usb := { q.asked.usb with sent := .block q.opCode q.data :: q.asked.usb.sent } }
          q.opCode code [] p hconf (by simp only [asked, hidle, hpackets, List.nil_append]) rfl
          hresp
        rw [← hrun] at husb
        refine spec_of_receiveEnd _ _ hrun hrem (by rw [husb]) (fun _ => ?_)
          (fun _ _ => hdata)
        rw [husb, containers, if_pos hdata]
        rfl
  | data D p code reply hreceive hdata hpackets hreply hlength hresp =>
      exact spec_of_data herror hrem hconf hidle hcommand D p code reply hreceive hdata hpackets
        hreply hlength hresp

end Request

end Ptp

end TimelapsePlus
