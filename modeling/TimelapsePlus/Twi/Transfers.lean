import Mathlib.Data.List.Basic
import TimelapsePlus.Twi.Master

/-!
# Transfers on the Light Sensor's Bus

What holds of the driver in every run, whatever the bus does and whenever the calls come.
The routine never goes outside of its buffer. When a transfer has ended with the flag for
success, all of it has gone over the bus: a write has sent the bytes of its message, each
acknowledged, and a read has its bytes from the sensor, all but the last acknowledged, and
they are what is in the buffer. When it has ended without the flag, the state says what
went wrong, and where.

The invariant says how far a transfer has come, by what the hardware is doing (`Going`).
The one thing asked of a run besides the size of the messages is that no random read is
begun while another transfer is underway: its flag is the one for success, and the transfer
that is underway would take it for its own.

Begun on an idle bus a random read is not one. The flag it sets is cleared by the very
call that begins the transfer, and so it writes two bytes and reads none.

## Main definitions

* `System.Fits`: What is asked of a call.
* `sent`, `got`: What a transfer has put on the bus.
* `Complete`, `Failed`: How a transfer has ended.
* `Going`, `Sound`: The invariant.

## Theorems

* `answer_sound`, `step_sound`: Every step keeps it.
* `transfers_complete`: What holds of every run.
* `random_writes`: A random read writes two bytes.
-/

namespace TimelapsePlus

namespace Twi

/-! ### The driver -/

namespace Master

variable {m : Master}

@[simp] theorem setFlag_flag (m : Master) (v : Bool) : (m.setFlag v).flag = v := by
  have hbit : ∀ x : BitVec 8,
      (x &&& 0xfe ||| (if v then 1 else 0)) &&& 1 = if v then 1 else 0 := by
    cases v <;> decide
  have hsame : (m.statusReg &&& 0xfe ||| (if v then 1 else 0)) &&& 1 = if v then 1 else 0 := by
    rw [← UInt8.toBitVec_inj]
    refine Eq.trans ?_ ((hbit m.statusReg.toBitVec).trans ?_) <;> cases v <;> rfl
  unfold flag setFlag
  rw [hsame]
  cases v <;> rfl

/-- An index into the buffer leaves the driver inside of it. -/
theorem touch_outside {i : UInt8} (hi : i.toNat < bufferSize) :
    (m.touch i).outside = m.outside := by
  unfold touch
  rw [decide_eq_false (Nat.not_le_of_lt hi), Bool.or_false]

theorem put_buf (i v : UInt8) : (m.put i v).buf = Function.update m.buf i.toNat v := rfl

theorem put_zero (m : Master) (v : UInt8) : (m.put 0 v).buf 0 = v := by
  have hzero : (0 : UInt8).toNat = 0 := rfl
  rw [put_buf, hzero, Function.update_self]

/-- What the loop that copies a message makes of the buffer. -/
structure Filled (m t : Master) (msg : List UInt8) (is : List Nat) : Prop where
  cells : ∀ i, t.buf i = if i ∈ is then msg.getD i 0 else m.buf i
  outside : t.outside = m.outside
  rest : t.msgSize = m.msgSize ∧ t.bufPtr = m.bufPtr

theorem foldl_filled (msg : List UInt8) (is : List Nat) (his : ∀ i ∈ is, i < bufferSize)
    (m : Master) :
    Filled m (is.foldl (fun m i => m.put (UInt8.ofNat i) (msg.getD i 0)) m) msg is := by
  induction is generalizing m with
  | nil => exact ⟨fun i => (if_neg List.not_mem_nil).symm, rfl, rfl, rfl⟩
  | cons j is ih =>
      have hj : (UInt8.ofNat j).toNat = j := by
        have hlt := his j List.mem_cons_self
        unfold bufferSize at hlt
        exact UInt8.toNat_ofNat_of_lt' (Nat.lt_trans hlt (by decide))
      have hrest := ih (fun i hi => his i (List.mem_cons_of_mem j hi))
        (m.put (UInt8.ofNat j) (msg.getD j 0))
      refine ⟨fun i => ?_, ?_, hrest.rest⟩
      · rw [List.foldl_cons, hrest.cells, put_buf, hj]
        by_cases hi : i ∈ is
        · rw [if_pos hi, if_pos (List.mem_cons_of_mem j hi)]
        · rw [if_neg hi]
          by_cases hij : i = j
          · rw [hij, Function.update_self, if_pos List.mem_cons_self]
          · rw [Function.update_of_ne hij, if_neg]
            rw [List.mem_cons, not_or]
            exact ⟨hij, hi⟩
      · rw [List.foldl_cons, hrest.outside]
        refine touch_outside ?_
        rw [hj]
        exact his j List.mem_cons_self

/-- What a call that begins a transfer makes of the driver. -/
structure Begun (m t : Master) (msg : List UInt8) (msgSize : UInt8) : Prop where
  first : t.buf 0 = msg.getD 0 0
  rest : msg.getD 0 0 &&& 1 = 0 → ∀ i < msgSize.toNat, t.buf i = msg.getD i 0
  size : t.msgSize = msgSize
  flag : t.flag = false
  control : t.twcr = .begin
  outside : t.outside = m.outside

theorem startReadWrite_begun (hidle : m.busy = false) {msg : List UInt8} {msgSize : UInt8}
    (hsize : msgSize.toNat ≤ bufferSize) : Begun m (m.startReadWrite msg msgSize) msg msgSize := by
  have houtside : ∀ t : Master, (t.put 0 (msg.getD 0 0)).outside = t.outside := fun t =>
    touch_outside (by decide)
  unfold startReadWrite
  rw [if_neg (by rw [hidle]; exact Bool.false_ne_true)]
  by_cases hwrite : msg.getD 0 0 &&& 1 = 0
  · simp only [if_pos hwrite]
    have hfill := foldl_filled msg ((List.range msgSize.toNat).drop 1)
      (fun i hi => Nat.lt_of_lt_of_le (List.mem_range.mp (List.mem_of_mem_drop hi)) hsize)
      ({ m with msgSize := msgSize }.put 0 (msg.getD 0 0))
    have hzero : (0 : Nat) ∉ (List.range msgSize.toNat).drop 1 := by
      rw [List.range_eq_range', List.drop_range', List.mem_range'_1]
      omega
    have hcells : ∀ i < msgSize.toNat, (fill ({ m with msgSize := msgSize }.put 0 (msg.getD 0 0))
        msg msgSize).buf i = msg.getD i 0 := by
      intro i hi
      unfold fill
      rw [hfill.cells]
      by_cases hin : i ∈ (List.range msgSize.toNat).drop 1
      · rw [if_pos hin]
      · have hnone : i = 0 := by
          rw [List.range_eq_range', List.drop_range', List.mem_range'_1] at hin
          omega
        rw [if_neg hin, hnone]
        exact put_zero _ _
    refine ⟨?_, fun _ => hcells, hfill.rest.1, setFlag_flag _ false, rfl,
      hfill.outside.trans (houtside _)⟩
    change (fill _ msg msgSize).buf 0 = _
    unfold fill
    rw [hfill.cells, if_neg hzero]
    exact put_zero _ _
  · simp only [if_neg hwrite]
    exact ⟨put_zero { m with msgSize := msgSize } _, fun h => absurd h hwrite, rfl,
      setFlag_flag _ false, rfl, houtside _⟩

/-- The next byte is sent. -/
structure Sends (m t : Master) : Prop where
  buf : t.buf = m.buf
  size : t.msgSize = m.msgSize
  flag : t.flag = m.flag
  control : t.twcr = .goOn false
  outside : t.outside = m.outside
  byte : t.twdr = m.buf m.bufPtr.toNat
  pointer : t.bufPtr.toNat = m.bufPtr.toNat + 1

theorem sendNext_sends (hsize : m.msgSize.toNat ≤ bufferSize)
    (hmore : m.bufPtr.toNat < m.msgSize.toNat) : Sends m m.sendNext := by
  unfold sendNext
  rw [if_pos (UInt8.lt_iff_toNat_lt.mpr hmore)]
  refine ⟨rfl, rfl, rfl, rfl, touch_outside (Nat.lt_of_lt_of_le hmore hsize), rfl, ?_⟩
  unfold bufferSize at hsize
  have hone : (1 : UInt8).toNat = 1 := rfl
  simp only [UInt8.toNat_add, hone]
  exact Nat.mod_eq_of_lt (by omega)

/-- The transfer has ended well. -/
structure Ends (m t : Master) : Prop where
  buf : t.buf = m.buf
  size : t.msgSize = m.msgSize
  flag : t.flag = true
  control : t.twcr = .finish
  outside : t.outside = m.outside

/-- With the flag of a memory read cleared nothing else may follow. -/
theorem sendNext_ends (hflag : m.flag = false) (hdone : m.msgSize.toNat ≤ m.bufPtr.toNat) :
    Ends m m.sendNext := by
  have hread : ¬ m.memRead = true := by
    change ¬ m.flag = true
    rw [hflag]
    exact Bool.false_ne_true
  unfold sendNext
  rw [if_neg fun h => absurd (UInt8.lt_iff_toNat_lt.mp h) (Nat.not_lt_of_le hdone), if_neg hread]
  exact ⟨rfl, rfl, setFlag_flag m true, rfl, rfl⟩

end Master

/-! ### A transfer -/

/-- What a write has put on the bus when these bytes of its message have been sent. -/
def sent : List UInt8 → List Signal
  | [] => [.start]
  | a :: bs => .start :: .address a true :: bs.map (.data · true)

/-- What a read has, when these bytes have come. -/
def got (a : UInt8) (bs : List UInt8) : List Signal :=
  .start :: .address a true :: bs.map (.received · true)

/-- The bytes that have come are in the buffer, behind the address. -/
def Stored (buf : Nat → UInt8) (bs : List UInt8) : Prop :=
  ∀ i b, bs[i]? = some b → buf (i + 1) = b

theorem Stored.append {buf : Nat → UInt8} {bs : List UInt8} (h : Stored buf bs) (b : UInt8) :
    Stored (Function.update buf (bs.length + 1) b) (bs ++ [b]) := by
  intro i c hi
  by_cases hlast : i = bs.length
  · rw [hlast, List.getElem?_concat_length, Option.some.injEq] at hi
    rw [hlast, Function.update_self, hi]
  · have hlt : i < bs.length := by
      have hlen := (List.getElem?_eq_some_iff.mp hi).1
      rw [List.length_append, List.length_singleton] at hlen
      omega
    rw [List.getElem?_append_left hlt] at hi
    rw [Function.update_of_ne (by omega)]
    exact h i c hi

namespace System

variable {s t : System} {l : Label}

/-- What is asked of a call: the message fits the buffer, and no random read is begun while
    a transfer is underway. -/
def Fits (s : System) : Label → Prop
  | .startReadWrite _ msgSize => msgSize.toNat ≤ bufferSize
  | .startRandomRead _ _ => s.master.busy = false
  | _ => True

instance (s : System) (l : Label) : Decidable (s.Fits l) :=
  match l with
  | .startReadWrite _ msgSize => inferInstanceAs (Decidable (msgSize.toNat ≤ bufferSize))
  | .startRandomRead _ _ => inferInstanceAs (Decidable (s.master.busy = false))
  | .answer _ _ | .startTransceiver => inferInstanceAs (Decidable True)

/-- The whole message has been written, or as many bytes as were asked for have been read. -/
def Complete (s : System) : Prop :=
  match s.asked with
  | [] => s.log = [.start, .stop]
  | a :: rest =>
    if a &&& 1 = 0 then s.log = sent (a :: rest) ++ [.stop]
    else ∃ bs b, s.log = got a bs ++ [.received b false, .stop] ∧ bs.length = rest.length - 1 ∧
      Stored s.master.buf (bs ++ [b])

/-- Nothing has ever been transferred, or the sensor has not acknowledged its address or a
    byte, or there has been an error on the bus. -/
def Failed (s : System) : Prop :=
  s.master.state = noState ∧ s.log = [] ∧ s.asked = [] ∨
  (∃ a rest, s.asked = a :: rest ∧
    (s.master.state = Status.mtxAdrNack.code ∧ a &&& 1 = 0 ∧ s.log = [.start, .address a false] ∨
      s.master.state = Status.mrxAdrNack.code ∧ a &&& 1 ≠ 0 ∧
        s.log = [.start, .address a false])) ∨
  (∃ a bs b rest, s.asked = a :: bs ++ b :: rest ∧ a &&& 1 = 0 ∧
    s.master.state = Status.mtxDataNack.code ∧ s.log = sent (a :: bs) ++ [.data b false]) ∨
  s.master.state = Status.busError.code

/-- The message is in the buffer: all of it if it is written, else its address. -/
structure Loaded (s : System) : Prop where
  size : s.asked.length = s.master.msgSize.toNat
  fits : s.master.msgSize.toNat ≤ bufferSize
  first : ∀ a rest, s.asked = a :: rest → s.master.buf 0 = a
  rest : s.asked.headD 0 &&& 1 = 0 → ∀ i b, s.asked[i]? = some b → s.master.buf i = b

/-- How far the transfer has come, by what the hardware is doing. -/
def Going (s : System) : Prop :=
  match s.phase with
  | .quiet => s.master.busy = false ∧
      (s.master.flag = true ∧ s.Complete ∨ s.master.flag = false ∧ s.Failed)
  | .starting => s.master.busy = true ∧ s.master.flag = false
  | .addressing b => s.master.busy = true ∧ s.master.flag = false ∧ s.master.bufPtr = 1 ∧
      s.log = [.start] ∧ ∃ rest, s.asked = b :: rest
  | .sending b => s.master.busy = true ∧ s.master.flag = false ∧
      ∃ a bs rest, s.asked = a :: bs ++ b :: rest ∧ a &&& 1 = 0 ∧ s.log = sent (a :: bs) ∧
        s.master.bufPtr.toNat = bs.length + 2
  | .receiving ack => s.master.busy = true ∧ s.master.flag = false ∧
      ∃ a rest bs, s.asked = a :: rest ∧ a &&& 1 ≠ 0 ∧ s.log = got a bs ∧
        Stored s.master.buf bs ∧ s.master.bufPtr.toNat = bs.length + 1 ∧
        bs.length ≤ rest.length - 1 ∧ ack = decide (bs.length + 1 < rest.length)

/-- What holds in every state. -/
structure Sound (s : System) : Prop where
  inside : s.master.outside = false
  loaded : s.Loaded
  going : s.Going

theorem fresh_sound : fresh.Sound := by
  refine ⟨rfl, ⟨rfl, Nat.zero_le _, fun a rest h => ?_, fun _ i b h => ?_⟩, rfl, Or.inr ⟨rfl, ?_⟩⟩
  · exact absurd h.symm (List.cons_ne_nil a rest)
  · exact absurd h.symm (Option.some_ne_none b)
  · exact Or.inl ⟨rfl, rfl, rfl⟩

/-- A code is known by its upper bits. -/
theorem decode_code {twsr : UInt8} {status : Status} (h : Status.decode twsr = some status) :
    twsr &&& 0xf8 = status.code := by
  unfold Status.decode at h
  exact (beq_iff_eq.mp (List.find?_some (p := fun s : Status => s.code == twsr &&& 0xf8) h)).symm

/-- What is in the buffer stays the message, if the first byte stays, and for a write the
    others. -/
theorem Loaded.congr (h : s.Loaded) {t : System} (hasked : t.asked = s.asked)
    (hsize : t.master.msgSize = s.master.msgSize)
    (hbuf : t.master.buf = s.master.buf ∨ s.asked.headD 0 &&& 1 ≠ 0 ∧
      t.master.buf 0 = s.master.buf 0) : t.Loaded := by
  refine ⟨?_, ?_, ?_, ?_⟩
  · rw [hasked, hsize]
    exact h.size
  · rw [hsize]
    exact h.fits
  · intro a rest heq
    rw [hasked] at heq
    have hfirst : t.master.buf 0 = s.master.buf 0 := hbuf.elim (fun hb => congrFun hb 0) And.right
    rw [hfirst]
    exact h.first a rest heq
  · rw [hasked]
    intro hwrite i b hi
    have hsame := hbuf.resolve_right fun hread => hread.1 hwrite
    rw [hsame]
    exact h.rest hwrite i b hi

variable {status : Status} {twsr byte : UInt8}

/-- A byte of a message that is written stands in the buffer at its place. -/
theorem Loaded.cell (h : s.Loaded) {done rest : List UInt8} {b : UInt8}
    (hasked : s.asked = done ++ b :: rest) (hwrite : s.asked.headD 0 &&& 1 = 0) :
    s.master.buf done.length = b := by
  refine h.rest hwrite done.length b ?_
  rw [hasked, List.getElem?_append_right (Nat.le_refl _), Nat.sub_self]
  rfl

theorem after_phase : (s.after status twsr byte).phase =
    .obey (some status) (s.master.isr twsr byte).twcr (s.master.isr twsr byte).twdr := rfl

theorem after_log : (s.after status twsr byte).log =
    if (s.master.isr twsr byte).twcr.twsto = true then
      s.phase.signals s.log byte status ++ [.stop]
    else s.phase.signals s.log byte status := rfl

/-- After a start the address is sent. -/
theorem after_start (h : s.Sound) (hflag : s.master.flag = false)
    (hstart : status = .start ∨ status = .repStart) (hdecode : Status.decode twsr = some status) :
    (s.after status twsr byte).Sound := by
  have hisr : s.master.isr twsr byte = Master.sendNext { s.master with bufPtr := 0 } := by
    unfold Master.isr
    rw [hdecode]
    rcases hstart with rfl | rfl <;> rfl
  have hsignals : s.phase.signals s.log byte status = [.start] := by
    rcases hstart with rfl | rfl <;> cases s.phase <;> rfl
  cases hasked : s.asked with
  | nil =>
      -- A message of no bytes ends before its address.
      have hnone : s.master.msgSize.toNat = 0 := by
        rw [← h.loaded.size, hasked]
        rfl
      have hends := Master.sendNext_ends (m := { s.master with bufPtr := 0 }) hflag
        (Nat.le_of_eq hnone)
      rw [← hisr] at hends
      refine ⟨hends.outside.trans h.inside, h.loaded.congr rfl hends.size (Or.inl hends.buf), ?_⟩
      have hphase : (s.after status twsr byte).phase = .quiet := by
        rw [after_phase, hends.control]
        rfl
      unfold Going
      rw [hphase]
      refine ⟨?_, Or.inl ⟨hends.flag, ?_⟩⟩
      · change (s.master.isr twsr byte).twcr.twie = false
        rw [hends.control]
        rfl
      · have hsame : (s.after status twsr byte).asked = [] := hasked
        have hlog : (s.after status twsr byte).log = [.start, .stop] := by
          rw [after_log, hends.control, hsignals]
          rfl
        unfold Complete
        rw [hsame]
        exact hlog
  | cons a rest =>
      have hmore : 0 < s.master.msgSize.toNat := by
        rw [← h.loaded.size, hasked]
        exact Nat.succ_pos _
      have hsends := Master.sendNext_sends (m := { s.master with bufPtr := 0 }) h.loaded.fits hmore
      rw [← hisr] at hsends
      refine ⟨hsends.outside.trans h.inside, h.loaded.congr rfl hsends.size (Or.inl hsends.buf), ?_⟩
      have hbyte : (s.master.isr twsr byte).twdr = a :=
        hsends.byte.trans (h.loaded.first a rest hasked)
      have hphase : (s.after status twsr byte).phase = .addressing a := by
        rw [after_phase, hsends.control, hbyte]
        rcases hstart with rfl | rfl <;> rfl
      unfold Going
      rw [hphase]
      refine ⟨?_, hsends.flag.trans hflag, ?_, ?_, rest, hasked⟩
      · change (s.master.isr twsr byte).twcr.twie = true
        rw [hsends.control]
        rfl
      · exact UInt8.toNat_inj.mp hsends.pointer
      · rw [after_log, hsends.control, hsignals]
        rfl

/-- After an acknowledged byte the next one is sent, or the transfer ends. -/
theorem after_sent (h : s.Sound) (hflag : s.master.flag = false) {a : UInt8} (bs rest : List UInt8)
    (hasked : s.asked = a :: bs ++ rest) (hwrite : a &&& 1 = 0)
    (hpointer : s.master.bufPtr.toNat = bs.length + 1)
    (hlog : s.phase.signals s.log byte status = sent (a :: bs))
    (hack : status = .mtxAdrAck ∨ status = .mtxDataAck)
    (hdecode : Status.decode twsr = some status) : (s.after status twsr byte).Sound := by
  have hisr : s.master.isr twsr byte = s.master.sendNext := by
    unfold Master.isr
    rw [hdecode]
    rcases hack with rfl | rfl <;> rfl
  have hsize : s.master.msgSize.toNat = bs.length + 1 + rest.length := by
    rw [← h.loaded.size, hasked, List.length_append, List.length_cons]
  cases rest with
  | nil =>
      have hends := Master.sendNext_ends (m := s.master) hflag (by
        rw [hsize, hpointer]
        exact Nat.le_refl _)
      rw [← hisr] at hends
      refine ⟨hends.outside.trans h.inside, h.loaded.congr rfl hends.size (Or.inl hends.buf), ?_⟩
      have hphase : (s.after status twsr byte).phase = .quiet := by
        rw [after_phase, hends.control]
        rfl
      unfold Going
      rw [hphase]
      refine ⟨?_, Or.inl ⟨hends.flag, ?_⟩⟩
      · change (s.master.isr twsr byte).twcr.twie = false
        rw [hends.control]
        rfl
      · have hsame : (s.after status twsr byte).asked = a :: bs := by
          rw [List.append_nil] at hasked
          exact hasked
        unfold Complete
        rw [hsame]
        simp only [if_pos hwrite]
        rw [after_log, hends.control, hlog]
        rfl
  | cons b rest =>
      have hsends := Master.sendNext_sends (m := s.master) h.loaded.fits (by
        rw [hsize, hpointer, List.length_cons]
        omega)
      rw [← hisr] at hsends
      refine ⟨hsends.outside.trans h.inside, h.loaded.congr rfl hsends.size (Or.inl hsends.buf), ?_⟩
      have hhead : s.asked.headD 0 &&& 1 = 0 := by
        rw [hasked]
        exact hwrite
      have hbyte : (s.master.isr twsr byte).twdr = b := by
        have hcell := h.loaded.cell hasked hhead
        rw [hsends.byte, hpointer]
        exact hcell
      have hphase : (s.after status twsr byte).phase = .sending b := by
        rw [after_phase, hsends.control, hbyte]
        rcases hack with rfl | rfl <;> rfl
      unfold Going
      rw [hphase]
      refine ⟨?_, hsends.flag.trans hflag, a, bs, rest, hasked, hwrite, ?_, ?_⟩
      · change (s.master.isr twsr byte).twcr.twie = true
        rw [hsends.control]
        rfl
      · rw [after_log, hsends.control, hlog]
        rfl
      · exact hsends.pointer.trans (congrArg (· + 1) hpointer)

/-- After the address of a read, or a byte that has come, the next one is to come. -/
theorem after_received (h : s.Sound) (m : Master) (bs : List UInt8)
    (hisr : s.master.isr twsr byte = m.receiveNext) (hflag : m.flag = false)
    (hinside : m.outside = false)
    (hsize : m.msgSize = s.master.msgSize) (hfirst : m.buf 0 = s.master.buf 0) {a : UInt8}
    {rest : List UInt8} (hasked : s.asked = a :: rest) (hread : a &&& 1 ≠ 0)
    (hstored : Stored m.buf bs) (hpointer : m.bufPtr.toNat = bs.length + 1)
    (hlen : bs.length ≤ rest.length - 1) (hlog : s.phase.signals s.log byte status = got a bs)
    (hack : status = .mrxAdrAck ∨ status = .mrxDataAck) : (s.after status twsr byte).Sound := by
  have hmaster : (s.after status twsr byte).master = m.receiveNext := hisr
  have hread' : s.asked.headD 0 &&& 1 ≠ 0 := by
    rw [hasked]
    exact hread
  have hsame : (s.after status twsr byte).asked = s.asked := rfl
  refine ⟨?_, h.loaded.congr hsame ?_ (Or.inr ⟨hread', ?_⟩), ?_⟩
  · rw [hmaster]
    exact hinside
  · rw [hmaster]
    exact hsize
  · rw [hmaster]
    exact hfirst
  have hcount : m.msgSize.toNat = rest.length + 1 := by
    rw [hsize, ← h.loaded.size, hasked]
    rfl
  have hlast : decide ((m.bufPtr.toNat : Int) < (m.msgSize.toNat : Int) - 1) =
      decide (bs.length + 1 < rest.length) := by
    rw [hpointer, hcount]
    exact decide_eq_decide.mpr (by omega)
  have hphase : (s.after status twsr byte).phase =
      .receiving (decide (bs.length + 1 < rest.length)) := by
    rw [after_phase, hisr]
    unfold Master.receiveNext
    rw [hlast]
    rcases hack with rfl | rfl <;> rfl
  unfold Going
  rw [hphase]
  refine ⟨?_, ?_, a, rest, bs, hasked, hread, ?_, ?_, ?_, hlen, rfl⟩
  · rw [hmaster]
    rfl
  · rw [hmaster]
    exact hflag
  · rw [after_log, hisr, hlog]
    rfl
  · rw [hmaster]
    exact hstored
  · rw [hmaster]
    exact hpointer

/-- The last byte of a read ends it. -/
theorem after_last (h : s.Sound) {a : UInt8} {rest bs : List UInt8} (hasked : s.asked = a :: rest)
    (hread : a &&& 1 ≠ 0) (hstored : Stored s.master.buf bs)
    (hpointer : s.master.bufPtr.toNat = bs.length + 1) (hlen : bs.length = rest.length - 1)
    (hlog : s.phase.signals s.log byte .mrxDataNack = got a bs ++ [.received byte false])
    (hdecode : Status.decode twsr = some .mrxDataNack) :
    (s.after .mrxDataNack twsr byte).Sound := by
  let m : Master := (s.master.put s.master.bufPtr byte).setFlag true
  have hisr : s.master.isr twsr byte = { m with twcr := .finish } := by
    unfold Master.isr
    rw [hdecode]
  have hcount : s.master.msgSize.toNat = rest.length + 1 := by
    rw [← h.loaded.size, hasked]
    rfl
  have hplace : s.master.bufPtr.toNat < bufferSize := by
    have hfits := h.loaded.fits
    unfold bufferSize at hfits ⊢
    omega
  have hbuf : m.buf = Function.update s.master.buf (bs.length + 1) byte := by
    rw [← hpointer]
    rfl
  have hmaster : (s.after .mrxDataNack twsr byte).master = { m with twcr := .finish } := hisr
  have hread' : s.asked.headD 0 &&& 1 ≠ 0 := by
    rw [hasked]
    exact hread
  have hsame : (s.after .mrxDataNack twsr byte).asked = s.asked := rfl
  refine ⟨?_, h.loaded.congr hsame ?_ (Or.inr ⟨hread', ?_⟩), ?_⟩
  · rw [hmaster]
    exact (Master.touch_outside hplace).trans h.inside
  · rw [hmaster]
    rfl
  · rw [hmaster]
    change m.buf 0 = _
    rw [hbuf]
    exact Function.update_of_ne (Nat.succ_ne_zero _).symm _ _
  have hphase : (s.after .mrxDataNack twsr byte).phase = .quiet := by
    rw [after_phase, hisr]
    rfl
  unfold Going
  rw [hphase, hmaster]
  refine ⟨rfl, Or.inl ⟨Master.setFlag_flag (s.master.put s.master.bufPtr byte) true, ?_⟩⟩
  have hend : (s.after .mrxDataNack twsr byte).log =
      got a bs ++ [.received byte false, .stop] := by
    rw [after_log, hisr, hlog]
    exact List.append_assoc _ _ _
  have hput : Stored (s.after .mrxDataNack twsr byte).master.buf (bs ++ [byte]) := by
    rw [hmaster]
    change Stored m.buf _
    rw [hbuf]
    exact hstored.append byte
  unfold Complete
  rw [hsame, hasked]
  simp only [if_neg hread]
  exact ⟨bs, byte, hend, hlen, hput⟩

/-- When the arbitration is lost, the transfer begins again. -/
theorem after_lost (h : s.Sound) (hflag : s.master.flag = false)
    (hdecode : Status.decode twsr = some .arbLost) : (s.after .arbLost twsr byte).Sound := by
  have hisr : s.master.isr twsr byte = { s.master with twcr := .begin } := by
    unfold Master.isr
    rw [hdecode]
  have hmaster : (s.after .arbLost twsr byte).master = { s.master with twcr := .begin } := hisr
  have hsame : (s.after .arbLost twsr byte).asked = s.asked := rfl
  have hphase : (s.after .arbLost twsr byte).phase = .starting := by
    rw [after_phase, hisr]
    rfl
  refine ⟨?_, h.loaded.congr hsame ?_ (Or.inl ?_), ?_⟩
  · rw [hmaster]
    exact h.inside
  · rw [hmaster]
  · rw [hmaster]
  · unfold Going
    rw [hphase, hmaster]
    exact ⟨rfl, hflag⟩

/-- Without an acknowledgement, or after an error, the transfer ends, and the state says
    why. -/
theorem after_failed (h : s.Sound) (hflag : s.master.flag = false)
    (hisr : s.master.isr twsr byte = { s.master with state := status.code, twcr := .release })
    (hfailed : (s.after status twsr byte).master.state = status.code →
      (s.after status twsr byte).log = s.phase.signals s.log byte status →
      (s.after status twsr byte).Failed) : (s.after status twsr byte).Sound := by
  have hmaster : (s.after status twsr byte).master =
      { s.master with state := status.code, twcr := .release } := hisr
  have hsame : (s.after status twsr byte).asked = s.asked := rfl
  have hphase : (s.after status twsr byte).phase = .quiet := by
    rw [after_phase, hisr]
    rfl
  have hlog : (s.after status twsr byte).log = s.phase.signals s.log byte status := by
    rw [after_log, hisr]
    rfl
  have hstate : (s.after status twsr byte).master.state = status.code := by
    rw [hmaster]
  refine ⟨?_, h.loaded.congr hsame ?_ (Or.inl ?_), ?_⟩
  · rw [hmaster]
    exact h.inside
  · rw [hmaster]
  · rw [hmaster]
  · have hend := hfailed hstate hlog
    unfold Going
    rw [hphase]
    rw [hmaster]
    exact ⟨rfl, Or.inr ⟨hflag, hend⟩⟩

/-- An error on the bus ends any transfer. -/
theorem after_error (h : s.Sound) (hflag : s.master.flag = false)
    (hdecode : Status.decode twsr = some .busError) : (s.after .busError twsr byte).Sound := by
  refine after_failed h hflag ?_ fun hstate _ => Or.inr (Or.inr (Or.inr hstate))
  unfold Master.isr
  rw [hdecode, ← decode_code hdecode]

/-- Whatever the hardware has done, the answer to it keeps what holds. -/
theorem answer_sound (h : s.Sound) (hstep : s.answer twsr byte = some t) : t.Sound := by
  unfold answer at hstep
  cases hdecode : Status.decode twsr with
  | none =>
      rw [hdecode] at hstep
      exact absurd hstep.symm (Option.some_ne_none t)
  | some status =>
      rw [hdecode] at hstep
      simp only [Option.ite_none_right_eq_some, Option.some.injEq] at hstep
      rcases hstep with ⟨hanswers, rfl⟩
      have hgoing := h.going
      have hrelease : ∀ st : Status, Status.decode twsr = some st →
          st = .mtxAdrNack ∨ st = .mtxDataNack ∨ st = .mrxAdrNack →
          s.master.isr twsr byte = { s.master with state := st.code, twcr := .release } := by
        intro st hst hor
        unfold Master.isr
        rw [hst, ← decode_code hst]
        rcases hor with rfl | rfl | rfl <;> rfl
      unfold Going at hgoing
      cases hphase : s.phase with
      | quiet =>
          rw [hphase] at hanswers
          cases status <;> exact Bool.noConfusion hanswers
      | starting =>
          rw [hphase] at hanswers hgoing
          rcases hgoing with ⟨-, hflag⟩
          cases status with
          | start => exact after_start h hflag (Or.inl rfl) hdecode
          | repStart => exact after_start h hflag (Or.inr rfl) hdecode
          | busError => exact after_error h hflag hdecode
          | _ => exact Bool.noConfusion hanswers
      | addressing a =>
          rw [hphase] at hanswers hgoing
          rcases hgoing with ⟨-, hflag, hpointer, hlog, rest, hasked⟩
          have hone : s.master.bufPtr.toNat = 1 := congrArg UInt8.toNat hpointer
          cases status with
          | mtxAdrAck =>
              have hwrite : a &&& 1 = 0 := of_decide_eq_true hanswers
              refine after_sent h hflag [] rest hasked hwrite hone ?_ (Or.inl rfl) hdecode
              rw [hphase, hlog]
              rfl
          | mrxAdrAck =>
              have hread : a &&& 1 ≠ 0 := of_decide_eq_true hanswers
              refine after_received h s.master [] ?_ hflag h.inside rfl rfl hasked
                hread (fun i b hi => ?_) hone (Nat.zero_le _) ?_ (Or.inl rfl)
              · unfold Master.isr
                rw [hdecode]
              · exact absurd hi.symm (Option.some_ne_none b)
              · rw [hphase, hlog]
                rfl
          | mtxAdrNack =>
              have hwrite : a &&& 1 = 0 := of_decide_eq_true hanswers
              refine after_failed h hflag (hrelease _ hdecode (Or.inl rfl)) fun hstate hend => ?_
              rw [hphase, hlog] at hend
              exact Or.inr (Or.inl ⟨a, rest, hasked, Or.inl ⟨hstate, hwrite, hend⟩⟩)
          | mrxAdrNack =>
              have hread : a &&& 1 ≠ 0 := of_decide_eq_true hanswers
              refine after_failed h hflag (hrelease _ hdecode (Or.inr (Or.inr rfl)))
                fun hstate hend => ?_
              rw [hphase, hlog] at hend
              exact Or.inr (Or.inl ⟨a, rest, hasked, Or.inr ⟨hstate, hread, hend⟩⟩)
          | arbLost => exact after_lost h hflag hdecode
          | busError => exact after_error h hflag hdecode
          | _ => exact Bool.noConfusion hanswers
      | sending b =>
          rw [hphase] at hanswers hgoing
          rcases hgoing with ⟨-, hflag, a, bs, rest, hasked, hwrite, hlog, hpointer⟩
          cases status with
          | mtxDataAck =>
              refine after_sent h hflag (bs ++ [b]) rest ?_ hwrite ?_ ?_
                (Or.inr rfl) hdecode
              · rw [hasked, List.cons_append, List.cons_append, List.append_assoc]
                rfl
              · rw [hpointer, List.length_append]
                rfl
              · rw [hphase, hlog]
                simp only [Phase.signals, sent, List.map_append, List.map_cons, List.map_nil,
                  List.cons_append]
          | mtxDataNack =>
              refine after_failed h hflag (hrelease _ hdecode (Or.inr (Or.inl rfl)))
                fun hstate hend => ?_
              rw [hphase, hlog] at hend
              exact Or.inr (Or.inr (Or.inl ⟨a, bs, b, rest, hasked, hwrite, hstate, hend⟩))
          | arbLost => exact after_lost h hflag hdecode
          | busError => exact after_error h hflag hdecode
          | _ => exact Bool.noConfusion hanswers
      | receiving ack =>
          rw [hphase] at hanswers hgoing
          rcases hgoing with ⟨-, hflag, a, rest, bs, hasked, hread, hlog, hstored, hpointer, hlen,
            hack⟩
          cases ack with
          | true =>
              have hmore := of_decide_eq_true hack.symm
              have hplace : s.master.bufPtr.toNat < bufferSize := by
                have hfits := h.loaded.fits
                rw [← h.loaded.size, hasked, List.length_cons] at hfits
                omega
              cases status with
              | mrxDataAck =>
                  refine after_received h { s.master.put s.master.bufPtr byte with
                    bufPtr := s.master.bufPtr + 1 } (bs ++ [byte]) ?_ hflag
                    ((Master.touch_outside hplace).trans h.inside) rfl ?_ hasked hread ?_ ?_ ?_ ?_
                    (Or.inr rfl)
                  · unfold Master.isr
                    rw [hdecode]
                  · change Function.update s.master.buf s.master.bufPtr.toNat byte 0 = _
                    rw [hpointer]
                    exact Function.update_of_ne (Nat.succ_ne_zero _).symm _ _
                  · change Stored (Function.update s.master.buf s.master.bufPtr.toNat byte) _
                    rw [hpointer]
                    exact hstored.append byte
                  · have hone : (1 : UInt8).toNat = 1 := rfl
                    unfold bufferSize at hplace
                    simp only [UInt8.toNat_add, hone, List.length_append, List.length_singleton]
                    rw [Nat.mod_eq_of_lt (by omega), hpointer]
                  · rw [List.length_append, List.length_singleton]
                    omega
                  · rw [hphase, hlog]
                    simp only [Phase.signals, got, List.map_append, List.map_cons, List.map_nil,
                      List.cons_append]
              | busError => exact after_error h hflag hdecode
              | _ => exact Bool.noConfusion hanswers
          | false =>
              have hdone := of_decide_eq_false hack.symm
              cases status with
              | mrxDataNack =>
                  refine after_last h hasked hread hstored hpointer (by omega) ?_ hdecode
                  rw [hphase, hlog]
                  rfl
              | arbLost => exact after_lost h hflag hdecode
              | busError => exact after_error h hflag hdecode
              | _ => exact Bool.noConfusion hanswers

/-- A call that begins a transfer with a message that fits. -/
theorem begun_sound (h : s.Sound) (hidle : s.master.busy = false) {m : Master} {msg : List UInt8}
    {msgSize : UInt8} (hsize : msgSize.toNat ≤ bufferSize)
    (hbegun : Master.Begun s.master m msg msgSize) :
    (s.called m ((List.range msgSize.toNat).map fun i => msg.getD i 0)).Sound := by
  unfold called
  rw [if_neg (by rw [hidle]; exact Bool.false_ne_true), hbegun.control]
  have hlength : ((List.range msgSize.toNat).map fun i => msg.getD i 0).length = msgSize.toNat := by
    rw [List.length_map, List.length_range]
  refine ⟨hbegun.outside.trans h.inside, ⟨?_, ?_, ?_, ?_⟩, ?_, hbegun.flag⟩
  · exact hlength.trans (congrArg UInt8.toNat hbegun.size.symm)
  · change m.msgSize.toNat ≤ bufferSize
    rw [hbegun.size]
    exact hsize
  · intro a rest heq
    change ((List.range msgSize.toNat).map fun i => msg.getD i 0) = a :: rest at heq
    change m.buf 0 = a
    have hpos : 0 < msgSize.toNat := by
      rw [← hlength, heq]
      exact Nat.succ_pos _
    have hhead := congrArg (fun l : List UInt8 => l[0]?) heq
    simp only [List.getElem?_map, List.getElem?_range hpos, Option.map_some,
      List.getElem?_cons_zero, Option.some.injEq] at hhead
    exact hbegun.first.trans hhead
  · intro hwrite i b hi
    simp only [List.getElem?_map, Option.map_eq_some_iff] at hi
    rcases hi with ⟨j, hj, hb⟩
    rcases List.getElem?_eq_some_iff.mp hj with ⟨hlt, hij⟩
    rw [List.length_range] at hlt
    rw [List.getElem_range] at hij
    have hfirst : msg.getD 0 0 &&& 1 = 0 := by
      have hpos : msgSize.toNat = (msgSize.toNat - 1) + 1 := by omega
      rw [hpos, List.range_succ_eq_map] at hwrite
      exact hwrite
    rw [← hb, ← hij]
    exact hbegun.rest hfirst i hlt
  · change m.twcr.twie = true
    rw [hbegun.control]
    rfl

/-- Every step keeps what holds. -/
theorem step_sound (h : s.Sound) (hfits : s.Fits l) (hstep : s.step l = some t) : t.Sound := by
  cases l with
  | answer twsr byte => exact answer_sound h hstep
  | startReadWrite msg msgSize =>
      rw [← Option.some.inj hstep]
      cases hbusy : s.master.busy with
      | true =>
          -- The wait has run out, and nothing is done.
          unfold called Master.startReadWrite
          rw [hbusy, if_pos rfl, if_pos rfl]
          exact h
      | false => exact begun_sound h hbusy hfits (Master.startReadWrite_begun hbusy hfits)
  | startRandomRead msg msgSize =>
      rw [← Option.some.inj hstep]
      have hidle : s.master.busy = false := hfits
      let flagged : Master := { s.master with savedMsgSize := msgSize }.setFlag true
      have hflagged : Master.Begun flagged (s.master.startRandomRead msg msgSize)
          ((msg.getD 0 0 &&& 0xfe) :: msg.tail) 2 :=
        Master.startReadWrite_begun (m := flagged) hidle (by decide)
      have hbegun : Master.Begun s.master (s.master.startRandomRead msg msgSize)
          ((msg.getD 0 0 &&& 0xfe) :: msg.tail) 2 :=
        ⟨hflagged.first, hflagged.rest, hflagged.size, hflagged.flag, hflagged.control,
          hflagged.outside⟩
      have hsound := begun_sound h hidle (by decide) hbegun
      have hasked : ((List.range (2 : UInt8).toNat).map fun i =>
          ((msg.getD 0 0 &&& 0xfe) :: msg.tail).getD i 0) =
          [msg.getD 0 0 &&& 0xfe, msg.getD 1 0] := by
        cases msg <;> rfl
      rw [hasked] at hsound
      exact hsound
  | startTransceiver =>
      rw [← Option.some.inj hstep]
      unfold called Master.startTransceiver
      cases hbusy : s.master.busy with
      | true => exact h
      | false =>
          refine ⟨h.inside, h.loaded.congr rfl rfl (Or.inl rfl), rfl, ?_⟩
          exact Master.setFlag_flag s.master false

theorem run_sound (h : Run step Fits fresh s) : s.Sound :=
  h.invariant Sound (fun _ _ _ hs hfits hstep => step_sound hs hfits hstep) fresh_sound

/-- The only steps are those of the hardware. -/
def Hears (_ : System) : Label → Prop
  | .answer _ _ => True
  | _ => False

instance (s : System) (l : Label) : Decidable (s.Hears l) :=
  match l with
  | .answer _ _ => inferInstanceAs (Decidable True)
  | .startReadWrite _ _ | .startRandomRead _ _ | .startTransceiver =>
    inferInstanceAs (Decidable False)

/-- While only the hardware steps, the message stays. -/
theorem hears_kept (h : Run step Hears s t) (hs : s.Sound) : t.Sound ∧ t.asked = s.asked := by
  refine h.invariant (fun u => u.Sound ∧ u.asked = s.asked) (fun u l v hu hok hstep => ?_) ⟨hs, rfl⟩
  cases l with
  | answer twsr byte =>
      refine ⟨answer_sound hu.1 hstep, Eq.trans ?_ hu.2⟩
      unfold step answer at hstep
      cases hdecode : Status.decode twsr with
      | none =>
          simp only [hdecode] at hstep
          exact absurd hstep.symm (Option.some_ne_none v)
      | some status =>
          simp only [hdecode, Option.ite_none_right_eq_some, Option.some.injEq] at hstep
          rw [← hstep.2]
          rfl
  | _ => exact hok.elim

/-- A transfer that has ended. -/
theorem Sound.ended (h : s.Sound) (hidle : s.master.busy = false) :
    if s.master.lastTransOK then s.Complete else s.Failed := by
  have hgoing := h.going
  unfold Going at hgoing
  have hquiet : s.phase = .quiet := by
    cases hphase : s.phase with
    | quiet => rfl
    | _ =>
        rw [hphase] at hgoing
        exact absurd (hgoing.1.symm.trans hidle) Bool.noConfusion
  rw [hquiet] at hgoing
  rcases hgoing.2 with ⟨hflag, hdone⟩ | ⟨hflag, hfailed⟩
  · have hok : s.master.lastTransOK = true := hflag
    rw [hok, if_pos rfl]
    exact hdone
  · have hno : s.master.lastTransOK = false := hflag
    rw [hno, if_neg Bool.false_ne_true]
    exact hfailed

/-- In every run the routine stays inside of its buffer. When no transfer is underway and the
    last one has succeeded, all of it has gone over the bus; when it has not succeeded, the
    state says what went wrong. -/
theorem transfers_complete (h : Run step Fits fresh s) : s.master.outside = false ∧
    (s.master.busy = false → if s.master.lastTransOK then s.Complete else s.Failed) :=
  ⟨(run_sound h).inside, (run_sound h).ended⟩

/-- Two bytes are read, the first of them acknowledged. -/
def reading : List Label :=
  [.startReadWrite [0x89, 0, 0] 3, .answer 0x08 0, .answer 0x40 0, .answer 0x50 7, .answer 0x58 9]

/-- They are in the buffer, and all of the transfer has gone over the bus. -/
theorem transfers_complete_reading : ∃ s, steps step fresh reading = some s ∧
    s.master.lastTransOK = true ∧ s.Complete ∧ s.master.outside = false := by
  have hallowed : allowed step Fits fresh reading = true := rfl
  rcases run_of_allowed reading hallowed with ⟨s, hsteps, hrun⟩
  have hdone : (steps step fresh reading).map (fun t => (t.master.busy, t.master.lastTransOK)) =
      some (false, true) := rfl
  rw [hsteps, Option.map_some, Option.some.injEq, Prod.mk.injEq] at hdone
  rcases transfers_complete hrun with ⟨hinside, hend⟩
  have hcomplete := hend hdone.1
  rw [hdone.2, if_pos rfl] at hcomplete
  exact ⟨s, hsteps, hdone.2, hcomplete, hinside⟩

/-- A random read that is begun on an idle bus never reads: when it has succeeded, the two
    bytes of its message have been written, and nothing else has gone over the bus. -/
theorem random_writes (h : Run step Fits fresh s) (hidle : s.master.busy = false)
    (msg : List UInt8) (msgSize : UInt8) (hstep : s.step (.startRandomRead msg msgSize) = some t)
    {u : System} (hrun : Run step Hears t u) (hdone : u.master.busy = false)
    (hok : u.master.lastTransOK = true) :
    u.log = [.start, .address (msg.getD 0 0 &&& 0xfe) true, .data (msg.getD 1 0) true, .stop] := by
  have ht := step_sound (run_sound h) (l := .startRandomRead msg msgSize) hidle hstep
  have hasked : t.asked = [msg.getD 0 0 &&& 0xfe, msg.getD 1 0] := by
    rw [← Option.some.inj hstep]
    unfold called
    rw [if_neg (by rw [hidle]; exact Bool.false_ne_true)]
  rcases hears_kept hrun ht with ⟨hu, hkept⟩
  have hend := hu.ended hdone
  rw [hok, if_pos rfl] at hend
  have hwrite : msg.getD 0 0 &&& 0xfe &&& 1 = 0 := by
    rw [UInt8.and_assoc]
    exact UInt8.and_zero
  unfold Complete at hend
  rw [hkept, hasked] at hend
  simp only [if_pos hwrite] at hend
  exact hend

/-- Four bytes are asked for, and two are written. -/
theorem random_writes_two : ∃ t u, fresh.step (.startRandomRead [0x89, 2, 0, 0] 4) = some t ∧
    Run step Hears t u ∧ u.log = [.start, .address 0x88 true, .data 2 true, .stop] := by
  let t := fresh.called (fresh.master.startRandomRead [0x89, 2, 0, 0] 4) [0x88, 2]
  let answers : List Label := [.answer 0x08 0, .answer 0x18 0, .answer 0x28 0]
  have hallowed : allowed step Hears t answers = true := by decide
  rcases run_of_allowed answers hallowed with ⟨u, hsteps, hrun⟩
  have hdone : (steps step t answers).map (fun v => (v.master.busy, v.master.lastTransOK)) =
      some (false, true) := by decide
  rw [hsteps, Option.map_some, Option.some.injEq, Prod.mk.injEq] at hdone
  exact ⟨t, u, rfl, hrun, random_writes .refl rfl [0x89, 2, 0, 0] 4 rfl hrun hdone.1 hdone.2⟩

end System

end Twi

end TimelapsePlus
