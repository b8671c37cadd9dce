import TimelapsePlus.Bluetooth.Serial

/-!
# Packets Over the Bluetooth Line

What `BT::read` reports in data mode, set against what `BT::sendDATA` sent.

A call sees only the bytes that come in time. `arrived` takes these from the
line and its timing, with no state of the driver in it, and the loop of `read`
is `feed` on them. What `feed` reports depends on the bytes alone: an id is
reported exactly when a header is among them that no line end and no full
buffer comes before (`feed_reports`).

Once a header is taken over, every way out of the loop reports it: the end of
the payload, but also a time-out and a full buffer. And a call that begins
inside a packet takes the first `'$'` it meets for the start of one. So a
packet cut by a time-out is reported short, and its rest may be reported as a
packet that nobody sent. `calls_roundTrip_iff` is exact: all is well when a
header comes in time only with the whole packet around it, and the packet fits
the buffer.

The size is stored from its low byte only. A packet of 256 bytes or more does
not fit the buffer anyway, so the condition need not say it.

## Main definitions

* `arrived`: The bytes of the line that come in time.
* `feed`: The loop of `read` on these.
* `Heads`: A header that `read` takes over.
* `Packet`, `Reported`: A packet, and a call that reports it.
* `calls`: Calls of `read` one after the other.
* `RoundTrips`, `Whole`: What is asked of a call, and when it is so.

## Theorems

* `received_*`: One byte, by where in a packet it comes.
* `readLoop_arrived`: The loop on the line is the loop on what comes in time.
* `feed_reports`: An id is reported exactly when there is a header.
* `feed_packet`: A packet that fits and comes whole is reported.
* `read_roundTrips_iff`: What is asked of one call.
* `calls_roundTrip_iff`: What is asked of every call.
* `calls_cut_short`: A packet reported short.
-/

namespace TimelapsePlus

namespace Bluetooth

/-! ### The bytes of a call -/

/-- The bytes that come in time once one has counted. -/
def arriving : List Nat → List UInt8 → List UInt8
  | polls :: timing, c :: line => if polls > 50000 then [] else c :: arriving timing line
  | _, _ => []

/-- The bytes that come in time, less the line ends ahead of them. -/
def arrived : List Nat → List UInt8 → List UInt8
  | polls :: timing, c :: line =>
    if polls > 5000 then []
    else if c = lf ∨ c = cr then arrived timing line
    else c :: arriving timing line
  | _, _ => []

theorem arriving_leads (timing : List Nat) (line : List UInt8) :
    arriving timing line <+: line := by
  induction timing generalizing line with
  | nil => exact List.nil_prefix
  | cons polls timing ih =>
      cases line with
      | nil => exact List.nil_prefix
      | cons c line =>
          rw [arriving]
          split
          · exact List.nil_prefix
          · exact List.prefix_cons_inj c |>.mpr (ih line)

theorem arrived_infix (timing : List Nat) (line : List UInt8) : arrived timing line <:+: line := by
  induction timing generalizing line with
  | nil => exact List.nil_infix
  | cons polls timing ih =>
      cases line with
      | nil => exact List.nil_infix
      | cons c line =>
          rw [arrived]
          split
          · exact List.nil_infix
          · split
            · exact List.infix_cons (ih line)
            · exact ((List.prefix_cons_inj c).mpr (arriving_leads timing line)).isInfix

/-- The first byte that counts ends no line. -/
theorem arrived_head (timing : List Nat) (line : List UInt8) {c : UInt8} {more : List UInt8}
    (h : arrived timing line = c :: more) : c ≠ lf ∧ c ≠ cr := by
  induction timing generalizing line with
  | nil => exact absurd h (by simp only [arrived, reduceCtorEq, not_false_eq_true])
  | cons polls timing ih =>
      cases line with
      | nil => exact absurd h (by simp only [arrived, reduceCtorEq, not_false_eq_true])
      | cons d line =>
          rw [arrived] at h
          split at h
          · exact absurd h (by simp only [reduceCtorEq, not_false_eq_true])
          · split at h
            · exact ih line h
            · next hd =>
                rw [List.cons.injEq] at h
                rw [← h.1]
                exact ⟨fun he => hd (Or.inl he), fun he => hd (Or.inr he)⟩

/-! ### Fields -/

theorem Event.code_ne_lf (e : Event) : e.code ≠ lf := by
  cases e <;> decide

section Fields

variable (s : Bt) (i : Nat) (c : UInt8)

@[simp] theorem Bt.setBuf_mode : (s.setBuf i c).mode = s.mode := by
  unfold Bt.setBuf; split <;> rfl

@[simp] theorem Bt.setBuf_dataId : (s.setBuf i c).dataId = s.dataId := by
  unfold Bt.setBuf; split <;> rfl

@[simp] theorem Bt.setBuf_dataType : (s.setBuf i c).dataType = s.dataType := by
  unfold Bt.setBuf; split <;> rfl

@[simp] theorem Bt.setBuf_dataSize : (s.setBuf i c).dataSize = s.dataSize := by
  unfold Bt.setBuf; split <;> rfl

@[simp] theorem Bt.setBuf_data : (s.setBuf i c).data = s.data := by
  unfold Bt.setBuf; split <;> rfl

@[simp] theorem Bt.setBuf_present : (s.setBuf i c).present = s.present := by
  unfold Bt.setBuf; split <;> rfl

theorem Bt.setBuf_buf_self (h : i < bufSize) : (s.setBuf i c).buf i = c := by
  unfold Bt.setBuf
  rw [if_pos h]
  exact Function.update_self i c s.buf

theorem Bt.setBuf_buf_of_ne {j : Nat} (h : j ≠ i) : (s.setBuf i c).buf j = s.buf j := by
  unfold Bt.setBuf
  split
  · exact Function.update_of_ne h c s.buf
  · rfl

theorem Bt.setBuf_zero_zero (d : UInt8) : (s.setBuf 0 c).setBuf 0 d = s.setBuf 0 d := by
  simp only [Bt.setBuf, if_pos (show (0 : Nat) < bufSize by decide), Function.update_idem]

theorem Bt.setBuf_zero_self : s.setBuf 0 (s.buf 0) = s := by
  simp only [Bt.setBuf, if_pos (show (0 : Nat) < bufSize by decide), Function.update_eq_self]

theorem Bt.last_pos {n : Nat} (h : 0 < n) : s.last n = s.buf (n - 1) :=
  if_neg (by omega)

end Fields

/-! ### One byte -/

section Byte

variable {s : Bt} {n : Nat}

theorem skipped_pos (h : 0 < n) (c : UInt8) : skipped n c = false := by
  unfold skipped
  rw [decide_eq_false (by omega), Bool.false_and]

/-- A line end ahead of the first byte is dropped. -/
theorem received_skip (hmode : s.mode = .data) (hsize : s.dataSize = 0) {c : UInt8}
    (hc : c = lf ∨ c = cr) : received s 0 c = (s.setBuf 0 c, 0, false) := by
  have hskip : skipped 0 c = true := by
    rcases hc with rfl | rfl <;> decide
  have hlast : ((s.setBuf 0 c).last 0 == lf) = false := by
    rw [Bt.last, if_pos rfl]
    exact beq_eq_false_iff_ne.mpr (Event.code_ne_lf _)
  simp only [received, hskip, if_true, Bt.counted, Bt.setBuf_mode, hmode, Bt.restarts,
    Bt.dataByte, Bt.setBuf_dataSize, hsize, Bt.headed, hlast]
  simp [bufSize]

/-- Any other first byte is kept. -/
theorem received_first (hmode : s.mode = .data) (hsize : s.dataSize = 0) {c : UInt8}
    (hlf : c ≠ lf) (hcr : c ≠ cr) : received s 0 c = (s.setBuf 0 c, 1, false) := by
  have hskip : skipped 0 c = false := by
    simp [skipped, hlf, hcr]
  have hlast : ((s.setBuf 0 c).last 1 == lf) = false := by
    rw [Bt.last_pos _ (by omega), Bt.setBuf_buf_self s 0 c (by decide)]
    exact beq_eq_false_iff_ne.mpr hlf
  simp only [received, hskip, Bool.false_eq_true, if_false, Bt.counted, Bt.setBuf_mode, hmode,
    Bt.restarts, Bt.dataByte, Bt.setBuf_dataSize, hsize, Bt.headed, hlast]
  simp [bufSize]

/-- Within a packet the byte is kept, and decided on as the header says. -/
theorem received_within (hmode : s.mode = .data) (hpos : 0 < n) (h0 : s.buf 0 = dollar)
    (c : UInt8) :
    received s n c = (((s.setBuf n c).dataByte (n + 1)).1, n + 1,
      ((s.setBuf n c).dataByte (n + 1)).2 || decide (n + 1 ≥ bufSize)) := by
  have hfirst : (s.setBuf n c).buf 0 = dollar := by
    rw [Bt.setBuf_buf_of_ne s n c (by omega)]
    exact h0
  have hno : (s.setBuf n c).restarts (n + 1) = false := by
    unfold Bt.restarts
    rw [hfirst, bne_self_eq_false, Bool.false_and, Bool.false_and]
  rw [received, skipped_pos hpos, if_neg Bool.false_ne_true, Bt.counted, Bt.setBuf_mode, hmode]
  simp only [hno, Bool.false_eq_true, if_false]

/-- A byte of the header before its colon. -/
theorem received_header (hmode : s.mode = .data) (hsize : s.dataSize = 0) (hpos : 0 < n)
    (hn : n < 5) (h0 : s.buf 0 = dollar) (c : UInt8) :
    received s n c = (s.setBuf n c, n + 1, false) := by
  have hfirst : (s.setBuf n c).buf 0 = dollar := by
    rw [Bt.setBuf_buf_of_ne s n c (by omega)]
    exact h0
  have hbyte : (s.setBuf n c).dataByte (n + 1) = (s.setBuf n c, false) := by
    simp only [Bt.dataByte, Bt.setBuf_dataSize, hsize, Bt.headed, hfirst,
      decide_eq_false (show ¬ n + 1 > 5 by omega)]
    simp
  rw [received_within hmode hpos h0, hbyte, decide_eq_false (by simp only [bufSize]; omega)]
  rfl

/-- A byte after a header without its colon. -/
theorem received_lost (hmode : s.mode = .data) (hsize : s.dataSize = 0) (hpos : 5 ≤ n)
    (h0 : s.buf 0 = dollar) (c : UInt8) (hc : (s.setBuf n c).buf 5 ≠ colon) :
    received s n c = (s.setBuf n c, n + 1, decide (n + 1 ≥ bufSize)) := by
  have hfirst : (s.setBuf n c).buf 0 = dollar := by
    rw [Bt.setBuf_buf_of_ne s n c (by omega)]
    exact h0
  have hbyte : (s.setBuf n c).dataByte (n + 1) = (s.setBuf n c, false) := by
    simp only [Bt.dataByte, Bt.setBuf_dataSize, hsize, Bt.headed, hfirst,
      beq_eq_false_iff_ne.mpr hc, Bool.and_false]
    simp
  rw [received_within hmode (by omega) h0, hbyte, Bool.false_or]

/-- The colon of a header. -/
theorem received_colon (hmode : s.mode = .data) (hsize : s.dataSize = 0)
    (h0 : s.buf 0 = dollar) :
    received s 5 colon = ((s.setBuf 5 colon).accept, 6,
      decide ((s.setBuf 5 colon).accept.dataSize = 0)) := by
  have hfirst : (s.setBuf 5 colon).buf 0 = dollar := by
    rw [Bt.setBuf_buf_of_ne s 5 colon (by omega)]
    exact h0
  have hhead : (s.setBuf 5 colon).headed 6 = true := by
    rw [Bt.headed, hfirst, Bt.setBuf_buf_self s 5 colon (by decide)]
    decide
  rw [received_within hmode (by omega) h0]
  simp only [Bt.dataByte, Bt.setBuf_dataSize, hsize, hhead]
  simp [bufSize]

/-- A byte of the payload. -/
theorem received_payload (hmode : s.mode = .data) (hsize : 0 < s.dataSize) (hpos : 0 < n)
    (h0 : s.buf 0 = dollar) (c : UInt8) :
    received s n c = (s.setBuf n c, n + 1,
      decide (n + 1 > s.dataSize + 5) || decide (n + 1 ≥ bufSize)) := by
  rw [received_within hmode hpos h0]
  simp only [Bt.dataByte, Bt.setBuf_dataSize, hsize, gt_iff_lt, if_true]

/-- A packet that starts after bytes that belong to none. -/
theorem received_restart (hmode : s.mode = .data) (hsize : s.dataSize = 0) (hpos : 0 < n)
    (hn : n < bufSize) (h0 : s.buf 0 ≠ dollar) :
    received s n dollar = ((s.setBuf n dollar).setBuf 0 dollar, 1, false) := by
  have hfirst : (s.setBuf n dollar).buf 0 = s.buf 0 :=
    Bt.setBuf_buf_of_ne s n dollar (by omega)
  have hyes : (s.setBuf n dollar).restarts (n + 1) = true := by
    rw [Bt.restarts, hfirst, Bt.last_pos _ (by omega), Nat.add_sub_cancel,
      Bt.setBuf_buf_self s n dollar hn]
    simp [h0, hpos]
  have hbyte : ((s.setBuf n dollar).setBuf 0 dollar).dataByte 1
      = ((s.setBuf n dollar).setBuf 0 dollar, false) := by
    simp only [Bt.dataByte, Bt.setBuf_dataSize, hsize, Bt.headed,
      Bt.setBuf_buf_self _ 0 dollar (show 0 < bufSize by decide)]
    simp
  rw [received, skipped_pos hpos, if_neg Bool.false_ne_true, Bt.counted, Bt.setBuf_mode, hmode]
  simp only [hyes, if_true, hbyte]

/-- Any other byte that belongs to no packet. -/
theorem received_junk (hmode : s.mode = .data) (hsize : s.dataSize = 0) (hpos : 0 < n)
    (hn : n < bufSize) (h0 : s.buf 0 ≠ dollar) {c : UInt8} (hc : c ≠ dollar) :
    received s n c = (s.setBuf n c, n + 1, c == lf || decide (n + 1 ≥ bufSize)) := by
  have hfirst : (s.setBuf n c).buf 0 = s.buf 0 := Bt.setBuf_buf_of_ne s n c (by omega)
  have hlast : (s.setBuf n c).last (n + 1) = c := by
    rw [Bt.last_pos _ (by omega), Nat.add_sub_cancel, Bt.setBuf_buf_self s n c hn]
  have hno : (s.setBuf n c).restarts (n + 1) = false := by
    simp only [Bt.restarts, hlast, beq_eq_false_iff_ne.mpr hc, Bool.and_false]
  have hbyte : (s.setBuf n c).dataByte (n + 1) = (s.setBuf n c, c == lf) := by
    simp only [Bt.dataByte, Bt.setBuf_dataSize, hsize, Bt.headed, hfirst, hlast,
      beq_eq_false_iff_ne.mpr h0, bne, Bool.and_false, Bool.false_and]
    simp
  rw [received, skipped_pos hpos, if_neg Bool.false_ne_true, Bt.counted, Bt.setBuf_mode, hmode]
  simp only [hno, Bool.false_eq_true, if_false, hbyte]

end Byte

/-! ### The loop -/

/-- The loop on the bytes that come in time. -/
def feed : List UInt8 → Bt → Nat → Bt × Nat
  | [], s, n => (s, n)
  | c :: line, s, n =>
    if (received s n c).2.2 then ((received s n c).1, (received s n c).2.1)
    else feed line (received s n c).1 (received s n c).2.1

theorem feed_ends {s s' : Bt} {n n' : Nat} {c : UInt8} (h : received s n c = (s', n', true))
    (line : List UInt8) : feed (c :: line) s n = (s', n') := by
  rw [feed, h, if_pos rfl]

theorem feed_goes {s s' : Bt} {n n' : Nat} {c : UInt8} (h : received s n c = (s', n', false))
    (line : List UInt8) : feed (c :: line) s n = feed line s' n' := by
  rw [feed, h, if_neg Bool.false_ne_true]

theorem Bt.dataByte_keeps (s : Bt) (n : Nat) :
    (s.dataByte n).1.mode = s.mode ∧ (s.dataByte n).1.present = s.present := by
  unfold Bt.dataByte
  split
  · exact ⟨rfl, rfl⟩
  · split <;> exact ⟨rfl, rfl⟩

/-- The count is the one given or starts again at one, and a call that goes on
    has room for the next byte. -/
theorem Bt.counted_spec (s : Bt) (n : Nat) :
    (s.counted n).1.mode = s.mode ∧ (s.counted n).1.present = s.present
      ∧ ((s.counted n).2.1 = n ∨ (s.counted n).2.1 = 1 ∧ 1 ≤ n)
      ∧ ((s.counted n).2.2 = false → (s.counted n).2.1 < bufSize) := by
  rcases hm : s.mode with _ | _
  · simp only [Bt.counted, hm, true_or, true_and]
    intro h
    rw [Bool.or_eq_false_iff, decide_eq_false_iff_not] at h
    omega
  · simp only [Bt.counted, hm]
    by_cases hr : s.restarts n = true
    · rcases Bt.dataByte_keeps (s.setBuf 0 dollar) 1 with ⟨hmode, hpresent⟩
      rw [if_pos hr]
      have hn : n > 1 := by
        unfold Bt.restarts at hr
        rw [Bool.and_eq_true, Bool.and_eq_true, decide_eq_true_eq] at hr
        exact hr.1.2
      exact ⟨by rw [hmode, Bt.setBuf_mode, hm], by rw [hpresent, Bt.setBuf_present],
        Or.inr ⟨rfl, by omega⟩, fun _ => (by decide : 1 < bufSize)⟩
    · rcases Bt.dataByte_keeps s n with ⟨hmode, hpresent⟩
      rw [if_neg hr]
      refine ⟨by rw [hmode, hm], hpresent, Or.inl rfl, fun h => ?_⟩
      simp only [Bool.or_eq_false_iff, decide_eq_false_iff_not] at h
      simp only
      omega

theorem received_keeps (s : Bt) (n : Nat) (c : UInt8) :
    (received s n c).1.mode = s.mode ∧ (received s n c).1.present = s.present := by
  rcases Bt.counted_spec (s.setBuf n c) (if skipped n c then n else n + 1)
    with ⟨hmode, hpresent, _, _⟩
  exact ⟨hmode.trans (Bt.setBuf_mode s n c), hpresent.trans (Bt.setBuf_present s n c)⟩

/-- A byte that goes on leaves room for the next. -/
theorem received_count (s : Bt) (n : Nat) (c : UInt8) (hpos : 0 < n) :
    0 < (received s n c).2.1 ∧ (received s n c).2.1 ≤ n + 1
      ∧ ((received s n c).2.2 = false → (received s n c).2.1 < bufSize) := by
  rcases Bt.counted_spec (s.setBuf n c) (n + 1) with ⟨_, _, hcount, hroom⟩
  rw [received, skipped_pos hpos, if_neg Bool.false_ne_true]
  exact ⟨by omega, by omega, hroom⟩

theorem feed_count (line : List UInt8) (s : Bt) (n : Nat) (hpos : 0 < n) (hn : n < bufSize) :
    (feed line s n).2 ≤ n + line.length ∧ (feed line s n).2 ≤ bufSize := by
  induction line generalizing s n with
  | nil => exact ⟨Nat.le_refl n, Nat.le_of_lt hn⟩
  | cons c line ih =>
      rcases received_count s n c hpos with ⟨hpos', hle, hroom⟩
      rw [feed, List.length_cons]
      split
      · exact ⟨by simp only; omega, by simp only; omega⟩
      · next hgo =>
          rcases ih _ _ hpos' (hroom (Bool.eq_false_iff.mpr hgo)) with ⟨h1, h2⟩
          exact ⟨by omega, h2⟩

/-- The loop on the line is the loop on the bytes that come in time. -/
theorem readLoop_arriving (timing : List Nat) (line : List UInt8) (s : Bt) (n : Nat)
    (hpos : 0 < n) (hn : n < bufSize) :
    (readLoop timing line s n).1 = (feed (arriving timing line) s n).1
      ∧ (readLoop timing line s n).2.1 = (feed (arriving timing line) s n).2 := by
  induction timing generalizing line s n with
  | nil => exact ⟨rfl, rfl⟩
  | cons polls timing ih =>
      cases line with
      | nil => exact ⟨rfl, rfl⟩
      | cons c line =>
          rw [readLoop, arriving, patience, if_pos hpos]
          by_cases hlate : polls > 50000
          · rw [if_pos hlate, if_pos hlate]
            exact ⟨rfl, rfl⟩
          · rw [if_neg hlate, if_neg hlate, feed]
            rcases received_count s n c hpos with ⟨hpos', _, hroom⟩
            by_cases hend : (received s n c).2.2 = true
            · simp only [hend, if_true, and_self]
            · simp only [hend, Bool.false_eq_true, if_false]
              exact ih line _ _ hpos' (hroom (Bool.eq_false_iff.mpr hend))

/-- Line ends ahead of the first byte leave nothing but the byte they are
    stored at. -/
theorem readLoop_arrived (timing : List Nat) (line : List UInt8) (s : Bt)
    (hmode : s.mode = .data) (hsize : s.dataSize = 0) :
    ∃ c, (readLoop timing line s 0).1 = (feed (arrived timing line) (s.setBuf 0 c) 0).1
      ∧ (readLoop timing line s 0).2.1 = (feed (arrived timing line) (s.setBuf 0 c) 0).2 := by
  have hnone : ∀ line : List UInt8, ∃ c, (s, 0, line).1 = (feed [] (s.setBuf 0 c) 0).1
      ∧ (s, 0, line).2.1 = (feed [] (s.setBuf 0 c) 0).2 := by
    intro line
    exact ⟨s.buf 0, by rw [Bt.setBuf_zero_self]; exact ⟨rfl, rfl⟩⟩
  induction timing generalizing line s with
  | nil => exact hnone line
  | cons polls timing ih =>
      cases line with
      | nil => exact hnone []
      | cons c line =>
          rw [readLoop, arrived, patience, if_neg (Nat.lt_irrefl 0)]
          by_cases hlate : polls > 5000
          · rw [if_pos hlate, if_pos hlate]
            exact hnone (c :: line)
          · rw [if_neg hlate, if_neg hlate]
            by_cases hskip : c = lf ∨ c = cr
            · -- The byte is stored at the start, where the next one goes too.
              rw [if_pos hskip, received_skip hmode hsize hskip]
              have hs : (s.setBuf 0 c).mode = .data := by rw [Bt.setBuf_mode, hmode]
              have hz : (s.setBuf 0 c).dataSize = 0 := by rw [Bt.setBuf_dataSize, hsize]
              rcases ih line (s.setBuf 0 c) hs hz (fun line => ⟨(s.setBuf 0 c).buf 0, by
                rw [Bt.setBuf_zero_self]; exact ⟨rfl, rfl⟩⟩) with ⟨d, hd⟩
              refine ⟨d, ?_⟩
              rw [Bt.setBuf_zero_zero] at hd
              exact hd
            · rw [not_or] at hskip
              rw [if_neg (not_or.mpr hskip), received_first hmode hsize hskip.1 hskip.2]
              refine ⟨s.buf 0, ?_⟩
              rw [Bt.setBuf_zero_self, feed_goes (received_first hmode hsize hskip.1 hskip.2)]
              exact readLoop_arriving timing line _ 1 (by omega) (by decide)

/-! ### What the loop makes of the bytes -/

/-- Once a header is taken over its fields stay. -/
theorem feed_payload_fields (line : List UInt8) (s : Bt) (n : Nat) (hmode : s.mode = .data)
    (hsize : 0 < s.dataSize) (hpos : 0 < n) (h0 : s.buf 0 = dollar) :
    (feed line s n).1.dataId = s.dataId := by
  induction line generalizing s n with
  | nil => rfl
  | cons c line ih =>
      have h := received_payload hmode hsize hpos h0 c
      rcases hend : decide (n + 1 > s.dataSize + 5) || decide (n + 1 ≥ bufSize) with _ | _
      · rw [hend] at h
        rw [feed_goes h, ih (s.setBuf n c) (n + 1) (by rw [Bt.setBuf_mode, hmode])
          (by rw [Bt.setBuf_dataSize]; exact hsize) (by omega)
          (by rw [Bt.setBuf_buf_of_ne s n c (by omega)]; exact h0), Bt.setBuf_dataId]
      · rw [hend] at h
        rw [feed_ends h, Bt.setBuf_dataId]

/-- A payload that fits and comes whole is stored whole. -/
theorem feed_payload (payload : List UInt8) (s : Bt) (n : Nat) (hmode : s.mode = .data)
    (hsize : 0 < s.dataSize) (hpos : 0 < n) (h0 : s.buf 0 = dollar)
    (hlen : n + payload.length = s.dataSize + 6) (hfits : s.dataSize + 6 ≤ bufSize)
    (hpayload : payload ≠ []) :
    (feed payload s n).2 = s.dataSize + 6 ∧ (feed payload s n).1.dataId = s.dataId
      ∧ (feed payload s n).1.dataType = s.dataType ∧ (feed payload s n).1.dataSize = s.dataSize
      ∧ (feed payload s n).1.data = s.data
      ∧ (∀ i, i < n → (feed payload s n).1.buf i = s.buf i)
      ∧ ∀ i (hi : i < payload.length), (feed payload s n).1.buf (n + i) = payload[i] := by
  induction payload generalizing s n with
  | nil => exact absurd rfl hpayload
  | cons c payload ih =>
      rw [List.length_cons] at hlen
      have h := received_payload hmode hsize hpos h0 c
      have hn : n < bufSize := by omega
      by_cases hlast : payload = []
      · -- The last byte of the payload ends the call.
        rw [hlast, List.length_nil] at hlen
        rw [decide_eq_true (by omega), Bool.true_or] at h
        rw [feed_ends h]
        refine ⟨by simp only; omega, Bt.setBuf_dataId s n c, Bt.setBuf_dataType s n c,
          Bt.setBuf_dataSize s n c, Bt.setBuf_data s n c,
          fun i hi => Bt.setBuf_buf_of_ne s n c (by omega), ?_⟩
        intro i hi
        cases i with
        | zero => exact Bt.setBuf_buf_self s n c hn
        | succ j =>
            rw [hlast, List.length_singleton] at hi
            omega
      · have hlong : 0 < payload.length := List.length_pos_iff.mpr hlast
        rw [decide_eq_false (by omega), decide_eq_false (by omega), Bool.or_false] at h
        rw [feed_goes h]
        have hz : (s.setBuf n c).dataSize = s.dataSize := Bt.setBuf_dataSize s n c
        rcases ih (s.setBuf n c) (n + 1) (by rw [Bt.setBuf_mode, hmode]) (by rw [hz]; exact hsize)
          (by omega) (by rw [Bt.setBuf_buf_of_ne s n c (by omega)]; exact h0)
          (by rw [hz]; omega) (by rw [hz]; exact hfits) hlast
          with ⟨hcount, hid, htype, hds, hdata, hlow, hhigh⟩
        rw [hz] at hcount hds
        refine ⟨hcount, hid.trans (Bt.setBuf_dataId s n c), htype.trans (Bt.setBuf_dataType s n c),
          hds, hdata.trans (Bt.setBuf_data s n c), ?_, ?_⟩
        · intro i hi
          rw [hlow i (by omega), Bt.setBuf_buf_of_ne s n c (by omega)]
        · intro i hi
          cases i with
          | zero =>
              exact (hlow n (by omega)).trans (Bt.setBuf_buf_self s n c hn)
          | succ j =>
              rw [List.length_cons] at hi
              rw [show n + (j + 1) = n + 1 + j by omega, hhigh j (by omega)]
              rfl

/-- After a header without its colon no header is taken over. -/
theorem feed_lost (line : List UInt8) (s : Bt) (n : Nat) (hmode : s.mode = .data)
    (hsize : s.dataSize = 0) (hpos : 6 ≤ n) (h0 : s.buf 0 = dollar) (h5 : s.buf 5 ≠ colon) :
    (feed line s n).1.dataId = s.dataId := by
  induction line generalizing s n with
  | nil => rfl
  | cons c line ih =>
      have hc : (s.setBuf n c).buf 5 ≠ colon := by
        rw [Bt.setBuf_buf_of_ne s n c (by omega)]
        exact h5
      have h := received_lost hmode hsize (by omega) h0 c hc
      rcases hend : decide (n + 1 ≥ bufSize) with _ | _
      · rw [hend] at h
        rw [feed_goes h, ih (s.setBuf n c) (n + 1) (by rw [Bt.setBuf_mode, hmode])
          (by rw [Bt.setBuf_dataSize]; exact hsize) (by omega)
          (by rw [Bt.setBuf_buf_of_ne s n c (by omega)]; exact h0) hc, Bt.setBuf_dataId]
      · rw [hend] at h
        rw [feed_ends h, Bt.setBuf_dataId]

/-- The buffer with the five bytes that follow a `'$'`. -/
def Bt.withHeader (s : Bt) (id type lo hi c : UInt8) : Bt :=
  ((((s.setBuf 1 id).setBuf 2 type).setBuf 3 lo).setBuf 4 hi).setBuf 5 c

section Header

variable (s : Bt) (id type lo hi c : UInt8)

theorem Bt.withHeader_buf :
    (s.withHeader id type lo hi c).buf 0 = s.buf 0 ∧ (s.withHeader id type lo hi c).buf 1 = id
      ∧ (s.withHeader id type lo hi c).buf 2 = type ∧ (s.withHeader id type lo hi c).buf 3 = lo
      ∧ (s.withHeader id type lo hi c).buf 5 = c := by
  refine ⟨rfl, rfl, rfl, rfl, rfl⟩

theorem Bt.withHeader_keeps :
    (s.withHeader id type lo hi c).mode = s.mode
      ∧ (s.withHeader id type lo hi c).dataSize = s.dataSize
      ∧ (s.withHeader id type lo hi c).dataId = s.dataId := by
  simp only [Bt.withHeader, Bt.setBuf_mode, Bt.setBuf_dataSize, Bt.setBuf_dataId, and_self]

/-- A byte that is put behind the `'$'` leaves what a header is read by. -/
theorem Bt.setBuf_heading {i : Nat} (hi : 0 ≠ i) (c : UInt8)
    (h : s.mode = .data ∧ s.dataSize = 0 ∧ s.buf 0 = dollar) :
    (s.setBuf i c).mode = .data ∧ (s.setBuf i c).dataSize = 0 ∧
      (s.setBuf i c).buf 0 = dollar := by
  rw [Bt.setBuf_mode, Bt.setBuf_dataSize, Bt.setBuf_buf_of_ne s i c hi]
  exact h

/-- Five bytes after a `'$'` either make a header or make a packet that never
    gets one. -/
theorem feed_header (hmode : s.mode = .data) (hsize : s.dataSize = 0) (h0 : s.buf 0 = dollar)
    (rest : List UInt8) :
    feed (id :: type :: lo :: hi :: c :: rest) s 1
      = if c = colon then
          if lo = 0 then ((s.withHeader id type lo hi c).accept, 6)
          else feed rest (s.withHeader id type lo hi c).accept 6
        else feed rest (s.withHeader id type lo hi c) 6 := by
  -- Each byte goes to its place, and the next finds the same.
  have hid := s.setBuf_heading (by omega : 0 ≠ 1) id ⟨hmode, hsize, h0⟩
  have htype := Bt.setBuf_heading _ (by omega : 0 ≠ 2) type hid
  have hlow := Bt.setBuf_heading _ (by omega : 0 ≠ 3) lo htype
  have hhigh := Bt.setBuf_heading _ (by omega : 0 ≠ 4) hi hlow
  have h1 := received_header hmode hsize (n := 1) (by omega) (by omega) h0 id
  have h2 := received_header hid.1 hid.2.1 (n := 2) (by omega) (by omega) hid.2.2 type
  have h3 := received_header htype.1 htype.2.1 (n := 3) (by omega) (by omega) htype.2.2 lo
  have h4 := received_header hlow.1 hlow.2.1 (n := 4) (by omega) (by omega) hlow.2.2 hi
  rw [feed_goes h1, feed_goes h2, feed_goes h3, feed_goes h4]
  by_cases hc : c = colon
  · rw [if_pos hc, hc]
    have h5 := received_colon hhigh.1 hhigh.2.1 hhigh.2.2
    have hlo : (s.withHeader id type lo hi colon).accept.dataSize = lo.toNat := rfl
    by_cases hz : lo = 0
    · rw [decide_eq_true (by rw [hz]; rfl)] at h5
      rw [if_pos hz, feed_ends h5]
      rfl
    · rw [decide_eq_false (by
        intro h
        exact hz (UInt8.toNat_inj.mp (hlo.symm.trans h)))] at h5
      rw [if_neg hz, feed_goes h5]
      rfl
  · rw [if_neg hc]
    have h5 := received_lost hhigh.1 hhigh.2.1 (n := 5) (by omega) hhigh.2.2 c hc
    rw [decide_eq_false (by decide)] at h5
    rw [feed_goes h5]
    rfl

end Header

/-- A header in a list of bytes, the bytes ahead of it neither a `'$'` nor a
    line end and fewer than there is room for. -/
def Heads (room : Nat) (line : List UInt8) : Prop :=
  ∃ junk id type lo hi rest, line = junk ++ dollar :: id :: type :: lo :: hi :: colon :: rest
    ∧ dollar ∉ junk ∧ lf ∉ junk ∧ junk.length < room ∧ id ≠ 0

theorem not_heads_nil (room : Nat) : ¬ Heads room [] := by
  rintro ⟨junk, id, type, lo, hi, rest, h, _⟩
  exact absurd h.symm (by simp)

theorem heads_dollar {room : Nat} (hroom : 0 < room) (line : List UInt8) :
    Heads room (dollar :: line)
      ↔ ∃ id type lo hi rest, line = id :: type :: lo :: hi :: colon :: rest ∧ id ≠ 0 := by
  constructor
  · rintro ⟨junk, id, type, lo, hi, rest, h, hdollar, _, _, hid⟩
    cases junk with
    | nil =>
        rw [List.nil_append, List.cons.injEq] at h
        exact ⟨id, type, lo, hi, rest, h.2, hid⟩
    | cons c junk =>
        rw [List.cons_append, List.cons.injEq] at h
        rw [← h.1] at hdollar
        exact absurd List.mem_cons_self hdollar
  · rintro ⟨id, type, lo, hi, rest, h, hid⟩
    exact ⟨[], id, type, lo, hi, rest, by rw [h]; rfl, List.not_mem_nil, List.not_mem_nil, hroom,
      hid⟩

theorem not_heads_lf (room : Nat) (line : List UInt8) : ¬ Heads room (lf :: line) := by
  rintro ⟨junk, id, type, lo, hi, rest, h, _, hlf, _⟩
  cases junk with
  | nil =>
      rw [List.nil_append, List.cons.injEq] at h
      exact absurd h.1 (by decide)
  | cons c junk =>
      rw [List.cons_append, List.cons.injEq] at h
      rw [← h.1] at hlf
      exact hlf List.mem_cons_self

theorem heads_cons {c : UInt8} (hdollar : c ≠ dollar) (hlf : c ≠ lf) (room : Nat)
    (line : List UInt8) : Heads (room + 1) (c :: line) ↔ Heads room line := by
  constructor
  · rintro ⟨junk, id, type, lo, hi, rest, h, hd, hl, hlen, hid⟩
    cases junk with
    | nil =>
        rw [List.nil_append, List.cons.injEq] at h
        exact absurd h.1 hdollar
    | cons d junk =>
        rw [List.cons_append, List.cons.injEq] at h
        rw [List.length_cons] at hlen
        exact ⟨junk, id, type, lo, hi, rest, h.2, fun hm => hd (List.mem_cons_of_mem d hm),
          fun hm => hl (List.mem_cons_of_mem d hm), by omega, hid⟩
  · rintro ⟨junk, id, type, lo, hi, rest, h, hd, hl, hlen, hid⟩
    refine ⟨c :: junk, id, type, lo, hi, rest, by rw [h]; rfl, ?_, ?_, ?_, hid⟩
    · rw [List.mem_cons, not_or]
      exact ⟨hdollar.symm, hd⟩
    · rw [List.mem_cons, not_or]
      exact ⟨hlf.symm, hl⟩
    · rw [List.length_cons]
      omega

theorem exists_five {l : List UInt8} (h : 5 ≤ l.length) :
    ∃ a b c d e rest, l = a :: b :: c :: d :: e :: rest := by
  rcases l with _ | ⟨a, _ | ⟨b, _ | ⟨c, _ | ⟨d, _ | ⟨e, rest⟩⟩⟩⟩⟩
  case cons.cons.cons.cons.cons => exact ⟨a, b, c, d, e, rest, rfl⟩
  all_goals
    simp only [List.length_cons, List.length_nil] at h
    omega

/-- After a `'$'` an id is reported when a header follows with an id that is
    not zero. -/
theorem feed_dollar (line : List UInt8) (s : Bt) (hmode : s.mode = .data)
    (hsize : s.dataSize = 0) (hid : s.dataId = 0) (h0 : s.buf 0 = dollar) :
    (feed line s 1).1.dataId ≠ 0
      ↔ ∃ id type lo hi rest, line = id :: type :: lo :: hi :: colon :: rest ∧ id ≠ 0 := by
  have hshort : ∀ l : List UInt8, l.length < 5 → ∀ (t : Bt) (n : Nat), t.mode = .data →
      t.dataSize = 0 → t.dataId = 0 → 0 < n → n + l.length < 6 → t.buf 0 = dollar →
      (feed l t n).1.dataId = 0 := by
    intro l hl t n htm hts htid hn hln ht0
    induction l generalizing t n with
    | nil => exact htid
    | cons c l ih =>
        rw [List.length_cons] at hl hln
        rw [feed_goes (received_header htm hts hn (by omega) ht0 c)]
        refine ih (by omega) (t.setBuf n c) (n + 1) ?_ ?_ ?_ (by omega) (by omega) ?_
        · rw [Bt.setBuf_mode, htm]
        · rw [Bt.setBuf_dataSize, hts]
        · rw [Bt.setBuf_dataId, htid]
        · rw [Bt.setBuf_buf_of_ne t n c (by omega), ht0]
  by_cases hlen : line.length < 5
  · constructor
    · intro h
      exact absurd (hshort line hlen s 1 hmode hsize hid (by omega) (by omega) h0) h
    · rintro ⟨id, type, lo, hi, rest, h, _⟩
      rw [h] at hlen
      simp only [List.length_cons] at hlen
      omega
  · rcases exists_five (by omega : 5 ≤ line.length) with ⟨id, type, lo, hi, c, rest, rfl⟩
    rw [feed_header s id type lo hi c hmode hsize h0 rest]
    rcases Bt.withHeader_buf s id type lo hi c with ⟨hb0, hb1, _, hb3, hb5⟩
    rcases Bt.withHeader_keeps s id type lo hi c with ⟨hmode', hsize', hid'⟩
    have hiff : (∃ id' type' lo' hi' rest', id :: type :: lo :: hi :: c :: rest
          = id' :: type' :: lo' :: hi' :: colon :: rest' ∧ id' ≠ 0) ↔ c = colon ∧ id ≠ 0 := by
      constructor
      · rintro ⟨id', type', lo', hi', rest', h, hne⟩
        simp only [List.cons.injEq] at h
        exact ⟨h.2.2.2.2.1, by rw [h.1]; exact hne⟩
      · rintro ⟨rfl, hne⟩
        exact ⟨id, type, lo, hi, rest, rfl, hne⟩
    have htaken : (s.withHeader id type lo hi c).accept.dataId = id := hb1
    have hsized : (s.withHeader id type lo hi c).accept.dataSize = lo.toNat :=
      congrArg UInt8.toNat hb3
    rw [hiff]
    by_cases hc : c = colon
    · rw [if_pos hc]
      have hreport : ∀ i : UInt8, i = id → (i ≠ 0 ↔ c = colon ∧ id ≠ 0) := by
        intro i hi
        rw [hi]
        exact ⟨fun h => ⟨hc, h⟩, fun h => h.2⟩
      by_cases hlo : lo = 0
      · rw [if_pos hlo]
        exact hreport _ htaken
      · have hpos : 0 < (s.withHeader id type lo hi c).accept.dataSize := by
          rw [hsized]
          exact Nat.pos_of_ne_zero fun h => hlo (UInt8.toNat_inj.mp h)
        have hkept := feed_payload_fields rest (s.withHeader id type lo hi c).accept 6
          (hmode'.trans hmode) hpos (by omega) (hb0.trans h0)
        rw [if_neg hlo, hkept, htaken]
        exact hreport id rfl
    · rw [if_neg hc, feed_lost rest (s.withHeader id type lo hi c) 6 (hmode'.trans hmode)
        (hsize'.trans hsize) (by omega) (hb0.trans h0) (by rw [hb5]; exact hc), hid']
      exact ⟨fun h => absurd hid h, fun h => absurd h.1 hc⟩

/-- After a byte that starts no packet an id is reported when a header comes
    before a line end and before the buffer is full. -/
theorem feed_junk (line : List UInt8) (s : Bt) (n room : Nat) (hmode : s.mode = .data)
    (hsize : s.dataSize = 0) (hid : s.dataId = 0) (h0 : s.buf 0 ≠ dollar) (hpos : 0 < n)
    (hroom : n + room = bufSize) (hleft : 0 < room) :
    (feed line s n).1.dataId ≠ 0 ↔ Heads room line := by
  induction line generalizing s n room with
  | nil => exact ⟨fun h => absurd hid h, fun h => absurd h (not_heads_nil room)⟩
  | cons c line ih =>
      by_cases hdollar : c = dollar
      · rw [hdollar, feed_goes (received_restart hmode hsize hpos (by omega) h0),
          heads_dollar hleft]
        refine feed_dollar line _ ?_ ?_ ?_ (Bt.setBuf_buf_self _ 0 dollar (by decide))
        · rw [Bt.setBuf_mode, Bt.setBuf_mode, hmode]
        · rw [Bt.setBuf_dataSize, Bt.setBuf_dataSize, hsize]
        · rw [Bt.setBuf_dataId, Bt.setBuf_dataId, hid]
      · have h := received_junk hmode hsize hpos (by omega) h0 hdollar
        have hid' : (s.setBuf n c).dataId = 0 := by rw [Bt.setBuf_dataId, hid]
        by_cases hlf : c = lf
        · -- A line end ends the call.
          rw [hlf] at h hid' ⊢
          rw [beq_self_eq_true, Bool.true_or] at h
          rw [feed_ends h]
          exact ⟨fun hne => absurd hid' hne, fun hh => absurd hh (not_heads_lf room line)⟩
        · rw [beq_eq_false_iff_ne.mpr hlf, Bool.false_or] at h
          rw [show room = (room - 1) + 1 by omega, heads_cons hdollar hlf]
          by_cases hfull : n + 1 ≥ bufSize
          · -- So does a full buffer.
            rw [decide_eq_true hfull] at h
            rw [feed_ends h]
            refine ⟨fun hne => absurd hid' hne, ?_⟩
            rintro ⟨junk, _, _, _, _, _, _, _, _, hlen, _⟩
            omega
          · rw [decide_eq_false hfull] at h
            rw [feed_goes h]
            exact ih (s.setBuf n c) (n + 1) (room - 1) (by rw [Bt.setBuf_mode, hmode])
              (by rw [Bt.setBuf_dataSize, hsize]) hid'
              (by rw [Bt.setBuf_buf_of_ne s n c (by omega)]; exact h0) (by omega) (by omega)
              (by omega)

/-- A call reports an id exactly when a header comes in time. -/
theorem feed_reports (line : List UInt8) (s : Bt) (hmode : s.mode = .data)
    (hsize : s.dataSize = 0) (hid : s.dataId = 0)
    (hhead : ∀ c more, line = c :: more → c ≠ lf ∧ c ≠ cr) :
    (feed line s 0).1.dataId ≠ 0 ↔ Heads bufSize line := by
  cases line with
  | nil => exact ⟨fun h => absurd hid h, fun h => absurd h (not_heads_nil bufSize)⟩
  | cons c line =>
      rcases hhead c line rfl with ⟨hlf, hcr⟩
      have hbuf : (s.setBuf 0 c).buf 0 = c := Bt.setBuf_buf_self s 0 c (by decide)
      have hmode' : (s.setBuf 0 c).mode = .data := by rw [Bt.setBuf_mode, hmode]
      have hsize' : (s.setBuf 0 c).dataSize = 0 := by rw [Bt.setBuf_dataSize, hsize]
      have hid' : (s.setBuf 0 c).dataId = 0 := by rw [Bt.setBuf_dataId, hid]
      rw [feed_goes (received_first hmode hsize hlf hcr)]
      by_cases hdollar : c = dollar
      · rw [hdollar, heads_dollar (by decide), ← hdollar]
        exact feed_dollar line _ hmode' hsize' hid' (hbuf.trans hdollar)
      · rw [show bufSize = 127 + 1 from rfl, heads_cons hdollar hlf]
        exact feed_junk line _ 1 127 hmode' hsize' hid' (by rw [hbuf]; exact hdollar) (by omega)
          rfl (by omega)

/-! ### Packets -/

/-- A packet: its id is not zero and its size is a 16-bit number. -/
structure Packet where
  id : UInt8
  type : UInt8
  payload : List UInt8
  named : id ≠ 0
  sized : payload.length < 65536

/-- The packet as it goes over the line. -/
def Packet.bytes (p : Packet) : List UInt8 := packetBytes p.id p.type p.payload

theorem Packet.bytes_length (p : Packet) : p.bytes.length = 6 + p.payload.length := by
  simp only [Packet.bytes, packetBytes, List.length_cons]
  omega

/-- A call that reports the packet, all of it. -/
structure Reported (p : Packet) (s : Bt) (bytes : Nat) : Prop where
  id : s.dataId = p.id
  type : s.dataType = p.type
  size : s.dataSize = p.payload.length
  complete : bytes = 6 + p.payload.length
  payload : ∀ i (hi : i < p.payload.length), s.buf (s.data + i) = p.payload[i]

/-- The NUL stored after the packet leaves it. -/
theorem Reported.terminated {p : Packet} {s : Bt} {bytes : Nat} (h : Reported p s bytes)
    (hdata : s.data = 6) (c : UInt8) : Reported p (s.setBuf bytes c) bytes := by
  refine ⟨(Bt.setBuf_dataId ..).trans h.id, (Bt.setBuf_dataType ..).trans h.type,
    (Bt.setBuf_dataSize ..).trans h.size, h.complete, ?_⟩
  intro i hi
  have hne : s.data + i ≠ bytes := by
    have := h.complete
    omega
  rw [Bt.setBuf_data, Bt.setBuf_buf_of_ne s bytes c hne]
  exact h.payload i hi

/-- A packet that fits and comes whole is reported. -/
theorem feed_packet (p : Packet) (s : Bt) (hmode : s.mode = .data) (hsize : s.dataSize = 0)
    (hfits : 6 + p.payload.length ≤ bufSize) :
    Reported p (feed p.bytes s 0).1 (feed p.bytes s 0).2 ∧ (feed p.bytes s 0).1.data = 6 := by
  have hbuf : (s.setBuf 0 dollar).buf 0 = dollar := Bt.setBuf_buf_self s 0 dollar (by decide)
  have hmode' : (s.setBuf 0 dollar).mode = .data := by rw [Bt.setBuf_mode, hmode]
  have hsize' : (s.setBuf 0 dollar).dataSize = 0 := by rw [Bt.setBuf_dataSize, hsize]
  have hlt : p.payload.length < 256 := by
    simp only [bufSize] at hfits
    omega
  have hlo : (UInt8.ofNat p.payload.length).toNat = p.payload.length := by
    rw [UInt8.toNat_ofNat']
    omega
  rw [Packet.bytes, packetBytes, feed_goes (received_first hmode hsize (by decide) (by decide)),
    feed_header _ _ _ _ _ _ hmode' hsize' hbuf, if_pos rfl]
  generalize UInt8.ofNat (p.payload.length / 256) = hi
  generalize hlo' : UInt8.ofNat p.payload.length = lo at hlo ⊢
  rcases Bt.withHeader_buf (s.setBuf 0 dollar) p.id p.type lo hi colon
    with ⟨hb0, hb1, hb2, hb3, _⟩
  rcases Bt.withHeader_keeps (s.setBuf 0 dollar) p.id p.type lo hi colon with ⟨hm, _, _⟩
  generalize (s.setBuf 0 dollar).withHeader p.id p.type lo hi colon = t at hb0 hb1 hb2 hb3 hm ⊢
  have hds : t.accept.dataSize = p.payload.length := (congrArg UInt8.toNat hb3).trans hlo
  by_cases hz : lo = 0
  · -- Without a payload the colon ends the call.
    have hnone : p.payload.length = 0 := by
      rw [← hlo, hz]
      rfl
    rw [if_pos hz]
    exact ⟨⟨hb1, hb2, hds, by rw [hnone], fun i hi => absurd hi (by omega)⟩, rfl⟩
  · have hpos : 0 < p.payload.length := by
      rw [← hlo]
      exact Nat.pos_of_ne_zero fun h => hz (UInt8.toNat_inj.mp h)
    rw [if_neg hz]
    rcases feed_payload p.payload t.accept 6 (hm.trans hmode') (by rw [hds]; exact hpos) (by omega)
      (hb0.trans hbuf) (by rw [hds, Nat.add_comm]) (by rw [hds]; omega)
      (List.length_pos_iff.mp hpos) with ⟨hcount, hid, htype, hdsize, hdata, _, hpay⟩
    refine ⟨⟨hid.trans hb1, htype.trans hb2, hdsize.trans hds, by rw [hcount, hds, Nat.add_comm],
      ?_⟩, hdata⟩
    intro i hi
    rw [hdata]
    exact hpay i hi

/-! ### Calls -/

/-- One call of `read`: what it found on the line and when, and what came of
    it. -/
structure Call where
  line : List UInt8
  timing : List Nat
  after : Bt
  bytes : Nat

/-- Calls of `read` one after the other, the line falling silent on each as its
    timing says. -/
def calls : List (List Nat) → List UInt8 → Bt → List Call
  | [], _, _ => []
  | timing :: timings, line, s =>
    ⟨line, timing, (read timing line s).1, (read timing line s).2.1⟩
      :: calls timings (read timing line s).2.2 (read timing line s).1

/-- What is asked of a call while a packet is on the line: an id it reports is
    the packet's, and so is all else; and a packet that comes in time and fits
    the buffer is reported. -/
def RoundTrips (p : Packet) (c : Call) : Prop :=
  (c.after.dataId ≠ 0 → Reported p c.after c.bytes)
    ∧ (arrived c.timing c.line = p.bytes → 6 + p.payload.length ≤ bufSize →
        Reported p c.after c.bytes)

/-- A header comes in time only with the whole packet, and the packet fits. -/
def Whole (p : Packet) (c : Call) : Prop :=
  Heads bufSize (arrived c.timing c.line) →
    arrived c.timing c.line = p.bytes ∧ 6 + p.payload.length ≤ bufSize

theorem readLoop_keeps (timing : List Nat) (line : List UInt8) (s : Bt) (n : Nat) :
    (readLoop timing line s n).1.mode = s.mode ∧ (readLoop timing line s n).1.present = s.present
      ∧ (readLoop timing line s n).2.2 <:+ line := by
  induction timing generalizing line s n with
  | nil => exact ⟨rfl, rfl, List.suffix_rfl⟩
  | cons polls timing ih =>
      cases line with
      | nil => exact ⟨rfl, rfl, List.suffix_rfl⟩
      | cons c line =>
          rw [readLoop]
          by_cases hlate : polls > patience n
          · rw [if_pos hlate]
            exact ⟨rfl, rfl, List.suffix_rfl⟩
          · rw [if_neg hlate]
            rcases received_keeps s n c with ⟨hmode, hpresent⟩
            by_cases hend : (received s n c).2.2 = true
            · simp only [hend, if_true]
              exact ⟨hmode, hpresent, List.suffix_cons c line⟩
            · simp only [hend, Bool.false_eq_true, if_false]
              rcases ih line (received s n c).1 (received s n c).2.1 with ⟨h1, h2, h3⟩
              exact ⟨h1.trans hmode, h2.trans hpresent, h3.trans (List.suffix_cons c line)⟩

section Read

variable (timing : List Nat) (line : List UInt8) (s : Bt)

theorem read_keeps : (read timing line s).1.mode = s.mode
    ∧ (read timing line s).1.present = s.present ∧ (read timing line s).2.2 <:+ line := by
  unfold read
  split
  · exact ⟨rfl, rfl, List.suffix_rfl⟩
  · rcases readLoop_keeps timing line { s with dataId := 0, dataSize := 0 } 0 with ⟨h1, h2, h3⟩
    exact ⟨(Bt.setBuf_mode ..).trans h1, (Bt.setBuf_present ..).trans h2, h3⟩

/-- A call of `read` is the loop on the bytes that come in time, and the NUL
    after them. -/
theorem read_feed (hpresent : s.present = true) (hmode : s.mode = .data) :
    ∃ t : Bt, t.mode = .data ∧ t.dataSize = 0 ∧ t.dataId = 0
      ∧ (read timing line s).1 = (feed (arrived timing line) t 0).1.setBuf
          (feed (arrived timing line) t 0).2 0
      ∧ (read timing line s).2.1 = (feed (arrived timing line) t 0).2 := by
  rcases readLoop_arrived timing line { s with dataId := 0, dataSize := 0 } hmode rfl
    with ⟨c, hstate, hcount⟩
  refine ⟨({ s with dataId := 0, dataSize := 0 } : Bt).setBuf 0 c, ?_, ?_, ?_, ?_, ?_⟩
  · rw [Bt.setBuf_mode]
    exact hmode
  · exact Bt.setBuf_dataSize ..
  · exact Bt.setBuf_dataId ..
  · rw [read, if_neg (by rw [hpresent]; exact Bool.noConfusion)]
    simp only [hstate, hcount]
  · rw [read, if_neg (by rw [hpresent]; exact Bool.noConfusion)]
    exact hcount

end Read

theorem feed_length (line : List UInt8) (s : Bt) (hmode : s.mode = .data) (hsize : s.dataSize = 0)
    (hhead : ∀ c more, line = c :: more → c ≠ lf ∧ c ≠ cr) :
    (feed line s 0).2 ≤ line.length ∧ (feed line s 0).2 ≤ bufSize := by
  cases line with
  | nil => exact ⟨Nat.le_refl 0, (by decide : 0 ≤ bufSize)⟩
  | cons c line =>
      rcases hhead c line rfl with ⟨hlf, hcr⟩
      rw [feed_goes (received_first hmode hsize hlf hcr), List.length_cons]
      rcases feed_count line (s.setBuf 0 c) 1 (by omega) (by decide) with ⟨h1, h2⟩
      exact ⟨by omega, h2⟩

/-- One call: what is asked of it holds exactly when a header comes in time
    only with the whole packet. -/
theorem read_roundTrips_iff (p : Packet) (timing : List Nat) (line : List UInt8) (s : Bt)
    (hpresent : s.present = true) (hmode : s.mode = .data)
    (hline : line.length ≤ p.bytes.length)
    (hwhole : p.bytes.length ≤ line.length → line = p.bytes) :
    RoundTrips p ⟨line, timing, (read timing line s).1, (read timing line s).2.1⟩
      ↔ Whole p ⟨line, timing, (read timing line s).1, (read timing line s).2.1⟩ := by
  rcases read_feed timing line s hpresent hmode with ⟨t, htm, hts, htid, hstate, hcount⟩
  have hhead : ∀ c more, arrived timing line = c :: more → c ≠ lf ∧ c ≠ cr :=
    fun c more h => arrived_head timing line h
  have hreports : (read timing line s).1.dataId ≠ 0 ↔ Heads bufSize (arrived timing line) := by
    rw [hstate, Bt.setBuf_dataId]
    exact feed_reports _ t htm hts htid hhead
  -- A packet that comes in time and fits is reported, whatever came before.
  have hgood : arrived timing line = p.bytes → 6 + p.payload.length ≤ bufSize →
      Reported p (read timing line s).1 (read timing line s).2.1 := by
    intro harr hfits
    rw [hstate, hcount, harr]
    rcases feed_packet p t htm hts hfits with ⟨hrep, hdata⟩
    exact hrep.terminated hdata 0
  unfold RoundTrips Whole
  simp only
  constructor
  · rintro ⟨hexact, _⟩ hheads
    -- A complete packet takes all the line can hold.
    have hcomplete := (hexact (hreports.mpr hheads)).complete
    rcases feed_length (arrived timing line) t htm hts hhead with ⟨hlen, hroom⟩
    rw [hcount] at hcomplete
    have hinfix := arrived_infix timing line
    have hle := hinfix.length_le
    rw [Packet.bytes_length] at hline hwhole
    have harr : arrived timing line = line := hinfix.eq_of_length (by omega)
    exact ⟨harr.trans (hwhole (by omega)), by omega⟩
  · intro hcond
    refine ⟨fun hid => ?_, hgood⟩
    rcases hcond (hreports.mp hid) with ⟨harr, hfits⟩
    exact hgood harr hfits

theorem handed_prefix (ready : List Bool) (bs : List UInt8) : handed ready bs <+: bs := by
  induction ready generalizing bs with
  | nil => exact List.nil_prefix
  | cons r ready ih =>
      cases bs with
      | nil => cases r <;> exact List.nil_prefix
      | cons b bs =>
          cases r with
          | false => exact List.nil_prefix
          | true => exact (List.prefix_cons_inj b).mpr (ih bs)

theorem sendDATA_prefix (present dataMode : Bool) (ready : List Bool) (p : Packet) :
    (sendDATA present dataMode ready p.id p.type p.payload).2 <+: p.bytes := by
  unfold sendDATA
  split
  · exact List.nil_prefix
  · split
    · exact List.nil_prefix
    · split
      · exact handed_prefix _ _
      · exact List.nil_prefix

/-- Every call of any number of calls on what is sent for a packet does what is
    asked of it, exactly when on every call a header comes in time only with
    the whole packet, and the packet fits the buffer. -/
theorem calls_roundTrip_iff (p : Packet) (present dataMode : Bool) (ready : List Bool)
    (timings : List (List Nat)) (s : Bt) (hpresent : s.present = true) (hmode : s.mode = .data) :
    (∀ c ∈ calls timings (sendDATA present dataMode ready p.id p.type p.payload).2 s,
        RoundTrips p c)
      ↔ ∀ c ∈ calls timings (sendDATA present dataMode ready p.id p.type p.payload).2 s,
        Whole p c := by
  have hsent := sendDATA_prefix present dataMode ready p
  generalize (sendDATA present dataMode ready p.id p.type p.payload).2 = sent at hsent ⊢
  have hsuffix : ∀ line : List UInt8, line <:+ sent → line.length ≤ p.bytes.length
      ∧ (p.bytes.length ≤ line.length → line = p.bytes) := by
    intro line hline
    have h1 := hline.length_le
    have h2 := hsent.length_le
    refine ⟨by omega, fun h => ?_⟩
    rw [hline.eq_of_length (by omega)]
    exact hsent.eq_of_length (by omega)
  suffices h : ∀ line : List UInt8, line <:+ sent →
      ((∀ c ∈ calls timings line s, RoundTrips p c) ↔ ∀ c ∈ calls timings line s, Whole p c) from
    h sent List.suffix_rfl
  intro line hline
  induction timings generalizing line s with
  | nil =>
      simp only [calls, List.not_mem_nil, false_implies, implies_true]
  | cons timing timings ih =>
      rcases hsuffix line hline with ⟨hle, hwhole⟩
      rcases read_keeps timing line s with ⟨hm, hp, hrest⟩
      simp only [calls, List.forall_mem_cons]
      rw [read_roundTrips_iff p timing line s hpresent hmode hle hwhole,
        ih (read timing line s).1 (hp.trans hpresent) (hm.trans hmode) _ (hrest.trans hline)]

/-- The driver in data mode, with nothing read. -/
def connected : Bt :=
  { present := true, mode := .data, dataId := 0, dataType := 0, dataSize := 0,
    deviceName := (0, 0), data := 0, eventBuf := .null, buf := fun _ => 0, btPower := 3 }

/-- A packet with a payload of four bytes. -/
def fourBytes : Packet :=
  { id := 1, type := 2, payload := [3, 4, 5, 6], named := by decide, sized := by decide }

/-- What is sent for it when the module is ready for every byte. -/
def fourSent : List UInt8 :=
  (sendDATA true true (List.replicate 11 true) fourBytes.id fourBytes.type fourBytes.payload).2

/-- The packet read whole, in one call. -/
theorem calls_roundTrip_four :
    (calls [List.replicate 10 0] fourSent connected).length = 1 ∧
      ∀ c ∈ calls [List.replicate 10 0] fourSent connected, RoundTrips fourBytes c := by
  refine ⟨rfl, (calls_roundTrip_iff fourBytes true true (List.replicate 11 true)
    [List.replicate 10 0] connected rfl rfl).mpr ?_⟩
  intro c hc _
  rw [show calls [List.replicate 10 0] (sendDATA true true (List.replicate 11 true)
    fourBytes.id fourBytes.type fourBytes.payload).2 connected
      = [⟨fourSent, List.replicate 10 0, _, _⟩] from rfl, List.mem_singleton] at hc
  rw [hc]
  decide

/-- A line that falls silent after two bytes of the payload. -/
theorem calls_cut_short :
    ¬ ∀ c ∈ calls [List.replicate 8 0] fourSent connected, RoundTrips fourBytes c := by
  intro h
  have hcall := (h _ List.mem_cons_self).1
  have hid : (read (List.replicate 8 0) fourSent connected).1.dataId ≠ 0 := by decide
  have hbytes : (read (List.replicate 8 0) fourSent connected).2.1 = 8 := by decide
  exact absurd (hbytes.symm.trans (hcall hid).complete) (by decide)

end Bluetooth

end TimelapsePlus
