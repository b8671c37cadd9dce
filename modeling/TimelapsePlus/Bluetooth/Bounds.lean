import TimelapsePlus.Bluetooth.RoundTrip
import TimelapsePlus.Lib.Query

/-!
# Where `BT::read` Looks

Every index at which a call of `BT::read` reads or writes its buffer. What the loop makes of
a byte it has stored is a number of comparisons, each with the bytes it looks at, and these
are written out as functions that read.

There are two ways out of the buffer. A call ends when the buffer is full, and the NUL is
then written behind it. And in data mode the byte before the last one counted is compared
also when none has been, because the only one that has come was a line end.

## Main definitions

* `Bt.memory`: The buffer, and what lies around it.
* `askSkipped`, `askLine`, `askRestarts`, `askHeaded`, `askDataByte`: The comparisons.
* `receivedAt`, `readLoopAt`, `readAt`: The indices, in order.
* `Inside`: All of them lie in the buffer.
* `lineLength`, `textLength`, `packetLength`: How much is taken of a line, of the bytes ahead
  of a packet, and of a packet.
* `Bt.FitsInTime`: What comes in time fits.

## Theorems

* `received_eq`: The comparisons are those of `read`.
* `receivedAt_inside`: A byte that finds room, and is not a line end that is skipped.
* `readLoopAt_inside_iff`: The first byte in data mode must not be a line end.
* `feed_packet_count`, `feed_text_count`: How many bytes are in the buffer in the end.
* `readAt_inside_iff`: When a call stays inside.
* `readAt_outside`: Two that do not.
-/

namespace TimelapsePlus

namespace Bluetooth

open Query

/-- The buffer by the index, and the bytes before and after it. -/
def Bt.memory (s : Bt) (i : Int) : UInt8 :=
  if i < 0 then s.eventBuf.code else if i < bufSize then s.buf i.toNat else s.btPower

/-- `bytes == 0 && (buf[0] == '\n' || buf[0] == '\r')` -/
def askSkipped (bytes : Nat) : Query Int UInt8 Bool :=
  if bytes = 0 then do
    let first ← look 0
    if first = lf then return true
    else do
      let first ← look 0
      return first == cr
  else return false

/-- `bytes > 0 && buf[bytes - 1] == '\n'` -/
def askLine (bytes : Nat) : Query Int UInt8 Bool :=
  if bytes > 0 then do
    let last ← look (bytes - 1)
    return last == lf
  else return false

/-- `buf[0] != '$' && bytes > 1 && buf[bytes - 1] == '$'` -/
def askRestarts (bytes : Nat) : Query Int UInt8 Bool := do
  let first ← look 0
  if first ≠ dollar ∧ bytes > 1 then do
    let last ← look (bytes - 1)
    return last == dollar
  else return false

/-- `bytes > 5 && buf[0] == '$' && buf[5] == ':'` -/
def askHeaded (bytes : Nat) : Query Int UInt8 Bool :=
  if bytes > 5 then do
    let first ← look 0
    if first = dollar then do
      let mark ← look 5
      return mark == colon
    else return false
  else return false

/-- The rest of the loop in data mode: the header, if it is taken over, and whether the call
    ends. -/
def askDataByte (dataSize bytes : Nat) :
    Query Int UInt8 (Option (UInt8 × UInt8 × UInt8 × UInt8) × Bool) :=
  if dataSize > 0 then return (none, decide (bytes > dataSize + 5))
  else do
    let headed ← askHeaded bytes
    if headed = true then do
      let id ← look 1
      let type ← look 2
      let low ← look 3
      let high ← look 4
      return (some (id, type, low, high), decide (low.toNat = 0))
    else do
      let first ← look 0
      if first ≠ dollar then do
        let last ← look (bytes - 1)
        return (none, last == lf)
      else return (none, false)

/-- A header is taken over, if there is one. -/
def Bt.take (s : Bt) : Option (UInt8 × UInt8 × UInt8 × UInt8) → Bt
  | none => s
  | some (id, type, low, high) => { s with
      dataId := id
      dataType := type
      dataSize := low.toNat
      deviceName := (high, 0)
      data := 6 }

/-- The indices of the loop for one byte. -/
def receivedAt (s : Bt) (bytes : Nat) (c : UInt8) : List Int :=
  let t := s.setBuf bytes c
  let counted := if skipped bytes c then bytes else bytes + 1
  (bytes : Int) :: (askSkipped bytes).touched t.memory ++ match s.mode with
    | .cmd => (askLine counted).touched t.memory
    | .data => (askRestarts counted).touched t.memory ++
        if t.restarts counted then
          -- `buf[0] = '$'`
          0 :: (askDataByte t.dataSize 1).touched (t.setBuf 0 dollar).memory
        else (askDataByte t.dataSize counted).touched t.memory

/-- The indices of the loop. -/
def readLoopAt : List Nat → List UInt8 → Bt → Nat → List Int
  | polls :: timing, c :: line, s, bytes =>
    if polls > patience bytes then []
    else
      let r := received s bytes c
      receivedAt s bytes c ++ if r.2.2 then [] else readLoopAt timing line r.1 r.2.1
  | _, _, _, _ => []

/-- The indices of a call, the NUL last. -/
def readAt (timing : List Nat) (line : List UInt8) (s : Bt) : List Int :=
  if s.present = false then []
  else
    let s := { s with dataId := 0, dataSize := 0 }
    readLoopAt timing line s 0 ++ [((readLoop timing line s 0).2.1 : Int)]

/-- An index of the buffer, and a list of these. -/
def Inside (i : Int) : Prop := 0 ≤ i ∧ i < bufSize

def StaysInside (is : List Int) : Prop := ∀ i ∈ is, Inside i

section Compare

variable (s : Bt) {bytes : Nat}

theorem Bt.memory_buf {i : Nat} (h : i < bufSize) : s.memory (i : Int) = s.buf i := by
  unfold Bt.memory
  rw [if_neg (by omega), if_pos (by omega), Int.toNat_natCast]

/-- The byte counted last, or the one before the buffer. -/
theorem Bt.memory_last (h : bytes ≤ bufSize) : s.memory ((bytes : Int) - 1) = s.last bytes := by
  unfold Bt.last
  by_cases hzero : bytes = 0
  · rw [if_pos hzero, hzero]
    rfl
  · have hcast : (bytes : Int) - 1 = ((bytes - 1 : Nat) : Int) := by omega
    rw [if_neg hzero, hcast, s.memory_buf (by omega)]

theorem Bt.memory_zero : s.memory 0 = s.buf 0 := s.memory_buf (i := 0) (by decide)

theorem run_askSkipped (c : UInt8) :
    (askSkipped bytes).run (s.setBuf bytes c).memory = skipped bytes c := by
  unfold askSkipped skipped
  by_cases hzero : bytes = 0
  · subst hzero
    have hfirst : (s.setBuf 0 c).memory 0 = c := by
      rw [Bt.memory_zero, Bt.setBuf_buf_self s 0 c (by decide)]
    simp only [if_true, run_bind, run_look, hfirst]
    by_cases hlf : c = lf
    · rw [if_pos hlf, hlf]
      rfl
    · rw [if_neg hlf, beq_eq_false_iff_ne.mpr hlf]
      simp only [run_bind, run_look, run_pure, hfirst, decide_true, Bool.true_and, Bool.false_or]
  · rw [if_neg hzero, decide_eq_false hzero]
    rfl

theorem run_askLine (h : bytes ≤ bufSize) :
    (askLine bytes).run s.memory = (decide (bytes > 0) && s.last bytes == lf) := by
  unfold askLine
  by_cases hpos : bytes > 0
  · rw [if_pos hpos, decide_eq_true hpos, Bool.true_and]
    simp only [run_bind, run_look, run_pure, s.memory_last h]
  · rw [if_neg hpos, decide_eq_false hpos]
    rfl

theorem run_askRestarts (h : bytes ≤ bufSize) :
    (askRestarts bytes).run s.memory = s.restarts bytes := by
  unfold askRestarts Bt.restarts
  rw [run_bind, run_look, s.memory_zero]
  by_cases hfirst : s.buf 0 = dollar
  · rw [if_neg (by simp only [hfirst, ne_eq, not_true_eq_false, false_and, not_false_eq_true]),
      hfirst, bne_self_eq_false]
    rfl
  · rw [bne_iff_ne.mpr hfirst, Bool.true_and]
    by_cases hone : bytes > 1
    · rw [if_pos ⟨hfirst, hone⟩, decide_eq_true hone, Bool.true_and]
      simp only [run_bind, run_look, run_pure, s.memory_last h]
    · rw [if_neg fun h => hone h.2, decide_eq_false hone]
      rfl

theorem run_askHeaded : (askHeaded bytes).run s.memory = s.headed bytes := by
  unfold askHeaded Bt.headed
  by_cases hfive : bytes > 5
  · rw [if_pos hfive, decide_eq_true hfive, Bool.true_and, run_bind, run_look, s.memory_zero]
    by_cases hfirst : s.buf 0 = dollar
    · have hmark : s.memory 5 = s.buf 5 := s.memory_buf (i := 5) (by decide)
      rw [if_pos hfirst, hfirst, beq_self_eq_true, Bool.true_and, run_bind, run_look, hmark]
      rfl
    · rw [if_neg hfirst, beq_eq_false_iff_ne.mpr hfirst]
      rfl
  · rw [if_neg hfive, decide_eq_false hfive]
    rfl

theorem run_askDataByte (h : bytes ≤ bufSize) : s.dataByte bytes =
    (s.take ((askDataByte s.dataSize bytes).run s.memory).1,
      ((askDataByte s.dataSize bytes).run s.memory).2) := by
  unfold askDataByte Bt.dataByte
  by_cases hsize : s.dataSize > 0
  · rw [if_pos hsize, if_pos hsize]
    rfl
  · rw [if_neg hsize, if_neg hsize, run_bind, run_askHeaded]
    by_cases hheaded : s.headed bytes = true
    · rw [if_pos hheaded, if_pos hheaded]
      rfl
    · rw [if_neg hheaded, if_neg hheaded, run_bind, run_look, s.memory_zero]
      by_cases hfirst : s.buf 0 = dollar
      · rw [if_neg (not_not.mpr hfirst), hfirst, bne_self_eq_false]
        rfl
      · rw [if_pos hfirst, bne_iff_ne.mpr hfirst, run_bind, run_look, s.memory_last h]
        rfl

/-- The loop does with a byte what the comparisons come to. -/
theorem received_eq (h : bytes < bufSize) (c : UInt8) : received s bytes c =
    let t := s.setBuf bytes c
    let counted := if (askSkipped bytes).run t.memory then bytes else bytes + 1
    match s.mode with
    | .cmd => (t, counted, (askLine counted).run t.memory || decide (counted ≥ bufSize))
    | .data =>
      if (askRestarts counted).run t.memory then
        let u := t.setBuf 0 dollar
        let r := (askDataByte u.dataSize 1).run u.memory
        (u.take r.1, 1, r.2)
      else
        let r := (askDataByte t.dataSize counted).run t.memory
        (t.take r.1, counted, r.2 || decide (counted ≥ bufSize)) := by
  have hcounted : (if skipped bytes c then bytes else bytes + 1) ≤ bufSize := by
    split
    · omega
    · omega
  unfold received Bt.counted
  dsimp only
  rw [run_askSkipped, Bt.setBuf_mode]
  generalize (if skipped bytes c then bytes else bytes + 1) = counted at *
  cases s.mode with
  | cmd =>
      dsimp only
      rw [run_askLine _ hcounted]
  | data =>
      dsimp only
      rw [run_askRestarts _ hcounted, run_askDataByte _ hcounted, run_askDataByte _ (by decide)]

end Compare

section Within

theorem inside_cast {n : Nat} (h : n < bufSize) : Inside (n : Int) := by
  unfold Inside
  omega

theorem inside_pred {n : Nat} (hpos : 0 < n) (h : n ≤ bufSize) : Inside ((n : Int) - 1) := by
  unfold Inside
  omega

theorem inside_small {n : Nat} (h : n < 6) : Inside (n : Int) :=
  inside_cast (Nat.lt_trans h (by decide))

variable {bytes : Nat}

theorem within_askSkipped : (askSkipped bytes).Within Inside := by
  have hzero : Inside 0 := inside_small (n := 0) (by omega)
  unfold askSkipped
  refine within_ite (fun _ => within_bind (within_look hzero) fun first => ?_)
    fun _ => within_pure _
  refine within_ite (fun _ => within_pure _) fun _ => ?_
  exact within_bind (within_look hzero) fun _ => within_pure _

theorem within_askLine (h : bytes ≤ bufSize) : (askLine bytes).Within Inside := by
  unfold askLine
  refine within_ite (fun hpos => ?_) fun _ => within_pure _
  exact within_bind (within_look (inside_pred hpos h)) fun _ => within_pure _

theorem within_askRestarts (h : bytes ≤ bufSize) : (askRestarts bytes).Within Inside := by
  unfold askRestarts
  refine within_bind (within_look (inside_small (n := 0) (by omega))) fun first => ?_
  refine within_ite (fun hmore => ?_) fun _ => within_pure _
  exact within_bind (within_look (inside_pred (by omega) h)) fun _ => within_pure _

theorem within_askHeaded : (askHeaded bytes).Within Inside := by
  unfold askHeaded
  refine within_ite (fun _ => ?_) fun _ => within_pure _
  refine within_bind (within_look (inside_small (n := 0) (by omega))) fun first => ?_
  refine within_ite (fun _ => ?_) fun _ => within_pure _
  exact within_bind (within_look (inside_small (n := 5) (by omega))) fun _ => within_pure _

/-- With a byte counted, the byte before the last one is in the buffer. -/
theorem within_askDataByte (dataSize : Nat) (hpos : 0 < bytes) (h : bytes ≤ bufSize) :
    (askDataByte dataSize bytes).Within Inside := by
  unfold askDataByte
  refine within_ite (fun _ => within_pure _) fun _ => ?_
  refine within_bind within_askHeaded fun headed => within_ite (fun _ => ?_) fun _ => ?_
  · refine within_bind (within_look (inside_small (n := 1) (by omega))) fun _ => ?_
    refine within_bind (within_look (inside_small (n := 2) (by omega))) fun _ => ?_
    refine within_bind (within_look (inside_small (n := 3) (by omega))) fun _ => ?_
    exact within_bind (within_look (inside_small (n := 4) (by omega))) fun _ => within_pure _
  · refine within_bind (within_look (inside_small (n := 0) (by omega))) fun first => ?_
    refine within_ite (fun _ => ?_) fun _ => within_pure _
    exact within_bind (within_look (inside_pred hpos h)) fun _ => within_pure _

end Within

/-! ### The indices of the loop -/

section Loop

variable {s : Bt} {n : Nat}

theorem staysInside_append {is js : List Int} :
    StaysInside (is ++ js) ↔ StaysInside is ∧ StaysInside js := by
  unfold StaysInside
  rw [List.forall_mem_append]

theorem staysInside_cons {i : Int} {is : List Int} :
    StaysInside (i :: is) ↔ Inside i ∧ StaysInside is := by
  unfold StaysInside
  rw [List.forall_mem_cons]

/-- A byte that finds room, and is not a line end that is skipped in data mode. -/
theorem receivedAt_inside (hn : n < bufSize) {c : UInt8}
    (h : s.mode = .data → skipped n c = false) : StaysInside (receivedAt s n c) := by
  have hcounted : (if skipped n c then n else n + 1) ≤ bufSize := by
    split
    · omega
    · omega
  unfold receivedAt
  dsimp only
  rw [List.cons_append, staysInside_cons, staysInside_append]
  refine ⟨inside_cast hn, within_askSkipped.touched _, ?_⟩
  cases hmode : s.mode with
  | cmd => exact (within_askLine hcounted).touched _
  | data =>
      have hpos : 0 < (if skipped n c then n else n + 1) := by
        rw [h hmode, if_neg Bool.false_ne_true]
        omega
      generalize (if skipped n c then n else n + 1) = counted at *
      dsimp only
      rw [staysInside_append]
      refine ⟨(within_askRestarts hcounted).touched _, ?_⟩
      split
      · rw [staysInside_cons]
        exact ⟨inside_small (n := 0) (by omega),
          (within_askDataByte _ (by omega) (by decide)).touched _⟩
      · exact (within_askDataByte _ hpos hcounted).touched _

/-- A line end that is skipped in data mode is compared with the byte before the buffer. -/
theorem receivedAt_skip (hmode : s.mode = .data) (hsize : s.dataSize = 0) {c : UInt8}
    (hc : c = lf ∨ c = cr) : -1 ∈ receivedAt s 0 c := by
  have hskip : skipped 0 c = true := by
    rcases hc with rfl | rfl
    · decide
    · decide
  have hfirst : (s.setBuf 0 c).memory 0 ≠ dollar := by
    rw [Bt.memory_zero, Bt.setBuf_buf_self s 0 c (by decide)]
    rcases hc with rfl | rfl
    · decide
    · decide
  have hno : (s.setBuf 0 c).restarts 0 = false := by
    unfold Bt.restarts
    rw [decide_eq_false (by omega), Bool.and_false, Bool.false_and]
  have hlast : -1 ∈ (askDataByte 0 0).touched (s.setBuf 0 c).memory := by
    have hnot : (askHeaded 0).run (s.setBuf 0 c).memory = false := rfl
    unfold askDataByte
    rw [if_neg (by omega), touched_bind, hnot, if_neg Bool.false_ne_true, touched_bind, run_look,
      if_pos hfirst]
    exact List.mem_append_right _ (List.mem_append_right _ List.mem_cons_self)
  unfold receivedAt
  dsimp only
  rw [hmode, hskip, if_pos rfl, Bt.setBuf_dataSize, hsize, hno, if_neg Bool.false_ne_true]
  exact List.mem_append_right _ (List.mem_append_right _ hlast)

/-- Once a byte has been counted the loop stays inside, and in command mode from the start. -/
theorem readLoopAt_inside (timing : List Nat) (line : List UInt8) (hn : n < bufSize)
    (hpos : s.mode = .data → 0 < n) : StaysInside (readLoopAt timing line s n) := by
  induction timing generalizing line s n with
  | nil => exact fun i hi => absurd hi List.not_mem_nil
  | cons polls timing ih =>
      cases line with
      | nil => exact fun i hi => absurd hi List.not_mem_nil
      | cons c line =>
          rw [readLoopAt]
          split
          · exact fun i hi => absurd hi List.not_mem_nil
          · dsimp only
            rw [staysInside_append]
            refine ⟨receivedAt_inside hn fun hmode => skipped_pos (hpos hmode) c, ?_⟩
            split
            · exact fun i hi => absurd hi List.not_mem_nil
            · rename_i hgo
              have hroom := (Bt.counted_spec (s.setBuf n c)
                (if skipped n c then n else n + 1)).2.2.2 (Bool.eq_false_iff.mpr hgo)
              refine ih line hroom fun hmode => ?_
              rw [(received_keeps s n c).1] at hmode
              exact (received_count s n c (hpos hmode)).1

/-- The first byte, if it comes in time. -/
def firstByte : List Nat → List UInt8 → Option UInt8
  | polls :: _, c :: _ => if polls > 5000 then none else some c
  | _, _ => none

/-- In data mode the loop stays inside if and only if the first byte is not a line end. -/
theorem readLoopAt_inside_iff (timing : List Nat) (line : List UInt8) (hmode : s.mode = .data)
    (hsize : s.dataSize = 0) : StaysInside (readLoopAt timing line s 0) ↔
      firstByte timing line ≠ some lf ∧ firstByte timing line ≠ some cr := by
  have hnone : StaysInside [] := fun i hi => absurd hi List.not_mem_nil
  have hquiet : (none : Option UInt8) ≠ some lf ∧ (none : Option UInt8) ≠ some cr := by decide
  cases timing with
  | nil => exact iff_of_true hnone hquiet
  | cons polls timing =>
      cases line with
      | nil => exact iff_of_true hnone hquiet
      | cons c line =>
          rw [readLoopAt, firstByte, patience, if_neg (Nat.lt_irrefl 0)]
          by_cases hlate : polls > 5000
          · rw [if_pos hlate, if_pos hlate]
            exact iff_of_true hnone hquiet
          · rw [if_neg hlate, if_neg hlate, Option.some_inj.ne, Option.some_inj.ne]
            dsimp only
            rw [staysInside_append]
            constructor
            · rintro ⟨hbyte, _⟩
              have hskip : ¬ (c = lf ∨ c = cr) := by
                intro hc
                have hbefore := hbyte (-1) (receivedAt_skip hmode hsize hc)
                unfold Inside at hbefore
                omega
              exact not_or.mp hskip
            · rintro ⟨hlf, hcr⟩
              rw [received_first hmode hsize hlf hcr]
              refine ⟨receivedAt_inside (by decide) fun _ => ?_, ?_⟩
              · unfold skipped
                rw [beq_eq_false_iff_ne.mpr hlf, beq_eq_false_iff_ne.mpr hcr]
                rfl
              · rw [if_neg Bool.false_ne_true]
                exact readLoopAt_inside timing line (show 1 < bufSize by decide)
                  fun _ => Nat.one_pos

end Loop

/-! ### How many bytes are counted -/

/-- What is taken of a line, with its end. -/
def lineLength : List UInt8 → Nat
  | [] => 0
  | c :: line => if c = lf then 1 else lineLength line + 1

/-- What is taken of the bytes ahead of a packet, with the line end if they are a line. -/
def textLength : List UInt8 → Nat
  | [] => 0
  | c :: line => if c = dollar then 0 else if c = lf then 1 else textLength line + 1

/-- What follows from the first `'$'` on, if there is no line end before it. -/
def packet : List UInt8 → List UInt8
  | [] => []
  | c :: line => if c = dollar then c :: line else if c = lf then [] else packet line

/-- What is taken of a packet: its header says how much, if it has one. -/
def packetLength : List UInt8 → Nat
  | _ :: _id :: _type :: low :: _high :: mark :: rest =>
    if mark = colon then min (rest.length + 6) (low.toNat + 6) else rest.length + 6
  | bytes => bytes.length

/-- What comes in time fits into the buffer, with a byte to spare. -/
def Bt.FitsInTime (s : Bt) (timing : List Nat) (line : List UInt8) : Prop :=
  match s.mode with
  | .cmd => lineLength (arrived timing line) < bufSize
  | .data =>
    (firstByte timing line ≠ some lf ∧ firstByte timing line ≠ some cr) ∧
      textLength (arrived timing line) < bufSize ∧
      packetLength (packet (arrived timing line)) < bufSize

section Count

variable {s : Bt} {n : Nat}

/-- A byte of a line. -/
theorem received_line (hmode : s.mode = .cmd) (hn : n < bufSize) {c : UInt8}
    (hskip : skipped n c = false) :
    received s n c = (s.setBuf n c, n + 1, c == lf || decide (n + 1 ≥ bufSize)) := by
  have hlast : (s.setBuf n c).last (n + 1) = c := by
    rw [Bt.last_pos _ (by omega), Nat.add_sub_cancel, Bt.setBuf_buf_self s n c hn]
  unfold received Bt.counted
  rw [hskip, if_neg Bool.false_ne_true, Bt.setBuf_mode, hmode]
  dsimp only
  rw [hlast, decide_eq_true (by omega), Bool.true_and]

/-- A line end that is skipped ahead of one. -/
theorem received_line_skip (hmode : s.mode = .cmd) {c : UInt8} (hc : c = lf ∨ c = cr) :
    received s 0 c = (s.setBuf 0 c, 0, false) := by
  have hskip : skipped 0 c = true := by
    rcases hc with rfl | rfl
    · decide
    · decide
  unfold received Bt.counted
  rw [hskip, if_pos rfl, Bt.setBuf_mode, hmode]
  rfl

theorem readLoop_line_count (timing : List Nat) (line : List UInt8) (hmode : s.mode = .cmd)
    (hpos : 0 < n) (hn : n < bufSize) : (readLoop timing line s n).2.1 < bufSize ↔
      n + lineLength (arriving timing line) < bufSize := by
  induction timing generalizing line s n with
  | nil => exact Iff.rfl
  | cons polls timing ih =>
      cases line with
      | nil => exact Iff.rfl
      | cons c line =>
          rw [readLoop, arriving, patience, if_pos hpos]
          by_cases hlate : polls > 50000
          · rw [if_pos hlate, if_pos hlate]
            exact Iff.rfl
          · rw [if_neg hlate, if_neg hlate, received_line hmode hn (skipped_pos hpos c),
              lineLength]
            dsimp only
            by_cases hlf : c = lf
            · rw [hlf, beq_self_eq_true, Bool.true_or, if_pos rfl, if_pos rfl]
            · rw [beq_eq_false_iff_ne.mpr hlf, Bool.false_or, if_neg hlf]
              by_cases hfull : n + 1 ≥ bufSize
              · rw [decide_eq_true hfull, if_pos rfl]
                dsimp only
                omega
              · rw [decide_eq_false hfull, if_neg Bool.false_ne_true,
                  ih line (by rw [Bt.setBuf_mode, hmode]) (by omega) (by omega)]
                omega

/-- In command mode the line has to fit. -/
theorem readLoop_line (timing : List Nat) (line : List UInt8) (hmode : s.mode = .cmd) :
    (readLoop timing line s 0).2.1 < bufSize ↔ lineLength (arrived timing line) < bufSize := by
  induction timing generalizing line s with
  | nil => exact Iff.rfl
  | cons polls timing ih =>
      cases line with
      | nil => exact Iff.rfl
      | cons c line =>
          rw [readLoop, arrived, patience, if_neg (Nat.lt_irrefl 0)]
          by_cases hlate : polls > 5000
          · rw [if_pos hlate, if_pos hlate]
            exact Iff.rfl
          · rw [if_neg hlate, if_neg hlate]
            by_cases hc : c = lf ∨ c = cr
            · rw [if_pos hc, received_line_skip hmode hc, if_neg Bool.false_ne_true]
              exact ih line (by rw [Bt.setBuf_mode, hmode])
            · rw [not_or] at hc
              have hskip : skipped 0 c = false := by
                unfold skipped
                rw [beq_eq_false_iff_ne.mpr hc.1, beq_eq_false_iff_ne.mpr hc.2]
                rfl
              rw [if_neg (not_or.mpr hc), received_line hmode (by decide) hskip, lineLength,
                beq_eq_false_iff_ne.mpr hc.1, Bool.false_or, decide_eq_false (by decide),
                if_neg Bool.false_ne_true, if_neg hc.1, Nat.add_comm (lineLength _)]
              exact readLoop_line_count timing line (by rw [Bt.setBuf_mode, hmode]) Nat.one_pos
                (show 1 < bufSize by decide)

/-- The payload is taken up to its size. -/
theorem feed_payload_count (line : List UInt8) (hmode : s.mode = .data)
    (hsize : 0 < s.dataSize) (hpos : 0 < n) (h0 : s.buf 0 = dollar) (hn : n < bufSize)
    (hle : n ≤ s.dataSize + 5) :
    (feed line s n).2 = min (n + line.length) (min (s.dataSize + 6) bufSize) := by
  induction line generalizing s n with
  | nil =>
      have hstay : (feed [] s n).2 = n := rfl
      rw [hstay, List.length_nil]
      omega
  | cons c line ih =>
      have h := received_payload hmode hsize hpos h0 c
      rw [List.length_cons]
      rcases hend : decide (n + 1 > s.dataSize + 5) || decide (n + 1 ≥ bufSize) with _ | _
      · rw [hend] at h
        rw [Bool.or_eq_false_iff, decide_eq_false_iff_not, decide_eq_false_iff_not] at hend
        have hsame := Bt.setBuf_dataSize s n c
        rw [feed_goes h, ih (by rw [Bt.setBuf_mode, hmode]) (by omega) (by omega)
          (by rw [Bt.setBuf_buf_of_ne s n c (by omega)]; exact h0) (by omega) (by omega), hsame]
        omega
      · rw [hend] at h
        rw [Bool.or_eq_true, decide_eq_true_eq, decide_eq_true_eq] at hend
        rw [feed_ends h]
        dsimp only
        omega

/-- Without a colon everything is taken until the buffer is full. -/
theorem feed_lost_count (line : List UInt8) (hmode : s.mode = .data) (hsize : s.dataSize = 0)
    (hpos : 6 ≤ n) (h0 : s.buf 0 = dollar) (h5 : s.buf 5 ≠ colon) (hn : n < bufSize) :
    (feed line s n).2 = min (n + line.length) bufSize := by
  induction line generalizing s n with
  | nil =>
      have hstay : (feed [] s n).2 = n := rfl
      rw [hstay, List.length_nil]
      omega
  | cons c line ih =>
      have hc : (s.setBuf n c).buf 5 ≠ colon := by
        rw [Bt.setBuf_buf_of_ne s n c (by omega)]
        exact h5
      have h := received_lost hmode hsize (by omega) h0 c hc
      rw [List.length_cons]
      rcases hend : decide (n + 1 ≥ bufSize) with _ | _
      · rw [hend] at h
        rw [decide_eq_false_iff_not] at hend
        rw [feed_goes h, ih (by rw [Bt.setBuf_mode, hmode]) (by rw [Bt.setBuf_dataSize, hsize])
          (by omega) (by rw [Bt.setBuf_buf_of_ne s n c (by omega)]; exact h0) hc (by omega)]
        omega
      · rw [hend] at h
        rw [decide_eq_true_eq] at hend
        rw [feed_ends h]
        dsimp only
        omega

/-- A packet, from the byte after its `'$'` on. -/
theorem feed_packet_count (line : List UInt8) (hmode : s.mode = .data) (hsize : s.dataSize = 0)
    (h0 : s.buf 0 = dollar) :
    (feed line s 1).2 < bufSize ↔ packetLength (dollar :: line) < bufSize := by
  have hbuf : bufSize = 128 := rfl
  have hshort : line.length ≤ 4 → packetLength (dollar :: line) = line.length + 1 →
      ((feed line s 1).2 < bufSize ↔ packetLength (dollar :: line) < bufSize) := by
    intro hlen hpacket
    have hcount := (feed_count line s 1 (by omega) (by decide)).1
    rw [hpacket]
    omega
  rcases line with _ | ⟨id, _ | ⟨type, _ | ⟨low, _ | ⟨high, _ | ⟨mark, rest⟩⟩⟩⟩⟩
  · exact hshort (by decide) rfl
  · exact hshort (by rw [List.length_singleton]; omega) rfl
  · exact hshort (Nat.le_of_ble_eq_true rfl) rfl
  · exact hshort (Nat.le_of_ble_eq_true rfl) rfl
  · exact hshort (Nat.le_of_ble_eq_true rfl) rfl
  · rcases s.withHeader_buf id type low high mark with ⟨hb0, _, _, hb3, hb5⟩
    rcases s.withHeader_keeps id type low high mark with ⟨hkeep, hsize', _⟩
    rw [feed_header s id type low high mark hmode hsize h0, packetLength]
    by_cases hmark : mark = colon
    · rw [if_pos hmark, if_pos hmark]
      by_cases hzero : low = 0
      · rw [if_pos hzero, hzero, UInt8.toNat_zero]
        dsimp only
        omega
      · have hpos : 0 < low.toNat := by
          rw [Nat.pos_iff_ne_zero]
          exact fun h => hzero (UInt8.toNat_inj.mp h)
        have haccept : (s.withHeader id type low high mark).accept.dataSize = low.toNat := rfl
        have hcount := feed_payload_count (s := (s.withHeader id type low high mark).accept)
          (n := 6) rest (hkeep.trans hmode) (by rw [haccept]; exact hpos) (by omega)
          (hb0.trans h0) (by decide) (by rw [haccept]; omega)
        rw [if_neg hzero, hcount, haccept]
        omega
    · rw [if_neg hmark, if_neg hmark, feed_lost_count rest (hkeep.trans hmode)
        (hsize'.trans hsize) (by omega) (hb0.trans h0) (by rw [hb5]; exact hmark) (by decide)]
      omega

/-- The bytes ahead of a packet, and the packet. -/
theorem feed_text_count (line : List UInt8) (hmode : s.mode = .data) (hsize : s.dataSize = 0)
    (hpos : 0 < n) (hn : n < bufSize) (h0 : s.buf 0 ≠ dollar) :
    (feed line s n).2 < bufSize ↔
      n + textLength line < bufSize ∧ packetLength (packet line) < bufSize := by
  have hbuf : bufSize = 128 := rfl
  have hnone : packetLength [] < bufSize := by decide
  induction line generalizing s n with
  | nil => exact ⟨fun _ => ⟨hn, hnone⟩, fun _ => hn⟩
  | cons c line ih =>
      rw [textLength, packet]
      by_cases hc : c = dollar
      · -- The packet starts the buffer again.
        rw [if_pos hc, if_pos hc, hc, feed_goes (received_restart hmode hsize hpos hn h0),
          feed_packet_count line (by rw [Bt.setBuf_mode, Bt.setBuf_mode, hmode])
            (by rw [Bt.setBuf_dataSize, Bt.setBuf_dataSize, hsize])
            (Bt.setBuf_buf_self _ 0 dollar (by decide))]
        exact ⟨fun h => ⟨hn, h⟩, fun h => h.2⟩
      · have h := received_junk hmode hsize hpos hn h0 hc
        rw [if_neg hc, if_neg hc]
        by_cases hlf : c = lf
        · rw [hlf, beq_self_eq_true, Bool.true_or] at h
          rw [if_pos hlf, if_pos hlf, hlf, feed_ends h]
          exact ⟨fun h => ⟨h, hnone⟩, fun h => h.1⟩
        · rw [if_neg hlf, if_neg hlf]
          rw [beq_eq_false_iff_ne.mpr hlf, Bool.false_or] at h
          by_cases hfull : n + 1 ≥ bufSize
          · rw [decide_eq_true hfull] at h
            rw [feed_ends h]
            dsimp only
            omega
          · rw [decide_eq_false hfull] at h
            have hrest := ih (s := s.setBuf n c) (n := n + 1) (by rw [Bt.setBuf_mode, hmode])
              (by rw [Bt.setBuf_dataSize, hsize]) (by omega) (by omega)
              (by rw [Bt.setBuf_buf_of_ne s n c (by omega)]; exact h0)
            rw [feed_goes h, Nat.add_comm (textLength line), ← Nat.add_assoc]
            exact hrest

/-- In data mode a packet has to fit, and so have the bytes ahead of it. -/
theorem readLoop_data (timing : List Nat) (line : List UInt8) (hmode : s.mode = .data)
    (hsize : s.dataSize = 0) : (readLoop timing line s 0).2.1 < bufSize ↔
      textLength (arrived timing line) < bufSize ∧
        packetLength (packet (arrived timing line)) < bufSize := by
  rcases readLoop_arrived timing line s hmode hsize with ⟨d, _, hcount⟩
  have hmode' : (s.setBuf 0 d).mode = .data := by rw [Bt.setBuf_mode, hmode]
  have hsize' : (s.setBuf 0 d).dataSize = 0 := by rw [Bt.setBuf_dataSize, hsize]
  rw [hcount]
  cases hbytes : arrived timing line with
  | nil => exact iff_of_true (show 0 < bufSize by decide) ⟨by decide, by decide⟩
  | cons c more =>
      rcases arrived_head timing line hbytes with ⟨hlf, hcr⟩
      rw [feed_goes (received_first hmode' hsize' hlf hcr), Bt.setBuf_zero_zero]
      have hmode'' : (s.setBuf 0 c).mode = .data := by rw [Bt.setBuf_mode, hmode]
      have hsize'' : (s.setBuf 0 c).dataSize = 0 := by rw [Bt.setBuf_dataSize, hsize]
      have hfirst : (s.setBuf 0 c).buf 0 = c := Bt.setBuf_buf_self s 0 c (by decide)
      rw [textLength, packet]
      by_cases hc : c = dollar
      · rw [if_pos hc, if_pos hc, feed_packet_count more hmode'' hsize'' (hfirst.trans hc), hc]
        exact ⟨fun h => ⟨by decide, h⟩, fun h => h.2⟩
      · rw [if_neg hc, if_neg hc, if_neg hlf, if_neg hlf, feed_text_count more hmode'' hsize''
          Nat.one_pos (by decide) (by rw [hfirst]; exact hc), Nat.add_comm 1]

end Count

/-- A call stays inside its buffer if and only if what comes in time fits, and does not begin
    with a line end in data mode. -/
theorem readAt_inside_iff (timing : List Nat) (line : List UInt8) (s : Bt) :
    StaysInside (readAt timing line s) ↔ s.present = false ∨ s.FitsInTime timing line := by
  unfold readAt
  by_cases hpresent : s.present = false
  · rw [if_pos hpresent]
    exact iff_of_true (fun i hi => absurd hi List.not_mem_nil) (Or.inl hpresent)
  · have hcast : ∀ n : Nat, Inside (n : Int) ↔ n < bufSize := fun n => by
      unfold Inside
      omega
    have hnone : StaysInside [] := fun i hi => absurd hi List.not_mem_nil
    have hkeep : ({ s with dataId := 0, dataSize := 0 } : Bt).mode = s.mode := rfl
    have hzero : ({ s with dataId := 0, dataSize := 0 } : Bt).dataSize = 0 := rfl
    dsimp only
    generalize ({ s with dataId := 0, dataSize := 0 } : Bt) = t at *
    rw [if_neg hpresent, or_iff_right hpresent, staysInside_append, staysInside_cons, hcast]
    unfold Bt.FitsInTime
    cases hmode : s.mode with
    | cmd =>
        have hloop : StaysInside (readLoopAt timing line t 0) :=
          readLoopAt_inside timing line (by decide) fun h =>
            Mode.noConfusion (hmode.symm.trans (hkeep.symm.trans h))
        have hline := readLoop_line timing line (hkeep.trans hmode)
        exact ⟨fun h => hline.mp h.2.1, fun h => ⟨hloop, hline.mpr h, hnone⟩⟩
    | data =>
        have hloop := readLoopAt_inside_iff timing line (hkeep.trans hmode) hzero
        have hfits := readLoop_data timing line (hkeep.trans hmode) hzero
        exact ⟨fun h => ⟨hloop.mp h.1, hfits.mp h.2.1⟩,
          fun h => ⟨hloop.mpr h.1, hfits.mpr h.2, hnone⟩⟩

/-- A driver in some mode, with an empty buffer. -/
def listening (mode : Mode) : Bt where
  present := true
  mode := mode
  dataId := 0
  dataType := 0
  dataSize := 0
  deviceName := (0, 0)
  data := 0
  eventBuf := .null
  buf := fun _ => 0
  btPower := 0

/-- In data mode a line end comes first, and the byte before the buffer is looked at. In
    command mode a line without its end fills the buffer, and the NUL is written behind it. -/
theorem readAt_outside : -1 ∈ readAt [0] [lf] (listening .data) ∧
    ¬ StaysInside (readAt [0] [lf] (listening .data)) ∧
    ¬ StaysInside (readAt (List.replicate 128 0) (List.replicate 128 65) (listening .cmd)) := by
  have hbefore : -1 ∈ readAt [0] [lf] (listening .data) := by decide
  have hbehind : 128 ∈ readAt (List.replicate 128 0) (List.replicate 128 65) (listening .cmd) := by
    decide +kernel
  refine ⟨hbefore, fun h => ?_, fun h => ?_⟩
  · exact absurd (h (-1) hbefore).1 (by decide)
  · exact absurd (h 128 hbehind).2 (by decide)

end Bluetooth

end TimelapsePlus
