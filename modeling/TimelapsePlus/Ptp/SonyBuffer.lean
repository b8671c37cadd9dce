import TimelapsePlus.Ptp.SonyStream
import TimelapsePlus.Lib.Loop

/-!
# Sony Properties Read through the Buffer

The reply to `SONY_OC_GET_CONFIG` does not fit the buffer, and is read through
it: once more than half of it has been read the rest is carried over to the
front and the buffer filled up again. No property is longer than the other half,
so each lies in the buffer when it is read, wherever the cut falls. What the loop
makes of the reply is then what it would make of it in one buffer as long as the
reply.

That is so as long as the length of the reply is a word. The driver cuts a longer
one to its lower 16 bits and never asks for the rest, and a property that only
comes there is not read.

## Main definitions

* `sonyTurn`, `sonyStart`, `sonyReadProperties`: `PTP::sonyReadProperties`.
* `sonyWhole`: The same loop on the whole reply.
* `SonyFrame.looksAt`: Where a turn looks in the buffer.
* `ReadsWhole`: What is asked of the loop.
* `Aligned`: The loop stands at a property of the reply.
* `Spared`: A byte that does not come.

## Theorems

* `aligned_fetch`, `aligned_read`: A turn fetches, or goes on to the next property.
* `aligned_ends`: The loop reads all the properties that are left.
* `inside_looksAt`: It looks at the buffer only.
* `readsWhole_short`: A reply whose length is a word is read.
* `sonyReadProperties_spared`: Nothing is learnt from what has no byte of the codes.
* `long_not_readsWhole`: A longer reply may keep its only property to the end.
* `readsWhole_iff`: The lengths of which every reply is read.
* `properties_cut`: A reply that is not.
-/

namespace TimelapsePlus

namespace Ptp

open Word Usb

/-- A turn of the loop, with the camera as the loop leaves it. -/
def sonyTurn (t : SonyFrame × Camera) : Except (Nat × Driver × Camera) (SonyFrame × Camera) :=
  match t.1.turn t.2 with
  | .error (err, d) => .error (err, d, t.2)
  | .ok u => .ok u

/-- `PTP::sonyReadProperties` up to its loop. -/
def sonyStart (d : Driver) (c : Camera) : Except (Nat × Driver × Camera) (SonyFrame × Camera) :=
  let c := { c with needUpdate := false }
  let r := d.transaction sonyOcGetConfig true [] []
  if r.1 = .error then .error (1, r.2, c) else .ok (⟨8, r.1, r.2⟩, c)

/-- `PTP::sonyReadProperties`, if its loop takes no more than so many turns. -/
def sonyReadProperties (fuel : Nat) (d : Driver) (c : Camera) : Option (Nat × Driver × Camera) :=
  match sonyStart d c with
  | .error r => some r
  | .ok t => Loop.run sonyTurn fuel t

/-- The loop with the whole reply in one buffer, however long. -/
def wholeFrame (reply : List UInt8) (d : Driver) : SonyFrame :=
  ⟨8, .ok, { d with buffer := bytes reply, bytesReceived := reply.length }⟩

def sonyWhole (fuel : Nat) (reply : List UInt8) (d : Driver) (c : Camera) :
    Option (Nat × Driver × Camera) :=
  Loop.run sonyTurn fuel (wholeFrame reply d, { c with needUpdate := false })

/-- Where in the buffer a turn looks: at what it carries over, or at a property. -/
def SonyFrame.looksAt (f : SonyFrame) : List Nat :=
  if f.driver.bytesReceived ≤ f.i then []
  else if f.ret = .dataRemaining ∧ bufferSize / 2 < f.i then List.range' f.i (bufferSize - f.i)
  else (readProperty f.i).touched f.driver.buffer

/-- The same is known of the camera's ISO and shutter. -/
structure SameProperties (c c' : Camera) : Prop where
  isoAvail : c.isoAvail = c'.isoAvail
  isoPTP : c.isoPTP = c'.isoPTP
  shutterPTP : c.shutterPTP = c'.shutterPTP
  supports : c.supports = c'.supports

/-- The loop ends, with what reading the whole reply in one buffer gives, and never looks
    behind its own. -/
structure ReadsWhole (reply : List UInt8) (d : Driver) (c : Camera) : Prop where
  same : ∃ fuel r w, sonyReadProperties fuel d c = some r ∧ sonyWhole fuel reply d c = some w ∧
    SameProperties r.2.2 w.2.2
  inside : ∀ start, sonyStart d c = .ok start → ∀ n t, Loop.after sonyTurn n start = some t →
    ∀ j ∈ t.1.looksAt, j < bufferSize

/-- The properties take effect, one after the other. -/
def Camera.applyRecords (c : Camera) (rs : List SonyRecord) : Camera :=
  rs.foldl (fun c r => c.applySony r.property) c

/-- The loop stands at a property of the reply, and these are left. While data remain the
    buffer is full, and the index not far behind its middle. -/
structure Aligned (f : SonyFrame) (reply : List UInt8) (base : Nat) (rs : List SonyRecord) :
    Prop where
  shows : ∀ j, j < f.driver.bytesReceived → f.driver.buffer j = bytes reply (base + j)
  drop : reply.drop (base + f.i) = rs.flatMap SonyRecord.bytes
  le : base + f.i ≤ reply.length
  more : f.ret = .dataRemaining →
    Window f.driver reply base [] ∧ 0 < f.driver.bytesRemaining ∧ f.i ≤ bufferSize / 2 + 273
  last : f.ret ≠ .dataRemaining → base + f.driver.bytesReceived = reply.length

theorem length_record_le (r : SonyRecord) : 0 < r.bytes.length ∧ r.bytes.length ≤ 273 := by
  have hsize : r.size = 1 ∨ r.size = 2 ∨ r.size = 4 := sonySize_cases r.typed
  have hform : r.form.length ≤ 3 := by
    unfold SonyRecord.form
    split
    · exact Nat.le_of_ble_eq_true rfl
    · rw [List.length_cons, length_encode]
  have hmul : r.size * r.items.length ≤ 4 * 64 :=
    Nat.mul_le_mul (by omega) r.items_length.1
  rw [length_record]
  omega

section Aligned

variable {f : SonyFrame} {reply : List UInt8} {base : Nat}

theorem Aligned.length {rs : List SonyRecord} (h : Aligned f reply base rs) :
    reply.length = base + f.i + (rs.flatMap SonyRecord.bytes).length := by
  have hle := h.le
  rw [← h.drop, List.length_drop]
  omega

/-- While data remain the buffer is full, and there are more than it holds. -/
theorem Aligned.full {rs : List SonyRecord} (h : Aligned f reply base rs)
    (hret : f.ret = .dataRemaining) :
    f.driver.bytesReceived = bufferSize ∧ base + bufferSize < reply.length := by
  obtain ⟨hw, hrem, -⟩ := h.more hret
  have hreceived := hw.received
  have hremaining := hw.remaining
  omega

/-- Without a property left the buffer has been read. -/
theorem aligned_over (h : Aligned f reply base []) : f.driver.bytesReceived ≤ f.i := by
  have hlength := h.length
  rw [List.flatMap_nil, List.length_nil, Nat.add_zero] at hlength
  have hret : f.ret ≠ .dataRemaining := by
    intro hret
    have hfull := h.full hret
    have hsmall := (h.more hret).2.2
    have hsize : bufferSize = 900 := rfl
    omega
  have hlast := h.last hret
  omega

theorem aligned_nil (h : Aligned f reply base []) (c : Camera) :
    f.turn c = .error (0, f.driver) := by
  unfold SonyFrame.turn
  rw [if_pos (aligned_over h)]

/-- Otherwise the index is in the buffer. -/
theorem aligned_lt {r : SonyRecord} {rs : List SonyRecord} (h : Aligned f reply base (r :: rs)) :
    f.i < f.driver.bytesReceived := by
  have hlength := h.length
  rw [List.flatMap_cons, List.length_append] at hlength
  have hpos := (length_record_le r).1
  by_cases hret : f.ret = .dataRemaining
  · have hfull := h.full hret
    have hsmall := (h.more hret).2.2
    have hsize : bufferSize = 900 := rfl
    omega
  · have hlast := h.last hret
    omega

/-- Behind the middle of the buffer, while data remain, a turn fetches. -/
theorem aligned_fetch {rs : List SonyRecord} (h : Aligned f reply base rs) (c : Camera)
    (hlt : f.i < f.driver.bytesReceived)
    (hfetch : f.ret = .dataRemaining ∧ bufferSize / 2 < f.i) :
    ∃ f', f.turn c = .ok (f', c) ∧ Aligned f' reply (base + f.i) rs ∧
      f'.driver.bytesRemaining < f.driver.bytesRemaining ∧
      f'.driver.bytesReceived ≤ bufferSize := by
  have hsize : bufferSize = 900 := rfl
  obtain ⟨hw, hrem, hsmall⟩ := h.more hfetch.1
  have hfull := h.full hfetch.1
  have hle := h.le
  have hoff : bufferSize - f.i < bufferSize := by omega
  rcases fetchData_window f.driver reply base (bufferSize - f.i) [] hw hrem hoff with
    ⟨d', heq, hw'⟩
  have hbase : base + bufferSize - (bufferSize - f.i) = base + f.i := by omega
  have hless := f.driver.fetchData_remaining_lt (bufferSize - f.i) hrem hoff
  rw [hbase] at hw'
  rw [heq] at hless
  have hreceived := hw'.received
  have hremaining := hw'.remaining
  refine ⟨⟨0, if d'.bytesRemaining = 0 then .ok else .dataRemaining, d'⟩, ?_, ?_, hless, by
    simp only; omega⟩
  · have hgood : ¬ (if d'.bytesRemaining = 0 then Ret.ok else .dataRemaining) = .error := by
      split <;> exact Ret.noConfusion
    unfold SonyFrame.turn
    simp only [if_neg (Nat.not_le.mpr hlt), if_pos hfetch, heq, if_neg hgood]
  · refine ⟨hw'.shows, h.drop, h.le, fun hret => ⟨hw', ?_, Nat.zero_le _⟩, fun hret => ?_⟩
    · by_contra hzero
      simp only [if_pos (Nat.eq_zero_of_not_pos hzero)] at hret
      exact Ret.noConfusion hret
    · simp only at hret ⊢
      by_cases hzero : d'.bytesRemaining = 0
      · omega
      · rw [if_neg hzero] at hret
        exact absurd rfl hret

/-- Otherwise it reads the next property, which lies in the buffer. -/
theorem aligned_read {r : SonyRecord} {rs : List SonyRecord} (h : Aligned f reply base (r :: rs))
    (c : Camera) (hfetch : ¬ (f.ret = .dataRemaining ∧ bufferSize / 2 < f.i)) :
    f.turn c = .ok ({ f with i := f.i + r.bytes.length }, c.applySony r.property) ∧
      Aligned { f with i := f.i + r.bytes.length } reply base rs ∧
      Holds f.driver.buffer f.i r.bytes ∧ f.i + r.bytes.length ≤ f.driver.bytesReceived := by
  have hsize : bufferSize = 900 := rfl
  have hrecord := length_record_le r
  have hlt := aligned_lt h
  have hlength := h.length
  rw [List.flatMap_cons, List.length_append] at hlength
  have hfit : f.i + r.bytes.length ≤ f.driver.bytesReceived := by
    by_cases hret : f.ret = .dataRemaining
    · have hfull := h.full hret
      have hhalf : ¬ bufferSize / 2 < f.i := fun hhalf => hfetch ⟨hret, hhalf⟩
      omega
    · have hlast := h.last hret
      omega
  have hdrop := h.drop
  rw [List.flatMap_cons] at hdrop
  have hholds := holds_of_window h.shows hdrop hfit
  refine ⟨?_, ⟨h.shows, ?_, ?_, fun hret => ?_, h.last⟩, hholds, hfit⟩
  · unfold SonyFrame.turn
    simp only [if_neg (Nat.not_le.mpr hlt), if_neg hfetch,
      sonyProperty_eq hholds]
  · have hrest := congrArg (List.drop r.bytes.length) hdrop
    rwa [List.drop_drop, List.drop_left, Nat.add_assoc] at hrest
  · simp only
    omega
  · obtain ⟨hw, hrem, -⟩ := h.more hret
    refine ⟨hw, hrem, ?_⟩
    have hhalf : ¬ bufferSize / 2 < f.i := fun hhalf => hfetch ⟨hret, hhalf⟩
    simp only
    omega

/-- From where it stands the loop reads all the properties that are left. -/
theorem aligned_ends {rs : List SonyRecord} (h : Aligned f reply base rs) (c : Camera) :
    ∃ d', Loop.Ends sonyTurn (f, c) (0, d', c.applyRecords rs) := by
  induction hn : rs.length + f.driver.bytesRemaining using Nat.strong_induction_on
    generalizing f base rs c with
  | _ n ih =>
      cases rs with
      | nil =>
          refine ⟨f.driver, Loop.ends_of_throw sonyTurn ?_⟩
          simp only [sonyTurn, aligned_nil h c, Camera.applyRecords, List.foldl_nil]
      | cons r rs =>
          have hlt := aligned_lt h
          by_cases hfetch : f.ret = .dataRemaining ∧ bufferSize / 2 < f.i
          · rcases aligned_fetch h c hlt hfetch with ⟨f', hturn, h', hless, -⟩
            rcases ih _ (by omega) h' c rfl with ⟨d', hends⟩
            have hstep : sonyTurn (f, c) = .ok (f', c) := by
              simp only [sonyTurn, hturn]
            exact ⟨d', (Loop.ends_iff_of_reaches (Loop.reaches_of_ok hstep) _).mpr hends⟩
          · rcases aligned_read h c hfetch with ⟨hturn, h', -, -⟩
            rcases ih _ (by rw [← hn, List.length_cons]; simp only; omega) h'
              (c.applySony r.property) rfl with ⟨d', hends⟩
            have hstep : sonyTurn (f, c) =
                .ok ({ f with i := f.i + r.bytes.length }, c.applySony r.property) := by
              simp only [sonyTurn, hturn]
            exact ⟨d', (Loop.ends_iff_of_reaches (Loop.reaches_of_ok hstep) _).mpr hends⟩

/-- The loop stands at a property, and has received no more than the buffer holds. -/
def Inside (reply : List UInt8) (f : SonyFrame) : Prop :=
  (∃ base rs, Aligned f reply base rs) ∧ f.driver.bytesReceived ≤ bufferSize

theorem inside_turn {t u : SonyFrame × Camera} (h : Inside reply t.1) (hturn : sonyTurn t = .ok u) :
    Inside reply u.1 := by
  rcases h with ⟨⟨base, rs, h⟩, hle⟩
  cases rs with
  | nil =>
      simp only [sonyTurn, aligned_nil h t.2, reduceCtorEq] at hturn
  | cons r rs =>
      by_cases hfetch : t.1.ret = .dataRemaining ∧ bufferSize / 2 < t.1.i
      · rcases aligned_fetch h t.2 (aligned_lt h) hfetch with ⟨f', heq, h', -, hle'⟩
        simp only [sonyTurn, heq, Except.ok.injEq] at hturn
        rw [← hturn]
        exact ⟨⟨_, _, h'⟩, hle'⟩
      · rcases aligned_read h t.2 hfetch with ⟨heq, h', -, -⟩
        simp only [sonyTurn, heq, Except.ok.injEq] at hturn
        rw [← hturn]
        exact ⟨⟨_, _, h'⟩, hle⟩

/-- A turn looks at the buffer only. -/
theorem inside_looksAt (h : Inside reply f) : ∀ j ∈ f.looksAt, j < bufferSize := by
  intro j hj
  rcases h with ⟨⟨base, rs, h⟩, hle⟩
  unfold SonyFrame.looksAt at hj
  by_cases hover : f.driver.bytesReceived ≤ f.i
  · rw [if_pos hover] at hj
    exact absurd hj List.not_mem_nil
  rw [if_neg hover] at hj
  by_cases hfetch : f.ret = .dataRemaining ∧ bufferSize / 2 < f.i
  · rw [if_pos hfetch, List.mem_range'_1] at hj
    omega
  · rw [if_neg hfetch] at hj
    cases rs with
    | nil => exact absurd (aligned_over h) hover
    | cons r rs =>
        rcases aligned_read h (Camera.fresh .sony) hfetch with ⟨-, -, hholds, hfit⟩
        have hlt := readProperty_touched hholds hj
        omega

end Aligned

section Short

variable {s : SonyStream} {d : Driver}

theorem drop_header (s : SonyStream) : s.bytes.drop 8 = s.records.flatMap SonyRecord.bytes := by
  unfold SonyStream.bytes
  rw [← s.header_length, List.drop_left]

theorem header_le (s : SonyStream) : 8 ≤ s.bytes.length := by
  unfold SonyStream.bytes
  rw [List.length_append, s.header_length]
  exact Nat.le_add_right _ _

/-- In one buffer the whole reply is read. -/
theorem whole_ends (s : SonyStream) (d : Driver) (c : Camera) :
    ∃ d', Loop.Ends sonyTurn (wholeFrame s.bytes d, c) (0, d', c.applyRecords s.records) := by
  have haligned : Aligned (wholeFrame s.bytes d) s.bytes 0 s.records := by
    refine ⟨fun j _ => ?_, ?_, ?_, fun hret => Ret.noConfusion hret, fun _ => Nat.zero_add _⟩
    · rw [Nat.zero_add]
      rfl
    · rw [Nat.zero_add]
      exact drop_header s
    · rw [Nat.zero_add]
      exact header_le s
  exact aligned_ends haligned c

/-- The transaction puts the loop at the first property. -/
theorem start_aligned (h : Answers d sonyOcGetConfig s.bytes) (c : Camera) :
    ∃ f, sonyStart d c = .ok (f, { c with needUpdate := false }) ∧
      Aligned f s.bytes 0 s.records ∧ f.driver.bytesReceived ≤ bufferSize := by
  rcases transaction_window d sonyOcGetConfig [] s.bytes h with ⟨d', heq, hw, -⟩
  have hreceived := hw.received
  have hremaining := hw.remaining
  have hstart : 8 ≤ bufferSize / 2 + 273 := by decide
  refine ⟨⟨8, if d'.bytesRemaining = 0 then .ok else .dataRemaining, d'⟩, ?_, ?_, by
    simp only; omega⟩
  · have hgood : ¬ (if d'.bytesRemaining = 0 then Ret.ok else .dataRemaining) = .error := by
      split <;> exact Ret.noConfusion
    simp only [sonyStart, heq, if_neg hgood]
  · refine ⟨hw.shows, ?_, ?_, fun hret => ⟨hw, ?_, hstart⟩, fun hret => ?_⟩
    · rw [Nat.zero_add]
      exact drop_header s
    · rw [Nat.zero_add]
      exact header_le s
    · by_contra hzero
      simp only [if_pos (Nat.eq_zero_of_not_pos hzero)] at hret
      exact Ret.noConfusion hret
    · simp only at hret ⊢
      by_cases hzero : d'.bytesRemaining = 0
      · omega
      · rw [if_neg hzero] at hret
        exact absurd rfl hret

/-- A reply whose length is a word is read through the buffer as it would be in one. -/
theorem readsWhole_short (h : Answers d sonyOcGetConfig s.bytes) (c : Camera) :
    ReadsWhole s.bytes d c := by
  rcases start_aligned h c with ⟨f, hstart, haligned, hle⟩
  refine ⟨?_, fun start heq n t hafter => ?_⟩
  · rcases aligned_ends haligned { c with needUpdate := false } with ⟨d', m, hread⟩
    rcases whole_ends s d { c with needUpdate := false } with ⟨d'', n, hwhole⟩
    have hsame : ∀ c' : Camera, SameProperties c' c' := fun _ => ⟨rfl, rfl, rfl, rfl⟩
    refine ⟨max m n, (0, d', _), (0, d'', _), ?_,
      Loop.run_mono sonyTurn _ _ (Nat.le_max_right m n) hwhole, hsame _⟩
    simp only [sonyReadProperties, hstart]
    exact Loop.run_mono sonyTurn _ _ (Nat.le_max_left m n) hread
  · rw [hstart, Except.ok.injEq] at heq
    have hinside : Inside s.bytes start.1 := heq ▸ ⟨⟨0, s.records, haligned⟩, hle⟩
    exact inside_looksAt (Loop.after_inv sonyTurn (fun u => Inside s.bytes u.1)
      (fun _ _ hu hturn => inside_turn hu hturn) n start t hinside hafter)

end Short

section Spared

variable {b : UInt8}

/-- No byte that the driver has, or is still to read, is this one. -/
def Spared (b : UInt8) (d : Driver) : Prop :=
  (∀ i, d.buffer i ≠ b) ∧ ∀ x ∈ d.usb.packets.flatten.take d.bytesRemaining, x ≠ b

/-- A read takes what it reads off the packets, as far as they go. -/
theorem readStream_flatten (wait : Silence) (n : Nat) (ps : List (List UInt8)) :
    (readStream wait n ps).1 = ps.flatten.take n ∧
      (readStream wait n ps).2.1.flatten = ps.flatten.drop n := by
  induction ps generalizing n with
  | nil => simp only [readStream, List.flatten_nil, List.take_nil, List.drop_nil, and_self]
  | cons p ps ih =>
      rw [readStream, List.flatten_cons]
      by_cases hp : n ≤ p.length
      · rw [if_pos hp, List.take_append_of_le_length hp, List.drop_append_of_le_length hp,
          List.flatten_cons]
        exact ⟨rfl, rfl⟩
      · have hlt : p.length ≤ n := Nat.le_of_not_le hp
        rw [if_neg hp, List.take_append, List.drop_append, List.take_of_length_le hlt,
          List.drop_of_length_le hlt, List.nil_append]
        exact ⟨congrArg (p ++ ·) (ih _).1, (ih _).2⟩

theorem store_ne {mem : Nat → UInt8} {l : List UInt8} (dst : Nat) (hmem : ∀ i, mem i ≠ b)
    (hl : ∀ x ∈ l, x ≠ b) (i : Nat) : store mem dst l i ≠ b := by
  by_cases hin : dst ≤ i ∧ i < dst + l.length
  · rw [store_of_mem _ _ _ hin.1 hin.2]
    unfold bytes
    have hlt : i - dst < l.length := by omega
    rw [List.getD_eq_getElem?_getD, List.getElem?_eq_getElem hlt, Option.getD_some]
    exact hl _ (List.getElem_mem hlt)
  · rw [store_of_not_mem _ _ _ (by omega)]
    exact hmem i

/-- Reading some of what is still to be read brings no other byte. -/
theorem readData_spared (h : Host) {buffer : Nat → UInt8} (dst : Nat) {n k : Nat} (hle : n ≤ k)
    (hbuffer : ∀ i, buffer i ≠ b) (hpackets : ∀ x ∈ h.packets.flatten.take k, x ≠ b) :
    (∀ i, (readData h buffer dst n).2.1 i ≠ b) ∧
      ∀ x ∈ (readData h buffer dst n).2.2.packets.flatten.take (k - n), x ≠ b := by
  unfold readData
  by_cases hconf : h.configured = false
  · simp only [if_pos hconf]
    refine ⟨hbuffer, fun x hx => hpackets x ?_⟩
    exact (List.take_subset_take_left _ (Nat.sub_le k n)) hx
  · simp only [if_neg hconf, (readStream_flatten h.wait n h.packets).1,
      (readStream_flatten h.wait n h.packets).2]
    refine ⟨store_ne dst hbuffer fun x hx => hpackets x ?_, fun x hx => hpackets x ?_⟩
    · exact (List.take_subset_take_left _ hle) hx
    · rw [← List.drop_take] at hx
      exact List.mem_of_mem_drop hx

theorem fetchLength_le (remaining offset : Nat) : fetchLength remaining offset ≤ remaining := by
  unfold fetchLength
  grind

theorem fetchData_spared {d : Driver} (h : Spared b d) (offset : Nat) :
    Spared b (d.fetchData offset).2 := by
  unfold Driver.fetchData
  by_cases hrem : 0 < d.bytesRemaining
  · have hcarry : ∀ i, carryOver d.buffer offset i ≠ b := by
      intro i
      unfold carryOver
      split
      · exact h.1 _
      · exact h.1 _
    have hread := readData_spared d.usb offset (fetchLength_le d.bytesRemaining offset) hcarry h.2
    rw [if_pos hrem]
    simp only
    split
    · exact hread
    · split
      · rename_i hzero
        -- The response is read now, and nothing of the reply is left.
        have hnone : ∀ l : List UInt8, ∀ x ∈ l.take (d.bytesRemaining -
            fetchLength d.bytesRemaining offset), x ≠ b := by
          intro l x hx
          rw [hzero, List.take_zero] at hx
          exact absurd hx List.not_mem_nil
        split
        · exact ⟨hread.1, hnone _⟩
        · exact ⟨hread.1, hnone _⟩
      · exact hread
  · rw [if_neg hrem]
    exact h

/-- The data phase brings no other byte than the reply has, as far as it is counted. -/
theorem receiveData_spared {d : Driver} {opCode : Nat} (hbuffer : ∀ i, d.buffer i ≠ b)
    (hpackets : ∀ x ∈ d.usb.packets.flatten.take d.bytesReceived, x ≠ b)
    (hgood : (d.receiveData opCode noError).1 ≠ .error) :
    Spared b (d.receiveData opCode noError).2 := by
  unfold Driver.receiveData at hgood ⊢
  rw [if_neg (not_not.mpr rfl)] at hgood ⊢
  by_cases hlong : bufferSize < d.bytesReceived
  · have hread := readData_spared d.usb 0 (Nat.le_of_lt hlong) hbuffer hpackets
    simp only [if_pos hlong] at hgood ⊢
    by_cases herr : (readData d.usb d.buffer 0 bufferSize).1 = noError
    · rw [if_pos herr]
      exact hread
    · rw [if_neg herr] at hgood
      exact absurd (Driver.receiveEnd_error _ _ _ herr) hgood
  · -- The whole of a short reply is read at once.
    have hend : ∀ (d' : Driver) (err : Nat), (∀ i, d'.buffer i ≠ b) → d'.bytesRemaining = 0 →
        Spared b (d'.receiveEnd opCode err).2 := by
      intro d' err hb hzero
      obtain ⟨-, hremaining, hsame, -⟩ := Driver.receiveEnd_frame d' opCode err
      refine ⟨fun i => by rw [hsame]; exact hb i, fun x hx => ?_⟩
      rw [hremaining, hzero, List.take_zero] at hx
      exact absurd hx List.not_mem_nil
    rw [if_neg hlong]
    split
    · exact hend _ _ (readData_spared d.usb 0 (Nat.le_refl _) hbuffer hpackets).1 rfl
    · exact hend _ _ hbuffer rfl

/-- Without one of the bytes of their codes the properties that count are not found. -/
theorem applySony_spared {d : Driver} (h : Spared 0xD2 d) {i next : Nat} {p : SonyProperty}
    (hread : sonyProperty d.buffer i = .ok (p, next)) (c : Camera) : c.applySony p = c := by
  have hcode : p.code = le16 d.buffer i := by
    unfold sonyProperty at hread
    grind
  have hbyte : (d.buffer (i + 1)).toNat ≠ 210 := fun heq => h.1 (i + 1) (UInt8.toNat_inj.mp heq)
  have hlow := (d.buffer i).toNat_lt
  unfold le16 at hcode
  unfold Camera.applySony
  rw [if_neg (by unfold sonyDpcIso; omega), if_neg (by unfold sonyDpcShutter; omega)]

theorem turn_spared {t u : SonyFrame × Camera} (h : Spared 0xD2 t.1.driver)
    (hturn : sonyTurn t = .ok u) : u.2 = t.2 ∧ Spared 0xD2 u.1.driver := by
  unfold sonyTurn SonyFrame.turn at hturn
  by_cases hover : t.1.driver.bytesReceived ≤ t.1.i
  · simp only [if_pos hover, reduceCtorEq] at hturn
  simp only [if_neg hover] at hturn
  by_cases hfetch : t.1.ret = .dataRemaining ∧ bufferSize / 2 < t.1.i
  · simp only [if_pos hfetch] at hturn
    by_cases herr : (t.1.driver.fetchData (bufferSize - t.1.i)).1 = .error
    · simp only [if_pos herr, reduceCtorEq] at hturn
    · simp only [if_neg herr, Except.ok.injEq] at hturn
      rw [← hturn]
      exact ⟨rfl, fetchData_spared h _⟩
  · simp only [if_neg hfetch] at hturn
    cases hread : sonyProperty t.1.driver.buffer t.1.i with
    | error err => simp only [hread, reduceCtorEq] at hturn
    | ok r =>
        simp only [hread, Except.ok.injEq] at hturn
        rw [← hturn]
        exact ⟨applySony_spared h hread t.2, h⟩

/-- If the byte does not come in what is counted of a reply, nothing is learnt from it. -/
theorem sonyReadProperties_spared {d : Driver} {reply : List UInt8}
    (h : Announces d sonyOcGetConfig reply) (hbuffer : ∀ i, d.buffer i ≠ 0xD2)
    (hreply : ∀ x ∈ reply.take (u16 reply.length), x ≠ 0xD2) {fuel : Nat} {c : Camera}
    {r : Nat × Driver × Camera} (hread : sonyReadProperties fuel d c = some r) :
    r.2.2 = { c with needUpdate := false } := by
  have hle : u16 reply.length ≤ reply.length := Nat.mod_le _ _
  have hdata : ∃ d₀ : Driver, d.transaction sonyOcGetConfig true [] [] =
      d₀.receiveData sonyOcGetConfig noError ∧ d₀.buffer = d.buffer ∧
        d₀.usb.packets.flatten.take d₀.bytesReceived = reply.take (u16 reply.length) := by
    rcases h.header [] with ⟨D, block, p, hheader, hD, -⟩
    refine ⟨_, hheader, rfl, ?_⟩
    simp only [List.flatten_append, hD]
    exact List.take_append_of_le_length hle
  rcases hdata with ⟨d₀, heq, hsame, hcounted⟩
  unfold sonyReadProperties sonyStart at hread
  rw [heq] at hread
  by_cases herr : (d₀.receiveData sonyOcGetConfig noError).1 = .error
  · simp only [if_pos herr, Option.some.injEq] at hread
    rw [← hread]
  · have hspared := receiveData_spared (hsame ▸ hbuffer) (hcounted ▸ hreply) herr
    simp only [if_neg herr] at hread
    refine Loop.run_inv sonyTurn
      (fun t => t.2 = { c with needUpdate := false } ∧ Spared 0xD2 t.1.driver)
      (fun a => a.2.2 = { c with needUpdate := false }) (fun t u ht hturn => ?_)
      (fun t a ht hturn => ?_) fuel _ r ⟨rfl, hspared⟩ hread
    · have hnext := turn_spared ht.2 hturn
      exact ⟨hnext.1.trans ht.1, hnext.2⟩
    · unfold sonyTurn at hturn
      split at hturn
      · rw [Except.error.injEq] at hturn
        rw [← hturn]
        exact ht.1
      · exact absurd hturn (by simp only [reduceCtorEq, not_false_eq_true])

end Spared

section Long

theorem encode_ne (n : Nat) {v : Nat} (hv : v ≤ 64) : ∀ x ∈ encode n v, x ≠ 0xD2 := by
  induction n generalizing v with
  | zero => exact fun x hx => absurd hx List.not_mem_nil
  | succ n ih =>
      intro x hx
      rcases List.mem_cons.mp hx with hfirst | hrest
      · intro heq
        have hbyte : (UInt8.ofNat v).toNat = 210 := congrArg UInt8.toNat (hfirst.symm.trans heq)
        rw [UInt8.toNat_ofNat'] at hbyte
        omega
      · exact ih (Nat.le_trans (Nat.div_le_self v 256) hv) x hrest

/-- A list of zeros that is of no use. -/
def fillRecord (count : Nat) (h : count ≤ 64) : SonyRecord where
  code := 0
  dataType := 1
  unknown := 0
  initial := 0
  current := 0
  ranged := false
  items := List.replicate count 0
  code_lt := by decide
  typed := by decide
  current_lt := by decide
  items_lt := fun v hv => by
    rw [List.eq_of_mem_replicate hv]
    decide
  items_length := ⟨by rw [List.length_replicate]; exact h, fun hranged => Bool.noConfusion hranged⟩

theorem fillRecord_length (count : Nat) (h : count ≤ 64) :
    (fillRecord count h).bytes.length = 11 + count := by
  rw [length_record]
  have hform : (fillRecord count h).form.length = 3 := rfl
  have hsize : (fillRecord count h).size = 1 := (by decide : sonySize 1 = 1)
  have hitems : (fillRecord count h).items.length = count := List.length_replicate
  rw [hform, hsize, hitems]
  omega

theorem fillRecord_ne (count : Nat) (h : count ≤ 64) :
    ∀ x ∈ (fillRecord count h).bytes, x ≠ 0xD2 := by
  intro x hx
  have hform : ∀ y ∈ (fillRecord count h).form, y ≠ 0xD2 := by
    intro y hy
    rcases List.mem_cons.mp hy with heq | hcount
    · rw [heq]
      decide
    · exact encode_ne 2 (Nat.le_trans (Nat.le_of_eq List.length_replicate) h) y hcount
  unfold SonyRecord.bytes at hx
  simp only [List.mem_append, List.mem_flatMap] at hx
  rcases hx with hx | hx | hx | hx | hx | hx | ⟨v, hv, hx⟩
  · exact encode_ne _ (Nat.zero_le 64) x hx
  · exact encode_ne _ (by decide : 1 ≤ 64) x hx
  · exact encode_ne _ (Nat.zero_le 64) x hx
  · exact encode_ne _ (Nat.zero_le 64) x hx
  · exact encode_ne _ (Nat.zero_le 64) x hx
  · exact hform x hx
  · rw [List.eq_of_mem_replicate hv] at hx
    exact encode_ne _ (Nat.zero_le 64) x hx

/-- Properties that are of no use fill any length from 11 bytes on. -/
theorem exists_fill (n : Nat) (hn : 11 ≤ n) : ∃ rs : List SonyRecord,
    (rs.flatMap SonyRecord.bytes).length = n ∧
      ∀ x ∈ rs.flatMap SonyRecord.bytes, x ≠ 0xD2 := by
  induction n using Nat.strong_induction_on with
  | _ n ih =>
      by_cases hone : n ≤ 75
      · have hcount : n - 11 ≤ 64 := by omega
        refine ⟨[fillRecord (n - 11) hcount], ?_, ?_⟩
        · rw [List.flatMap_singleton, fillRecord_length]
          omega
        · rw [List.flatMap_singleton]
          exact fillRecord_ne _ hcount
      · rcases ih (n - 64) (by omega) (by omega) with ⟨rs, hlength, hne⟩
        have hcount : 53 ≤ 64 := by decide
        refine ⟨fillRecord 53 hcount :: rs, ?_, fun x hx => ?_⟩
        · rw [List.flatMap_cons, List.length_append, fillRecord_length, hlength]
          omega
        · rw [List.flatMap_cons, List.mem_append] at hx
          exact hx.elim (fillRecord_ne _ hcount x) (hne x)

/-- The current ISO, with an empty list of the available ones. -/
def isoRecord : SonyRecord where
  code := sonyDpcIso
  dataType := 3
  unknown := 0
  initial := 0
  current := 1
  ranged := false
  items := []
  code_lt := by decide
  typed := by decide
  current_lt := by decide
  items_lt := fun v hv => absurd hv List.not_mem_nil
  items_length := ⟨Nat.zero_le 64, fun hranged => Bool.noConfusion hranged⟩

/-- Of every other length that can be announced there is a reply that is not read. -/
theorem long_not_readsWhole (n : Nat) (hlong : 65536 ≤ n)
    (hword : commandSize 0 + n < 4294967296) :
    ∃ (s : SonyStream) (d : Driver) (c : Camera), s.bytes.length = n ∧
      Announces d sonyOcGetConfig s.bytes ∧ ¬ ReadsWhole s.bytes d c := by
  rcases exists_fill (n - 21) (by omega) with ⟨rs, hlength, hne⟩
  let s : SonyStream := ⟨List.replicate 8 0, rs ++ [isoRecord], List.length_replicate⟩
  have hbytes : s.bytes =
      (List.replicate 8 0 ++ rs.flatMap SonyRecord.bytes) ++ isoRecord.bytes := by
    simp only [s, SonyStream.bytes, List.flatMap_append, List.flatMap_singleton, List.append_assoc]
  have hfill : (List.replicate 8 (0 : UInt8) ++ rs.flatMap SonyRecord.bytes).length = n - 13 := by
    rw [List.length_append, List.length_replicate, hlength]
    omega
  have hn : s.bytes.length = n := by
    have hiso : isoRecord.bytes.length = 13 := by decide
    rw [hbytes, List.length_append, hfill, hiso]
    omega
  have hannounces : Announces (Driver.idle [⟨noError, noError,
      [dataContainer sonyOcGetConfig s.bytes, okResponse]⟩]) sonyOcGetConfig s.bytes := by
    refine ⟨rfl, rfl, rfl, rfl, rfl, [dataContainer sonyOcGetConfig s.bytes], okResponse, rfl,
      ?_, isResponse_okResponse⟩
    rw [List.flatten_singleton]
    exact isData_dataContainer sonyOcGetConfig s.bytes (by decide) (by rw [hn]; exact hword)
  refine ⟨s, _, Camera.fresh .sony, hn, hannounces, fun hreads => ?_⟩
  rcases hreads.same with ⟨fuel, r, w, hread, hwhole, hsame⟩
  -- What the driver counts of the reply ends before its last property.
  have hcounted : ∀ x ∈ s.bytes.take (u16 s.bytes.length), x ≠ 0xD2 := by
    intro x hx
    have hshort : u16 s.bytes.length ≤ n - 13 := by
      rw [hn]
      unfold u16
      omega
    rw [hbytes, List.take_append_of_le_length (by rw [hfill, ← hbytes]; exact hshort)] at hx
    rcases List.mem_append.mp (List.mem_of_mem_take hx) with hzero | hrecord
    · rw [List.eq_of_mem_replicate hzero]
      decide
    · exact hne x hrecord
  have hnothing := sonyReadProperties_spared hannounces (fun _ => (by decide : (0 : UInt8) ≠ 0xD2))
    hcounted hread
  rcases whole_ends s (Driver.idle [⟨noError, noError,
      [dataContainer sonyOcGetConfig s.bytes, okResponse]⟩])
    { Camera.fresh .sony with needUpdate := false } with ⟨d', m, hall⟩
  have hlast := Loop.run_unique sonyTurn _ hwhole hall
  have hiso : w.2.2.isoPTP = 1 := by
    rw [hlast]
    simp only [s, Camera.applyRecords, List.foldl_append]
    rfl
  have hnone : r.2.2.isoPTP = 0 := by
    rw [hnothing]
    rfl
  have hclash := hsame.isoPTP
  rw [hnone, hiso] at hclash
  exact absurd hclash Nat.zero_ne_one

/-- Every reply of a length is read through the buffer as it would be in one, if and only
    if the length is a word, or no container can announce it. -/
theorem readsWhole_iff (n : Nat) :
    (∀ (s : SonyStream) (d : Driver) (c : Camera), s.bytes.length = n →
        Announces d sonyOcGetConfig s.bytes → ReadsWhole s.bytes d c) ↔
      n < 65536 ∨ 4294967296 ≤ commandSize 0 + n := by
  constructor
  · intro hall
    by_contra hnot
    rw [not_or] at hnot
    rcases long_not_readsWhole n (by omega) (by omega) with ⟨s, d, c, hn, hannounces, hreads⟩
    exact hreads (hall s d c hn hannounces)
  · intro hlength s d c hn h
    rcases hlength with hshort | hhuge
    · exact readsWhole_short ⟨h.error, h.remaining, h.configured, h.idle, h.command,
        by rw [hn]; exact hshort, h.packets⟩ c
    · -- The container's length would not be a word of 32 bits.
      rcases h.packets with ⟨D, p, -, hdata, -⟩
      have hlt := le32_lt (bytes D.flatten) 0
      rw [hdata.dataLength, hn] at hlt
      omega

/-- The current ISO comes at the end of a reply of 65536 bytes, and is not read. -/
theorem properties_cut : ∃ (s : SonyStream) (d : Driver) (c : Camera), s.bytes.length = 65536 ∧
    Announces d sonyOcGetConfig s.bytes ∧ ¬ ReadsWhole s.bytes d c :=
  long_not_readsWhole 65536 (Nat.le_refl _) (by decide)

end Long

end Ptp

end TimelapsePlus
