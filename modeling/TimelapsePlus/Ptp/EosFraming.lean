import TimelapsePlus.Ptp.EosBounds
import TimelapsePlus.Ptp.EosStream

/-!
# Canon Event Framing

That the parser makes of a stream what is to be made of it, whatever the
buffer's boundaries cut, and exactly when. The argument walks along the stream:
at the start of an event the parser's state is the position of its buffer and
the event's index in it, since the buffer is a window on the reply
(`Reading`). From there an event is first fetched whole, if the buffer has
only part of it (`gets_fetchedBase`), and then applied (`gets_applied`) or
skipped (`gets_skipped`); where a skip stops is a matter of the bytes alone
(`Resumes`), and compared with the end of the event (`resumes_end_iff`).

## Main definitions

* `Reading`: The parser reads a reply through the buffer at a position.
* `Gets`: The parser gets to a phase at a position of the buffer.
* `EndsWith`: The parser returns, having done something to the stream.
* `Resumes`: Where looking for a byte that is not zero stops.

## Theorems

* `gets_fetchedBase`: An event is fetched whole.
* `gets_applied`: An event that is in the buffer is applied.
* `gets_resumed`: Where looking for a byte that is not zero gets.
* `resumes_unique`: There is only one place it stops.
* `resumes_end_iff`: When that is the end of the event.
* `gets_skipped`: A large event is skipped to where that stops.
* `endsWith_iff`: The parser reads the rest of a stream right exactly when the
  rest is readable.
* `eosEvents_framing_iff`: The same of a whole reply.
-/

namespace TimelapsePlus

namespace Ptp

open Word Usb

/-- The parser reads a reply through the buffer at `b`; `rest` is what the camera
    has sent after it. -/
structure Reading (f : Frame) (s : List UInt8) (b : Nat) (rest : List (List UInt8)) : Prop where
  window : Window f.driver s b rest
  base : b ≤ s.length
  total : f.driver.bytesTotal = s.length
  ret : f.ret = if f.driver.bytesRemaining = 0 then .ok else .dataRemaining

section Reading

variable {f : Frame} {s : List UInt8} {b : Nat} {rest : List (List UInt8)}

theorem Reading.received (h : Reading f s b rest) :
    f.driver.bytesReceived = min bufferSize (s.length - b) := h.window.received

theorem Reading.more_iff (h : Reading f s b rest) :
    f.ret = .dataRemaining ↔ b + bufferSize < s.length := by
  have hreceived := h.window.received
  have hremaining := h.window.remaining
  rw [h.ret]
  by_cases hzero : f.driver.bytesRemaining = 0
  · rw [if_pos hzero]
    exact iff_of_false (by simp only [reduceCtorEq, not_false_eq_true]) (by omega)
  · rw [if_neg hzero]
    exact iff_of_true rfl (by omega)

theorem Reading.position (h : Reading f s b rest) (i : Nat) : f.driver.position i = b + i := by
  have hreceived := h.window.received
  have hremaining := h.window.remaining
  have hbase := h.base
  unfold Driver.position
  rw [h.total]
  omega

/-- Another phase reads the same. -/
theorem Reading.phase (h : Reading f s b rest) (phase : Phase) :
    Reading { f with phase := phase } s b rest :=
  ⟨h.window, h.base, h.total, h.ret⟩

/-- After a fetch the buffer is a buffer further on, less the bytes carried
    over. -/
theorem Reading.fetchData (h : Reading f s b rest) (hmore : b + bufferSize < s.length)
    (offset : Nat) (hoff : offset < bufferSize) (phase : Phase) :
    Reading ⟨phase, (f.driver.fetchData offset).1, (f.driver.fetchData offset).2⟩ s
      (b + bufferSize - offset) rest ∧ (f.driver.fetchData offset).1 ≠ .error := by
  have hreceived := h.window.received
  have hremaining := h.window.remaining
  rcases fetchData_window f.driver s b offset rest h.window (by omega) hoff with ⟨d', hr, hw⟩
  have htotal := (Driver.fetchData_frame f.driver offset).2.2.2
  rw [hr] at htotal ⊢
  refine ⟨⟨hw, by omega, by rw [htotal]; exact h.total, rfl⟩, ?_⟩
  simp only
  split
  · simp only [ne_eq, reduceCtorEq, not_false_eq_true]
  · simp only [ne_eq, reduceCtorEq, not_false_eq_true]

theorem Reading.fetch (h : Reading f s b rest) (hmore : b + bufferSize < s.length)
    (offset top : Nat) (hoff : offset < bufferSize) :
    ∃ f', f.fetch offset top = ⟨.ok f', top, none⟩ ∧ f'.phase = .events 0 ∧
      Reading f' s (b + bufferSize - offset) rest := by
  rcases h.fetchData hmore offset hoff (.events 0) with ⟨hreading, herr⟩
  refine ⟨_, ?_, rfl, hreading⟩
  unfold Frame.fetch
  simp only [if_neg herr]

/-- A byte of the buffer is a byte of the reply. -/
theorem Reading.byte (h : Reading f s b rest) {j : Nat} (hj : j < bufferSize)
    (hlen : b + j < s.length) : f.driver.buffer j = bytes s (b + j) :=
  h.window.shows j (by rw [h.received]; omega)

end Reading

/-- The parser gets to a phase, reading through the buffer at `b`, having done
    something to the stream on the way. -/
def Gets (w : Walk) (s : List UInt8) (rest : List (List UInt8)) (b : Nat) (phase : Phase)
    (out : List Output) : Prop :=
  ∃ w', Loop.Reaches Walk.step w w' ∧ Reading w'.frame s b rest ∧ w'.frame.phase = phase ∧
    w'.log = w.log ++ out

section Gets

variable {w : Walk} {s : List UInt8} {rest : List (List UInt8)} {b : Nat} {phase : Phase}

theorem gets_refl (h : Reading w.frame s b rest) (hp : w.frame.phase = phase) :
    Gets w s rest b phase [] :=
  ⟨w, Loop.Reaches.refl _ w, h, hp, by rw [List.append_nil]⟩

theorem gets_of_turn {f : Frame} {top : Nat} {o : Option Output}
    (ht : w.frame.turn = ⟨.ok f, top, o⟩) (h : Reading f s b rest) :
    Gets w s rest b f.phase o.toList :=
  ⟨_, Loop.reaches_of_ok (by rw [Walk.step, ht]), h, rfl, rfl⟩

/-- What the parser gets to from a state it gets to. -/
theorem gets_of_reaches {w w1 : Walk} {s : List UInt8} {rest : List (List UInt8)} {b : Nat}
    {phase : Phase} {out out' : List Output} (hreach : Loop.Reaches Walk.step w w1)
    (hlog : w1.log = w.log ++ out) (h : Gets w1 s rest b phase out') :
    Gets w s rest b phase (out ++ out') := by
  rcases h with ⟨w2, hreach', hreading, hp, hlog'⟩
  exact ⟨w2, hreach.trans hreach', hreading, hp, by rw [hlog', hlog, List.append_assoc]⟩

theorem Gets.trans {b' : Nat} {phase' : Phase} {out o : List Output}
    (h : Gets w s rest b phase out)
    (h' : ∀ w', Reading w'.frame s b rest → w'.frame.phase = phase →
      Gets w' s rest b' phase' o) : Gets w s rest b' phase' (out ++ o) := by
  rcases h with ⟨w1, hreach, hreading, hp, hlog⟩
  exact gets_of_reaches hreach hlog (h' w1 hreading hp)

end Gets

/-- The parser returns zero, having done something to the stream. -/
def EndsWith (w : Walk) (P : List Output → Prop) : Prop :=
  ∃ w' out, Loop.Ends Walk.step w (0, w') ∧ w'.log = w.log ++ out ∧ P out

/-- What was done to the stream is never undone. -/
theorem log_prefix (n code : Nat) (w w' : Walk) (h : Loop.run Walk.step n w = some (code, w')) :
    ∃ out, w'.log = w.log ++ out := by
  induction n generalizing w with
  | zero => exact absurd h (Loop.run_zero_ne_some _ w _)
  | succ m ih =>
      cases hs : w.step with
      | error r =>
          rw [Loop.run_succ_error Walk.step m hs, Option.some.injEq] at h
          subst h
          exact ⟨[], by rw [(step_eq_error w w' code hs).2.2.2, List.append_nil]⟩
      | ok w1 =>
          rw [Loop.run_succ_ok Walk.step m hs] at h
          rcases ih w1 h with ⟨out, hout⟩
          exact ⟨w.frame.turn.output.toList ++ out, by
            rw [hout, (step_eq_ok w w1 hs).2.2.2, List.append_assoc]⟩

/-- What the parser returns with is what it does on the way to a state, and what
    it returns with from there. -/
theorem endsWith_iff_of_reaches (w w1 : Walk) (o : List Output) (P : List Output → Prop)
    (hreach : Loop.Reaches Walk.step w w1) (hlog : w1.log = w.log ++ o) :
    EndsWith w P ↔ EndsWith w1 (fun out => P (o ++ out)) := by
  constructor
  · rintro ⟨w', out, hends, hout, hP⟩
    have hends' := (Loop.ends_iff_of_reaches hreach _).mp hends
    rcases hends' with ⟨n, hn⟩
    rcases log_prefix n 0 w1 w' hn with ⟨out', hout'⟩
    refine ⟨w', out', ⟨n, hn⟩, hout', ?_⟩
    have heq : out = o ++ out' := by
      rw [hout', hlog, List.append_assoc, List.append_right_inj] at hout
      exact hout.symm
    rw [heq] at hP
    exact hP
  · rintro ⟨w', out, hends, hout, hP⟩
    exact ⟨w', o ++ out, (Loop.ends_iff_of_reaches hreach _).mpr hends, by
      rw [hout, hlog, List.append_assoc], hP⟩

section Events

variable {w : Walk} {s : List UInt8} {rest : List (List UInt8)} {b i : Nat} {e : Event}
  {es : List Event}

theorem length_of_drop {p : Nat} (hdrop : s.drop p = stream (e :: es)) :
    p + e.size ≤ s.length ∧ 8 ≤ e.size := by
  have hlen := congrArg List.length hdrop
  have hlong := e.long
  rw [List.length_drop, length_stream_cons] at hlen
  unfold Event.size at *
  omega

/-- The size of an event whose size word is in the buffer. -/
theorem Reading.size {f : Frame} (h : Reading f s b rest)
    (hdrop : s.drop (b + i) = stream (e :: es)) (hlen : s.length < 65536)
    (hi : i + 4 < bufferSize) : le32 f.driver.buffer i = e.size := by
  have hbound := length_of_drop hdrop
  have hword : ∀ j, j < 4 → f.driver.buffer (i + j) = bytes e.bytes (0 + j) := by
    intro j hj
    rw [stream, List.flatMap_cons] at hdrop
    rw [h.byte (by omega) (by omega), ← Nat.add_assoc, Nat.zero_add,
      bytes_of_drop hdrop (by rw [Event.length_bytes]; omega)]
  rw [le32_congr hword]
  exact word_zero e (by omega)

theorem fetchedBase_of_cut {p size : Nat}
    (h : bufferSize ≤ p - b + 4 ∨ (size ≤ bufferSize ∧ bufferSize < p - b + size)) :
    fetchedBase b p size = p := if_pos h

/-- The parser at the start of an event reads it in a buffer that holds it, if it
    fits in one, and that holds its size in any case. -/
theorem gets_fetchedBase (h : Reading w.frame s b rest) (hp : w.frame.phase = .events i)
    (hi : i ≤ bufferSize) (hdrop : s.drop (b + i) = stream (e :: es)) (hlen : s.length < 65536) :
    Gets w s rest (fetchedBase b (b + i) e.size)
      (.events (b + i - fetchedBase b (b + i) e.size)) [] := by
  have hbound := length_of_drop hdrop
  have hreceived := h.received
  by_cases hend : i = bufferSize
  · -- The event starts the next buffer.
    have hbase : fetchedBase b (b + i) e.size = b + i :=
      fetchedBase_of_cut (Or.inl (by omega))
    have hturn : w.frame.turn = ⟨.ok { w.frame with phase := .next }, 0, none⟩ := by
      rw [Frame.turn, hp]
      simp only [Frame.eventsTurn]
      rw [if_pos (by omega)]
    have hnext : ∀ w', Reading w'.frame s b rest → w'.frame.phase = .next →
        Gets w' s rest (b + i) (.events 0) [] := by
      intro w' h' hp'
      have hmore : b + bufferSize < s.length := by omega
      rcases h'.fetch hmore 0 0 (by decide) with ⟨f', hf, hphase, hreading⟩
      have hturn' : w'.frame.turn = ⟨.ok f', 0, none⟩ := by
        rw [Frame.turn, hp']
        simp only [h'.more_iff.mpr hmore, if_true]
        exact hf
      rw [Nat.sub_zero, ← hend] at hreading
      rw [← hphase]
      exact gets_of_turn hturn' hreading
    rw [hbase, Nat.sub_self]
    exact (gets_of_turn hturn (h.phase .next)).trans hnext
  by_cases hcut : bufferSize ≤ i + 4
  · -- Its size may be cut: what there is of it is carried over.
    have hbase : fetchedBase b (b + i) e.size = b + i :=
      fetchedBase_of_cut (Or.inl (by omega))
    have hmore : b + bufferSize < s.length := by omega
    rcases h.fetch hmore (bufferSize - i) 0 (by unfold bufferSize at *; omega)
      with ⟨f', hf, hphase, hreading⟩
    have hturn : w.frame.turn = ⟨.ok f', 0, none⟩ := by
      rw [Frame.turn, hp]
      simp only [Frame.eventsTurn]
      rw [if_neg (by omega), if_pos hcut, if_pos (h.more_iff.mpr hmore), hf]
    rw [show b + bufferSize - (bufferSize - i) = b + i by omega] at hreading
    rw [hbase, Nat.sub_self, ← hphase]
    exact gets_of_turn hturn hreading
  by_cases hfits : e.size ≤ bufferSize ∧ bufferSize < i + e.size
  · -- It fits a buffer and not the rest of this one: it is carried over.
    have hbase : fetchedBase b (b + i) e.size = b + i :=
      fetchedBase_of_cut (Or.inr ⟨hfits.1, by omega⟩)
    have hmore : b + bufferSize < s.length := by omega
    rcases h.fetch hmore (bufferSize - i) (i + 4) (by unfold bufferSize at *; omega)
      with ⟨f', hf, hphase, hreading⟩
    have hsize := h.size hdrop hlen (by omega)
    have hsum : u32 (e.size + i) = e.size + i := u32_of_lt (by omega)
    have hturn : w.frame.turn = ⟨.ok f', i + 4, none⟩ := by
      rw [Frame.turn, hp]
      simp only [Frame.eventsTurn, hsize, hsum]
      rw [if_neg (by omega), if_neg hcut, if_neg (by omega), if_pos (by omega),
        if_pos (h.more_iff.mpr hmore), if_neg (by omega), hf]
    rw [show b + bufferSize - (bufferSize - i) = b + i by omega] at hreading
    rw [hbase, Nat.sub_self, ← hphase]
    exact gets_of_turn hturn hreading
  · have hbase : fetchedBase b (b + i) e.size = b := by
      unfold fetchedBase
      rw [if_neg (by omega)]
    rw [hbase, show b + i - b = i by omega]
    exact gets_refl h hp

/-- An event that is in the buffer is applied, with the words it has. -/
theorem gets_applied (h : Reading w.frame s b rest) (hp : w.frame.phase = .events i)
    (hdrop : s.drop (b + i) = stream (e :: es)) (hlen : s.length < 65536)
    (hhead : i + 4 < bufferSize) (hfits : i + e.size ≤ bufferSize) :
    ∃ c, Gets w s rest b (.events (i + e.size)) [.applied (b + i) c] ∧
      ∀ c', e.change? = some c' → c = c' := by
  have hbound := length_of_drop hdrop
  have hreceived := h.received
  have hsize := h.size hdrop hlen hhead
  have hsum : u32 (e.size + i) = e.size + i := u32_of_lt (by omega)
  have hturn : w.frame.turn = ⟨.ok { w.frame with phase := .events (i + e.size) },
      (readChange w.frame.driver.buffer i e.size).2,
      some (.applied (b + i) (readChange w.frame.driver.buffer i e.size).1)⟩ := by
    have hadd : u32 (i + e.size) = i + e.size := u32_of_lt (by omega)
    rw [Frame.turn, hp]
    simp only [Frame.eventsTurn, hsize, hsum, hadd, h.position]
    rw [if_neg (by omega), if_neg (by omega), if_neg (by omega), if_neg (by omega)]
  refine ⟨_, gets_of_turn hturn (h.phase _), fun c' hc' => ?_⟩
  refine readChange_eq (fun j hj => ?_) (by omega) hc'
  rw [stream, List.flatMap_cons] at hdrop
  rw [h.byte (by omega) (by omega), ← Nat.add_assoc,
    bytes_of_drop hdrop (by rw [Event.length_bytes]; exact hj)]

end Events

theorem firstNonZero_none {buffer : Nat → UInt8} {n x : Nat} (h : firstNonZero buffer n x = none)
    {y : Nat} (hlo : x ≤ y) (hhi : y < x + n) : buffer y = 0 := by
  induction n generalizing x with
  | zero => omega
  | succ k ih =>
      rw [firstNonZero] at h
      by_cases hx : buffer x ≠ 0
      · rw [if_pos hx] at h
        exact absurd h (by simp only [reduceCtorEq, not_false_eq_true])
      · rw [if_neg hx] at h
        rcases Nat.eq_or_lt_of_le hlo with heq | hlt
        · rw [← heq]
          exact not_not.mp hx
        · exact ih h hlt (by omega)

theorem firstNonZero_before {buffer : Nat → UInt8} {n x y : Nat}
    (h : firstNonZero buffer n x = some y) {z : Nat} (hlo : x ≤ z) (hhi : z < y) :
    buffer z = 0 := by
  induction n generalizing x with
  | zero => exact absurd h (by simp only [firstNonZero, reduceCtorEq, not_false_eq_true])
  | succ k ih =>
      rw [firstNonZero] at h
      by_cases hx : buffer x ≠ 0
      · rw [if_pos hx, Option.some.injEq] at h
        omega
      · rw [if_neg hx] at h
        rcases Nat.eq_or_lt_of_le hlo with heq | hlt
        · rw [← heq]
          exact not_not.mp hx
        · exact ih h hlt

/-- Where looking for a byte that is not zero, from the buffer at `b` on, stops:
    at `r` in the buffer at `q`. That is the first such byte in a buffer that is
    not the reply's last, or the start of the last one. -/
def Resumes (s : List UInt8) (b r q : Nat) : Prop :=
  ∃ k, q = b + bufferSize * k ∧ q ≤ r ∧ (∀ j, b ≤ j → j < r → bytes s j = 0) ∧
    ((r < q + bufferSize ∧ q + bufferSize < s.length ∧ bytes s r ≠ 0) ∨
      (r = q ∧ s.length ≤ q + bufferSize ∧ (k = 0 ∨ q < s.length)))

/-- There is only one place it stops. -/
theorem resumes_unique {s : List UInt8} {b r r' q q' : Nat} (h : Resumes s b r q)
    (h' : Resumes s b r' q') : r = r' := by
  have hle : ∀ {r r' q q' : Nat}, Resumes s b r q → Resumes s b r' q' → r' ≤ r := by
    rintro r r' q q' ⟨k, hq, hqr, _, hstop⟩ ⟨k', hq', hqr', hzero, hstop'⟩
    by_contra hlt
    unfold bufferSize at *
    rcases hstop with ⟨_, _, hne⟩ | ⟨hr, hlast, _⟩
    · exact hne (hzero r (by omega) (by omega))
    · -- The start of the last buffer is as far as it goes.
      rcases hstop' with ⟨hr', hmore, _⟩ | ⟨hr', _, hk'⟩
      · omega
      · omega
  exact Nat.le_antisymm (hle h' h) (hle h h')

section Skip

variable {w : Walk} {s : List UInt8} {rest : List (List UInt8)}

/-- The turn that fetches the next buffer to look for a byte that is not zero. -/
theorem scanTurn_none {f : Frame} {i b : Nat} (h : Reading f s b rest) (hp : f.phase = .scan i)
    (hi : i < 65536) (hmore : b + bufferSize < s.length)
    (hnone : firstNonZero f.driver.buffer (bufferSize - i) i = none) :
    ∃ f' top, f.turn = ⟨.ok f', top, none⟩ ∧ f'.phase = .scan 0 ∧
      Reading f' s (b + bufferSize) rest := by
  have hfull : f.driver.bytesReceived = bufferSize := by
    rw [h.received]
    omega
  have hreading := (h.fetchData hmore 0 (by decide) (.scan 0)).1
  rw [Nat.sub_zero] at hreading
  refine ⟨_, if i < f.driver.bytesReceived then f.driver.bytesReceived else 0, ?_, rfl, hreading⟩
  rw [Frame.turn, hp]
  simp only [h.more_iff.mpr hmore, if_true, u16_of_lt hi, hfull, hnone]

theorem scanTurn_some {f : Frame} {i b x : Nat} (h : Reading f s b rest) (hp : f.phase = .scan i)
    (hi : i < 65536) (hmore : b + bufferSize < s.length)
    (hsome : firstNonZero f.driver.buffer (bufferSize - i) i = some x) :
    f.turn = ⟨.ok { f with phase := .events x }, x + 1, some (.resumed (b + x))⟩ := by
  have hfull : f.driver.bytesReceived = bufferSize := by
    rw [h.received]
    omega
  rw [Frame.turn, hp]
  simp only [h.more_iff.mpr hmore, if_true, u16_of_lt hi, hfull, hsome, h.position]

/-- Looking for a byte that is not zero, from the start of a buffer on, gets to
    the place where it stops. -/
theorem gets_resumed {b : Nat} (h : Reading w.frame s b rest) (hp : w.frame.phase = .scan 0) :
    ∃ r q, Resumes s b r q ∧ Gets w s rest q (.events (r - q)) [.resumed r] := by
  induction hn : s.length - b using Nat.strong_induction_on generalizing b w with
  | _ n ih =>
      by_cases hmore : b + bufferSize < s.length
      · cases hx : firstNonZero w.frame.driver.buffer (bufferSize - 0) 0 with
        | some x =>
            have hmem := firstNonZero_mem _ _ _ x hx
            rw [Nat.sub_zero, Nat.zero_add] at hmem
            refine ⟨b + x, b, ⟨0, rfl, Nat.le_add_right b x, ?_, Or.inl ⟨?_, hmore, ?_⟩⟩, ?_⟩
            · intro j hlo hhi
              have hzero := firstNonZero_before hx (z := j - b) (Nat.zero_le _) (by omega)
              rwa [h.byte (by omega) (by omega), show b + (j - b) = j by omega] at hzero
            · omega
            · rw [← h.byte (by omega) (by omega)]
              exact hmem.2.2
            · rw [Nat.add_sub_cancel_left]
              exact gets_of_turn (scanTurn_some h hp (by decide) hmore hx) (h.phase _)
        | none =>
            rcases scanTurn_none h hp (by decide) hmore hx with ⟨f', top, hturn, hphase, hreading⟩
            rcases gets_of_turn (w := w) hturn hreading with ⟨w1, hreach, hreading1, hphase1, hlog1⟩
            rw [hphase] at hphase1
            rcases ih (s.length - (b + bufferSize)) (by unfold bufferSize at *; omega) hreading1
              hphase1 rfl with ⟨r, q, ⟨k, hq, hqr, hzero, hstop⟩, hgets⟩
            refine ⟨r, q, ⟨k + 1, ?_, hqr, ?_, ?_⟩, ?_⟩
            · rw [hq, Nat.mul_succ]
              omega
            · intro j hlo hhi
              by_cases hj : b + bufferSize ≤ j
              · exact hzero j hj hhi
              · have hz := firstNonZero_none hx (y := j - b) (Nat.zero_le _) (by omega)
                rwa [h.byte (by omega) (by omega), show b + (j - b) = j by omega] at hz
            · rcases hstop with hfound | ⟨hr, hlast, hk⟩
              · exact Or.inl hfound
              · refine Or.inr ⟨hr, hlast, Or.inr ?_⟩
                rcases hk with hk | hk
                · rw [hq, hk]
                  omega
                · exact hk
            · exact gets_of_reaches hreach hlog1 hgets
      · -- The reply's last buffer is taken as it is.
        have hnot : w.frame.ret ≠ .dataRemaining := fun hret => hmore (h.more_iff.mp hret)
        have hturn : w.frame.turn
            = ⟨.ok { w.frame with phase := .events 0 }, 0, some (.resumed b)⟩ := by
          rw [Frame.turn, hp]
          simp only [if_neg hnot, h.position, Nat.add_zero]
        refine ⟨b, b, ⟨0, rfl, Nat.le_refl b, fun j hlo hhi => by omega,
          Or.inr ⟨rfl, by omega, Or.inl rfl⟩⟩, ?_⟩
        rw [Nat.sub_self]
        exact gets_of_turn hturn (h.phase _)

/-- Whole buffers of an event are passed over until what is left of it is no more
    than a buffer. -/
theorem gets_scan {b t : Nat} (h : Reading w.frame s b rest) (hp : w.frame.phase = .skip t)
    (ht : 0 < t) (hend : b + bufferSize + t ≤ s.length) (hlen : s.length < 65536) :
    Gets w s rest (b + t - ((t - 1) % bufferSize + 1)) (.scan ((t - 1) % bufferSize + 1)) [] := by
  induction hn : t using Nat.strong_induction_on generalizing b t w with
  | _ n ih =>
      subst hn
      by_cases hbig : bufferSize < t
      · have hmore : b + bufferSize < s.length := by omega
        have hreading := (h.fetchData hmore 0 (by decide)
          (.skip (sub32 t (w.frame.driver.fetchData 0).2.bytesReceived))).1
        have hreceived := hreading.received
        simp only [Nat.sub_zero] at hreading hreceived
        have hfull : (w.frame.driver.fetchData 0).2.bytesReceived = bufferSize := by omega
        have hsub : sub32 t bufferSize = t - bufferSize := sub32_of_le (by omega) (by omega)
        rw [hfull, hsub] at hreading
        have hturn : w.frame.turn = ⟨.ok ⟨.skip (t - bufferSize),
            (w.frame.driver.fetchData 0).1, (w.frame.driver.fetchData 0).2⟩, 0, none⟩ := by
          rw [Frame.turn, hp]
          simp only [h.more_iff.mpr hmore, hbig, and_self, if_true, hfull, hsub]
        have hmod : (t - bufferSize - 1) % bufferSize = (t - 1) % bufferSize := by
          unfold bufferSize at *
          omega
        refine (gets_of_turn hturn hreading).trans (o := []) ?_
        intro w' hreading' hp'
        have hgets := ih (t - bufferSize) (by unfold bufferSize at *; omega) hreading' hp'
          (by omega) (by omega) rfl
        rw [hmod, show b + bufferSize + (t - bufferSize) = b + t by omega] at hgets
        exact hgets
      · have hturn : w.frame.turn = ⟨.ok { w.frame with phase := .scan t }, 0, none⟩ := by
          rw [Frame.turn, hp]
          simp only [hbig, false_and, if_false]
        have hmod : (t - 1) % bufferSize + 1 = t := by
          rw [Nat.mod_eq_of_lt (by omega)]
          omega
        rw [hmod, Nat.add_sub_cancel]
        exact gets_of_turn hturn (h.phase _)

end Skip

/-- When looking for a byte that is not zero, from the last bytes of an event on,
    stops at the event's end; and the buffer it is then in. -/
theorem resumes_end_iff {s : List UInt8} {b r q pEnd tail : Nat} (hb : b + tail = pEnd)
    (htail : 0 < tail ∧ tail ≤ bufferSize) (hend : bufferSize ≤ pEnd ∧ pEnd ≤ s.length)
    (hzero : ∀ j, pEnd - bufferSize ≤ j → j < b → bytes s j = 0) (h : Resumes s b r q) :
    (r = pEnd ↔ SkipsTo s pEnd tail) ∧ (r = pEnd → q = pEnd - tail % bufferSize) := by
  have hmod : tail % bufferSize = if tail = bufferSize then 0 else tail := by
    unfold bufferSize at *
    split
    · omega
    · omega
  constructor
  · constructor
    · intro hr
      subst hr
      rcases h with ⟨k, hq, hqr, hrun, hstop⟩
      refine ⟨fun j hj => ?_, ?_⟩
      · by_cases hlt : r - bufferSize + j < b
        · exact hzero _ (by omega) hlt
        · exact hrun _ (by omega) (by omega)
      · unfold bufferSize at *
        by_cases hfull : tail = 900
        · rw [if_pos hfull]
          rcases hstop with ⟨hin, hmore, hne⟩ | ⟨hr, hlast, hk⟩
          · exact ⟨by omega, Or.inr hne⟩
          · exact ⟨by omega, Or.inl (by omega)⟩
        · rw [if_neg hfull]
          rcases hstop with ⟨hin, hmore, hne⟩ | ⟨hr, hlast, hk⟩
          · exact ⟨by omega, hne⟩
          · omega
    · rintro ⟨hall, hafter⟩
      -- The rule stops at the event's end, and nowhere else.
      have hrun : ∀ j, b ≤ j → j < pEnd → bytes s j = 0 := by
        intro j hlo hhi
        have hj := hall (j - (pEnd - bufferSize)) (by omega)
        rwa [show pEnd - bufferSize + (j - (pEnd - bufferSize)) = j by omega] at hj
      have hstop : Resumes s b pEnd (pEnd - tail % bufferSize) → r = pEnd := resumes_unique h
      refine hstop ?_
      rw [hmod]
      by_cases hfull : tail = bufferSize
      · rw [if_pos hfull] at hafter ⊢
        refine ⟨1, by omega, by omega, hrun, ?_⟩
        rw [Nat.sub_zero]
        by_cases hlast : s.length ≤ pEnd + bufferSize
        · exact Or.inr ⟨rfl, hlast, Or.inr hafter.1⟩
        · rcases hafter.2 with h2 | h2
          · exact absurd h2 hlast
          · exact Or.inl ⟨by unfold bufferSize; omega, by omega, h2⟩
      · rw [if_neg hfull] at hafter ⊢
        exact ⟨0, by omega, by omega, hrun, Or.inl ⟨by omega, by omega, hafter.2⟩⟩
  · intro hr
    subst hr
    rcases h with ⟨k, hq, hqr, hrun, hstop⟩
    rw [hmod]
    unfold bufferSize at *
    split
    · rcases hstop with ⟨hin, hmore, hne⟩ | ⟨hr, hlast, hk⟩
      · omega
      · omega
    · rcases hstop with ⟨hin, hmore, hne⟩ | ⟨hr, hlast, hk⟩
      · omega
      · omega

/-- A large event is skipped: reading goes on somewhere, and at the event's end
    exactly when the rule for skipping stops there. -/
theorem gets_skipped {w : Walk} {s : List UInt8} {rest : List (List UInt8)} {b i : Nat}
    {e : Event} {es : List Event} (h : Reading w.frame s b rest) (hp : w.frame.phase = .events i)
    (hdrop : s.drop (b + i) = stream (e :: es)) (hlen : s.length < 65536)
    (hhead : i + 4 < bufferSize) (hbig : bufferSize < e.size) :
    ∃ r q, Gets w s rest q (.events (r - q)) [.oversize (b + i) e.size, .resumed r] ∧ q ≤ r ∧
      r ≤ q + bufferSize ∧
      (r = b + i + e.size ↔ SkipsTo s (b + i + e.size) (tailLength b (b + i + e.size))) ∧
      (r = b + i + e.size →
        q = b + i + e.size - tailLength b (b + i + e.size) % bufferSize) := by
  have hbound := length_of_drop hdrop
  have hreceived := h.received
  have hsize := h.size hdrop hlen hhead
  have hsum : u32 (e.size + i) = e.size + i := u32_of_lt (by omega)
  have hmore : b + bufferSize < s.length := by omega
  have hsub : sub32 e.size (bufferSize - i) = e.size - (bufferSize - i) :=
    sub32_of_le (by omega) (by omega)
  have hturn : w.frame.turn = ⟨.ok { w.frame with phase := .skip (e.size - (bufferSize - i)) },
      i + 4, some (.oversize (b + i) e.size)⟩ := by
    rw [Frame.turn, hp]
    simp only [Frame.eventsTurn, hsize, hsum, hsub, h.position]
    rw [if_neg (by omega), if_neg (by omega), if_neg (by omega), if_pos (by omega),
      if_pos (h.more_iff.mpr hmore), if_pos hbig]
  -- The buffer before the one the event ends in, and what of the event that one holds.
  have htail : (e.size - (bufferSize - i) - 1) % bufferSize + 1 =
      tailLength b (b + i + e.size) := by
    have hsame : e.size - (bufferSize - i) - 1 = b + i + e.size - b - bufferSize - 1 := by omega
    rw [hsame, tailLength]
  have htailLe : tailLength b (b + i + e.size) ≤ bufferSize ∧
      0 < tailLength b (b + i + e.size) := by
    unfold tailLength bufferSize
    omega
  have hscan : Gets w s rest (b + i + e.size - bufferSize - tailLength b (b + i + e.size))
      (.scan (tailLength b (b + i + e.size))) [.oversize (b + i) e.size] := by
    refine (gets_of_turn hturn (h.phase _)).trans (o := []) ?_
    intro w' h' hp'
    have hgets := gets_scan h' hp' (by omega) (by omega) hlen
    rw [htail, show b + (e.size - (bufferSize - i)) - tailLength b (b + i + e.size)
      = b + i + e.size - bufferSize - tailLength b (b + i + e.size) by omega] at hgets
    exact hgets
  have hroom : b + bufferSize + tailLength b (b + i + e.size) ≤ b + i + e.size := by
    have hle := Nat.mod_le (b + i + e.size - b - bufferSize - 1) bufferSize
    unfold tailLength
    omega
  generalize tailLength b (b + i + e.size) = tail at *
  rcases hscan with ⟨w1, hreach1, hreading1, hp1, hlog1⟩
  have hmore1 : b + i + e.size - bufferSize - tail + bufferSize < s.length := by omega
  have hsmall : tail < 65536 := by omega
  cases hx : firstNonZero w1.frame.driver.buffer (bufferSize - tail) tail with
  | some x =>
      -- A byte of the event that is not zero: reading goes on inside the event.
      have hmem := firstNonZero_mem _ _ _ x hx
      rw [hreading1.byte (by omega) (by omega)] at hmem
      have hgets := gets_of_turn (w := w1) (scanTurn_some hreading1 hp1 hsmall hmore1 hx)
        (hreading1.phase _)
      refine ⟨b + i + e.size - bufferSize - tail + x, b + i + e.size - bufferSize - tail, ?_,
        Nat.le_add_right _ _, by omega, ?_, fun hr => by omega⟩
      · rw [Nat.add_sub_cancel_left]
        exact gets_of_reaches hreach1 hlog1 hgets
      · refine iff_of_false (by omega) (fun hskip => hmem.2.2 ?_)
        have hzero := hskip.1 (x - tail) (by omega)
        rwa [show b + i + e.size - bufferSize + (x - tail)
          = b + i + e.size - bufferSize - tail + x by omega] at hzero
  | none =>
      rcases scanTurn_none hreading1 hp1 hsmall hmore1 hx with ⟨f', top, hturn', hphase', hreading'⟩
      rcases gets_of_turn (w := w1) hturn' hreading' with ⟨w2, hreach2, hreading2, hp2, hlog2⟩
      rw [hphase'] at hp2
      rcases gets_resumed hreading2 hp2 with ⟨r, q, hresumes, hgets⟩
      have hzero : ∀ j, b + i + e.size - bufferSize ≤ j →
          j < b + i + e.size - bufferSize - tail + bufferSize → bytes s j = 0 := by
        intro j hlo hhi
        have hz := firstNonZero_none hx (y := j - (b + i + e.size - bufferSize - tail)) (by omega)
          (by omega)
        rwa [hreading1.byte (by omega) (by omega),
          show b + i + e.size - bufferSize - tail + (j - (b + i + e.size - bufferSize - tail)) = j
            by omega] at hz
      have hbuffer : b + i + e.size - bufferSize - tail + bufferSize + tail = b + i + e.size := by
        omega
      rcases resumes_end_iff hbuffer ⟨by omega, by omega⟩ ⟨by omega, hbound.1⟩ hzero hresumes
        with ⟨hiff, hbase⟩
      have hrq : q ≤ r ∧ r ≤ q + bufferSize := by
        rcases hresumes with ⟨k, _, hqr, _, hstop⟩
        rcases hstop with ⟨hin, _⟩ | ⟨hr, _⟩
        · exact ⟨hqr, Nat.le_of_lt hin⟩
        · exact ⟨hqr, by omega⟩
      exact ⟨r, q, gets_of_reaches hreach1 hlog1 (gets_of_reaches hreach2 hlog2 hgets), hrq.1,
        hrq.2, hiff, hbase⟩

/-- At the end of the reply the parser returns. -/
theorem endsWith_nil {w : Walk} {s : List UInt8} {rest : List (List UInt8)} {b i : Nat}
    (h : Reading w.frame s b rest) (hp : w.frame.phase = .events i) (hi : i ≤ bufferSize)
    (hend : b + i = s.length) (P : List Output → Prop) : EndsWith w P ↔ P [] := by
  have hreceived := h.received
  have hnot : w.frame.ret ≠ .dataRemaining := fun hret => by
    have hmore := h.more_iff.mp hret
    omega
  have hturn : w.frame.turn = ⟨.ok { w.frame with phase := .next }, 0, none⟩ := by
    rw [Frame.turn, hp]
    simp only [Frame.eventsTurn]
    rw [if_pos (by omega)]
  rcases gets_of_turn (w := w) hturn (h.phase .next) with ⟨w1, hreach, hreading, hp1, hlog⟩
  have hnot1 : w1.frame.ret ≠ .dataRemaining := fun hret => by
    have hmore := hreading.more_iff.mp hret
    omega
  have hstep : ∃ w', w1.step = .error (0, w') ∧ w'.log = w1.log := by
    have hturn1 : w1.frame.turn = ⟨.error (0, w1.frame.driver), 0, none⟩ := by
      rw [Frame.turn, hp1]
      simp only [if_neg hnot1]
    exact ⟨{ w1 with top := max w1.top 0 }, by rw [Walk.step, hturn1], rfl⟩
  rcases hstep with ⟨w', hstep, hlog'⟩
  have hends := Loop.ends_of_throw Walk.step hstep
  rw [endsWith_iff_of_reaches w w1 _ P hreach hlog]
  constructor
  · rintro ⟨w2, out, ⟨n, hn⟩, hout, hP⟩
    rcases hends with ⟨m, hm⟩
    have hsame := Loop.run_unique Walk.step w1 hn hm
    rw [Prod.mk.injEq] at hsame
    rw [hsame.2, hlog', List.self_eq_append_right] at hout
    rwa [hout] at hP
  · intro hP
    exact ⟨w', [], hends, by rw [hlog', List.append_nil], hP⟩

theorem readRight_applied_iff {p : Nat} {e : Event} {es : List Event} {c : Change}
    {out : List Output} (hsize : e.size ≤ bufferSize) :
    ReadRight p (e :: es) ([Output.applied p c] ++ out) ↔
      e.change? = some c ∧ ReadRight (p + e.size) es out := by
  constructor
  · intro h
    cases h with
    | applied _ _ hchange htail => exact ⟨hchange, htail⟩
  · rintro ⟨hchange, htail⟩
    exact .applied c hsize hchange htail

theorem readRight_skipped_iff {p r : Nat} {e : Event} {es : List Event} {out : List Output}
    (hsize : bufferSize < e.size) :
    ReadRight p (e :: es) ([Output.oversize p e.size, .resumed r] ++ out) ↔
      r = p + e.size ∧ ReadRight (p + e.size) es out := by
  constructor
  · intro h
    cases h with
    | skipped _ htail => exact ⟨rfl, htail⟩
  · rintro ⟨hr, htail⟩
    rw [hr]
    exact .skipped hsize htail

theorem endsWith_and (w : Walk) (A : Prop) (P : List Output → Prop) :
    EndsWith w (fun out => A ∧ P out) ↔ A ∧ EndsWith w P := by
  constructor
  · rintro ⟨w', out, hends, hlog, hA, hP⟩
    exact ⟨hA, w', out, hends, hlog, hP⟩
  · rintro ⟨hA, w', out, hends, hlog, hP⟩
    exact ⟨w', out, hends, hlog, hA, hP⟩

/-- The parser reads the rest of a stream right exactly when the rest is
    readable, whatever the buffer cuts. -/
theorem endsWith_iff (s : List UInt8) (rest : List (List UInt8)) (hlen : s.length < 65536)
    (es : List Event) (w : Walk) (b i : Nat) (h : Reading w.frame s b rest)
    (hp : w.frame.phase = .events i) (hi : i ≤ bufferSize) (hpos : b + i ≤ s.length)
    (hdrop : s.drop (b + i) = stream es) :
    EndsWith w (ReadRight (b + i) es) ↔ Readable s b (b + i) es := by
  induction es generalizing w b i with
  | nil =>
      have hend : b + i = s.length := by
        have hnil : s.drop (b + i) = [] := hdrop
        rw [List.drop_eq_nil_iff] at hnil
        omega
      rw [endsWith_nil h hp hi hend]
      exact iff_of_true (.nil _) trivial
  | cons e es ih =>
      have hbound := length_of_drop hdrop
      have hnext : s.drop (b + i + e.size) = stream es := by
        rw [← List.drop_drop, hdrop, stream, List.flatMap_cons, ← Event.length_bytes,
          List.drop_left]
        rfl
      -- First the event is fetched whole.
      rcases gets_fetchedBase h hp hi hdrop hlen with ⟨w1, hreach1, h1, hp1, hlog1⟩
      rw [endsWith_iff_of_reaches w w1 [] _ hreach1 hlog1]
      simp only [List.nil_append, Readable]
      have hle : fetchedBase b (b + i) e.size ≤ b + i := by
        unfold fetchedBase
        split
        · exact Nat.le_refl _
        · exact Nat.le_add_right b i
      have hroom : b + i - fetchedBase b (b + i) e.size + 4 < bufferSize ∧
          (e.size ≤ bufferSize → b + i - fetchedBase b (b + i) e.size + e.size ≤ bufferSize) := by
        unfold fetchedBase
        split
        · rw [Nat.sub_self]
          exact ⟨by decide, fun hs => by omega⟩
        · omega
      generalize hbase : fetchedBase b (b + i) e.size = base at *
      have hsame : base + (b + i - base) = b + i := by omega
      by_cases hsize : e.size ≤ bufferSize
      · rw [if_pos hsize]
        rcases gets_applied h1 hp1 (by rw [hsame]; exact hdrop) hlen hroom.1 (hroom.2 hsize)
          with ⟨c, ⟨w2, hreach2, h2, hp2, hlog2⟩, hc⟩
        rw [hsame] at hlog2
        rw [endsWith_iff_of_reaches w1 w2 _ _ hreach2 hlog2]
        simp only [readRight_applied_iff hsize]
        have hsum : base + (b + i - base + e.size) = b + i + e.size := by omega
        have hrec := ih w2 base (b + i - base + e.size) h2 hp2 (hroom.2 hsize)
          (by rw [hsum]; exact hbound.1) (by rw [hsum]; exact hnext)
        rw [hsum] at hrec
        rw [endsWith_and, hrec]
        refine and_congr_left fun _ => ⟨fun hsome => by rw [hsome]; rfl, fun hsome => ?_⟩
        rcases Option.isSome_iff_exists.mp hsome with ⟨c', hc'⟩
        rw [hc', hc c' hc']
      · have hbig : bufferSize < e.size := by omega
        rw [if_neg hsize]
        rcases gets_skipped h1 hp1 (by rw [hsame]; exact hdrop) hlen hroom.1 hbig
          with ⟨r, q, ⟨w2, hreach2, h2, hp2, hlog2⟩, hqr, hrq, hiff, hq⟩
        rw [hsame] at hlog2 hiff hq
        rw [endsWith_iff_of_reaches w1 w2 _ _ hreach2 hlog2]
        simp only [readRight_skipped_iff hbig]
        rw [endsWith_and, ← hiff]
        refine and_congr_right fun hr => ?_
        have hsum : q + (r - q) = b + i + e.size := by omega
        have hrec := ih w2 q (r - q) h2 hp2 (by omega) (by rw [hsum]; exact hbound.1)
          (by rw [hsum]; exact hnext)
        rw [hsum] at hrec
        rw [hrec, hq hr]

/-- The parser starts at the start of the reply. -/
theorem eosStart_reading (c : Camera) (d : Driver) (reply : List UInt8)
    (h : Answers d eosOcEventGet reply) :
    Reading (eosStart c d).frame reply 0 [] ∧ (eosStart c d).frame.ret ≠ .error := by
  rcases transaction_window d eosOcEventGet [] reply h with ⟨d', hr, hw, htotal, _⟩
  have hreading : Reading (eosStart c d).frame reply 0 [] := by
    unfold eosStart
    rw [hr]
    exact ⟨hw, Nat.zero_le _, htotal, rfl⟩
  refine ⟨hreading, ?_⟩
  rw [hreading.ret]
  split
  · simp only [ne_eq, reduceCtorEq, not_false_eq_true]
  · simp only [ne_eq, reduceCtorEq, not_false_eq_true]

/-- What was done to the stream is what the camera has been through. -/
theorem log_camera (n code : Nat) (w w' : Walk) (h : Loop.run Walk.step n w = some (code, w')) :
    ∃ out, w'.log = w.log ++ out ∧
      w'.camera = out.foldl (fun c o => c.apply (some o)) w.camera := by
  induction n generalizing w with
  | zero => exact absurd h (Loop.run_zero_ne_some _ w _)
  | succ m ih =>
      cases hs : w.step with
      | error r =>
          rw [Loop.run_succ_error Walk.step m hs, Option.some.injEq] at h
          subst h
          rcases step_eq_error w w' code hs with ⟨_, hcamera, _, hlog⟩
          exact ⟨[], by rw [hlog, List.append_nil], hcamera⟩
      | ok w1 =>
          rw [Loop.run_succ_ok Walk.step m hs] at h
          rcases step_eq_ok w w1 hs with ⟨_, hcamera, _, hlog⟩
          rcases ih w1 h with ⟨out, hout, hfold⟩
          refine ⟨w.frame.turn.output.toList ++ out, ?_, ?_⟩
          · rw [hout, hlog, List.append_assoc]
          · rw [hfold, hcamera, List.foldl_append]
            cases w.frame.turn.output with
            | none => rfl
            | some o => rfl

/-- The parser's result on a reply that arrives is a matter of its loop. -/
theorem eosEvents_iff_endsWith (c : Camera) (d : Driver) (reply : List UInt8)
    (h : Answers d eosOcEventGet reply) (P : List Output → Prop) :
    (∃ fuel w, eosEvents fuel c d = some (0, w) ∧ P w.log ∧
      w.camera = w.log.foldl (fun c o => c.apply (some o)) (eosStart c d).camera) ↔
      EndsWith (eosStart c d) P := by
  have hret := (eosStart_reading c d reply h).2
  simp only [eosEvents, if_neg hret]
  constructor
  · rintro ⟨fuel, w, hrun, hP, _⟩
    exact ⟨w, w.log, ⟨fuel, hrun⟩, rfl, hP⟩
  · rintro ⟨w, out, ⟨fuel, hrun⟩, hlog, hP⟩
    rcases log_camera fuel 0 _ w hrun with ⟨out', hlog', hcamera⟩
    have hnil : (eosStart c d).log = [] := rfl
    rw [hnil, List.nil_append] at hlog hlog'
    exact ⟨fuel, w, hrun, by rw [hlog]; exact hP, by rw [hlog']; exact hcamera⟩

/-- On a stream the camera sends in answer to the request for its events, the
    parser returns zero having applied each event that fits the buffer, in
    order, with its own words, and passed over each larger one, going on at its
    end, exactly when the stream is readable. -/
theorem eosEvents_framing_iff (c : Camera) (d : Driver) (es : List Event)
    (h : Answers d eosOcEventGet (stream es)) :
    (∃ fuel w, eosEvents fuel c d = some (0, w) ∧ ReadRight 0 es w.log ∧
      w.camera = w.log.foldl (fun c o => c.apply (some o)) (eosStart c d).camera) ↔
      Readable (stream es) 0 0 es := by
  rw [eosEvents_iff_endsWith c d (stream es) h (ReadRight 0 es)]
  exact endsWith_iff (stream es) [] h.length es (eosStart c d) 0 0
    (eosStart_reading c d (stream es) h).1 rfl (Nat.zero_le _) (Nat.zero_le _) rfl

/-- An event that tells the ISO setting. -/
def isoEvent : Event where
  body := [0x89, 0xC1, 0, 0, 0x03, 0xD1, 0, 0, 0x48, 0, 0, 0]
  long := by decide
  aligned := by decide

/-- An event larger than the buffer, none of whose bytes is zero. -/
def largeEvent : Event where
  body := List.replicate 900 1
  long := by rw [List.length_replicate]; decide
  aligned := by rw [List.length_replicate]

theorem eosEvents_framing_iso : ∃ fuel w,
    eosEvents fuel (Camera.fresh .eos) (Driver.idle [⟨noError, noError,
      [dataContainer eosOcEventGet (stream [isoEvent, isoEvent]), okResponse]⟩]) = some (0, w) ∧
    ReadRight 0 [isoEvent, isoEvent] w.log := by
  rcases (eosEvents_framing_iff (Camera.fresh .eos) _ [isoEvent, isoEvent]
    (answers_idle eosOcEventGet (stream [isoEvent, isoEvent]) [] (by decide) (by decide))).mpr
    (by decide) with ⟨fuel, w, hrun, hright, _⟩
  exact ⟨fuel, w, hrun, hright⟩

/-- The parser goes on inside the event it should have skipped. -/
theorem eosEvents_framing_large : ¬ ∃ fuel w,
    eosEvents fuel (Camera.fresh .eos) (Driver.idle [⟨noError, noError,
      [dataContainer eosOcEventGet (stream [largeEvent, isoEvent]), okResponse]⟩]) = some (0, w) ∧
    ReadRight 0 [largeEvent, isoEvent] w.log ∧
    w.camera = w.log.foldl (fun c o => c.apply (some o)) (eosStart (Camera.fresh .eos)
      (Driver.idle [⟨noError, noError,
        [dataContainer eosOcEventGet (stream [largeEvent, isoEvent]), okResponse]⟩])).camera := by
  have hsize : largeEvent.size = 904 := by
    rw [Event.size, largeEvent, List.length_replicate]
  have hlen : (stream [largeEvent, isoEvent]).length = 920 := by
    rw [length_stream_cons, length_stream_cons, hsize]
    rfl
  have hanswers := answers_idle eosOcEventGet (stream [largeEvent, isoEvent]) [] (by decide)
    (by omega)
  rw [eosEvents_iff_endsWith _ _ _ hanswers,
    endsWith_iff _ [] hanswers.length _ _ 0 0 (eosStart_reading _ _ _ hanswers).1 rfl
      (Nat.zero_le _) (Nat.zero_le _) rfl]
  simp only [Readable, hsize, Nat.zero_add]
  rw [if_neg (by decide)]
  intro hreadable
  -- The first of its last 900 bytes is not zero.
  have hzero := hreadable.1.1 0 (by decide)
  have hbyte : bytes (stream [largeEvent, isoEvent]) (904 - bufferSize + 0)
      = bytes largeEvent.bytes 4 :=
    bytes_of_drop (p := 0) (k := 4) (r := stream [isoEvent]) rfl
      (by rw [Event.length_bytes, hsize]; decide)
  have hone : bytes largeEvent.bytes 4 = 1 := by
    have hget : largeEvent.bytes[4]? = some 1 := by
      rw [Event.bytes, List.getElem?_append_right (by exact Nat.le_refl 4)]
      exact List.getElem?_replicate_of_lt (by decide)
    rw [bytes, List.getD_eq_getElem?_getD, hget]
    rfl
  rw [hbyte, hone] at hzero
  exact absurd hzero (by decide)

end Ptp

end TimelapsePlus
