import TimelapsePlus.Ptp.Eos

/-!
# Canon Event Streams

What the reply to `EOS_OC_EVENT_GET` is: a sequence of events, each a size that
counts the whole event, and a body. This module does not mention the parser. It
says what a parser should make of such a reply, and, for the one at hand, on
which replies the parser's rule for skipping an event works.

An event no larger than the buffer is to be applied, with the words it has; an
event too short for the words its type needs has no reading. A larger one is to
be skipped, and reading to go on at the first byte after it.

The parser skips the rest of a large event by looking for a byte that is not
zero. It looks at the last bytes of the buffer before the one the event ends
in, from the index at which the event ends in that one; then at whole buffers,
except the reply's last, which it takes as it is. So it stops at the end of the
event when the event's last 900 bytes are zero, and the byte after it is not or
is the first of the last buffer.

## Main definitions

* `Event`: One event of a stream.
* `Event.change?`: What an event changes, if it has the words for it.
* `stream`: The bytes of a sequence of events.
* `ReadRight`: What is to be made of a sequence of events.
* `fetchedBase`: The position of the buffer an event is read in.
* `SkipsTo`: The rule for skipping stops at a position.
* `Readable`: The rule works for every large event of a sequence.

## Theorems

* `bytes_of_drop`: A byte of an event, read from the stream it is in.
* `readChange_eq`: What an event changes, read from a buffer that holds it.
-/

namespace TimelapsePlus

namespace Ptp

open Word

/-- One event: a size, and a body of at least one word. -/
structure Event where
  body : List UInt8
  long : 4 ≤ body.length
  aligned : body.length % 4 = 0

namespace Event

/-- The size of the whole event. -/
def size (e : Event) : Nat := 4 + e.body.length

def bytes (e : Event) : List UInt8 := encode32 e.size ++ e.body

/-- The words of an event. -/
def word (e : Event) (k : Nat) : Nat := le32 (Word.bytes e.bytes) (4 * k)

/-- What an event changes, if it has the words for it. -/
def change? (e : Event) : Option Change :=
  if e.word 1 = eosEcPropertyChange then
    if 16 ≤ e.size then some (.property (e.word 2) (e.word 3)) else none
  else if e.word 1 = eosEcPropertyValues then
    if e.size < 12 then none
    else if IsListed (e.word 2) then
      if 20 ≤ e.size then
        some (.values (e.word 2) (readEvery (Word.bytes e.bytes) (e.size / 4 - 5) 20))
      else none
    else some (.values (e.word 2) [])
  else if e.word 1 = eosEcObjectCreated then
    if 12 ≤ e.size then some (.object (e.word 2)) else none
  else some (.other (e.word 1))

theorem length_bytes (e : Event) : e.bytes.length = e.size := by
  rw [bytes, List.length_append]
  rfl

end Event

/-- The bytes of a sequence of events. -/
def stream (es : List Event) : List UInt8 := es.flatMap Event.bytes

/-- What is to be made of the events from a position on: each that fits the
    buffer is applied, each larger one is passed over, and reading goes on at
    its end. -/
inductive ReadRight : Nat → List Event → List Output → Prop
  | nil (p : Nat) : ReadRight p [] []
  | applied {p : Nat} {e : Event} {es : List Event} {out : List Output} (c : Change)
      (hsize : e.size ≤ bufferSize) (hchange : e.change? = some c)
      (htail : ReadRight (p + e.size) es out) : ReadRight p (e :: es) (.applied p c :: out)
  | skipped {p : Nat} {e : Event} {es : List Event} {out : List Output}
      (hsize : bufferSize < e.size) (htail : ReadRight (p + e.size) es out) :
      ReadRight p (e :: es) (.oversize p e.size :: .resumed (p + e.size) :: out)

/-- The position of the buffer in which the event at `p` is read, when the
    buffer at hand is at `b`: a new one, if the event or its size does not fit
    in the one at hand. -/
def fetchedBase (b p size : Nat) : Nat :=
  if bufferSize ≤ p - b + 4 ∨ (size ≤ bufferSize ∧ bufferSize < p - b + size) then p else b

/-- How much of an event that ends at `pEnd` and begins in the buffer at `b` lies
    in the last buffer it reaches into. -/
def tailLength (b pEnd : Nat) : Nat := (pEnd - b - bufferSize - 1) % bufferSize + 1

/-- The rule for skipping an event stops at its end: its last 900 bytes are
    zero, and the byte after it is not, nor is it in the reply's last buffer,
    unless it is the first byte there. -/
def SkipsTo (s : List UInt8) (pEnd tail : Nat) : Prop :=
  (∀ j, j < bufferSize → bytes s (pEnd - bufferSize + j) = 0) ∧
    if tail = bufferSize then
      pEnd < s.length ∧ (s.length ≤ pEnd + bufferSize ∨ bytes s pEnd ≠ 0)
    else pEnd - tail + bufferSize < s.length ∧ bytes s pEnd ≠ 0

instance (s : List UInt8) (pEnd tail : Nat) : Decidable (SkipsTo s pEnd tail) :=
  inferInstanceAs (Decidable (_ ∧ if tail = bufferSize then _ else _))

/-- Every event from a position on, in a reply read through the buffer at `b`,
    is one the parser reads right: it has the words it needs, or is skipped to
    its end. -/
def Readable (s : List UInt8) : Nat → Nat → List Event → Prop
  | _, _, [] => True
  | b, p, e :: es =>
      let base := fetchedBase b p e.size
      if e.size ≤ bufferSize then e.change?.isSome ∧ Readable s base (p + e.size) es
      else
        let tail := tailLength base (p + e.size)
        SkipsTo s (p + e.size) tail ∧
          Readable s (p + e.size - tail % bufferSize) (p + e.size) es

/-- Whether the rest of a stream is readable can be computed. -/
instance Readable.decidable (s : List UInt8) :
    (b p : Nat) → (es : List Event) → Decidable (Readable s b p es)
  | _, _, [] => inferInstanceAs (Decidable True)
  | b, p, e :: es =>
      have := Readable.decidable s (fetchedBase b p e.size) (p + e.size) es
      have := Readable.decidable s (p + e.size
        - tailLength (fetchedBase b p e.size) (p + e.size) % bufferSize) (p + e.size) es
      inferInstanceAs (Decidable (if e.size ≤ bufferSize then _ ∧ _ else _ ∧ _))

theorem length_stream_cons (e : Event) (es : List Event) :
    (stream (e :: es)).length = e.size + (stream es).length := by
  rw [stream, List.flatMap_cons, List.length_append, Event.length_bytes]
  rfl

/-- A byte of a stream that starts with a list. -/
theorem bytes_of_drop {s l r : List UInt8} {p k : Nat} (h : s.drop p = l ++ r)
    (hk : k < l.length) : bytes s (p + k) = bytes l k := by
  unfold bytes
  rw [List.getD_eq_getElem?_getD, List.getD_eq_getElem?_getD, ← List.getElem?_drop, h,
    List.getElem?_append_left hk]

/-- A word of an event, read from a buffer that holds the event. -/
theorem buffer_word {buffer : Nat → UInt8} {i k : Nat} {e : Event}
    (h : ∀ j, j < e.size → buffer (i + j) = bytes e.bytes j) (hk : 4 * k + 4 ≤ e.size) :
    le32 buffer (i + 4 * k) = e.word k :=
  le32_congr fun j hj => by rw [Nat.add_assoc, h (4 * k + j) (by omega)]

theorem readEvery_congr {buffer buffer' : Nat → UInt8} {n i k : Nat}
    (h : ∀ x, x < n → buffer (i + 4 * x) = buffer' (k + 4 * x)) :
    readEvery buffer n i = readEvery buffer' n k := by
  induction n generalizing i k with
  | zero => rfl
  | succ m ih =>
      have hhead := h 0 (Nat.succ_pos m)
      simp only [Nat.mul_zero, Nat.add_zero] at hhead
      have htail := ih (i := i + 4) (k := k + 4) fun x hx => by
        have := h (x + 1) (Nat.succ_lt_succ hx)
        rwa [show i + 4 * (x + 1) = i + 4 + 4 * x by omega,
          show k + 4 * (x + 1) = k + 4 + 4 * x by omega] at this
      rw [readEvery, readEvery, hhead, htail]

/-- What an event changes, read from a buffer that holds the event. -/
theorem readChange_eq {buffer : Nat → UInt8} {i : Nat} {e : Event} {c : Change}
    (h : ∀ j, j < e.size → buffer (i + j) = bytes e.bytes j) (hlt : e.size < 4294967296)
    (hc : e.change? = some c) : (readChange buffer i e.size).1 = c := by
  have hlong := e.long
  have htype : le32 buffer (i + 4) = e.word 1 := by
    refine buffer_word h (k := 1) ?_
    unfold Event.size
    omega
  unfold Event.change? at hc
  unfold readChange
  rw [htype]
  by_cases hchange : e.word 1 = eosEcPropertyChange
  · rw [if_pos hchange] at hc
    simp only [if_pos hchange]
    by_cases hfull : 16 ≤ e.size
    · rw [if_pos hfull, Option.some.injEq] at hc
      rw [← hc, buffer_word h (k := 2) (by omega), buffer_word h (k := 3) (by omega)]
    · rw [if_neg hfull] at hc
      exact absurd hc (by simp only [reduceCtorEq, not_false_eq_true])
  rw [if_neg hchange] at hc
  simp only [if_neg hchange]
  by_cases hvalues : e.word 1 = eosEcPropertyValues
  · rw [if_pos hvalues] at hc
    simp only [if_pos hvalues]
    by_cases hshort : e.size < 12
    · rw [if_pos hshort] at hc
      exact absurd hc (by simp only [reduceCtorEq, not_false_eq_true])
    rw [if_neg hshort] at hc
    rw [buffer_word h (k := 2) (by omega)]
    by_cases hlisted : IsListed (e.word 2)
    · rw [if_pos hlisted] at hc
      simp only [if_pos hlisted]
      by_cases hfull : 20 ≤ e.size
      · rw [if_pos hfull, Option.some.injEq] at hc
        have hcount : valueCount e.size = e.size / 4 - 5 := sub32_of_le (by omega) (by omega)
        have hcodes : readEvery buffer (e.size / 4 - 5) (i + 20)
            = readEvery (bytes e.bytes) (e.size / 4 - 5) 20 :=
          readEvery_congr fun x hx => by rw [Nat.add_assoc, h (20 + 4 * x) (by omega)]
        rw [← hc, hcount, hcodes]
      · rw [if_neg hfull] at hc
        exact absurd hc (by simp only [reduceCtorEq, not_false_eq_true])
    · rw [if_neg hlisted, Option.some.injEq] at hc
      simp only [if_neg hlisted]
      exact hc
  rw [if_neg hvalues] at hc
  simp only [if_neg hvalues]
  by_cases hobject : e.word 1 = eosEcObjectCreated
  · rw [if_pos hobject] at hc
    simp only [if_pos hobject]
    by_cases hfull : 12 ≤ e.size
    · rw [if_pos hfull, Option.some.injEq] at hc
      rw [← hc, buffer_word h (k := 2) (by omega)]
    · rw [if_neg hfull] at hc
      exact absurd hc (by simp only [reduceCtorEq, not_false_eq_true])
  · rw [if_neg hobject, Option.some.injEq] at hc
    simp only [if_neg hobject]
    exact hc

theorem word_zero (e : Event) (h : e.size < 4294967296) : e.word 0 = e.size :=
  le32_encode32 h e.body

end Ptp

end TimelapsePlus
