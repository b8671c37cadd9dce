import TimelapsePlus.Ptp.Driver

/-!
# Replies Longer than the Buffer

A reply comes in calls: the transaction reads the first buffer of it, and fetches
the next ones, each behind as many bytes as its caller carries over. What a call
should do is said for each of them, and for all offsets a caller may pass.

A container announces a length of 32 bits, and the driver keeps what it has to
read in 16. So it takes a reply of 65536 bytes or more for a short one: it says
that it has all of it while the camera has more.

## Main definitions

* `Delivers`: What a call should do.
* `AllDeliver`: What all calls should, for some offsets.
* `Reassembles`: A reply is delivered, whatever offsets are passed.

## Theorems

* `window_delivers`: A window on the reply is moved over all of it.
* `starved_not`: A driver that knows of too few bytes stops too early.
* `reassembles_iff`: The replies that are delivered.
* `reply_cut`: One that is not.
-/

namespace TimelapsePlus

namespace Ptp

open Word Usb

/-- A call that carries over `offset` bytes of the buffer, when so many bytes of the reply
    have been delivered, delivers the next ones behind them. It says that data remain
    exactly when they do, and then the buffer is full. -/
structure Delivers (reply : List UInt8) (buffer : Nat → UInt8) (offset delivered : Nat)
    (r : Ret × Driver) : Prop where
  fits : r.2.bytesReceived ≤ bufferSize
  kept : ∀ j, j < offset → r.2.buffer j = buffer (bufferSize - offset + j)
  next : ∀ j, j < r.2.bytesReceived - offset → r.2.buffer (offset + j) = bytes reply (delivered + j)
  within : delivered + (r.2.bytesReceived - offset) ≤ reply.length
  returns : r.1 =
    if delivered + (r.2.bytesReceived - offset) < reply.length then .dataRemaining else .ok
  full : r.1 = .dataRemaining → r.2.bytesReceived = bufferSize
  progress : delivered < reply.length → offset < r.2.bytesReceived

/-- After a call, when so many bytes have been delivered, each fetch delivers, as long as
    data remain. -/
def AllDeliver (reply : List UInt8) : Ret × Driver → Nat → List Nat → Prop
  | _, _, [] => True
  | r, delivered, offset :: offsets =>
      r.1 = .dataRemaining →
        Delivers reply r.2.buffer offset delivered (r.2.fetchData offset) ∧
          AllDeliver reply (r.2.fetchData offset)
            (delivered + ((r.2.fetchData offset).2.bytesReceived - offset)) offsets

/-- The reply that a transaction has asked for is delivered, by it and by the fetches with
    any offsets within the buffer. -/
def Reassembles (reply : List UInt8) (buffer : Nat → UInt8) (r : Ret × Driver) : Prop :=
  Delivers reply buffer 0 0 r ∧
    ∀ offsets : List Nat, (∀ o ∈ offsets, o < bufferSize) →
      AllDeliver reply r r.2.bytesReceived offsets

/-- What a driver returns with a window on the reply. -/
def Driver.told (d : Driver) : Ret × Driver :=
  (if d.bytesRemaining = 0 then .ok else .dataRemaining, d)

/-- A fetch with a window on the reply delivers. -/
theorem fetch_delivers {d d' : Driver} {reply : List UInt8} {base offset : Nat}
    {rest : List (List UInt8)} (hw : Window d reply base rest) (hrem : 0 < d.bytesRemaining)
    (hoff : offset < bufferSize) (hfetch : d.fetchData offset = d'.told)
    (hw' : Window d' reply (base + bufferSize - offset) rest) :
    Delivers reply d.buffer offset (base + d.bytesReceived) (d.fetchData offset) := by
  rcases hw.full hrem with ⟨hfull, hlength⟩
  have hreceived' := hw'.received
  have hremaining' := hw'.remaining
  have hsize : bufferSize = 900 := rfl
  rw [hfetch, Driver.told]
  refine ⟨by simp only; omega, fun j hj => ?_, fun j hj => ?_, by simp only; omega, ?_, fun h => ?_,
    fun h => by simp only; omega⟩
  · -- The bytes carried over are the last ones of the buffer before.
    simp only at hj ⊢
    rw [hw'.shows j (by omega), hw.shows _ (by omega)]
    congr 1
    omega
  · simp only at hj ⊢
    rw [hw'.shows _ (by omega), hfull]
    congr 1
    omega
  · simp only
    by_cases hzero : d'.bytesRemaining = 0
    · rw [if_pos hzero, if_neg (by omega)]
    · rw [if_neg hzero, if_pos (by omega)]
  · simp only at h ⊢
    split at h
    · exact Ret.noConfusion h
    · omega

/-- With a window on the reply all fetches deliver. -/
theorem window_delivers {reply : List UInt8} {rest : List (List UInt8)} (offsets : List Nat)
    {d : Driver} {base : Nat} (hw : Window d reply base rest)
    (hoff : ∀ o ∈ offsets, o < bufferSize) :
    AllDeliver reply d.told (base + d.bytesReceived) offsets := by
  induction offsets generalizing d base with
  | nil => trivial
  | cons offset offsets ih =>
      intro hret
      have hlt := hoff offset List.mem_cons_self
      have hrem : 0 < d.bytesRemaining := by
        by_contra hzero
        rw [Driver.told, if_pos (by omega)] at hret
        exact Ret.noConfusion hret
      rcases fetchData_window d reply base offset rest hw hrem hlt with ⟨d', hfetch, hw'⟩
      have hdelivers := fetch_delivers hw hrem hlt hfetch hw'
      refine ⟨hdelivers, ?_⟩
      have hnext := ih hw' fun o ho => hoff o (List.mem_cons_of_mem offset ho)
      rcases hw.full hrem with ⟨hfull, hlength⟩
      have hprogress := hdelivers.progress (by omega)
      have hcount : base + d.bytesReceived + ((d.fetchData offset).2.bytesReceived - offset) =
          base + bufferSize - offset + d'.bytesReceived := by
        rw [hfetch] at hprogress ⊢
        simp only at hprogress ⊢
        omega
      simp only [Driver.told] at hcount hfetch hnext ⊢
      rw [hcount, hfetch]
      exact hnext

/-- The end of a transaction does not leave data. -/
theorem receiveEnd_ne (d : Driver) (opCode err : Nat) :
    (d.receiveEnd opCode err).1 ≠ .dataRemaining := by
  unfold Driver.receiveEnd
  grind

/-- The data phase leaves data when the count is for more than the buffer holds, or it has
    received no more than the count. -/
theorem receiveData_cases (d : Driver) (opCode : Nat) :
    ((d.receiveData opCode noError).1 ≠ .dataRemaining ∧
        (d.receiveData opCode noError).2.bytesReceived ≤ d.bytesReceived) ∨
      ∃ d', d.receiveData opCode noError = (.dataRemaining, d') ∧
        d'.bytesReceived = bufferSize ∧ bufferSize < d.bytesReceived ∧
          d'.bytesRemaining = d.bytesReceived - bufferSize := by
  unfold Driver.receiveData
  rw [if_neg (not_not.mpr rfl)]
  by_cases hlong : bufferSize < d.bytesReceived
  · rw [if_pos hlong]
    simp only
    by_cases hread : (readData d.usb d.buffer 0 bufferSize).1 = noError
    · rw [if_pos hread]
      exact Or.inr ⟨_, rfl, rfl, hlong, rfl⟩
    · rw [if_neg hread]
      refine Or.inl ⟨receiveEnd_ne _ _ _, ?_⟩
      rw [(Driver.receiveEnd_frame _ _ _).1]
      exact Nat.le_of_lt hlong
  · rw [if_neg hlong]
    refine Or.inl ?_
    split
    · exact ⟨receiveEnd_ne _ _ _, Nat.le_of_eq (Driver.receiveEnd_frame _ _ _).1⟩
    · exact ⟨receiveEnd_ne _ _ _, Nat.le_of_eq (Driver.receiveEnd_frame _ _ _).1⟩

/-- A driver that knows of fewer bytes than are left comes to an end before them, by the
    fetches that carry nothing over. -/
theorem starved_not {reply : List UInt8} {d : Driver} (delivered : Nat)
    (hrem : 0 < d.bytesRemaining) (hshort : delivered + d.bytesRemaining < reply.length) :
    ∃ offsets : List Nat, (∀ o ∈ offsets, o < bufferSize) ∧
      ¬ AllDeliver reply (.dataRemaining, d) delivered offsets := by
  induction hn : d.bytesRemaining using Nat.strong_induction_on generalizing d delivered with
  | _ n ih =>
      by_cases hdelivers : Delivers reply d.buffer 0 delivered (d.fetchData 0)
      · have hcounts := d.fetchData_counts 0 hrem
        have hlength := Driver.fetchLength_eq d.bytesRemaining (Nat.zero_le bufferSize)
        have hless := d.fetchData_remaining_lt 0 hrem (by decide)
        -- There are undelivered bytes, so the fetch is to say that data remain.
        have hret : (d.fetchData 0).1 = .dataRemaining := by
          rw [hdelivers.returns, if_pos (by omega)]
        have hrem' := d.fetchData_dataRemaining 0 hret
        rcases ih _ (by omega) (d := (d.fetchData 0).2)
          (delivered + ((d.fetchData 0).2.bytesReceived - 0)) hrem' (by omega) rfl with
          ⟨offsets, hoff, hnot⟩
        refine ⟨0 :: offsets, ?_, fun hall => hnot ?_⟩
        · intro o ho
          rcases List.mem_cons.mp ho with heq | hmem
          · rw [heq]
            decide
          · exact hoff o hmem
        · have hrest := (hall rfl).2
          rwa [← Prod.eta (d.fetchData 0), hret] at hrest
      · refine ⟨[0], fun o ho => ?_, fun hall => hdelivers (hall rfl).1⟩
        rw [List.mem_singleton.mp ho]
        decide

/-- A reply whose length is not a word is not delivered. -/
theorem long_not {d : Driver} {opCode : Nat} {reply : List UInt8} (h : Announces d opCode reply)
    (params : List Nat) (hlong : 65536 ≤ reply.length) :
    ¬ Reassembles reply d.buffer (d.transaction opCode true params []) := by
  rintro ⟨hfirst, hall⟩
  have hstart : ∃ d₀ : Driver, d.transaction opCode true params [] = d₀.receiveData opCode noError ∧
      d₀.bytesReceived = u16 reply.length := by
    rcases h.header params with ⟨D, block, p, hheader, -, -⟩
    exact ⟨_, hheader, rfl⟩
  rcases hstart with ⟨d₀, hheader, hcount⟩
  have hword := u16_lt reply.length
  rw [hheader] at hfirst hall
  rcases receiveData_cases d₀ opCode with
    ⟨hret, hreceived⟩ | ⟨d', heq, hreceived, hmore, hremaining⟩
  · -- It says that all has been received, and it is less than a word.
    refine hret (hfirst.returns.trans (if_pos ?_))
    omega
  · rw [heq] at hall
    have hstarved : d'.bytesReceived + d'.bytesRemaining < reply.length := by omega
    rcases starved_not _ (by omega) hstarved with ⟨offsets, hoff, hnot⟩
    exact hnot (hall offsets hoff)

/-- A reply is delivered exactly when its length is a word. -/
theorem reassembles_iff (d : Driver) (opCode : Nat) (params : List Nat) (reply : List UInt8)
    (h : Announces d opCode reply) :
    Reassembles reply d.buffer (d.transaction opCode true params []) ↔ reply.length < 65536 := by
  constructor
  · intro hdeliver
    by_contra hlong
    exact long_not h params (by omega) hdeliver
  · intro hlen
    have hanswers : Answers d opCode reply :=
      ⟨h.error, h.remaining, h.configured, h.idle, h.command, hlen, h.packets⟩
    rcases transaction_window d opCode params reply hanswers with ⟨d', hr, hw, -⟩
    have hreceived := hw.received
    have hremaining := hw.remaining
    rw [hr]
    refine ⟨⟨by simp only; omega, fun j hj => absurd hj (Nat.not_lt_zero j), fun j hj => ?_,
      by simp only; omega, ?_, fun hret => ?_, fun hpos => ?_⟩, fun offsets hoff => ?_⟩
    · have hshows := hw.shows j hj
      simp only [Nat.zero_add] at hshows ⊢
      exact hshows
    · simp only
      by_cases hzero : d'.bytesRemaining = 0
      · rw [if_pos hzero, if_neg (by omega)]
      · rw [if_neg hzero, if_pos (by omega)]
    · simp only at hret ⊢
      split at hret
      · exact Ret.noConfusion hret
      · omega
    · have hsize : bufferSize = 900 := rfl
      simp only
      omega
    · have hall := window_delivers offsets hw hoff
      rwa [Nat.zero_add] at hall

/-- The three bytes of a reply are delivered. -/
theorem reassembles_short :
    Reassembles [1, 2, 3] (fun _ => 0)
      ((Driver.idle [⟨noError, noError, [dataContainer 4097 [1, 2, 3], okResponse]⟩]).transaction
        4097 true [] []) :=
  (reassembles_iff _ 4097 [] [1, 2, 3]
    (answers_idle 4097 [1, 2, 3] [] (by decide) (by decide)).announces).mpr (by decide)

/-- A reply of 65536 bytes is announced, and the driver makes do with none of them. -/
theorem reply_cut : ∃ (d : Driver) (opCode : Nat) (reply : List UInt8),
    Announces d opCode reply ∧
      ¬ Reassembles reply d.buffer (d.transaction opCode true [] []) := by
  have hlength : (List.replicate 65536 (0 : UInt8)).length = 65536 := List.length_replicate
  have hannounces : Announces (Driver.idle [⟨noError, noError,
      [dataContainer 4097 (List.replicate 65536 0), okResponse]⟩]) 4097
        (List.replicate 65536 0) := by
    refine ⟨rfl, rfl, rfl, rfl, rfl, [dataContainer 4097 (List.replicate 65536 0)], okResponse, rfl,
      ?_, isResponse_okResponse⟩
    rw [List.flatten_singleton]
    refine isData_dataContainer 4097 _ (by decide) ?_
    rw [hlength]
    decide
  exact ⟨_, 4097, _, hannounces, long_not hannounces [] (by rw [hlength])⟩

end Ptp

end TimelapsePlus
