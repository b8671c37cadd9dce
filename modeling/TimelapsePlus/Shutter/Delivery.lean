import TimelapsePlus.Shutter.Effects

/-!
# Callbacks Are Delivered on Time

A callback requested for a time should be called once, on the first tick that
services the queue after as many ticks as it was requested for. `delivery` is
this as a monitor: it reads the log and follows one request through it.

The queue counts differently. A slot holds the ticks left, ticks that do not
service the queue are made up for later, and until they are the slot holds too
much by their number: by `skips`, and by one for each tick that is still sending
an infrared code and has not been counted yet. `Owes` says this of every
request that is followed. The next tick that services the queue takes off what
is owed, all at once. A callback that came due on one of the skipped ticks then
has less than that left, and since the time is unsigned it is not called but
starts over from the largest time there is. That is where the code is late, and
a request made while something is owed is where it is early.

## Main definitions

* `Delivery`, `delivery`: What has become of a request.
* `World.OnTime`: No request is early, late, lost or called twice.
* `Owes`: How the times in the queue relate to the log.
* `World.Services`: The next tick services the queue.
* `World.Punctual`: Nothing is owed when a request is made, and nothing overdue
  when the queue is serviced.

## Theorems

* `Owes.skip`, `Owes.accept`, `Owes.quiet`: What a tick that does not service
  the queue, a request, and everything else do to what is owed.
* `service_owes`: Servicing the queue.
* `step_tracked`: One step.
* `run_onTime`: Every run whose steps are punctual delivers on time.
* `late_callback`: A callback that comes due when a bulb starts.
-/

namespace TimelapsePlus

namespace Shutter

open Word

/-- What has become of a request: not made, waiting for some ticks to pass, due
    on the tick that is being serviced, called, or handled wrongly. -/
inductive Delivery
  | absent
  | waiting (fn : Callback) (ticks : Nat)
  | due (fn : Callback)
  | delivered
  | wrong
deriving Repr, DecidableEq

/-- What an event means for a request. A callback that is due has to be called
    before anything else happens. -/
def Delivery.next (request : Nat) (d : Delivery) : Event → Delivery
  | .accepted r fn time =>
      if r = request then (if d = .absent then .waiting fn time else .wrong) else d
  | .skipped => match d with
    | .waiting fn n => .waiting fn (n - 1)
    | .due _ => .wrong
    | _ => d
  | .serviced => match d with
    | .waiting fn n => if n ≤ 1 then .due fn else .waiting fn (n - 1)
    | .due _ => .wrong
    | _ => d
  | .called fn r =>
      if r = some request then (if d = .due fn then .delivered else .wrong) else d
  | _ => d

/-- What has become of a request, by the log. -/
def delivery (request : Nat) : List Event → Delivery
  | [] => .absent
  | e :: es => (delivery request es).next request e

/-- No request is early, late, lost, or called twice. -/
def World.OnTime (w : World) : Prop :=
  ∀ r, delivery r w.log ≠ .wrong ∧ ∀ fn, delivery r w.log ≠ .due fn

/-- An event that means nothing for any request. -/
def Event.Quiet : Event → Prop
  | .accepted _ _ _ | .skipped | .serviced | .called _ _ => False
  | _ => True

theorem delivery_quiet {e : Event} (h : e.Quiet) (r : Nat) (es : List Event) :
    delivery r (e :: es) = delivery r es := by
  cases e with
  | accepted => exact absurd h id
  | skipped => exact absurd h id
  | serviced => exact absurd h id
  | called => exact absurd h id
  | _ => rfl

/-- A request is waiting in a slot. -/
def Queue.Holds (q : Queue) (i : Fin 3) (r : Nat) : Prop := (q i).request = some r ∧ (q i).time ≠ 0

/-- Every request is in one slot or gone: the slots that hold one satisfy a
    condition on the slot and on what has become of the request, and a request no
    slot holds has been called or was never made. -/
structure Tracks (P : Fin 3 → Slot → Delivery → Prop) (q : Queue) (next : Nat)
    (log : List Event) : Prop where
  held : ∀ i r, q.Holds i r → P i (q i) (delivery r log)
  gone : ∀ r, (∀ i, ¬ q.Holds i r) →
    r < next ∧ delivery r log = .delivered ∨ next ≤ r ∧ delivery r log = .absent
  lt : ∀ i r, q.Holds i r → r < next
  once : ∀ i j r, q.Holds i r → q.Holds j r → i = j
  word : ∀ i, (q i).time < 65536

/-- When so many ticks are still to be made up for, a slot holds them and the
    ticks that are left, unless the callback is overdue. -/
def OwesSlot (debt : Nat) (s : Slot) (d : Delivery) : Prop :=
  ∃ n, d = .waiting s.fn n ∧ (s.time = n + debt ∨ n = 0 ∧ s.time ≤ debt)

/-- How the times in the queue relate to the log. -/
abbrev Owes (debt : Nat) : Queue → Nat → List Event → Prop := Tracks fun _ => OwesSlot debt

/-- The requests that wait are the same. -/
theorem Queue.Keeps.holds {q q' : Queue} (h : q.Keeps q') (i : Fin 3) (r : Nat) :
    q'.Holds i r ↔ q.Holds i r := by
  unfold Queue.Holds
  rcases h i with heq | ⟨hfree, hnone, _⟩
  · rw [heq]
  · rw [hnone, hfree]
    simp only [reduceCtorEq, false_and, ne_eq, not_true_eq_false, and_false]

theorem Queue.Keeps.eq_of_holds {q q' : Queue} (h : q.Keeps q') {i : Fin 3} {r : Nat}
    (hr : q.Holds i r) : q' i = q i := by
  rcases h i with heq | ⟨hfree, _⟩
  · exact heq
  · exact absurd hfree hr.2

/-- What does not concern the requests leaves them as they are. -/
theorem Tracks.quiet {P : Fin 3 → Slot → Delivery → Prop} {q q' : Queue} {next : Nat}
    {log log' : List Event} (h : Tracks P q next log)
    (hlog : ∀ r, delivery r log' = delivery r log) (hq : q.Keeps q') : Tracks P q' next log' := by
  refine ⟨fun i r hr => ?_, fun r hr => ?_, fun i r hr => ?_, fun i j r hi hj => ?_, fun i => ?_⟩
  · have hold := (hq.holds i r).mp hr
    rw [hlog, hq.eq_of_holds hold]
    exact h.held i r hold
  · rw [hlog]
    exact h.gone r fun i hi => hr i ((hq.holds i r).mpr hi)
  · exact h.lt i r ((hq.holds i r).mp hr)
  · exact h.once i j r ((hq.holds i r).mp hi) ((hq.holds j r).mp hj)
  · rcases hq i with heq | ⟨_, _, hword⟩
    · rw [heq]
      exact h.word i
    · exact hword

/-- One slot is serviced: its time changes, and if it is now zero its request has
    been called. -/
theorem Tracks.change {P P' : Fin 3 → Slot → Delivery → Prop} {q : Queue} {next : Nat}
    {log log' : List Event} (h : Tracks P q next log) (i : Fin 3) (time : Nat)
    (hword : time < 65536) (hzero : (q i).time = 0 → time = 0)
    (hlog : ∀ r, ¬ q.Holds i r → delivery r log' = delivery r log)
    (hother : ∀ j r, j ≠ i → q.Holds j r → P' j (q j) (delivery r log))
    (hcalled : ∀ r, q.Holds i r → time = 0 → delivery r log' = .delivered)
    (hwaits : ∀ r, q.Holds i r → time ≠ 0 →
      P' i { q i with time := time } (delivery r log')) :
    Tracks P' (Function.update q i { q i with time := time }) next log' := by
  have hself : (Function.update q i { q i with time := time }) i = { q i with time := time } :=
    Function.update_self ..
  have hne : ∀ j, j ≠ i → (Function.update q i { q i with time := time }) j = q j :=
    fun j hj => Function.update_of_ne hj ..
  have hholds : ∀ j r, Queue.Holds (Function.update q i { q i with time := time }) j r →
      q.Holds j r ∧ (j = i → time ≠ 0) := by
    intro j r hr
    unfold Queue.Holds at hr ⊢
    by_cases hj : j = i
    · rw [hj, hself] at hr
      rw [hj]
      exact ⟨⟨hr.1, fun hz => hr.2 (hzero hz)⟩, fun _ => hr.2⟩
    · rw [hne j hj] at hr
      exact ⟨hr, fun heq => absurd heq hj⟩
  refine ⟨fun j r hr => ?_, fun r hr => ?_, fun j r hr => h.lt j r (hholds j r hr).1,
    fun j k r hj hk => h.once j k r (hholds j r hj).1 (hholds k r hk).1, fun j => ?_⟩
  · rcases hholds j r hr with ⟨hold, htime⟩
    by_cases hj : j = i
    · rw [hj] at hold ⊢
      rw [hself]
      exact hwaits r hold (htime hj)
    · rw [hne j hj, hlog r fun hi => hj (h.once j i r hold hi)]
      exact hother j r hj hold
  · by_cases hi : q.Holds i r
    · -- The slot held the request, and does no longer: it was called.
      have htime : time = 0 := by
        by_contra hpos
        refine hr i ?_
        unfold Queue.Holds
        rw [hself]
        exact ⟨hi.1, hpos⟩
      exact Or.inl ⟨h.lt i r hi, hcalled r hi htime⟩
    · rw [hlog r hi]
      refine h.gone r fun j hj => ?_
      by_cases hji : j = i
      · rw [hji] at hj
        exact hi hj
      · refine hr j ?_
        unfold Queue.Holds
        rw [hne j hji]
        exact hj
  · by_cases hj : j = i
    · rw [hj, hself]
      exact hword
    · rw [hne j hj]
      exact h.word j

namespace Owes

variable {debt next : Nat} {q : Queue} {log : List Event}

/-- A tick that does not service the queue is owed. -/
theorem skip (h : Owes debt q next log) : Owes (debt + 1) q next (.skipped :: log) := by
  refine ⟨fun i r hr => ?_, fun r hr => ?_, h.lt, h.once, h.word⟩
  · rcases h.held i r hr with ⟨n, hn, htime⟩
    refine ⟨n - 1, by rw [delivery, hn]; rfl, ?_⟩
    omega
  · rcases h.gone r hr with ⟨hlt, hgone⟩ | ⟨hle, hgone⟩
    · exact Or.inl ⟨hlt, by rw [delivery, hgone]; rfl⟩
    · exact Or.inr ⟨hle, by rw [delivery, hgone]; rfl⟩

/-- A request made while nothing is owed is followed. -/
theorem accept (h : Owes 0 q next log) {i : Fin 3} (hfree : (q i).time = 0) {time : Nat}
    (hpos : time ≠ 0) (hword : time < 65536) (fn : Callback) :
    Owes 0 (Function.update q i ⟨time, fn, some next⟩) (next + 1)
      (.accepted next fn time :: log) := by
  have hself : (Function.update q i ⟨time, fn, some next⟩) i = ⟨time, fn, some next⟩ :=
    Function.update_self ..
  have hother : ∀ j, j ≠ i → (Function.update q i ⟨time, fn, some next⟩) j = q j :=
    fun j hj => Function.update_of_ne hj ..
  have hholds : ∀ j r, j ≠ i →
      (Queue.Holds (Function.update q i ⟨time, fn, some next⟩) j r ↔ q.Holds j r) := by
    intro j r hj
    unfold Queue.Holds
    rw [hother j hj]
  have hnew : ∀ r, Queue.Holds (Function.update q i ⟨time, fn, some next⟩) i r ↔ next = r := by
    intro r
    unfold Queue.Holds
    rw [hself, Option.some.injEq]
    exact ⟨fun hr => hr.1, fun hr => ⟨hr, hpos⟩⟩
  -- The number is new, so nothing was known of it.
  have habsent : delivery next log = .absent := by
    rcases h.gone next fun j hj => absurd (h.lt j next hj) (Nat.lt_irrefl next) with ⟨hlt, _⟩ | hle
    · exact absurd hlt (Nat.lt_irrefl next)
    · exact hle.2
  have hdelivery : ∀ r, r ≠ next → delivery r (.accepted next fn time :: log) = delivery r log := by
    intro r hr
    rw [delivery, Delivery.next, if_neg (Ne.symm hr)]
  refine ⟨fun j r hr => ?_, fun r hr => ?_, fun j r hr => ?_, fun j k r hj hk => ?_, fun j => ?_⟩
  · by_cases hj : j = i
    · rw [hj, hnew] at hr
      rw [hj, hself, ← hr, delivery, habsent, Delivery.next, if_pos rfl, if_pos rfl]
      exact ⟨time, rfl, Or.inl rfl⟩
    · rw [hholds j r hj] at hr
      have hlt := h.lt j r hr
      rw [hother j hj, hdelivery r (by omega)]
      exact h.held j r hr
  · have hne : r ≠ next := fun heq => hr i ((hnew r).mpr heq.symm)
    rw [hdelivery r hne]
    have hnone : ∀ j, ¬ q.Holds j r := by
      intro j hj
      by_cases hji : j = i
      · rw [hji] at hj
        exact hj.2 hfree
      · exact hr j ((hholds j r hji).mpr hj)
    rcases h.gone r hnone with ⟨hlt, hgone⟩ | ⟨hle, hgone⟩
    · exact Or.inl ⟨by omega, hgone⟩
    · exact Or.inr ⟨by omega, hgone⟩
  · by_cases hj : j = i
    · rw [hj, hnew] at hr
      omega
    · rw [hholds j r hj] at hr
      have := h.lt j r hr
      omega
  · by_cases hji : j = i
    · by_cases hki : k = i
      · rw [hji, hki]
      · rw [hji, hnew] at hj
        rw [hholds k r hki] at hk
        have := h.lt k r hk
        omega
    · by_cases hki : k = i
      · rw [hki, hnew] at hk
        rw [hholds j r hji] at hj
        have := h.lt j r hj
        omega
      · exact h.once j k r ((hholds j r hji).mp hj) ((hholds k r hki).mp hk)
  · by_cases hj : j = i
    · rw [hj, hself]
      exact hword
    · rw [hother j hj]
      exact h.word j

end Owes

/-- A step of the firmware leaves the requests alone: it writes nothing to the
    log that concerns them, and uses no slot but free ones. -/
structure World.Quiet (w v : World) : Prop where
  delivery : ∀ r, delivery r v.log = delivery r w.log
  queue : w.clock.queue.Keeps v.clock.queue
  skips : v.clock.skips = w.clock.skips
  frames : v.frames = w.frames
  next : v.nextRequest = w.nextRequest
  inside : v.inside = w.inside

namespace World

theorem Quiet.refl (w : World) : w.Quiet w :=
  ⟨fun _ => rfl, Queue.Keeps.refl _, rfl, rfl, rfl, rfl⟩

theorem Quiet.trans {w v u : World} (h : w.Quiet v) (h' : v.Quiet u) : w.Quiet u :=
  ⟨fun r => (h'.delivery r).trans (h.delivery r), h.queue.trans h'.queue, h'.skips.trans h.skips,
    h'.frames.trans h.frames, h'.next.trans h.next, h'.inside.trans h.inside⟩

/-- What a function of the shutter does at its ports leaves the requests alone. -/
theorem Ports.quiet {w v : World} (h : w.Ports v) : w.Quiet v := by
  refine ⟨fun r => ?_, h.queue, by rw [h.clock], h.frames, h.next, h.inside⟩
  rcases h.log with ⟨es, hlog, hport⟩
  rw [hlog]
  clear hlog
  induction es with
  | nil => rfl
  | cons e es ih =>
      have hquiet : e.Quiet := by
        have := hport e List.mem_cons_self
        cases e <;> first | exact trivial | exact absurd this id
      rw [List.cons_append, delivery_quiet hquiet]
      exact ih fun e' he' => hport e' (List.mem_cons_of_mem e he')

theorem bulbStartHead_quiet (w : World) (io : Io) : w.Quiet (w.bulbStartHead io).1 :=
  Quiet.trans (v := w.note .bulbStart)
    ⟨fun r => delivery_quiet (e := .bulbStart) trivial r w.log, Queue.Keeps.refl _, rfl, rfl, rfl,
      rfl⟩ (w.bulbStartHead_ports io).quiet

theorem bulbEndHead_quiet (w : World) (io : Io) : w.Quiet (w.bulbEndHead io).1 :=
  Quiet.trans (v := w.note .bulbEnd)
    ⟨fun r => delivery_quiet (e := .bulbEnd) trivial r w.log, Queue.Keeps.refl _, rfl, rfl, rfl,
      rfl⟩ (w.bulbEndHead_ports io).quiet

end World

section Service

/-- While the queue is serviced, the slots up to one have been serviced. A slot
    ahead still holds what is owed, and its callback is due if this is its tick;
    a slot behind holds only the ticks that are still sending a code. -/
def ServicingSlot (skips sending : Nat) (j : Nat) (i : Fin 3) (s : Slot) (d : Delivery) : Prop :=
  if i.val < j then ∃ n, 0 < n ∧ d = .waiting s.fn n ∧ s.time = n + sending
  else ∃ n, 0 < n ∧ (0 < sending → 1 < n) ∧ s.time = n + skips + sending ∧
    d = if n = 1 then .due s.fn else .waiting s.fn (n - 1)

/-- No callback is overdue, and none comes due while a code is being sent. -/
def Queue.Timely (q : Queue) (skips sending : Nat) : Prop :=
  ∀ i r, q.Holds i r →
    skips + sending < (q i).time ∧ (0 < sending → skips + sending + 1 < (q i).time)

instance (q : Queue) (skips sending : Nat) : Decidable (q.Timely skips sending) :=
  decidable_of_iff (∀ i : Fin 3, (q i).request.isSome → (q i).time ≠ 0 →
      skips + sending < (q i).time ∧ (0 < sending → skips + sending + 1 < (q i).time))
    ⟨fun h i _ hr => h i (Option.isSome_of_eq_some hr.1) hr.2,
      fun h i hsome hpos => (Option.isSome_iff_exists.mp hsome).elim fun _ hr => h i _ ⟨hr, hpos⟩⟩

variable {skips sending next : Nat} {q : Queue} {log : List Event}

theorem servicing_start (h : Owes (skips + sending) q next log) (htimely : q.Timely skips sending) :
    Tracks (ServicingSlot skips sending 0) q next (.serviced :: log) := by
  refine ⟨fun i r hr => ?_, fun r hr => ?_, h.lt, h.once, h.word⟩
  · rcases h.held i r hr with ⟨n, hn, htime⟩
    rcases htimely i r hr with ⟨hover, hsend⟩
    rw [ServicingSlot, if_neg (Nat.not_lt_zero _)]
    refine ⟨n, by omega, fun hpos => ?_, by omega, ?_⟩
    · have := hsend hpos
      omega
    · rw [delivery, hn, Delivery.next]
      by_cases hone : n = 1
      · rw [if_pos hone, if_pos (by omega)]
      · rw [if_neg hone, if_neg (by omega)]
  · rcases h.gone r hr with ⟨hlt, hgone⟩ | ⟨hle, hgone⟩
    · exact Or.inl ⟨hlt, by rw [delivery, hgone]; rfl⟩
    · exact Or.inr ⟨hle, by rw [delivery, hgone]; rfl⟩

/-- What is taken off a slot that is neither overdue nor due too early is what is
    owed, and one for this tick. -/
theorem sub16_time {time n : Nat} (hskips : skips < 256) (hword : time < 65536) (hn : 0 < n)
    (htime : time = n + skips + sending) : sub16 time (1 + skips) = n - 1 + sending := by
  unfold sub16 u16
  rw [Nat.mod_eq_of_lt (by omega : 1 + skips < 65536)]
  omega

/-- One slot is serviced. -/
theorem serviceSlot_tracks {w : World} (hin : w.inside = true) (hskips : w.clock.skips < 256)
    (i : Fin 3)
    (h : Tracks (ServicingSlot w.clock.skips w.frames.length i.val) w.clock.queue w.nextRequest
      w.log) :
    Tracks (ServicingSlot w.clock.skips w.frames.length (i.val + 1)) (w.serviceSlot i).clock.queue
        (w.serviceSlot i).nextRequest (w.serviceSlot i).log ∧
      (w.serviceSlot i).inside = true ∧ (w.serviceSlot i).clock.skips = w.clock.skips ∧
      (w.serviceSlot i).frames = w.frames := by
  -- The other slots stay where they are, ahead or behind.
  have hother : ∀ j r, j ≠ i → w.clock.queue.Holds j r →
      ServicingSlot w.clock.skips w.frames.length (i.val + 1) j (w.clock.queue j)
        (delivery r w.log) := by
    intro j r hj hr
    have hold := h.held j r hr
    have hval : j.val ≠ i.val := fun heq => hj (Fin.ext heq)
    unfold ServicingSlot at hold ⊢
    by_cases hlt : j.val < i.val
    · rw [if_pos hlt] at hold
      rw [if_pos (by omega)]
      exact hold
    · rw [if_neg hlt] at hold
      rw [if_neg (by omega)]
      exact hold
  have hahead : ∀ r, w.clock.queue.Holds i r → ∃ n, 0 < n ∧ (0 < w.frames.length → 1 < n) ∧
      (w.clock.queue i).time = n + w.clock.skips + w.frames.length ∧
      delivery r w.log = if n = 1 then .due (w.clock.queue i).fn
        else .waiting (w.clock.queue i).fn (n - 1) := by
    intro r hr
    have hold := h.held i r hr
    unfold ServicingSlot at hold
    rwa [if_neg (Nat.lt_irrefl _)] at hold
  have hword := h.word i
  unfold World.serviceSlot
  simp only
  by_cases hzero : (w.clock.queue i).time = 0
  · rw [if_pos hzero]
    refine ⟨⟨fun j r hr => ?_, h.gone, h.lt, h.once, h.word⟩, hin, rfl, rfl⟩
    refine hother j r (fun hj => ?_) hr
    rw [hj] at hr
    exact hr.2 hzero
  · rw [if_neg hzero]
    by_cases hcall : sub16 (w.clock.queue i).time (1 + w.clock.skips) = 0
    · -- The callback is called. If it is followed, it was due.
      rw [if_pos hcall]
      have hquiet := (World.call_ports (w := { w with
        clock.queue := Function.update w.clock.queue i { w.clock.queue i with time := 0 }
        log := .called (w.clock.queue i).fn (w.clock.queue i).request :: w.log }) hin
        (w.clock.queue i).fn).quiet
      have hchange : Tracks (ServicingSlot w.clock.skips w.frames.length (i.val + 1))
          (Function.update w.clock.queue i { w.clock.queue i with time := 0 }) w.nextRequest
          (.called (w.clock.queue i).fn (w.clock.queue i).request :: w.log) := by
        refine h.change i 0 (by omega) (fun _ => rfl) (fun r hr => ?_) hother (fun r hr _ => ?_)
          (fun r _ hpos => absurd rfl hpos)
        · rw [delivery, Delivery.next, if_neg fun heq => hr ⟨heq, hzero⟩]
        · rcases hahead r hr with ⟨n, hn, hsend, htime, hd⟩
          rw [sub16_time hskips hword hn htime] at hcall
          have hone : n = 1 := by omega
          rw [if_pos hone] at hd
          rw [delivery, Delivery.next, if_pos hr.1, if_pos hd]
      refine ⟨?_, hquiet.inside.trans hin, hquiet.skips, hquiet.frames⟩
      rw [hquiet.next]
      exact hchange.quiet hquiet.delivery hquiet.queue
    · rw [if_neg hcall]
      refine ⟨?_, hin, rfl, rfl⟩
      refine h.change i _ (u16_lt _) (fun hz => absurd hz hzero) (fun _ _ => rfl) hother
        (fun r _ hz => absurd hz hcall) (fun r hr _ => ?_)
      rcases hahead r hr with ⟨n, hn, hsend, htime, hd⟩
      have htime' := sub16_time hskips hword hn htime
      rw [ServicingSlot, if_pos (Nat.lt_succ_self _)]
      have hone : n ≠ 1 := by
        intro hone
        have hnone : w.frames.length = 0 := by
          by_contra hpos
          have := hsend (Nat.pos_of_ne_zero hpos)
          omega
        rw [htime', hone, hnone] at hcall
        exact hcall rfl
      rw [if_neg hone] at hd
      exact ⟨n - 1, by omega, hd, htime'⟩

/-- Servicing the queue pays off all that is owed but the ticks that are still
    sending a code. -/
theorem service_owes {w : World} (hin : w.inside = true) (hskips : w.clock.skips < 256)
    (h : Owes (w.clock.skips + w.frames.length) w.clock.queue w.nextRequest w.log)
    (htimely : w.clock.queue.Timely w.clock.skips w.frames.length) :
    Owes w.frames.length w.service.clock.queue w.service.nextRequest w.service.log ∧
      w.service.inside = true ∧ w.service.clock.skips = 0 ∧ w.service.frames = w.frames := by
  have hfold : ∀ v : World, (List.finRange 3).foldl World.serviceSlot v =
      ((v.serviceSlot 0).serviceSlot 1).serviceSlot 2 := fun _ => rfl
  have h0 := servicing_start h htimely
  rcases serviceSlot_tracks (w := w.note .serviced) hin hskips 0 h0 with ⟨h1, hin1, hs1, hf1⟩
  rw [← hs1, ← hf1] at h1
  rcases serviceSlot_tracks hin1 (by rw [hs1]; exact hskips) 1 h1 with ⟨h2, hin2, hs2, hf2⟩
  rw [← hs2, ← hf2] at h2
  rcases serviceSlot_tracks hin2 (by rw [hs2, hs1]; exact hskips) 2 h2 with ⟨h3, hin3, hs3, hf3⟩
  rw [World.service, hfold]
  refine ⟨⟨fun i r hr => ?_, h3.gone, h3.lt, h3.once, h3.word⟩, hin3, rfl,
    hf3.trans (hf2.trans hf1)⟩
  have hold := h3.held i r hr
  rw [ServicingSlot, if_pos (show i.val < (2 : Fin 3).val + 1 from i.isLt)] at hold
  rcases hold with ⟨n, _, hd, htime⟩
  refine ⟨n, hd, Or.inl ?_⟩
  rw [hf2, hf1] at htime
  exact htime

end Service

namespace World

/-- The next tick services the queue: no bulb starts or ends on it, and it does
    not take the sync input. -/
def Services (w : World) : Prop :=
  w.clock.newBulb = false ∧ (w.clock.bulbRunning = true → sub32 w.clock.bulbDuration 1 ≠ 0 ∧
    ¬ (w.clock.bulbDurationPCsync ≠ 0 ∧ w.syncPin = true))

instance (w : World) : Decidable w.Services :=
  inferInstanceAs (Decidable (_ ∧ (_ → _ ∧ ¬ (_ ∧ _))))

/-- A step is punctual: no request is taken while ticks are to be made up for, no
    callback is overdue or comes due while a code is being sent when the queue is
    serviced, and the ticks that do not service it can be counted. -/
def Punctual (w : World) : Action → Prop
  | .tick _ =>
      (w.Services → w.clock.queue.Timely w.clock.skips w.frames.length) ∧
        (¬ w.Services → w.clock.skips < 255)
  | .resume => w.clock.skips < 255
  | .callIn time _ => u16 time ≠ 0 → w.clock.queue.free ≠ none → w.clock.skips = 0
  | _ => True

instance (w : World) (a : Action) : Decidable (w.Punctual a) :=
  match a with
  | .tick _ => inferInstanceAs (Decidable ((_ → _) ∧ (_ → _)))
  | .resume => inferInstanceAs (Decidable (_ < _))
  | .callIn _ _ => inferInstanceAs (Decidable (_ → _ → _))
  | .bulb _ | .cancelBulb | .environment _ _ _ => .isTrue trivial

/-- Between steps: what is owed, and that nothing is inside `count`. -/
structure Tracked (w : World) : Prop where
  owes : Owes (w.clock.skips + w.frames.length) w.clock.queue w.nextRequest w.log
  inside : w.inside = false
  skips : w.clock.skips < 256

theorem enter_frames (w : World) : w.enter.frames.length = w.frames.length := by
  unfold enter
  cases w.frames with
  | nil => rfl
  | cons f fs => rfl

theorem prepareSync_quiet (w : World) : w.Quiet w.prepareSync := by
  unfold prepareSync
  split
  · exact ⟨fun _ => rfl, Queue.Keeps.refl _, rfl, rfl, rfl, rfl⟩
  · exact ⟨fun _ => rfl, Queue.Keeps.refl _, rfl, rfl, rfl, rfl⟩

/-- What is owed survives a quiet step, wherever the tick it belongs to is
    counted. -/
theorem Quiet.owes {w v : World} (h : w.Quiet v) {debt : Nat}
    (howes : Owes debt w.clock.queue w.nextRequest w.log) :
    Owes debt v.clock.queue v.nextRequest v.log := by
  rw [h.next]
  exact howes.quiet h.delivery h.queue

theorem u8_succ {n : Nat} (h : n < 255) : u8 (n + 1) = n + 1 := u8_of_lt (by omega)

/-- The tick that started a bulb is counted. -/
theorem finishStart_tracked {w : World} (hskips : w.clock.skips < 255)
    (h : Owes (w.clock.skips + 1 + w.frames.length) w.clock.queue w.nextRequest w.log) :
    w.finishStart.leave.Tracked := by
  have hcount : w.finishStart.leave.clock.skips = w.clock.skips + 1 := u8_succ hskips
  refine ⟨?_, rfl, by rw [hcount]; omega⟩
  rw [hcount]
  exact h.quiet (fun r => delivery_quiet (e := .offset) trivial r w.log) (Queue.Keeps.refl _)

/-- The tick that ended one is counted. -/
theorem finishEnd_tracked {w : World} (hskips : w.clock.skips < 255)
    (h : Owes (w.clock.skips + 1 + w.frames.length) w.clock.queue w.nextRequest w.log) :
    w.finishEnd.leave.Tracked := by
  have hcount : w.finishEnd.leave.clock.skips = w.clock.skips + 1 := u8_succ hskips
  refine ⟨?_, rfl, by rw [hcount]; omega⟩
  rw [hcount]
  exact h

theorem startTick_tracked {w : World} (hin : w.inside = true) (hskips : w.clock.skips < 255)
    (io : Io) (h : Owes (w.clock.skips + w.frames.length) w.clock.queue w.nextRequest w.log) :
    (w.startTick io).leave.Tracked := by
  have hskip : Owes (w.clock.skips + w.frames.length + 1) (w.note .skipped).clock.queue
      (w.note .skipped).nextRequest (w.note .skipped).log := h.skip
  have hhead := (w.note .skipped).prepareSync_quiet.trans
    ((w.note .skipped).prepareSync.bulbStartHead_quiet io)
  have howes := hhead.owes hskip
  have hinside := hhead.inside.trans hin
  have hcount : ((w.note .skipped).prepareSync.bulbStartHead io).1.clock.skips = w.clock.skips :=
    hhead.skips
  have hframes : ((w.note .skipped).prepareSync.bulbStartHead io).1.frames = w.frames :=
    hhead.frames
  unfold startTick
  generalize (w.note .skipped).prepareSync.bulbStartHead io = r at *
  simp only
  cases r.2 with
  | abort =>
      refine finishStart_tracked (by rw [hcount]; exact hskips) ?_
      rw [hcount, hframes, Nat.add_right_comm]
      exact howes
  | cable =>
      have hcable := (bulbStartCable_ports hinside).quiet
      refine finishStart_tracked (by rw [hcable.skips, hcount]; exact hskips) ?_
      rw [hcable.skips, hcable.frames, hcount, hframes, Nat.add_right_comm]
      exact hcable.owes howes
  | send =>
      refine ⟨?_, rfl, by simp only [leave, hcount]; omega⟩
      simp only [leave, hcount, hframes, List.length_cons, ← Nat.add_assoc]
      exact howes

theorem endTick_tracked {w : World} (hin : w.inside = true) (hskips : w.clock.skips < 255)
    (io : Io) (h : Owes (w.clock.skips + w.frames.length) w.clock.queue w.nextRequest w.log) :
    (w.endTick io).leave.Tracked := by
  have hhead := bulbEndHead_quiet { w.note .skipped with clock.bulbDuration := 0 } io
  have howes := hhead.owes h.skip
  have hinside := hhead.inside.trans hin
  unfold endTick
  generalize hr : ({ w.note .skipped with clock.bulbDuration := 0 } : World).bulbEndHead io = r
  rw [hr] at hhead howes hinside
  have hcount : r.1.clock.skips = w.clock.skips := hhead.skips
  have hframes : r.1.frames = w.frames := hhead.frames
  simp only
  by_cases hsend : r.2 = true
  · rw [if_pos hsend]
    refine ⟨?_, rfl, by simp only [leave, hcount]; omega⟩
    simp only [leave, hcount, hframes, List.length_cons, ← Nat.add_assoc]
    exact howes
  · rw [if_neg hsend]
    have hcable := (bulbEndCable_ports hinside).quiet
    have hc : _ = w.clock.skips := hcable.skips.trans hcount
    have hf : _ = w.frames := hcable.frames.trans hframes
    refine finishEnd_tracked (by rw [hc]; exact hskips) ?_
    rw [hc, hf, Nat.add_right_comm]
    exact hcable.owes howes

theorem syncTick_tracked {w : World} (hskips : w.clock.skips < 255)
    (h : Owes (w.clock.skips + w.frames.length) w.clock.queue w.nextRequest w.log) :
    w.syncTick.leave.Tracked := by
  have hcount : w.syncTick.leave.clock.skips = w.clock.skips + 1 := u8_succ hskips
  refine ⟨?_, rfl, by rw [hcount]; omega⟩
  rw [hcount]
  simp only [leave, syncTick, Nat.add_right_comm]
  exact h.skip

theorem service_tracked {w : World} (hin : w.inside = true) (hskips : w.clock.skips < 256)
    (h : Owes (w.clock.skips + w.frames.length) w.clock.queue w.nextRequest w.log)
    (htimely : w.clock.queue.Timely w.clock.skips w.frames.length) : w.service.leave.Tracked := by
  rcases service_owes hin hskips h htimely with ⟨howes, _, hzero, hframes⟩
  refine ⟨?_, rfl, by simp only [leave, hzero]; omega⟩
  simp only [leave, hzero, hframes, Nat.zero_add]
  exact howes

/-- A punctual tick. -/
theorem count_tracked {w : World} (h : w.Tracked) (io : Io) (hpunctual : w.Punctual (.tick io)) :
    (w.count io).Tracked := by
  have howes : Owes (w.enter.clock.skips + w.enter.frames.length) w.enter.clock.queue
      w.enter.nextRequest w.enter.log := by
    rw [enter_frames]
    exact h.owes
  have htimely : w.Services →
      w.enter.clock.queue.Timely w.enter.clock.skips w.enter.frames.length := by
    rw [enter_frames]
    exact hpunctual.1
  have hcount : ¬ w.Services → w.enter.clock.skips < 255 := hpunctual.2
  unfold count
  by_cases hnew : w.clock.newBulb = true
  · rw [if_pos hnew]
    refine startTick_tracked rfl (hcount fun hs => ?_) io howes
    rw [hs.1] at hnew
    exact absurd hnew (by decide)
  · rw [if_neg hnew]
    rw [Bool.not_eq_true] at hnew
    by_cases hrun : w.clock.bulbRunning = true
    · rw [if_pos hrun, bulbTick]
      by_cases hend : sub32 w.enter.clock.bulbDuration 1 = 0
      · rw [if_pos hend]
        exact endTick_tracked rfl (hcount fun hs => (hs.2 hrun).1 hend) io howes
      · rw [if_neg hend]
        by_cases hsync : (decide (w.enter.clock.bulbDurationPCsync ≠ 0) && w.enter.syncPin) = true
        · rw [if_pos hsync]
          rw [Bool.and_eq_true, decide_eq_true_eq] at hsync
          exact syncTick_tracked (hcount fun hs => (hs.2 hrun).2 hsync) howes
        · rw [if_neg hsync]
          rw [Bool.and_eq_true, decide_eq_true_eq] at hsync
          exact service_tracked
            (w := { w.enter with clock.bulbDuration := sub32 w.enter.clock.bulbDuration 1 })
            rfl h.skips howes (htimely ⟨hnew, fun _ => ⟨hend, hsync⟩⟩)
    · rw [if_neg hrun]
      exact service_tracked rfl h.skips howes (htimely ⟨hnew, fun hr => absurd hr hrun⟩)

theorem resume_tracked {w : World} (h : w.Tracked) {f : Frame} {fs : List Frame}
    (hframes : w.frames = f :: fs) (hskips : w.clock.skips < 255) : (w.resume f fs).Tracked := by
  have howes : Owes (w.clock.skips + 1 + fs.length) w.clock.queue w.nextRequest w.log := by
    have := h.owes
    rwa [hframes, List.length_cons, ← Nat.add_assoc, Nat.add_right_comm] at this
  unfold resume
  cases f.kind with
  | start =>
      have hcable :=
        (bulbStartCable_ports (w := { w with frames := fs, inside := true }) rfl).quiet
      refine finishStart_tracked (by rw [hcable.skips]; exact hskips) ?_
      rw [hcable.skips, hcable.frames]
      exact hcable.owes howes
  | stop =>
      have hcable := (bulbEndCable_ports
        (w := { w with frames := fs, inside := true, irShutterState := false }) rfl).quiet
      refine finishEnd_tracked (by rw [hcable.skips]; exact hskips) ?_
      rw [hcable.skips, hcable.frames]
      exact hcable.owes howes

theorem callIn_tracked {w : World} (h : w.Tracked) (hframes : w.frames = []) (time : Nat)
    (fn : Callback) (hpunctual : w.Punctual (.callIn time fn)) : (w.callIn time fn).Tracked := by
  have howes := h.owes
  unfold callIn
  cases hfree : w.clock.queue.free with
  | none => exact h
  | some i =>
      have hslot := Queue.free_eq_some hfree
      simp only [h.inside, Bool.false_or, decide_eq_true_eq]
      by_cases hzero : u16 time = 0
      · rw [if_pos hzero]
        refine ⟨howes.quiet (fun _ => rfl) fun j => ?_, rfl, h.skips⟩
        by_cases hj : j = i
        · refine Or.inr ⟨by rw [hj]; exact hslot, ?_⟩
          simp only [hj, Function.update_self, true_and]
          exact u16_lt time
        · exact Or.inl (Function.update_of_ne hj ..)
      · rw [if_neg hzero]
        have hnone : w.clock.skips = 0 :=
          hpunctual hzero (by rw [hfree]; simp only [ne_eq, reduceCtorEq, not_false_eq_true])
        refine ⟨?_, rfl, h.skips⟩
        rw [hframes, hnone] at howes ⊢
        exact howes.accept hslot hzero (u16_lt time) fn

/-- A punctual step. -/
theorem step_tracked {w v : World} (a : Action) (h : w.Tracked) (hpunctual : w.Punctual a)
    (hstep : w.step a = some v) : v.Tracked := by
  cases a with
  | tick io =>
      rw [step, Option.some.injEq] at hstep
      rw [← hstep]
      exact count_tracked h io hpunctual
  | resume =>
      rw [step] at hstep
      cases hframes : w.frames with
      | nil =>
          rw [hframes] at hstep
          exact absurd hstep (by simp only [reduceCtorEq, not_false_eq_true])
      | cons f fs =>
          simp only [hframes] at hstep
          split at hstep
          · rw [Option.some.injEq] at hstep
            rw [← hstep]
            exact resume_tracked h hframes hpunctual
          · exact absurd hstep (by simp only [reduceCtorEq, not_false_eq_true])
  | callIn time fn =>
      rw [step] at hstep
      split at hstep
      · rename_i hframes
        rw [Option.some.injEq] at hstep
        rw [← hstep]
        exact callIn_tracked h hframes time fn hpunctual
      · exact absurd hstep (by simp only [reduceCtorEq, not_false_eq_true])
  | bulb duration =>
      rw [step] at hstep
      split at hstep
      · rw [Option.some.injEq] at hstep
        rw [← hstep]
        exact ⟨h.owes.quiet (fun r => delivery_quiet (e := .bulb duration) trivial r w.log)
          (Queue.Keeps.refl _), h.inside, h.skips⟩
      · exact absurd hstep (by simp only [reduceCtorEq, not_false_eq_true])
  | cancelBulb =>
      rw [step] at hstep
      split at hstep
      · rw [Option.some.injEq] at hstep
        rw [← hstep]
        exact ⟨h.owes.quiet (fun r => delivery_quiet (e := .cancelled) trivial r w.log)
          (Queue.Keeps.refl _), h.inside, h.skips⟩
      · exact absurd hstep (by simp only [reduceCtorEq, not_false_eq_true])
  | environment cablePin syncPin link =>
      rw [step, Option.some.injEq] at hstep
      rw [← hstep]
      exact ⟨h.owes, h.inside, h.skips⟩

theorem Tracked.onTime {w : World} (h : w.Tracked) : w.OnTime := by
  intro r
  by_cases hheld : ∃ i, w.clock.queue.Holds i r
  · rcases hheld with ⟨i, hi⟩
    rcases h.owes.held i r hi with ⟨n, hn, _⟩
    rw [hn]
    simp only [ne_eq, reduceCtorEq, not_false_eq_true, implies_true, and_self]
  · rcases h.owes.gone r fun i hi => hheld ⟨i, hi⟩ with ⟨_, hgone⟩ | ⟨_, hgone⟩
    · rw [hgone]
      simp only [ne_eq, reduceCtorEq, not_false_eq_true, implies_true, and_self]
    · rw [hgone]
      simp only [ne_eq, reduceCtorEq, not_false_eq_true, implies_true, and_self]

theorem idle_tracked (conf : Settings) (irTicks : Nat) (link : Link) :
    (idle conf irTicks link).Tracked := by
  have hholds : ∀ i r, ¬ (Clock.reset.queue).Holds i r := fun i r hr => hr.2 rfl
  refine ⟨⟨fun i r hr => absurd hr (hholds i r), fun r _ => Or.inr ⟨Nat.zero_le r, rfl⟩,
    fun i r hr => absurd hr (hholds i r), fun i _ r hr => absurd hr (hholds i r), fun i => ?_⟩,
    rfl, ?_⟩
  · simp only [idle, Clock.reset]
    omega
  · simp only [idle, Clock.reset]
    omega

end World

/-- In every run whose steps are punctual, every request is called once, on the
    first tick that services the queue and is not too early. -/
theorem run_onTime (conf : Settings) (irTicks : Nat) (link : Link) (w : World)
    (h : Run World.step World.Punctual (World.idle conf irTicks link) w) : w.OnTime :=
  (h.invariant World.Tracked (fun _ a _ hinv hp hstep => World.step_tracked a hinv hp hstep)
    (World.idle_tracked conf irTicks link)).onTime

/-- A callback is requested for the second tick, on which it is called. -/
theorem run_onTime_two : ∃ w, Run World.step World.Punctual
    (World.idle cableSettings 0 .none) w ∧ delivery 0 w.log = .delivered ∧ w.OnTime := by
  have hallowed : allowed World.step World.Punctual (World.idle cableSettings 0 .none)
      [.callIn 2 .checkCable, .tick .ok, .tick .ok] = true := by
    decide
  have hdelivered : (steps World.step (World.idle cableSettings 0 .none)
      [.callIn 2 .checkCable, .tick .ok, .tick .ok]).map (fun w => delivery 0 w.log) =
        some .delivered := rfl
  rcases run_of_allowed _ hallowed with ⟨w, hsteps, hrun⟩
  rw [hsteps, Option.map_some, Option.some.injEq] at hdelivered
  exact ⟨w, hrun, hdelivered, run_onTime _ _ _ w hrun⟩

/-- A callback is requested for the next tick, which starts a bulb. On the tick
    after, which services the queue, it is not called: its time is now 65535. -/
theorem late_callback : ∃ w, Run World.step (fun _ _ => True)
    (World.idle cableSettings 0 .none) w ∧ ¬ w.OnTime := by
  have hdue : (steps World.step (World.idle cableSettings 0 .none)
      [.callIn 1 .checkCable, .bulb 100, .tick .ok, .tick .ok]).map (fun w => delivery 0 w.log) =
        some (.due .checkCable) := rfl
  rcases Option.map_eq_some_iff.mp hdue with ⟨w, hsteps, hlate⟩
  exact ⟨w, run_of_steps _ hsteps, fun h => (h 0).2 .checkCable hlate⟩

end Shutter

end TimelapsePlus
