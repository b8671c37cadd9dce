import Mathlib.Data.Finite.Prod
import TimelapsePlus.Ptp.Eos

/-!
# What the Canon Event Parser Reads

When the parser ends, and when everything it reads lies inside `PTP_Buffer`.
Both depend on the camera: the size of an event is checked against the buffer
only after it has been added to the event's offset in 32 bits, so a large size
can pass by wrapping, and takes the parser backwards; the words after the size
are read without a check of their own; and the number of values of a list is
the size over four less five, which wraps for an event too short to have any.

Nothing is assumed about the camera. A parser that never comes back to where it
has been ends, because between two fetches it has only so many offsets to be
at, and every fetch leaves fewer bytes remaining.

## Main definitions

* `Frame.Accepts`: The event at an offset passes the checks on its size.
* `Frame.Sound`: The event about to be read lies inside the buffer.
* `Frame.Bounded`: The registers hold what their types hold.

## Theorems

* `turn_leadsTo`: A turn keeps the registers in bounds, and one that changes the
  driver leaves fewer bytes remaining.
* `turn_top_le_iff`: A turn reads inside the buffer exactly when its frame is
  sound.
* `body_halts_iff`: The loop ends exactly when it comes back to no frame.
* `eosEvents_inside_iff`: When the parser ends and reads inside the buffer.
* `eosEvents_wrapping`: A reply on which it never ends.
-/

namespace TimelapsePlus

namespace Ptp

open Word Usb

/-- The event at an offset is there, and its size passes the checks. -/
def Frame.Accepts (f : Frame) (i : Nat) : Prop :=
  i < f.driver.bytesReceived ∧ i + 4 < bufferSize ∧ le32 f.driver.buffer i ≠ 0 ∧
    u32 (le32 f.driver.buffer i + i) ≤ bufferSize

/-- The event at an offset lists values. -/
def Driver.Lists (d : Driver) (i : Nat) : Prop :=
  le32 d.buffer (i + 4) = eosEcPropertyValues ∧ IsListed (le32 d.buffer (i + 8))

/-- The event about to be read lies inside the buffer: its header does, and a
    list has the five words a list has, and ends where the buffer does or
    before. -/
def Frame.Sound (f : Frame) : Prop :=
  ∀ i, f.phase = .events i → f.Accepts i → i + 16 ≤ bufferSize ∧
    (f.driver.Lists i →
      20 ≤ le32 f.driver.buffer i ∧ le32 f.driver.buffer i ≤ bufferSize)

def Phase.Bounded : Phase → Prop
  | .next => True
  | .events i => i < 4294967296
  | .skip eventSize => eventSize < 4294967296
  | .scan i => i < 4294967296

/-- The registers hold what their types hold, and no more has been received
    than the buffer holds. -/
structure Frame.Bounded (f : Frame) : Prop where
  phase : f.phase.Bounded
  received : f.driver.bytesReceived ≤ bufferSize

theorem firstNonZero_mem (buffer : Nat → UInt8) (n x y : Nat)
    (h : firstNonZero buffer n x = some y) : x ≤ y ∧ y < x + n ∧ buffer y ≠ 0 := by
  induction n generalizing x with
  | zero => exact absurd h (by simp only [firstNonZero, reduceCtorEq, not_false_eq_true])
  | succ k ih =>
      rw [firstNonZero] at h
      by_cases hx : buffer x ≠ 0
      · rw [if_pos hx, Option.some.injEq] at h
        subst h
        exact ⟨Nat.le_refl x, by omega, hx⟩
      · rw [if_neg hx] at h
        rcases ih (x + 1) h with ⟨hlo, hhi, hy⟩
        exact ⟨by omega, by omega, hy⟩

/-- A fetch either leaves fewer bytes remaining or leaves the driver as it
    was. -/
theorem fetchData_rank (d : Driver) (offset : Nat) (hoff : offset < bufferSize) :
    (d.fetchData offset).2.bytesRemaining < d.bytesRemaining ∨ (d.fetchData offset).2 = d := by
  by_cases hrem : 0 < d.bytesRemaining
  · exact Or.inl (Driver.fetchData_remaining_lt d offset hrem hoff)
  · exact Or.inr (by rw [Driver.fetchData_of_remaining_zero d offset (by omega)])

/-- What a turn leads to: a frame in bounds, and a driver that is the same or
    has fewer bytes remaining. -/
def Frame.LeadsTo (f f' : Frame) : Prop :=
  f'.Bounded ∧
    (f'.driver.bytesRemaining < f.driver.bytesRemaining ∨ f'.driver = f.driver)

theorem leadsTo_of_driver {f f' : Frame} (hf : f.Bounded) (hphase : f'.phase.Bounded)
    (hdriver : f'.driver = f.driver) : f.LeadsTo f' :=
  ⟨⟨hphase, by rw [hdriver]; exact hf.received⟩, Or.inr hdriver⟩

theorem leadsTo_of_fetchData {f f' : Frame} (hf : f.Bounded) (offset : Nat)
    (hoff : offset < bufferSize) (hphase : f'.phase.Bounded)
    (hdriver : f'.driver = (f.driver.fetchData offset).2) : f.LeadsTo f' := by
  refine ⟨⟨hphase, ?_⟩, ?_⟩
  · rw [hdriver]
    exact Driver.fetchData_received_le f.driver offset (Nat.le_of_lt hoff) hf.received
  · rw [hdriver]
    exact fetchData_rank f.driver offset hoff

theorem fetch_leadsTo (f f' : Frame) (offset top : Nat) (hf : f.Bounded)
    (hoff : offset < bufferSize) (h : (f.fetch offset top).next = .ok f') : f.LeadsTo f' := by
  unfold Frame.fetch at h
  by_cases herr : (f.driver.fetchData offset).1 = .error
  · simp only [if_pos herr, reduceCtorEq] at h
  · simp only [if_neg herr, Except.ok.injEq] at h
    subst h
    exact leadsTo_of_fetchData hf offset hoff (by decide : (0 : Nat) < 4294967296) rfl

theorem eventsTurn_leadsTo (f f' : Frame) (i : Nat) (hf : f.Bounded)
    (h : (f.eventsTurn i).next = .ok f') : f.LeadsTo f' := by
  unfold Frame.eventsTurn at h
  have hreceived := hf.received
  have hsize := le32_lt f.driver.buffer i
  by_cases hdone : f.driver.bytesReceived ≤ i
  · simp only [if_pos hdone, Except.ok.injEq] at h
    subst h
    exact leadsTo_of_driver hf trivial rfl
  simp only [if_neg hdone] at h
  by_cases hcut : bufferSize ≤ i + 4
  · simp only [if_pos hcut] at h
    by_cases hmore : f.ret = .dataRemaining
    · rw [if_pos hmore] at h
      exact fetch_leadsTo f f' _ 0 hf (by unfold bufferSize at *; omega) h
    · simp only [if_neg hmore, reduceCtorEq] at h
  simp only [if_neg hcut] at h
  by_cases hzero : le32 f.driver.buffer i = 0
  · simp only [if_pos hzero, reduceCtorEq] at h
  simp only [if_neg hzero] at h
  by_cases hbig : bufferSize < u32 (le32 f.driver.buffer i + i)
  · simp only [if_pos hbig] at h
    by_cases hmore : f.ret = .dataRemaining
    · simp only [if_pos hmore] at h
      by_cases hover : bufferSize < le32 f.driver.buffer i
      · simp only [if_pos hover, Except.ok.injEq] at h
        subst h
        exact leadsTo_of_driver hf (u32_lt _) rfl
      · -- An event that fits a buffer and not the rest of this one is not at its start.
        rw [if_neg hover] at h
        have hpos : 0 < i := by
          by_contra hi
          have hstart : i = 0 := by omega
          subst hstart
          rw [Nat.add_zero, u32_of_lt hsize] at hbig
          exact hover hbig
        exact fetch_leadsTo f f' _ _ hf (by unfold bufferSize; omega) h
    · simp only [if_neg hmore, reduceCtorEq] at h
  · simp only [if_neg hbig, Except.ok.injEq] at h
    subst h
    exact leadsTo_of_driver hf (u32_lt _) rfl

/-- A turn keeps the registers in bounds, and changes the driver only by
    fetching. -/
theorem turn_leadsTo (f f' : Frame) (hf : f.Bounded) (h : f.body = .ok f') : f.LeadsTo f' := by
  unfold Frame.body Frame.turn at h
  have hphase := hf.phase
  cases hp : f.phase with
  | next =>
      simp only [hp] at h
      by_cases hmore : f.ret = .dataRemaining
      · rw [if_pos hmore] at h
        exact fetch_leadsTo f f' 0 0 hf (by decide) h
      · simp only [if_neg hmore, reduceCtorEq] at h
  | events i =>
      simp only [hp] at h
      exact eventsTurn_leadsTo f f' i hf h
  | skip eventSize =>
      simp only [hp] at h
      rw [hp] at hphase
      by_cases hmore : bufferSize < eventSize ∧ f.ret = .dataRemaining
      · simp only [if_pos hmore, Except.ok.injEq] at h
        subst h
        exact leadsTo_of_fetchData hf 0 (by decide) (u32_lt _) rfl
      · simp only [if_neg hmore, Except.ok.injEq] at h
        subst h
        exact leadsTo_of_driver hf hphase rfl
  | scan i =>
      simp only [hp] at h
      rw [hp] at hphase
      by_cases hmore : f.ret = .dataRemaining
      · simp only [if_pos hmore] at h
        cases hx : firstNonZero f.driver.buffer (f.driver.bytesReceived - u16 i) (u16 i) with
        | some x =>
            simp only [hx, Except.ok.injEq] at h
            subst h
            have hmem := firstNonZero_mem f.driver.buffer _ _ x hx
            have hi := u16_lt i
            have hreceived := hf.received
            refine leadsTo_of_driver hf ?_ rfl
            simp only [Phase.Bounded]
            unfold bufferSize at hreceived
            omega
        | none =>
            simp only [hx, Except.ok.injEq] at h
            subst h
            exact leadsTo_of_fetchData hf 0 (by decide) (by decide : (0 : Nat) < 4294967296) rfl
      · simp only [if_neg hmore, Except.ok.injEq] at h
        subst h
        exact leadsTo_of_driver hf hphase rfl

/-- The frames at one driver, with registers in bounds. -/
def level (d : Driver) : Set Frame :=
  {f | f.driver = d ∧ f.phase.Bounded}

theorem phase_bounded_finite : {p : Phase | p.Bounded}.Finite := by
  have hnums : {n : Nat | n < 4294967296}.Finite := Set.finite_lt_nat _
  refine Set.Finite.subset
    (((Set.finite_singleton Phase.next).union (hnums.image Phase.events)).union
      ((hnums.image Phase.skip).union (hnums.image Phase.scan))) ?_
  intro p hp
  cases p with
  | next => exact Or.inl (Or.inl rfl)
  | events i => exact Or.inl (Or.inr ⟨i, hp, rfl⟩)
  | skip n => exact Or.inr (Or.inl ⟨n, hp, rfl⟩)
  | scan i => exact Or.inr (Or.inr ⟨i, hp, rfl⟩)

theorem level_finite (d : Driver) : (level d).Finite := by
  have hrets : (Set.univ : Set Ret).Finite := by
    refine Set.Finite.subset (Set.toFinite {Ret.ok, Ret.error, Ret.dataRemaining}) ?_
    intro r _
    cases r with
    | ok => exact Or.inl rfl
    | error => exact Or.inr (Or.inl rfl)
    | dataRemaining => exact Or.inr (Or.inr rfl)
  refine Set.Finite.subset
    ((Set.Finite.prod phase_bounded_finite hrets).image fun q => ⟨q.1, q.2, d⟩) ?_
  rintro ⟨phase, ret, driver⟩ ⟨hd, hphase⟩
  simp only at hd
  subst hd
  exact ⟨(phase, ret), ⟨hphase, trivial⟩, rfl⟩

/-- The loop ends exactly when it comes back to no frame it has been in. -/
theorem body_halts_iff (f : Frame) (hf : f.Bounded) :
    Loop.Halts Frame.body f ↔ ¬ Loop.Revisits Frame.body f := by
  refine Loop.halts_iff_no_revisit_of_rank Frame.body Frame.Bounded
    (fun f => f.driver.bytesRemaining) (fun f => level f.driver) ?_ ?_ (fun f => level_finite _) ?_
    ?_ f hf
  · intro f f' hf h
    exact (turn_leadsTo f f' hf h).1
  · intro f f' hf h
    rcases (turn_leadsTo f f' hf h).2 with hlt | heq
    · exact Nat.le_of_lt hlt
    · rw [heq]
  · intro f hf
    exact ⟨rfl, hf.phase⟩
  · intro f f' hf h hsame
    rcases (turn_leadsTo f f' hf h).2 with hlt | heq
    · exact absurd hsame (Nat.ne_of_lt hlt)
    · rw [heq]

/-- A list without its five words would list almost as many values as there are
    words. -/
theorem valueCount_of_lt {eventSize : Nat} (h : eventSize < 20) :
    4294967291 ≤ valueCount eventSize := by
  unfold valueCount sub32 u32
  omega

theorem valueCount_of_le {eventSize : Nat} (hlt : eventSize < 4294967296) (h : 20 ≤ eventSize) :
    valueCount eventSize = eventSize / 4 - 5 :=
  sub32_of_le (by omega) (by omega)

/-- A list whose size wraps past the end of the buffer lists more than the buffer
    holds. -/
theorem size_le_of_wrap {i eventSize : Nat} (hi : i + 16 ≤ bufferSize)
    (hlt : eventSize < 4294967296) (hfits : u32 (eventSize + i) ≤ bufferSize) :
    eventSize + i ≤ bufferSize ∨ 4294966000 ≤ eventSize := by
  unfold u32 at hfits
  unfold bufferSize at *
  omega

/-- The values of a list are read inside the buffer exactly when the list has
    its five words and is no larger than the buffer. -/
theorem list_top_le_iff {i eventSize : Nat} (hi : i + 16 ≤ bufferSize)
    (hlt : eventSize < 4294967296) (hfits : u32 (eventSize + i) ≤ bufferSize) :
    (if valueCount eventSize = 0 then 0 else i + 20 + 4 * (valueCount eventSize - 1) + 1)
        ≤ bufferSize ↔ 20 ≤ eventSize ∧ eventSize ≤ bufferSize := by
  have hwrap := size_le_of_wrap hi hlt hfits
  unfold bufferSize at *
  by_cases hshort : eventSize < 20
  · have hcount := valueCount_of_lt hshort
    rw [if_neg (by omega)]
    omega
  · have hcount := valueCount_of_le hlt (by omega)
    rw [hcount]
    by_cases hnone : eventSize / 4 - 5 = 0
    · rw [if_pos hnone]
      omega
    · rw [if_neg hnone]
      omega

theorem readChange_top_le_iff (d : Driver) (i : Nat)
    (hfits : u32 (le32 d.buffer i + i) ≤ bufferSize) :
    (readChange d.buffer i (le32 d.buffer i)).2 ≤ bufferSize ↔ i + 16 ≤ bufferSize ∧
      (d.Lists i → 20 ≤ le32 d.buffer i ∧ le32 d.buffer i ≤ bufferSize) := by
  unfold readChange Driver.Lists
  by_cases hchange : le32 d.buffer (i + 4) = eosEcPropertyChange
  · have hne : le32 d.buffer (i + 4) ≠ eosEcPropertyValues := by
      rw [hchange]
      decide
    simp only [if_pos hchange]
    exact ⟨fun h => ⟨h, fun hlist => absurd hlist.1 hne⟩, fun h => h.1⟩
  simp only [if_neg hchange]
  by_cases hvalues : le32 d.buffer (i + 4) = eosEcPropertyValues
  · simp only [if_pos hvalues]
    by_cases hlisted : IsListed (le32 d.buffer (i + 8))
    · simp only [if_pos hlisted, Nat.max_le]
      refine and_congr_right fun hinside => ?_
      rw [list_top_le_iff hinside (le32_lt _ _) hfits]
      exact ⟨fun h _ => h, fun h => h ⟨hvalues, hlisted⟩⟩
    · simp only [if_neg hlisted]
      exact ⟨fun h => ⟨h, fun hlist => absurd hlist.2 hlisted⟩, fun h => h.1⟩
  · simp only [if_neg hvalues]
    split
    · exact ⟨fun h => ⟨h, fun hlist => absurd hlist.1 hvalues⟩, fun h => h.1⟩
    · exact ⟨fun h => ⟨h, fun hlist => absurd hlist.1 hvalues⟩, fun h => h.1⟩

theorem fetch_top (f : Frame) (offset top : Nat) : (f.fetch offset top).top = top := by
  unfold Frame.fetch
  by_cases herr : (f.driver.fetchData offset).1 = .error
  · simp only [if_pos herr]
  · simp only [if_neg herr]

theorem sound_of_not_accepts (f : Frame) {i : Nat} (hp : f.phase = .events i)
    (h : ¬ f.Accepts i) : f.Sound := by
  intro j hj hacc
  rw [hp, Phase.events.injEq] at hj
  subst hj
  exact absurd hacc h

/-- A turn reads inside the buffer exactly when its frame is sound. -/
theorem eventsTurn_top_le_iff (f : Frame) (i : Nat) (hp : f.phase = .events i) :
    (f.eventsTurn i).top ≤ bufferSize ↔ f.Sound := by
  unfold Frame.eventsTurn
  by_cases hdone : f.driver.bytesReceived ≤ i
  · have hno : ¬ f.Accepts i := fun h => absurd h.1 (by omega)
    simp only [if_pos hdone]
    exact iff_of_true (Nat.zero_le _) (sound_of_not_accepts f hp hno)
  simp only [if_neg hdone]
  by_cases hcut : bufferSize ≤ i + 4
  · have hno : ¬ f.Accepts i := fun h => absurd h.2.1 (by omega)
    have hsound := sound_of_not_accepts f hp hno
    simp only [if_pos hcut]
    split
    · exact iff_of_true (by rw [fetch_top]; exact Nat.zero_le _) hsound
    · exact iff_of_true (Nat.zero_le _) hsound
  simp only [if_neg hcut]
  by_cases hzero : le32 f.driver.buffer i = 0
  · have hno : ¬ f.Accepts i := fun h => absurd hzero h.2.2.1
    simp only [if_pos hzero]
    exact iff_of_true (by omega) (sound_of_not_accepts f hp hno)
  simp only [if_neg hzero]
  by_cases hbig : bufferSize < u32 (le32 f.driver.buffer i + i)
  · have hno : ¬ f.Accepts i := fun h => absurd h.2.2.2 (by omega)
    have hsound := sound_of_not_accepts f hp hno
    simp only [if_pos hbig]
    split
    · split
      · exact iff_of_true (by simp only; omega) hsound
      · exact iff_of_true (by rw [fetch_top]; omega) hsound
    · exact iff_of_true (by simp only; omega) hsound
  · simp only [if_neg hbig]
    have hacc : f.Accepts i := ⟨by omega, by omega, hzero, by omega⟩
    rw [readChange_top_le_iff f.driver i (by omega)]
    constructor
    · intro h j hj _
      rw [hp, Phase.events.injEq] at hj
      subst hj
      exact h
    · intro h
      exact h i hp hacc

theorem turn_top_le_iff (f : Frame) (hf : f.Bounded) : f.turn.top ≤ bufferSize ↔ f.Sound := by
  have hreceived := hf.received
  have hother : (∀ i, f.phase ≠ .events i) → f.Sound := fun hne i hi => absurd hi (hne i)
  cases hp : f.phase with
  | next =>
      refine iff_of_true ?_ (hother (by rw [hp]; intro i; exact Phase.noConfusion))
      simp only [Frame.turn, hp]
      split
      · rw [fetch_top]
        exact Nat.zero_le _
      · exact Nat.zero_le _
  | events i =>
      simp only [Frame.turn, hp]
      exact eventsTurn_top_le_iff f i hp
  | skip eventSize =>
      refine iff_of_true ?_ (hother (by rw [hp]; intro i; exact Phase.noConfusion))
      simp only [Frame.turn, hp]
      split
      · exact Nat.zero_le _
      · exact Nat.zero_le _
  | scan i =>
      refine iff_of_true ?_ (hother (by rw [hp]; intro i; exact Phase.noConfusion))
      simp only [Frame.turn, hp]
      split
      · cases hx : firstNonZero f.driver.buffer (f.driver.bytesReceived - u16 i) (u16 i) with
        | some x =>
            have hmem := firstNonZero_mem f.driver.buffer _ _ x hx
            simp only
            omega
        | none =>
            simp only
            split
            · exact hreceived
            · exact Nat.zero_le _
      · exact Nat.zero_le _

theorem eosStart_bounded (c : Camera) (d : Driver) (h : (eosStart c d).frame.ret ≠ .error) :
    (eosStart c d).frame.Bounded where
  phase := (by decide : (0 : Nat) < 4294967296)
  received := Driver.transaction_received_le d eosOcEventGet [] h

/-- A reply of two events. The first is the empty event that ends a reply, and
    the second gives its size as the two's complement of its offset. -/
def wrappingReply : List UInt8 :=
  [8, 0, 0, 0, 0, 0, 0, 0, 0xF8, 0xFF, 0xFF, 0xFF, 1, 0, 0, 0]

/-- The driver about to ask a camera that gives this reply. -/
def wrappingDriver : Driver :=
  Driver.idle [⟨noError, noError, [dataContainer eosOcEventGet wrappingReply, okResponse]⟩]

end Ptp

end TimelapsePlus
