import TimelapsePlus.Lib.Word
import TimelapsePlus.Ptp.Camera
import TimelapsePlus.Shutter.Settings

/-!
# Moving the Focus

`moveFocus` brings the lens to a position by counting steps. It knows the position it
has left the lens at, asks the camera for the steps between, and takes the new position
for reached if the camera says so within ten attempts.

The camera makes its steps one after the other, and an attempt fails at the first that
is refused. The next attempt asks for all of them again, whatever the lens has moved
already. An attempt can also fail after its last step, where live view cannot be left,
and one that asks for none is a success at once. That is what a distance of 65536 comes
to, and what is done for a camera that is neither a Canon nor a Nikon.

What the camera does is a parameter. It may be another one after a step, as the
connection is reset when the driver has seen an error.

## Main definitions

* `FocusLink`: What the calls know of the camera.
* `Lens`: What the camera does.
* `Travel`: The camera, and how far the lens has gone.
* `Lens.moveFocusPTP`: `PTP::moveFocus`.
* `Lens.attempts`: The loop that tries again.
* `Lens.moveFocus`: `moveFocus`.
* `Lens.Tracks`: The position has changed by as much as the lens has gone.
* `Lens.Fails`: The ways an attempt fails, told by what the camera does.
* `Lens.Failing`: Attempts that fail one after the other.
* `Lens.Undisturbed`: When the position is right.

## Theorems

* `focusSteps_of_accepts`: Accepted steps add up.
* `moveFocusPTP_of_fails`: An attempt fails in the ways that are listed,
* `moveFocusPTP_of_not_fails`: and goes all the way, or nowhere, if it does not.
* `failing_cases`: How the loop ends.
* `moveFocus_tracks_iff`: When the position says where the lens is.
* `moveFocus_loses_steps`: Two steps by the position, and three of the lens.
-/

namespace TimelapsePlus

namespace Shutter

open Word Ptp

/-- What the calls know of the camera: its state, the protocol, whether it is ready, and
    whether it is in live view. -/
structure FocusLink (σ : Type) where
  camera : σ
  protocol : Protocol
  ready : Bool
  modeLiveView : Bool

/-- What the camera does: with the order for one step, and whether it accepts it; with
    the order that turns live view on or off; and while the firmware waits for it. All of
    them may find another camera. -/
structure Lens (σ : Type) where
  focus : FocusLink σ → Bool × FocusLink σ
  order : Bool → FocusLink σ → Bool × FocusLink σ
  wait : FocusLink σ → FocusLink σ

/-- The camera, and how far its lens has gone. -/
structure Travel (σ : Type) where
  link : FocusLink σ
  travelled : Int

namespace Lens

variable {σ : Type} (lens : Lens σ)

/-- `PTP::liveView`. It is true where the order has failed. -/
def liveView (on : Bool) (s : FocusLink σ) : Bool × FocusLink σ :=
  if s.ready = false then (false, s)
  else
    let r := match s.protocol with
      | .eos => lens.order on s
      | .nikon => lens.order on s
      | _ => (true, s)
    if r.1 then (false, { r.2 with modeLiveView := on }) else (true, r.2)

/-- The loops of `PTP::moveFocus`: the steps one after the other, up to one that is
    refused. A positive `move` goes down. -/
def focusSteps (before : FocusLink σ → FocusLink σ) (move : Int) : Nat → Travel σ → Bool × Travel σ
  | 0, s => (false, s)
  | n + 1, s =>
    let r := lens.focus (before s.link)
    if r.1 then focusSteps before move n ⟨r.2, s.travelled - move⟩
    else (true, { s with link := r.2 })

/-- `PTP::moveFocus`. It is true where the attempt has failed. -/
def moveFocusPTP (move : Int) (steps : Nat) (s : Travel σ) : Bool × Travel σ :=
  if move = 0 ∨ steps = 0 then (false, s)
  else match s.link.protocol with
    | .eos =>
        -- Only works in live view mode.
        if s.link.modeLiveView = false then (true, s)
        else lens.focusSteps id move steps s
    | .nikon =>
        let wasInLiveView := s.link.modeLiveView
        let waited := lens.wait s.link
        let on := if wasInLiveView then (false, waited) else lens.liveView true waited
        if on.1 then (true, { s with link := on.2 })
        else
          let r := lens.focusSteps lens.wait move steps { s with link := on.2 }
          if r.1 then r
          else
            let link := lens.wait r.2.link
            if wasInLiveView then (false, { r.2 with link := link })
            else
              let off := lens.liveView false link
              (off.1, { r.2 with link := off.2 })
    | _ => (false, s)

/-- The loop of `moveFocus`, with so many attempts left. It is true where there are none. -/
def attempts (move : Int) (steps : Nat) : Nat → Travel σ → Bool × Travel σ
  | 0, s => (true, s)
  | n + 1, s =>
    let r := lens.moveFocusPTP move steps s
    if r.1 then attempts move steps n r.2 else r

/-- Live view for a Canon, before the lens is moved. -/
def prepare (make : CameraMake) (s : FocusLink σ) : FocusLink σ :=
  if s.modeLiveView = false ∧ make = .canon then (lens.liveView true s).2 else s

/-- A distance without its sign. -/
def magnitude (steps : Int) : Option Int := if steps < 0 then fit32 (0 - steps) else some steps

/-- `moveFocus`, with the position the lens has been left at, which it returns. There is
    none where the distance is too large for its type. -/
def moveFocus (focusEnabled : Bool) (make : CameraMake) (pos focusPos : Int) (s : FocusLink σ) :
    Option (Int × Travel σ) :=
  if focusPos ≠ pos ∧ focusEnabled then do
    let link := lens.prepare make s
    let steps ← fit32 (pos - focusPos)
    let distance ← magnitude steps
    let move := if steps < 0 then 1 else -1
    let r := lens.attempts move (u16 distance.toNat) 10 ⟨link, 0⟩
    some (if r.1 then focusPos else pos, r.2)
  else some (focusPos, ⟨s, 0⟩)

/-- The position has changed by as much as the lens has gone. -/
def Tracks (focusEnabled : Bool) (make : CameraMake) (pos focusPos : Int) (s : FocusLink σ) :
    Prop :=
  ∃ pos' t, lens.moveFocus focusEnabled make pos focusPos s = some (pos', t) ∧
    pos' - focusPos = t.travelled

end Lens

/-- The protocols with an order for the lens. -/
def movesFocus : Protocol → Bool
  | .eos | .nikon => true
  | _ => false

namespace Lens

variable {σ : Type} (lens : Lens σ)

/-- The camera accepts so many steps in a row. -/
inductive Accepts (before : FocusLink σ → FocusLink σ) : Nat → FocusLink σ → FocusLink σ → Prop
  | start (s : FocusLink σ) : Accepts before 0 s s
  | step {k : Nat} {s t : FocusLink σ} : (lens.focus (before s)).1 = true →
      Accepts before k (lens.focus (before s)).2 t → Accepts before (k + 1) s t

/-- The camera refuses the step after so many. -/
def Refuses (before : FocusLink σ → FocusLink σ) (k : Nat) (s t : FocusLink σ) : Prop :=
  ∃ u, lens.Accepts before k s u ∧ lens.focus (before u) = (false, t)

/-- The camera is in live view, or gets there. -/
def Enters (s t : FocusLink σ) : Prop :=
  if s.modeLiveView then t = lens.wait s else lens.liveView true (lens.wait s) = (false, t)

/-- The ways an attempt fails, with the steps the camera has accepted. -/
inductive Fails (steps : Nat) : Nat → FocusLink σ → FocusLink σ → Prop
  | noView {s : FocusLink σ} : s.protocol = .eos → 0 < steps → s.modeLiveView = false →
      Fails steps 0 s s
  | eos {k : Nat} {s t : FocusLink σ} : s.protocol = .eos → s.modeLiveView = true → k < steps →
      lens.Refuses id k s t → Fails steps k s t
  | entry {s t : FocusLink σ} : s.protocol = .nikon → 0 < steps → s.modeLiveView = false →
      lens.liveView true (lens.wait s) = (true, t) → Fails steps 0 s t
  | nikon {k : Nat} {s u t : FocusLink σ} : s.protocol = .nikon → lens.Enters s u → k < steps →
      lens.Refuses lens.wait k u t → Fails steps k s t
  | leave {s u v t : FocusLink σ} : s.protocol = .nikon → 0 < steps → s.modeLiveView = false →
      lens.Enters s u → lens.Accepts lens.wait steps u v →
      lens.liveView false (lens.wait v) = (true, t) → Fails steps steps s t

/-- So many attempts that fail, with the steps the camera has accepted in all of them. -/
inductive Failing (steps : Nat) : Nat → Nat → FocusLink σ → FocusLink σ → Prop
  | none (s : FocusLink σ) : Failing steps 0 0 s s
  | again {j k m : Nat} {s t u : FocusLink σ} : lens.Fails steps k s t → Failing steps j m t u →
      Failing steps (j + 1) (k + m) s u

/-- When the position is right. The distance has to fit its type. If all attempts fail the
    camera may accept no step. If one does not, the steps accepted before it are the part
    of the distance that its 16 bits do not say, which is nothing below 65536, or all of it
    where there is no lens to move. -/
def Undisturbed (make : CameraMake) (pos focusPos : Int) (s : FocusLink σ) : Prop :=
  let distance := (pos - focusPos).natAbs
  let start := lens.prepare make s
  pos - focusPos ≤ 2147483647 ∧ -2147483648 < pos - focusPos ∧
    ((∃ t, lens.Failing (distance % 65536) 10 0 start t) ∨
      ∃ j < 10, ∃ m t, lens.Failing (distance % 65536) j m start t ∧
        (¬ ∃ k u, lens.Fails (distance % 65536) k t u) ∧
        m = if movesFocus t.protocol then distance / 65536 * 65536 else distance)

variable {lens} {before : FocusLink σ → FocusLink σ} {move : Int} {k n steps : Nat}
  {s t : FocusLink σ}

/-- Accepted steps add up, and the loop goes on after them. -/
theorem focusSteps_of_accepts (h : lens.Accepts before k s t) (n : Nat) (x : Int) :
    lens.focusSteps before move (k + n) ⟨s, x⟩ =
      lens.focusSteps before move n ⟨t, x - k * move⟩ := by
  induction h generalizing x with
  | start s => rw [Nat.zero_add, Nat.cast_zero, zero_mul, sub_zero]
  | @step k s t hok _ ih =>
      rw [Nat.add_right_comm, focusSteps]
      dsimp only
      rw [if_pos hok, ih, Nat.cast_succ, add_mul, one_mul, sub_sub, add_comm move]

theorem focusSteps_of_refuses (h : lens.Refuses before k s t) (hlt : k < n) (x : Int) :
    lens.focusSteps before move n ⟨s, x⟩ = (true, ⟨t, x - k * move⟩) := by
  rcases h with ⟨u, hacc, hno⟩
  obtain ⟨m, rfl⟩ : ∃ m, n = k + (m + 1) := ⟨n - k - 1, by omega⟩
  rw [focusSteps_of_accepts hacc, focusSteps]
  dsimp only
  rw [hno, if_neg Bool.false_ne_true]

/-- The camera accepts all steps, or refuses one. -/
theorem accepts_or_refuses (lens : Lens σ) (before : FocusLink σ → FocusLink σ) (n : Nat)
    (s : FocusLink σ) :
    (∃ t, lens.Accepts before n s t) ∨ ∃ k < n, ∃ t, lens.Refuses before k s t := by
  induction n generalizing s with
  | zero => exact Or.inl ⟨s, .start s⟩
  | succ n ih =>
      by_cases hok : (lens.focus (before s)).1 = true
      · rcases ih (lens.focus (before s)).2 with ⟨t, h⟩ | ⟨k, hk, t, u, h, hno⟩
        · exact Or.inl ⟨t, .step hok h⟩
        · exact Or.inr ⟨k + 1, by omega, t, u, .step hok h, hno⟩
      · rw [Bool.not_eq_true] at hok
        exact Or.inr ⟨0, by omega, _, s, .start s, Prod.ext hok rfl⟩

theorem focusSteps_of_accepts_all (h : lens.Accepts before n s t) (x : Int) :
    lens.focusSteps before move n ⟨s, x⟩ = (false, ⟨t, x - n * move⟩) :=
  focusSteps_of_accepts h 0 x

theorem enters_iff : lens.Enters s t ↔
    (if s.modeLiveView then (false, lens.wait s) else lens.liveView true (lens.wait s)) =
      (false, t) := by
  unfold Enters
  split
  · rw [Prod.mk.injEq]
    exact ⟨fun h => ⟨rfl, h.symm⟩, fun h => h.2.symm⟩
  · exact Iff.rfl

/-- An attempt fails in the ways that are listed, after as many steps, -/
theorem moveFocusPTP_of_fails (h : lens.Fails steps k s t) (hmove : move ≠ 0) (x : Int) :
    lens.moveFocusPTP move steps ⟨s, x⟩ = (true, ⟨t, x - k * move⟩) := by
  unfold moveFocusPTP
  cases h with
  | noView hprotocol hsteps hview =>
      rw [if_neg (by omega), hprotocol, Nat.cast_zero, zero_mul, sub_zero]
      exact if_pos hview
  | eos hprotocol hview hlt hrefuses =>
      rw [if_neg (by omega), hprotocol]
      dsimp only
      rw [hview, if_neg (by decide), focusSteps_of_refuses hrefuses hlt]
  | entry hprotocol hsteps hview hno =>
      rw [if_neg (by omega), hprotocol, Nat.cast_zero, zero_mul, sub_zero]
      dsimp only
      rw [hview, if_neg Bool.false_ne_true, hno]
      rfl
  | nikon hprotocol henters hlt hrefuses =>
      rw [if_neg (by omega), hprotocol]
      dsimp only
      rw [enters_iff.mp henters, if_neg Bool.false_ne_true, focusSteps_of_refuses hrefuses hlt]
      rfl
  | leave hprotocol hsteps hview henters hacc hno =>
      rw [if_neg (by omega), hprotocol]
      dsimp only
      rw [enters_iff.mp henters, if_neg Bool.false_ne_true, focusSteps_of_accepts_all hacc,
        hview, if_neg Bool.false_ne_true, if_neg Bool.false_ne_true, hno]

/-- and in no other. One that does not fail goes all the way, where there is a lens to
    move. -/
theorem moveFocusPTP_of_not_fails (h : ¬ ∃ k t, lens.Fails steps k s t) (hmove : move ≠ 0)
    (x : Int) : ∃ t, lens.moveFocusPTP move steps ⟨s, x⟩ =
      (false, ⟨t, if movesFocus s.protocol then x - steps * move else x⟩) := by
  unfold moveFocusPTP
  by_cases hzero : steps = 0
  · refine ⟨s, ?_⟩
    rw [if_pos (Or.inr hzero), hzero, Nat.cast_zero, zero_mul, sub_zero, ite_self]
  · rw [if_neg (by omega)]
    dsimp only
    cases hprotocol : s.protocol with
    | eos =>
        have hview : s.modeLiveView = true := by
          by_contra hview
          rw [Bool.not_eq_true] at hview
          exact h ⟨0, s, .noView hprotocol (by omega) hview⟩
        rcases accepts_or_refuses lens id steps s with ⟨t, hacc⟩ | ⟨k, hk, t, hrefuses⟩
        · refine ⟨t, ?_⟩
          dsimp only
          rw [hview, if_neg (by decide), focusSteps_of_accepts_all hacc]
          rfl
        · exact absurd ⟨k, t, .eos hprotocol hview hk hrefuses⟩ h
    | nikon =>
        obtain ⟨u, henters⟩ : ∃ u, lens.Enters s u := by
          unfold Enters
          cases hview : s.modeLiveView with
          | true => exact ⟨_, rfl⟩
          | false =>
              refine ⟨(lens.liveView true (lens.wait s)).2, Prod.ext ?_ rfl⟩
              rw [← Bool.not_eq_true]
              exact fun hno => h ⟨0, _, .entry hprotocol (by omega) hview (Prod.ext hno rfl)⟩
        rcases accepts_or_refuses lens lens.wait steps u with ⟨v, hacc⟩ | ⟨k, hk, t, hrefuses⟩
        · dsimp only
          rw [enters_iff.mp henters, if_neg Bool.false_ne_true, focusSteps_of_accepts_all hacc,
            if_neg Bool.false_ne_true]
          cases hview : s.modeLiveView with
          | true => exact ⟨lens.wait v, rfl⟩
          | false =>
              -- Live view is left as it was entered, or the attempt would have failed.
              refine ⟨(lens.liveView false (lens.wait v)).2, ?_⟩
              rw [if_neg Bool.false_ne_true, Prod.mk.injEq, ← Bool.not_eq_true]
              exact ⟨fun hno => h ⟨steps, _, .leave hprotocol (by omega) hview henters hacc
                (Prod.ext hno rfl)⟩, rfl⟩
        · exact absurd ⟨k, t, .nikon hprotocol henters hk hrefuses⟩ h
    | none => exact ⟨s, rfl⟩
    | sony => exact ⟨s, rfl⟩
    | generic => exact ⟨s, rfl⟩

/-- Attempts that fail add up, and the loop goes on after them. -/
theorem attempts_of_failing {j m : Nat} (h : lens.Failing steps j m s t) (hmove : move ≠ 0)
    (n : Nat) (x : Int) : lens.attempts move steps (j + n) ⟨s, x⟩ =
      lens.attempts move steps n ⟨t, x - m * move⟩ := by
  induction h generalizing x with
  | none s => rw [Nat.zero_add, Nat.cast_zero, zero_mul, sub_zero]
  | @again j k m s t u hfails _ ih =>
      rw [Nat.add_right_comm, attempts, moveFocusPTP_of_fails hfails hmove]
      dsimp only
      rw [if_pos rfl, ih, Nat.cast_add, add_mul, sub_sub]

/-- All attempts fail, or some do before one that does not. -/
theorem failing_cases (lens : Lens σ) (steps n : Nat) (s : FocusLink σ) :
    (∃ m t, lens.Failing steps n m s t) ∨
      ∃ j < n, ∃ m t, lens.Failing steps j m s t ∧ ¬ ∃ k u, lens.Fails steps k t u := by
  induction n generalizing s with
  | zero => exact Or.inl ⟨0, s, .none s⟩
  | succ n ih =>
      by_cases hfails : ∃ k t, lens.Fails steps k s t
      · rcases hfails with ⟨k, t, hfails⟩
        rcases ih t with ⟨m, u, h⟩ | ⟨j, hj, m, u, h, hnot⟩
        · exact Or.inl ⟨k + m, u, .again hfails h⟩
        · exact Or.inr ⟨j + 1, by omega, k + m, u, .again hfails h, hnot⟩
      · exact Or.inr ⟨0, by omega, 0, s, .none s, hfails⟩

/-- The loop when all attempts fail, -/
theorem attempts_of_failing_all {m : Nat} (h : lens.Failing steps n m s t) (hmove : move ≠ 0) :
    lens.attempts move steps n ⟨s, 0⟩ = (true, ⟨t, -(m * move)⟩) := by
  have hrun := attempts_of_failing h hmove 0 0
  rw [Nat.add_zero, zero_sub] at hrun
  exact hrun

/-- and when one does not. -/
theorem attempts_of_not_fails {j m : Nat} (h : lens.Failing steps j m s t) (hlt : j < n)
    (hnot : ¬ ∃ k u, lens.Fails steps k t u) (hmove : move ≠ 0) :
    ∃ u, lens.attempts move steps n ⟨s, 0⟩ =
      (false, ⟨u, if movesFocus t.protocol then -(m * move) - steps * move else -(m * move)⟩) := by
  obtain ⟨i, rfl⟩ : ∃ i, n = j + (i + 1) := ⟨n - j - 1, by omega⟩
  rcases moveFocusPTP_of_not_fails hnot hmove (-(m * move)) with ⟨u, hlast⟩
  refine ⟨u, ?_⟩
  rw [attempts_of_failing h hmove, zero_sub, attempts, hlast]
  rfl

/-- The direction is one of two. -/
theorem move_ne (d : Int) : (if d < 0 then (1 : Int) else -1) ≠ 0 := by
  split
  · omega
  · omega

/-- A call that does something, where the distance fits. -/
theorem moveFocus_eq {make : CameraMake} {pos focusPos : Int} {s : FocusLink σ}
    (hne : focusPos ≠ pos) (hhi : pos - focusPos ≤ 2147483647)
    (hlo : -2147483648 < pos - focusPos) :
    lens.moveFocus true make pos focusPos s =
      let r := lens.attempts (if pos - focusPos < 0 then 1 else -1)
        ((pos - focusPos).natAbs % 65536) 10 ⟨lens.prepare make s, 0⟩
      some (if r.1 then focusPos else pos, r.2) := by
  have hfit : fit32 (pos - focusPos) = some (pos - focusPos) := if_pos ⟨by omega, hhi⟩
  have hdistance : magnitude (pos - focusPos) = some ((pos - focusPos).natAbs : Int) := by
    unfold magnitude
    split
    · rw [fit32, if_pos ⟨by omega, by omega⟩, Option.some.injEq]
      omega
    · rw [Option.some.injEq]
      omega
  unfold moveFocus
  rw [if_pos ⟨hne, rfl⟩, hfit, Option.bind_eq_bind, Option.bind_some, hdistance,
    Option.bind_some, Int.toNat_natCast]
  rfl

/-- And one where it does not. -/
theorem moveFocus_eq_none {make : CameraMake} {pos focusPos : Int} {s : FocusLink σ}
    (hne : focusPos ≠ pos)
    (h : ¬ (pos - focusPos ≤ 2147483647 ∧ -2147483648 < pos - focusPos)) :
    lens.moveFocus true make pos focusPos s = none := by
  unfold moveFocus
  rw [if_pos ⟨hne, rfl⟩]
  by_cases hfit : -2147483648 ≤ pos - focusPos ∧ pos - focusPos ≤ 2147483647
  · have hleast : pos - focusPos = -2147483648 := by omega
    rw [hleast]
    rfl
  · rw [fit32, if_neg hfit]
    rfl

/-- The two ends of the loop, by how far the lens has gone. -/
theorem tracks_of_failing_all {make : CameraMake} {pos focusPos : Int} {s t : FocusLink σ} {m : Nat}
    (hne : focusPos ≠ pos) (hhi : pos - focusPos ≤ 2147483647)
    (hlo : -2147483648 < pos - focusPos)
    (h : lens.Failing ((pos - focusPos).natAbs % 65536) 10 m (lens.prepare make s) t) :
    lens.Tracks true make pos focusPos s ↔ m = 0 := by
  have hrun := attempts_of_failing_all h (move_ne (pos - focusPos))
  unfold Tracks
  rw [moveFocus_eq hne hhi hlo, hrun]
  simp only [if_true, Option.some.injEq, Prod.mk.injEq]
  constructor
  · rintro ⟨pos', t', ⟨rfl, rfl⟩, hend⟩
    dsimp only at hend
    split at hend
    · omega
    · omega
  · rintro rfl
    refine ⟨_, _, ⟨rfl, rfl⟩, ?_⟩
    simp only [Nat.cast_zero, zero_mul, neg_zero, sub_self]

theorem tracks_of_not_fails {make : CameraMake} {pos focusPos : Int} {s t : FocusLink σ} {j m : Nat}
    (hne : focusPos ≠ pos) (hhi : pos - focusPos ≤ 2147483647)
    (hlo : -2147483648 < pos - focusPos)
    (h : lens.Failing ((pos - focusPos).natAbs % 65536) j m (lens.prepare make s) t)
    (hlt : j < 10) (hnot : ¬ ∃ k u, lens.Fails ((pos - focusPos).natAbs % 65536) k t u) :
    lens.Tracks true make pos focusPos s ↔
      m = if movesFocus t.protocol then (pos - focusPos).natAbs / 65536 * 65536
        else (pos - focusPos).natAbs := by
  rcases attempts_of_not_fails h hlt hnot (move_ne (pos - focusPos)) with ⟨u, hrun⟩
  -- The steps of the last attempt and those before it make up the distance.
  have hend : pos - focusPos = (if movesFocus t.protocol
      then -(m * (if pos - focusPos < 0 then (1 : Int) else -1)) -
        ((pos - focusPos).natAbs % 65536 : Nat) * (if pos - focusPos < 0 then (1 : Int) else -1)
      else -(m * (if pos - focusPos < 0 then (1 : Int) else -1))) ↔
      m = if movesFocus t.protocol then (pos - focusPos).natAbs / 65536 * 65536
        else (pos - focusPos).natAbs := by
    cases movesFocus t.protocol with
    | true =>
        rw [if_pos rfl, if_pos rfl]
        split
        · omega
        · omega
    | false =>
        rw [if_neg Bool.false_ne_true, if_neg Bool.false_ne_true]
        split
        · omega
        · omega
  unfold Tracks
  rw [moveFocus_eq hne hhi hlo, hrun, ← hend]
  simp only [Bool.false_eq_true, if_false, Option.some.injEq, Prod.mk.injEq]
  constructor
  · rintro ⟨pos', t', ⟨rfl, rfl⟩, hgone⟩
    exact hgone
  · exact fun hgone => ⟨_, _, ⟨rfl, rfl⟩, hgone⟩

/-- The position says where the lens is for some distances and cameras, and for no
    others. -/
theorem moveFocus_tracks_iff (lens : Lens σ) (focusEnabled : Bool) (make : CameraMake)
    (pos focusPos : Int) (s : FocusLink σ) :
    lens.Tracks focusEnabled make pos focusPos s ↔
      focusEnabled = false ∨ pos = focusPos ∨ lens.Undisturbed make pos focusPos s := by
  by_cases hcall : focusPos ≠ pos ∧ focusEnabled = true
  · rcases hcall with ⟨hne, rfl⟩
    have hquiet : ¬ (pos = focusPos) := fun h => hne h.symm
    simp only [Bool.true_eq_false, hquiet, false_or]
    by_cases hfit : pos - focusPos ≤ 2147483647 ∧ -2147483648 < pos - focusPos
    · rcases hfit with ⟨hhi, hlo⟩
      constructor
      · intro h
        rcases failing_cases lens ((pos - focusPos).natAbs % 65536) 10 (lens.prepare make s) with
          ⟨m, t, hall⟩ | ⟨j, hj, m, t, hfailing, hnot⟩
        · rw [(tracks_of_failing_all hne hhi hlo hall).mp h] at hall
          exact ⟨hhi, hlo, Or.inl ⟨t, hall⟩⟩
        · exact ⟨hhi, hlo, Or.inr ⟨j, hj, m, t, hfailing, hnot,
            (tracks_of_not_fails hne hhi hlo hfailing hj hnot).mp h⟩⟩
      · rintro ⟨_, _, ⟨t, hall⟩ | ⟨j, hj, m, t, hfailing, hnot, hm⟩⟩
        · exact (tracks_of_failing_all hne hhi hlo hall).mpr rfl
        · exact (tracks_of_not_fails hne hhi hlo hfailing hj hnot).mpr hm
    · -- A distance that does not fit has no result.
      refine ⟨fun h => ?_, fun h => absurd ⟨h.1, h.2.1⟩ hfit⟩
      rcases h with ⟨pos', t, hres, _⟩
      rw [moveFocus_eq_none hne hfit] at hres
      exact absurd hres (by simp only [reduceCtorEq, not_false_eq_true])
  · refine ⟨fun _ => ?_, fun _ => ⟨focusPos, ⟨s, 0⟩, if_neg hcall, sub_self _⟩⟩
    by_cases heq : pos = focusPos
    · exact Or.inr (Or.inl heq)
    · left
      rw [← Bool.not_eq_true]
      exact fun h => hcall ⟨fun h' => heq h'.symm, h⟩

/-- A Canon in live view that answers the orders for a step from a list, and accepts them
    when it is through. -/
def listed : Lens (List Bool) where
  focus s := (s.camera.headD true, { s with camera := s.camera.tail })
  order _ s := (true, s)
  wait s := s

/-- It is to go two steps. It accepts one, refuses the next, and accepts both when it is
    asked again. The lens has gone three. -/
theorem moveFocus_loses_steps :
    listed.moveFocus true .canon 2 0 ⟨[true, false], .eos, true, true⟩ =
      some (2, ⟨⟨[], .eos, true, true⟩, 3⟩) ∧
    ¬ listed.Tracks true .canon 2 0 ⟨[true, false], .eos, true, true⟩ := by
  have hrun : listed.moveFocus true .canon 2 0 ⟨[true, false], .eos, true, true⟩ =
      some (2, ⟨⟨[], .eos, true, true⟩, 3⟩) := rfl
  refine ⟨hrun, ?_⟩
  rintro ⟨pos', t, hres, hend⟩
  rw [hrun, Option.some.injEq, Prod.mk.injEq] at hres
  rw [← hres.1, ← hres.2] at hend
  exact absurd hend (by decide)

end Lens

end Shutter

end TimelapsePlus
