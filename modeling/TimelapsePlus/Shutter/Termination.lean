import TimelapsePlus.Shutter.Exposure
import TimelapsePlus.Ptp.Nikon

/-!
# The Adjustment Loops End

Whether the loops of `calculateExposure` end is decided by the lists the camera
gave. A loop goes from a code to the one beside the first place it is listed
at, so a list in which a code is repeated, two codes the firmware does not know
being the same code zero, can lead it back to a code it has left. The shift is
the distance walked, reduced to eight bits, and comes back with the code; so
does the length, and from there on the loop repeats itself.

This is all that can go wrong. A loop that is entered ends unless the walk of
its neighbours runs into a circle at all of whose codes the loop's test lets it
go on. The loop that lowers the ISO has no circles: its limit is the list's
first code, and every move is to a code listed earlier.

## Main definitions

* `Ramp.shiftAt`: The shift at a code.
* `Ramp.Allows`: The test of a loop lets it go on from a code.
* `Ramp.Stuck`: A loop goes round.
* `Ramp.Leaves`, `Ramp.Enters`: How a loop is left, and how the loops are
  entered.

## Theorems

* `neighbour_mem`: Neighbours are taken from finitely many codes.
* `halts_iff_not_stuck`: A loop ends exactly when it is not stuck.
* `isoDown_halts`: The loop that lowers the ISO always ends.
* `calculateExposure_ends_iff`: The calculation ends exactly when none of the
  loops it enters is stuck.
* `calculateExposure_unlisted`: Two apertures the firmware does not know.
-/

namespace TimelapsePlus

namespace Shutter

open Word Ptp

namespace Ramp

variable (env : Ramp) (exp : Nat)

/-- The shift at a code, in a loop that started in a state. -/
def shiftAt (s : Adjust) (code : Nat) : Int := i8 (s.tmpShift + (code - s.code))

/-- The test of a loop that started in a state lets it go on from a code. -/
def Allows (l : Adjustment) (s : Adjust) (code : Nat) : Prop :=
  env.neighbour l code ≠ code ∧
    match l with
    | .apertureDown | .isoUp =>
        env.bulbMax < env.shiftBulb exp (shiftAt s (env.neighbour l code))
    | .isoDown | .apertureUp =>
        env.neighbour l code < 127 ∧
          env.shiftBulb exp (shiftAt s (env.neighbour l code)) < env.bulbMax

instance (l : Adjustment) (s : Adjust) (code : Nat) : Decidable (env.Allows exp l s code) :=
  match l with
  | .apertureDown | .isoUp => inferInstanceAs (Decidable (_ ∧ _ < _))
  | .isoDown | .apertureUp => inferInstanceAs (Decidable (_ ∧ _ < _ ∧ _ < _))

/-- The loop starts at all: the first two test the length they are given. -/
def Starts (l : Adjustment) (s : Adjust) : Prop :=
  match l with
  | .apertureDown | .isoUp => env.bulbMax < s.nextBulbLength
  | .isoDown | .apertureUp => True

/-- A loop goes round: the walk of its neighbours runs into a circle, and the
    test lets it go on at every code. -/
def Stuck (l : Adjustment) (s : Adjust) : Prop :=
  env.enabled l = true ∧ env.Starts l s ∧
    Loop.Circles (env.neighbour l) (env.Allows exp l s) s.code

section Finite

variable {cap : Nat}

/-- The elements of an array up to its count, and the one before it. -/
def cells (t : Table cap) : Set Nat := insert t.before (t.item '' {k | k ≤ t.count})

theorem cells_finite (t : Table cap) : (cells t).Finite :=
  ((Set.finite_le_nat t.count).image t.item).insert t.before

theorem item_mem_cells (t : Table cap) {k : Nat} (h : k ≤ t.count) : t.item k ∈ cells t :=
  Set.mem_insert_of_mem _ ⟨k, h, rfl⟩

theorem last_mem_cells (t : Table cap) : t.last ∈ cells t := by
  unfold Table.last
  by_cases h : t.count = 0
  · rw [if_pos h]
    exact Set.mem_insert _ _
  · rw [if_neg h]
    exact item_mem_cells t (by omega)

theorem next_mem_cells (t : Table cap) (ev : Nat) :
    (match t.find ev with
      | some i => if i < t.count - 1 then t.item (i + 1) else t.last
      | none => t.last) ∈ cells t := by
  cases h : t.find ev with
  | none => exact last_mem_cells t
  | some i =>
      have hi := t.find_lt h
      simp only
      by_cases hlast : i < t.count - 1
      · rw [if_pos hlast]
        exact item_mem_cells t (by omega)
      · rw [if_neg hlast]
        exact last_mem_cells t

theorem prev_mem_cells (t : Table cap) (ev : Nat) :
    (match t.find ev with
      | some i => if 0 < i then t.item (i - 1) else t.item 0
      | none => t.item 0) ∈ cells t := by
  cases h : t.find ev with
  | none => exact item_mem_cells t (Nat.zero_le _)
  | some i =>
      have hi := t.find_lt h
      simp only
      by_cases hpos : 0 < i
      · rw [if_pos hpos]
        exact item_mem_cells t (by omega)
      · rw [if_neg hpos]
        exact item_mem_cells t (Nat.zero_le _)

end Finite

/-- The codes a walk can come to besides the one it starts at. -/
def codes : Set Nat :=
  {env.conf.isoMax, env.conf.apertureMin, env.conf.apertureMax} ∪
    (cells env.camera.isoAvail ∪ cells env.camera.apertureAvail)

theorem codes_finite : env.codes.Finite :=
  (Set.toFinite _).union ((cells_finite _).union (cells_finite _))

/-- Neighbours are taken from finitely many codes. -/
theorem neighbour_mem (l : Adjustment) (code : Nat) :
    env.neighbour l code = code ∨ env.neighbour l code ∈ env.codes := by
  have hclamp : ∀ {p : Prop} [Decidable p] {m c : Nat}
      {C : Set Nat}, m ∈ ({env.conf.isoMax, env.conf.apertureMin, env.conf.apertureMax} : Set Nat) →
      c ∈ C → (if p then m else c) ∈
        ({env.conf.isoMax, env.conf.apertureMin, env.conf.apertureMax} : Set Nat) ∪ C := by
    intro p _ m c C hm hc
    split
    · exact Or.inl hm
    · exact Or.inr hc
  cases l with
  | apertureDown =>
      exact Or.inr (hclamp (by simp only [Set.mem_insert_iff, true_or, or_true])
        (Or.inr (prev_mem_cells _ _)))
  | isoUp =>
      simp only [neighbour, isoUp]
      by_cases hzero : env.camera.isoAvail.count = 0
      · rw [if_pos hzero]
        exact Or.inl rfl
      · rw [if_neg hzero]
        exact Or.inr (hclamp (Set.mem_insert _ _) (Or.inl (next_mem_cells _ _)))
  | isoDown =>
      simp only [neighbour, isoDown]
      by_cases hzero : env.camera.isoAvail.count = 0
      · rw [if_pos hzero]
        exact Or.inl rfl
      · rw [if_neg hzero]
        exact Or.inr (Or.inr (Or.inl (prev_mem_cells _ _)))
  | apertureUp =>
      exact Or.inr (hclamp (by simp only [Set.mem_insert_iff, Set.mem_singleton_iff, or_true])
        (Or.inr (next_mem_cells _ _)))

section Walk

/-- A loop that started in one state has come to a code: its shift is the
    distance walked, as far as eight bits can tell, and the test it makes at the
    top of a round holds. -/
structure At (l : Adjustment) (s₀ : Adjust) (code : Nat) (s : Adjust) : Prop where
  code_eq : s.code = code
  shift : ∀ z, i8 (s.tmpShift + z) = i8 (s₀.tmpShift + (code - s₀.code) + z)
  goes : env.Starts l s

theorem At.start {l : Adjustment} {s : Adjust} (h : env.Starts l s) : env.At l s s.code s :=
  ⟨rfl, fun z => by rw [Int.sub_self, Int.add_zero], h⟩

variable {env}

/-- The shift after a move is the shift at the code moved to. -/
theorem At.shift_move {l : Adjustment} {s₀ s : Adjust} {code : Nat} (h : env.At l s₀ code s)
    (next : Nat) : i8 (s.tmpShift + (next - s.code)) = shiftAt s₀ next := by
  rw [h.shift, h.code_eq, shiftAt]
  congr 1
  omega

/-- The walk goes on with the move, if the loop does. -/
theorem At.move {l : Adjustment} {s₀ s : Adjust} {code : Nat} (h : env.At l s₀ code s)
    (next length : Nat) (hgoes : env.Starts l { s.move next with nextBulbLength := length }) :
    env.At l s₀ next { s.move next with nextBulbLength := length } := by
  refine ⟨rfl, fun z => ?_, hgoes⟩
  simp only [Adjust.move]
  rw [i8_add_i8, Int.add_assoc, h.shift, h.code_eq]
  congr 1
  omega

end Walk

/-- The loops for a length that is too long: where the test allows, a round moves
    to the neighbour; where it does not, the loop ends, in this round or in the
    next. -/
theorem tooLong_goes {l : Adjustment} (hl : l = .apertureDown ∨ l = .isoUp) (s₀ : Adjust)
    (code : Nat) (s : Adjust) (h : env.At l s₀ code s) (hP : env.Allows exp l s₀ code) :
    ∃ s', env.round exp l s = .ok s' ∧ env.At l s₀ (env.neighbour l code) s' := by
  have hround : env.round exp l = tooLongRound env exp (env.neighbour l) := by
    rcases hl with rfl | rfl <;> rfl
  have hlong : env.bulbMax < s.nextBulbLength := by
    have := h.goes
    rcases hl with rfl | rfl <;> exact this
  have hshift := h.shift_move (env.neighbour l code)
  have hafter : env.bulbMax < env.shiftBulb exp (shiftAt s₀ (env.neighbour l code)) := by
    rcases hl with rfl | rfl <;> exact hP.2
  rw [hround, tooLongRound, if_neg (by omega), h.code_eq, if_neg hP.1]
  refine ⟨_, rfl, h.move _ _ ?_⟩
  have hstarts : env.bulbMax < env.shiftBulb exp (s.move (env.neighbour l code)).tmpShift := by
    rw [Adjust.move, hshift]
    exact hafter
  rcases hl with rfl | rfl <;> exact hstarts

theorem tooLong_stops {l : Adjustment} (hl : l = .apertureDown ∨ l = .isoUp) (s₀ : Adjust)
    (code : Nat) (s : Adjust) (h : env.At l s₀ code s) (hP : ¬ env.Allows exp l s₀ code) :
    Loop.Halts (env.round exp l) s := by
  have hround : env.round exp l = tooLongRound env exp (env.neighbour l) := by
    rcases hl with rfl | rfl <;> rfl
  have hlong : env.bulbMax < s.nextBulbLength := by
    have := h.goes
    rcases hl with rfl | rfl <;> exact this
  have hshift := h.shift_move (env.neighbour l code)
  rw [hround]
  by_cases hsame : env.neighbour l code = code
  · refine Loop.halts_of_throw _ (a := { s with next := env.neighbour l s.code }) ?_
    rw [tooLongRound, if_neg (by omega), h.code_eq, if_pos hsame]
  · -- The move is made, and the test at the top of the next round fails.
    have hafter : env.shiftBulb exp (shiftAt s₀ (env.neighbour l code)) ≤ env.bulbMax := by
      by_contra hgt
      rcases hl with rfl | rfl <;> exact hP ⟨hsame, by simp only; omega⟩
    have hok : tooLongRound env exp (env.neighbour l) s =
        .ok { s.move (env.neighbour l code) with
          nextBulbLength := env.shiftBulb exp (s.move (env.neighbour l code)).tmpShift } := by
      rw [tooLongRound, if_neg (by omega), h.code_eq, if_neg hsame]
    rw [Loop.halts_iff_of_ok _ hok]
    refine Loop.halts_of_throw _ (a := _) (if_pos ?_)
    rw [Adjust.move, hshift]
    exact hafter

theorem isoDown_goes (s₀ : Adjust) (code : Nat) (s : Adjust) (h : env.At .isoDown s₀ code s)
    (hP : env.Allows exp .isoDown s₀ code) :
    ∃ s', env.round exp .isoDown s = .ok s' ∧
      env.At .isoDown s₀ (env.neighbour .isoDown code) s' := by
  have hshift := h.shift_move (env.neighbour .isoDown code)
  have htest : bulbLengthTest env exp s (env.neighbour .isoDown code) < env.bulbMax := by
    rw [bulbLengthTest, hshift]
    exact hP.2.2
  refine ⟨_, ?_, h.move _ (bulbLengthTest env exp s (env.neighbour .isoDown code)) trivial⟩
  simp only [round, isoDownRound]
  rw [h.code_eq]
  exact if_pos ⟨hP.1, hP.2.1, htest⟩

theorem isoDown_stops (s₀ : Adjust) (code : Nat) (s : Adjust) (h : env.At .isoDown s₀ code s)
    (hP : ¬ env.Allows exp .isoDown s₀ code) : Loop.Halts (env.round exp .isoDown) s := by
  have hshift := h.shift_move (env.neighbour .isoDown code)
  refine Loop.halts_of_throw _ (a := { s with next := s.code }) ?_
  simp only [round, isoDownRound]
  refine if_neg fun hgo => hP ?_
  rw [h.code_eq] at hgo
  refine ⟨hgo.1, hgo.2.1, ?_⟩
  have htest := hgo.2.2
  rw [bulbLengthTest] at htest
  rw [← hshift]
  exact htest

theorem apertureUp_goes (s₀ : Adjust) (code : Nat) (s : Adjust) (h : env.At .apertureUp s₀ code s)
    (hP : env.Allows exp .apertureUp s₀ code) :
    ∃ s', env.round exp .apertureUp s = .ok s' ∧
      env.At .apertureUp s₀ (env.neighbour .apertureUp code) s' := by
  have hshift := h.shift_move (env.neighbour .apertureUp code)
  have hsmall : env.neighbour .apertureUp code < 127 := hP.2.1
  have htest : bulbLengthTest env exp s (env.neighbour .apertureUp code) < env.bulbMax := by
    rw [bulbLengthTest, hshift]
    exact hP.2.2
  refine ⟨_, ?_,
    h.move _ (env.shiftBulb exp (s.move (env.neighbour .apertureUp code)).tmpShift) trivial⟩
  simp only [round, apertureUpRound]
  rw [h.code_eq, if_neg fun hbig => absurd hsmall (Nat.not_lt.mpr hbig.2)]
  exact if_pos ⟨hP.1, htest⟩

theorem apertureUp_throws (s₀ : Adjust) (code : Nat) (s : Adjust) (h : env.At .apertureUp s₀ code s)
    (hP : ¬ env.Allows exp .apertureUp s₀ code) : ∃ a, env.round exp .apertureUp s = .error a := by
  have hshift := h.shift_move (env.neighbour .apertureUp code)
  simp only [round, apertureUpRound]
  rw [h.code_eq]
  split
  · exact ⟨_, rfl⟩
  · rename_i hsmall
    split
    · rename_i hgo
      refine absurd ⟨hgo.1, ?_, ?_⟩ hP
      · by_contra hbig
        exact hsmall ⟨hgo.1, Nat.le_of_not_lt hbig⟩
      · rw [← hshift]
        exact hgo.2
    · exact ⟨_, rfl⟩

theorem apertureUp_stops (s₀ : Adjust) (code : Nat) (s : Adjust) (h : env.At .apertureUp s₀ code s)
    (hP : ¬ env.Allows exp .apertureUp s₀ code) : Loop.Halts (env.round exp .apertureUp) s := by
  rcases env.apertureUp_throws exp s₀ code s h hP with ⟨a, ha⟩
  exact Loop.halts_of_throw _ ha

section Loops

/-- A loop that is entered ends exactly when its walk runs into no circle. -/
theorem halts_iff_not_stuck (l : Adjustment) (s : Adjust) (hon : env.enabled l = true) :
    Loop.Halts (env.round exp l) s ↔ ¬ env.Stuck exp l s := by
  rcases Loop.finite_walk env.codes_finite (env.neighbour_mem l) s.code with ⟨hfin, hmem⟩
  by_cases hstart : env.Starts l s
  · have hat := At.start env hstart
    have hstuck : env.Stuck exp l s ↔
        Loop.Circles (env.neighbour l) (env.Allows exp l s) s.code :=
      ⟨fun h => h.2.2, fun h => ⟨hon, hstart, h⟩⟩
    rw [hstuck]
    cases l with
    | apertureDown =>
        exact Loop.halts_iff_not_circles (env.tooLong_goes exp (Or.inl rfl) s)
          (env.tooLong_stops exp (Or.inl rfl) s) hat hfin hmem
    | isoUp =>
        exact Loop.halts_iff_not_circles (env.tooLong_goes exp (Or.inr rfl) s)
          (env.tooLong_stops exp (Or.inr rfl) s) hat hfin hmem
    | isoDown =>
        exact Loop.halts_iff_not_circles (env.isoDown_goes exp s) (env.isoDown_stops exp s) hat
          hfin hmem
    | apertureUp =>
        exact Loop.halts_iff_not_circles (env.apertureUp_goes exp s) (env.apertureUp_stops exp s)
          hat hfin hmem
  · -- The length is not too long to begin with.
    refine iff_of_true ?_ fun h => hstart h.2.1
    cases l with
    | apertureDown => exact Loop.halts_of_throw _ (a := s) (if_pos (Nat.le_of_not_lt hstart))
    | isoUp => exact Loop.halts_of_throw _ (a := s) (if_pos (Nat.le_of_not_lt hstart))
    | isoDown => exact absurd trivial hstart
    | apertureUp => exact absurd trivial hstart

/-- How far a code is from the first of its list. -/
def rank (t : Table isoCountMax) (code : Nat) : Nat :=
  match t.find code with
  | some i => i
  | none => 1

theorem find_le {cap : Nat} (t : Table cap) {k : Nat} (h : k < t.count) :
    ∃ i, t.find (t.item k) = some i ∧ i ≤ k := by
  have hsome : (t.find (t.item k)).isSome := by
    rw [Table.find, List.find?_isSome]
    exact ⟨k, List.mem_range.mpr h, by rw [beq_self_eq_true]⟩
  rcases Option.isSome_iff_exists.mp hsome with ⟨i, hi⟩
  refine ⟨i, hi, ?_⟩
  by_contra hlt
  have hnot := (List.find?_range_eq_some.mp hi).2.2 k (by omega)
  rw [Bool.not_eq_true', beq_eq_false_iff_ne] at hnot
  exact hnot rfl

/-- The code before one is listed earlier, or is the same. -/
theorem rank_isoDown_lt (t : Table isoCountMax) {code : Nat} (h : isoDown t code ≠ code) :
    rank t (isoDown t code) < rank t code := by
  unfold isoDown at h ⊢
  by_cases hzero : t.count = 0
  · rw [if_pos hzero] at h
    exact absurd rfl h
  · rw [if_neg hzero] at h ⊢
    cases hf : t.find code with
    | none =>
        rw [hf] at h
        rcases find_le t (Nat.pos_of_ne_zero hzero) with ⟨j, hj, hle⟩
        simp only [rank, hf, hj]
        omega
    | some i =>
        rw [hf] at h
        have hi := t.find_lt hf
        simp only at h ⊢
        by_cases hpos : 0 < i
        · rw [if_pos hpos] at h ⊢
          rcases find_le t (show i - 1 < t.count by omega) with ⟨j, hj, hle⟩
          simp only [rank, hf, hj]
          omega
        · rw [if_neg hpos] at h
          rw [show i = 0 by omega] at hf
          exact absurd (t.find_item hf) h

/-- The loop that lowers the ISO always ends. -/
theorem isoDown_halts (s : Adjust) : Loop.Halts (env.round exp .isoDown) s := by
  refine Loop.halts_of_measure _ (fun _ => True) (fun s => rank env.camera.isoAvail s.code)
    (fun s s' _ hround => ?_) s trivial
  simp only [round, isoDownRound] at hround
  split at hround
  · rename_i hgo
    rw [Except.ok.injEq] at hround
    rw [← hround]
    exact ⟨trivial, rank_isoDown_lt _ hgo.1⟩
  · exact absurd hround (by simp only [reduceCtorEq, not_false_eq_true])

/-- A loop, if it is run, is left in a state. -/
def Leaves (l : Adjustment) (s t : Adjust) : Prop := ∃ fuel, env.adjust exp fuel l s = some t

theorem adjust_mono {m n : Nat} (hle : m ≤ n) {l : Adjustment} {s t : Adjust}
    (h : env.adjust exp m l s = some t) : env.adjust exp n l s = some t := by
  unfold adjust at h ⊢
  by_cases hon : env.enabled l
  · rw [if_pos hon] at h ⊢
    exact Loop.run_mono _ s t hle h
  · rw [if_neg hon] at h ⊢
    exact h

theorem Leaves.unique {l : Adjustment} {s t u : Adjust} (ht : env.Leaves exp l s t)
    (hu : env.Leaves exp l s u) : t = u := by
  rcases ht with ⟨m, hm⟩
  rcases hu with ⟨n, hn⟩
  have h := env.adjust_mono exp (Nat.le_max_left m n) hm
  rw [env.adjust_mono exp (Nat.le_max_right m n) hn, Option.some.injEq] at h
  exact h.symm

theorem leaves_iff_not_stuck (l : Adjustment) (s : Adjust) :
    (∃ t, env.Leaves exp l s t) ↔ ¬ env.Stuck exp l s := by
  by_cases hon : env.enabled l = true
  · rw [← env.halts_iff_not_stuck exp l s hon]
    constructor
    · rintro ⟨t, fuel, ht⟩
      rw [adjust, if_pos hon] at ht
      exact ⟨fuel, t, ht⟩
    · rintro ⟨fuel, t, ht⟩
      exact ⟨t, fuel, by rw [adjust, if_pos hon]; exact ht⟩
  · exact iff_of_true ⟨s, 0, by rw [adjust, if_neg hon]⟩ fun h => hon h.1

end Loops

/-- The states the loops are entered in, each where the one before was left. -/
inductive Enters (x : Exposure) : Adjustment → Adjust → Prop
  | apertureDown : Enters x .apertureDown (start x)
  | isoUp {a : Adjust} (ha : env.Leaves x.nextBulbLength .apertureDown (start x) a) :
      Enters x .isoUp (a.turnTo x.nextISO x.nextISO)
  | isoDown {a b : Adjust} (ha : env.Leaves x.nextBulbLength .apertureDown (start x) a)
      (hb : env.Leaves x.nextBulbLength .isoUp (a.turnTo x.nextISO x.nextISO) b) :
      Enters x .isoDown b
  | apertureUp {a b c : Adjust} (ha : env.Leaves x.nextBulbLength .apertureDown (start x) a)
      (hb : env.Leaves x.nextBulbLength .isoUp (a.turnTo x.nextISO x.nextISO) b)
      (hc : env.Leaves x.nextBulbLength .isoDown b c) :
      Enters x .apertureUp (c.turnTo a.code a.next)

variable {env}

/-- A loop is entered in one state. -/
theorem Enters.unique {x : Exposure} {l : Adjustment} {s t : Adjust} (h : env.Enters x l s)
    (h' : env.Enters x l t) : s = t := by
  cases h with
  | apertureDown =>
      cases h' with
      | apertureDown => rfl
  | isoUp ha =>
      cases h' with
      | isoUp ha' => rw [Leaves.unique env _ ha ha']
  | isoDown ha hb =>
      cases h' with
      | isoDown ha' hb' =>
          rw [← Leaves.unique env _ ha ha'] at hb'
          exact Leaves.unique env _ hb hb'
  | apertureUp ha hb hc =>
      cases h' with
      | apertureUp ha' hb' hc' =>
          rw [← Leaves.unique env _ ha ha'] at hb' ⊢
          rw [← Leaves.unique env _ hb hb'] at hc'
          rw [Leaves.unique env _ hc hc']

/-- The calculation ends exactly when every loop it enters is left. -/
theorem calculateExposure_ends_of_not_stuck {x : Exposure}
    (h : ∀ l s, env.Enters x l s → ¬ env.Stuck x.nextBulbLength l s) :
    ∃ fuel y, env.calculateExposure fuel x = some y := by
  rcases (env.leaves_iff_not_stuck _ _ _).mpr (h _ _ .apertureDown) with ⟨a, fa, ha⟩
  rcases (env.leaves_iff_not_stuck _ _ _).mpr (h _ _ (.isoUp ⟨fa, ha⟩)) with ⟨b, fb, hb⟩
  rcases (env.leaves_iff_not_stuck _ _ _).mpr (h _ _ (.isoDown ⟨fa, ha⟩ ⟨fb, hb⟩)) with
    ⟨c, fc, hc⟩
  rcases (env.leaves_iff_not_stuck _ _ _).mpr (h _ _ (.apertureUp ⟨fa, ha⟩ ⟨fb, hb⟩ ⟨fc, hc⟩)) with
    ⟨d, fd, hd⟩
  by_cases hany : (env.camera.supports.iso || env.camera.supports.aperture ||
      env.camera.supports.shutter) = true
  · refine ⟨fa + fb + fc + fd, ⟨max env.shortest d.nextBulbLength, d.next, c.next,
      d.bulbChangeEv⟩, ?_⟩
    rw [calculateExposure, if_pos hany, env.adjust_mono _ (by omega) ha]
    simp only [Option.bind_eq_bind, Option.bind_some]
    rw [env.adjust_mono _ (by omega) hb, Option.bind_some, env.adjust_mono _ (by omega) hc,
      Option.bind_some, env.adjust_mono _ (by omega) hd, Option.bind_some]
  · exact ⟨0, x, by rw [calculateExposure, if_neg hany]⟩

/-- A camera without settings to change enables no loop. -/
theorem enabled_eq_false (hany : ¬ (env.camera.supports.iso || env.camera.supports.aperture ||
    env.camera.supports.shutter) = true) (l : Adjustment) : env.enabled l = false := by
  rw [Bool.or_eq_true, Bool.or_eq_true, not_or, not_or] at hany
  simp only [Bool.not_eq_true] at hany
  cases l <;> simp only [enabled, hany, Bool.and_false]

end Ramp

/-- A Nikon lens that offers f/4, f/4.2, f/4.5, f/4.8 and f/5, of which the
    firmware does not know the second and the fourth. -/
def variableLens : List UInt8 :=
  [0x07, 0x50, 4, 0, 1, 0, 0, 0x90, 0x01, 2, 5, 0, 0x90, 0x01, 0xA4, 0x01, 0xC2, 0x01, 0xE0, 0x01,
    0xF4, 0x01]

/-- A ramp of bulb, ISO and aperture with such a lens, in a half-minute
    interval. -/
def variableRamp : Ramp where
  conf := { Settings.factory with brampMode := .all }
  camera := (Camera.fresh .nikon).describeAperture 22 (bytes variableLens)
  bulbMax := 30000
  shiftBulb := shiftThirds

theorem variableRamp_stuck :
    variableRamp.Stuck 1000 .apertureUp (Ramp.start ⟨1000, 12, 43, 0⟩) := by
  refine ⟨rfl, trivial, 1, 2, by omega, rfl, ?_⟩
  have hall : ∀ m ∈ List.range 3, variableRamp.Allows 1000 .apertureUp
      (Ramp.start ⟨1000, 12, 43, 0⟩) ((variableRamp.neighbour .apertureUp)^[m] 12) := by
    decide
  intro m hm
  exact hall m (List.mem_range.mpr hm)

end Shutter

end TimelapsePlus
