import Mathlib.Algebra.GroupWithZero.Nat

/-!
# Runs of a System

A system that takes one labelled step at a time, as a partial function: the
label says what happens next, and `none` that it cannot happen in this state.
A run is any sequence of steps, each allowed by a condition on the state it
starts from and its label. The condition is how a result says what it asks of
the environment; with the condition that always holds a run is any run at all.

## Main definitions

* `Run`: A sequence of allowed steps.
* `steps`: The state after a list of labels.
* `allowed`: Each of a list of labels can happen and is allowed.
* `Path`: A run along a list of labels.
* `trace`: The states along one.

## Theorems

* `steps_append`: A list of labels after another.
* `Run.invariant`: What every allowed step preserves holds along a run.
* `Run.mono`: A weaker condition allows the same runs.
* `run_of_steps`: A list of labels that can happen is a run.
* `run_of_allowed`: A list of labels that can happen and are allowed is a run.
* `path_of_allowed`: The same, with the labels kept.
* `Run.path`: A run goes on along a path.
* `Path.reaches`: A path with enough labels that count down comes to its goal.
* `trace_of_allowed`: Each state along a list of labels follows from the one before.
-/

namespace TimelapsePlus

section Run

variable {σ ℓ : Type}

/-- A sequence of allowed steps from one state to another. -/
inductive Run (step : σ → ℓ → Option σ) (ok : σ → ℓ → Prop) (s : σ) : σ → Prop
  | refl : Run step ok s s
  | tail {t u : σ} (l : ℓ) (hrun : Run step ok s t) (hok : ok t l) (hstep : step t l = some u) :
      Run step ok s u

/-- The state after a list of labels, if each can happen. -/
def steps (step : σ → ℓ → Option σ) : σ → List ℓ → Option σ
  | s, [] => some s
  | s, l :: ls => match step s l with
    | none => none
    | some t => steps step t ls

theorem steps_nil (step : σ → ℓ → Option σ) (s : σ) : steps step s [] = some s := rfl

theorem steps_cons {step : σ → ℓ → Option σ} {s t : σ} {l : ℓ} (ls : List ℓ)
    (h : step s l = some t) : steps step s (l :: ls) = steps step t ls := by
  rw [steps, h]

/-- If a list of labels can happen then the first can, and after it the others. -/
theorem exists_of_steps_cons {step : σ → ℓ → Option σ} {s t : σ} {l : ℓ} {ls : List ℓ}
    (h : steps step s (l :: ls) = some t) : ∃ u, step s l = some u ∧ steps step u ls = some t := by
  rw [steps] at h
  cases hl : step s l with
  | none =>
      rw [hl] at h
      exact absurd h (Option.some_ne_none t).symm
  | some u =>
      rw [hl] at h
      exact ⟨u, rfl, h⟩

/-- A list of labels after another. -/
theorem steps_append {step : σ → ℓ → Option σ} {s t : σ} (ls ls' : List ℓ)
    (h : steps step s ls = some t) : steps step s (ls ++ ls') = steps step t ls' := by
  induction ls generalizing s with
  | nil =>
      rw [steps_nil, Option.some.injEq] at h
      rw [h, List.nil_append]
  | cons l ls ih =>
      rcases exists_of_steps_cons h with ⟨u, hl, hu⟩
      rw [List.cons_append, steps_cons _ hl]
      exact ih hu

/-- What every allowed step preserves holds of every state a run reaches. -/
theorem Run.invariant {step : σ → ℓ → Option σ} {ok : σ → ℓ → Prop} (I : σ → Prop)
    (hstep : ∀ s l t, I s → ok s l → step s l = some t → I t) {s t : σ}
    (h : Run step ok s t) (hs : I s) : I t := by
  induction h with
  | refl => exact hs
  | tail l _ hok hnext ih => exact hstep _ l _ ih hok hnext

theorem Run.mono {step : σ → ℓ → Option σ} {ok ok' : σ → ℓ → Prop}
    (hweak : ∀ s l, ok s l → ok' s l) {s t : σ} (h : Run step ok s t) : Run step ok' s t := by
  induction h with
  | refl => exact .refl
  | tail l _ hok hnext ih => exact .tail l ih (hweak _ l hok) hnext

theorem Run.head {step : σ → ℓ → Option σ} {ok : σ → ℓ → Prop} {s t u : σ} (l : ℓ)
    (hok : ok s l) (hstep : step s l = some t) (h : Run step ok t u) : Run step ok s u := by
  induction h with
  | refl => exact .tail l .refl hok hstep
  | tail l' _ hok' hnext ih => exact .tail l' ih hok' hnext

/-- A list of labels that can happen is a run, if anything is allowed. -/
theorem run_of_steps {step : σ → ℓ → Option σ} {s t : σ} (ls : List ℓ)
    (h : steps step s ls = some t) : Run step (fun _ _ => True) s t := by
  induction ls generalizing s with
  | nil =>
      rw [steps_nil, Option.some.injEq] at h
      rw [h]
      exact .refl
  | cons l ls ih =>
      rcases exists_of_steps_cons h with ⟨u, hl, hu⟩
      exact .head l trivial hl (ih hu)

/-- Each of a list of labels can happen, and is allowed where it does. -/
def allowed (step : σ → ℓ → Option σ) (ok : σ → ℓ → Prop) [∀ s l, Decidable (ok s l)] :
    σ → List ℓ → Bool
  | _, [] => true
  | s, l :: ls => decide (ok s l) && match step s l with
    | none => false
    | some t => allowed step ok t ls

/-- If a list of labels is allowed then the first is, and can happen, and after it the others
    are. -/
theorem exists_of_allowed_cons {step : σ → ℓ → Option σ} {ok : σ → ℓ → Prop}
    [∀ s l, Decidable (ok s l)] {s : σ} {l : ℓ} {ls : List ℓ}
    (h : allowed step ok s (l :: ls) = true) :
    ok s l ∧ ∃ u, step s l = some u ∧ allowed step ok u ls = true := by
  rw [allowed, Bool.and_eq_true, decide_eq_true_eq] at h
  refine ⟨h.1, ?_⟩
  cases hl : step s l with
  | none =>
      rw [hl] at h
      exact absurd h.2 Bool.false_ne_true
  | some u =>
      rw [hl] at h
      exact ⟨u, rfl, h.2⟩

/-- A list of labels that can happen and are allowed is a run. -/
theorem run_of_allowed {step : σ → ℓ → Option σ} {ok : σ → ℓ → Prop}
    [∀ s l, Decidable (ok s l)] {s : σ} (ls : List ℓ) (h : allowed step ok s ls = true) :
    ∃ t, steps step s ls = some t ∧ Run step ok s t := by
  induction ls generalizing s with
  | nil => exact ⟨s, rfl, .refl⟩
  | cons l ls ih =>
      rcases exists_of_allowed_cons h with ⟨hok, u, hl, hu⟩
      rcases ih hu with ⟨t, hsteps, hrun⟩
      exact ⟨t, (steps_cons ls hl).trans hsteps, .head l hok hl hrun⟩

/-- A run along a list of labels, each allowed. -/
inductive Path (step : σ → ℓ → Option σ) (ok : σ → ℓ → Prop) : σ → List ℓ → σ → Prop
  | nil (s : σ) : Path step ok s [] s
  | cons {s t u : σ} (l : ℓ) (ls : List ℓ) (hok : ok s l) (hstep : step s l = some t)
      (hpath : Path step ok t ls u) : Path step ok s (l :: ls) u

/-- A run goes on along a path. -/
theorem Run.path {step : σ → ℓ → Option σ} {ok : σ → ℓ → Prop} {s t u : σ} {ls : List ℓ}
    (h : Run step ok s t) (hpath : Path step ok t ls u) : Run step ok s u := by
  induction hpath with
  | nil => exact h
  | cons l ls hok hstep _ ih => exact ih (.tail l h hok hstep)

/-- A list of labels that can happen and are allowed is a path. -/
theorem path_of_allowed {step : σ → ℓ → Option σ} {ok : σ → ℓ → Prop}
    [∀ s l, Decidable (ok s l)] {s : σ} (ls : List ℓ) (h : allowed step ok s ls = true) :
    ∃ t, steps step s ls = some t ∧ Path step ok s ls t := by
  induction ls generalizing s with
  | nil => exact ⟨s, rfl, .nil s⟩
  | cons l ls ih =>
      rcases exists_of_allowed_cons h with ⟨hok, u, hl, hu⟩
      rcases ih hu with ⟨t, hsteps, hpath⟩
      exact ⟨t, (steps_cons ls hl).trans hsteps, .cons l ls hok hl hpath⟩

/-- A path with enough labels that count down comes to its goal: off the goal,
    such a step lowers the measure, a step may raise it by no more than its
    label says, and a goal once come to is not left. -/
theorem Path.reaches {step : σ → ℓ → Option σ} {ok : σ → ℓ → Prop} (I goal : σ → Prop)
    (measure : σ → Nat) (counts : ℓ → Bool) (raises : ℓ → Nat)
    (hinv : ∀ s l t, I s → ok s l → step s l = some t → I t)
    (hgoal : ∀ s l t, I s → goal s → ok s l → step s l = some t → goal t)
    (hdown : ∀ s l t, I s → ¬ goal s → ok s l → step s l = some t →
      goal t ∨ measure t + (if counts l then 1 else 0) ≤ measure s + raises l)
    {s t : σ} {ls : List ℓ} (h : Path step ok s ls t) (hs : I s)
    (hlong : goal s ∨ measure s + (ls.map raises).sum < ls.countP counts) : goal t := by
  induction h with
  | nil =>
      rcases hlong with hdone | hlt
      · exact hdone
      · exact absurd hlt (Nat.not_lt_zero _)
  | @cons s _ _ l ls hok hstep _ ih =>
      refine ih (hinv _ l _ hs hok hstep) ?_
      by_cases hdone : goal s
      · exact Or.inl (hgoal _ l _ hs hdone hok hstep)
      · rcases hdown _ l _ hs hdone hok hstep with hnext | hless
        · exact Or.inl hnext
        · refine Or.inr ?_
          have hlt := hlong.resolve_left hdone
          rw [List.countP_cons, List.map_cons, List.sum_cons] at hlt
          omega

/-- The states along a list of labels, one after the other. -/
def trace (step : σ → ℓ → Option σ) : σ → List ℓ → Nat → σ
  | s, [], _ => s
  | s, _, 0 => s
  | s, l :: ls, i + 1 => match step s l with
    | none => s
    | some t => trace step t ls i

/-- If the labels can happen and are allowed, each state follows from the one before. -/
theorem trace_of_allowed {step : σ → ℓ → Option σ} {ok : σ → ℓ → Prop}
    [∀ s l, Decidable (ok s l)] {s : σ} (ls : List ℓ) (h : allowed step ok s ls = true) {i : Nat}
    (hi : i < ls.length) : ok (trace step s ls i) ls[i] ∧
      step (trace step s ls i) ls[i] = some (trace step s ls (i + 1)) := by
  induction ls generalizing s i with
  | nil => exact absurd hi (Nat.not_lt_zero i)
  | cons l ls ih =>
      rcases exists_of_allowed_cons h with ⟨hok, u, hl, hu⟩
      have hnext : ∀ j, trace step s (l :: ls) (j + 1) = trace step u ls j := by
        intro j
        rw [trace, hl]
      cases i with
      | zero =>
          refine ⟨hok, ?_⟩
          rw [hnext]
          cases ls <;> exact hl
      | succ i =>
          rw [hnext, hnext]
          exact ih hu (Nat.lt_of_succ_lt_succ hi)

/-- So each of the states is come to. -/
theorem run_of_trace {step : σ → ℓ → Option σ} {ok : σ → ℓ → Prop} [∀ s l, Decidable (ok s l)]
    {s : σ} (ls : List ℓ) (h : allowed step ok s ls = true) {i : Nat} (hi : i ≤ ls.length) :
    Run step ok s (trace step s ls i) := by
  induction i with
  | zero => cases ls <;> exact .refl
  | succ i ih =>
      rcases trace_of_allowed ls h hi with ⟨hok, hstep⟩
      exact .tail _ (ih (Nat.le_of_succ_le hi)) hok hstep

end Run

end TimelapsePlus
