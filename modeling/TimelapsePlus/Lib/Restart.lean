import TimelapsePlus.Lib.Run

/-!
# Machines that are Restarted

Some of the labels of a machine start it again. What it does from there on should be
what it does when it is started for the first time, and nothing that was before should
be seen of it. A second machine says what that is: it is started from the initial state
whenever the first one is started, and given the same labels from then on.

A restart that leaves the state the first start leaves is all it takes. With it the two
machines are the same after every run.

## Main definitions

* `Restart.Watched`: A machine and the second one, once it has been started.
* `Restart.watch`: A label is given to both.

## Theorems

* `Restart.state_eq`: They are the same.
-/

namespace TimelapsePlus

namespace Restart

variable {σ ℓ : Type}

/-- A machine, and the one that was started from the initial state with it. -/
structure Watched (σ : Type) where
  state : σ
  fresh : Option σ

/-- A label is given to both. -/
def watch (step : σ → ℓ → σ) (restarts : ℓ → Bool) (s₀ : σ) (w : Watched σ) (l : ℓ) :
    Option (Watched σ) :=
  some ⟨step w.state l, if restarts l = true then some (step s₀ l) else w.fresh.map (step · l)⟩

/-- A machine that was not started yet. -/
def idle (s₀ : σ) : Watched σ := ⟨s₀, none⟩

variable {step : σ → ℓ → σ} {restarts : ℓ → Bool} {s₀ : σ} {ok : Watched σ → ℓ → Prop}

/-- If every restart leaves what the first start leaves, the two are the same. -/
theorem state_eq (hok : ∀ w l, ok w l → restarts l = true → step w.state l = step s₀ l)
    {w : Watched σ} (h : Run (watch step restarts s₀) ok (idle s₀) w) :
    ∀ t ∈ w.fresh, w.state = t := by
  refine h.invariant (fun w => ∀ t ∈ w.fresh, w.state = t) ?_ fun t ht => by cases ht
  intro w l w' hw hl hstep t ht
  rw [← Option.some.inj hstep] at ht ⊢
  by_cases hrestart : restarts l = true
  · simp only [if_pos hrestart, Option.mem_def, Option.some.injEq] at ht
    rw [← ht]
    exact hok w l hl hrestart
  · simp only [if_neg hrestart] at ht
    rcases Option.map_eq_some_iff.mp ht with ⟨t', ht', rfl⟩
    simp only
    rw [hw t' ht']

end Restart

end TimelapsePlus
