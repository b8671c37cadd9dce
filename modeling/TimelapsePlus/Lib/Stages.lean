/-!
# Code in Stages

A function that looks at its state block by block, where any block may return,
is a chain of stages. A stage says what the block does to the state, and whether
the function goes on with the next block or returns.

What is proved of a chain is proved stage by stage, with two assertions for each:
one for where the function goes on, which is what the next stage starts from, and
one for where it returns.

## Main definitions

* `Flow`: What a stage comes to.
* `chain`: A chain of stages.
* `Flow.Ends`: An assertion for going on, and one for returning.

## Theorems

* `Flow.ends_ite`: A stage that is one of two.
* `chain_on`, `chain_back`: A chain by its first stage.
* `chain_then`: What a chain ends in, by its first stage and the rest.
* `chain_append`: What every stage keeps, up to where the function returns.
-/

namespace TimelapsePlus

section Stages

variable {σ : Type}

/-- The function goes on, or returns. -/
inductive Flow (σ : Type)
  | on (s : σ)
  | back (s : σ)

/-- The state a stage leaves. -/
def Flow.state : Flow σ → σ
  | .on s => s
  | .back s => s

/-- `Q` where the function goes on, and `R` where it returns. -/
def Flow.Ends (Q R : σ → Prop) : Flow σ → Prop
  | .on s => Q s
  | .back s => R s

@[simp] theorem Flow.state_on (s : σ) : (Flow.on s).state = s := rfl

@[simp] theorem Flow.state_back (s : σ) : (Flow.back s).state = s := rfl

@[simp] theorem Flow.ends_on (Q R : σ → Prop) (s : σ) : (Flow.on s).Ends Q R ↔ Q s := Iff.rfl

@[simp] theorem Flow.ends_back (Q R : σ → Prop) (s : σ) : (Flow.back s).Ends Q R ↔ R s := Iff.rfl

/-- A stage that is one of two is what both are. -/
theorem Flow.ends_ite {Q R : σ → Prop} {c : Prop} [Decidable c] {a b : Flow σ}
    (ha : c → a.Ends Q R) (hb : ¬ c → b.Ends Q R) : (if c then a else b).Ends Q R := by
  by_cases hc : c
  · rw [if_pos hc]
    exact ha hc
  · rw [if_neg hc]
    exact hb hc

/-- One stage after another, up to the first that returns. -/
def chain : List (σ → Flow σ) → σ → σ
  | [], s => s
  | g :: gs, s => match g s with
    | .on t => chain gs t
    | .back t => t

@[simp] theorem chain_nil (s : σ) : chain [] s = s := rfl

theorem chain_on {g : σ → Flow σ} {gs : List (σ → Flow σ)} {s t : σ} (h : g s = .on t) :
    chain (g :: gs) s = chain gs t := by
  rw [chain, h]

theorem chain_back {g : σ → Flow σ} {gs : List (σ → Flow σ)} {s t : σ} (h : g s = .back t) :
    chain (g :: gs) s = t := by
  rw [chain, h]

/-- What a chain ends in, by its first stage and the rest. -/
theorem chain_then {g : σ → Flow σ} {gs : List (σ → Flow σ)} {s : σ} (Q R : σ → Prop)
    (hfirst : (g s).Ends Q R) (hrest : ∀ t, Q t → R (chain gs t)) : R (chain (g :: gs) s) := by
  cases hflow : g s with
  | on t =>
      rw [hflow] at hfirst
      rw [chain_on hflow]
      exact hrest t hfirst
  | back t =>
      rw [hflow] at hfirst
      rw [chain_back hflow]
      exact hfirst

/-- What every stage of the first of two chains keeps, up to where the function
    returns, the second starts from. -/
theorem chain_append (I R : σ → Prop) {gs rest : List (σ → Flow σ)}
    (hkeep : ∀ g ∈ gs, ∀ s, I s → (g s).Ends I R) (hrest : ∀ s, I s → R (chain rest s)) {s : σ}
    (hs : I s) : R (chain (gs ++ rest) s) := by
  induction gs generalizing s with
  | nil => exact hrest s hs
  | cons g gs ih =>
      refine chain_then I R (hkeep g List.mem_cons_self s hs) fun t ht => ?_
      exact ih (fun g' hg' => hkeep g' (List.mem_cons_of_mem _ hg')) ht

end Stages

end TimelapsePlus
