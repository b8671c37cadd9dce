import Mathlib.Data.Fintype.Pigeonhole
import Mathlib.Data.Finset.Card
import Mathlib.Data.Set.Finite.Basic

/-!
# Loops That May Not End

A `while` loop with early exits, as a body that either hands over the next
state or throws the answer the loop leaves with. Nothing says a loop leaves at
all, so its meaning is given by running it for a bounded number of rounds:
`run body n s` is the answer when the loop leaves within `n` rounds and `none`
otherwise, and `Halts` says that some bound suffices.

The two directions of termination need different tools. `halts_of_measure`
proves it from a measure that falls every round. `not_halts_of_forever`
refutes it from a set of states the body never leaves. For a loop that runs
out of states the two meet: `halts_iff_no_revisit_of_rank` says such a loop
leaves exactly when it never comes back to a state it has already been in,
since a deterministic body that has returned once returns forever, and one that
never returns would need infinitely many states of one rank.

## Main definitions

* `run`: A loop for a bounded number of rounds.
* `Halts`: A loop leaves after some number of rounds.
* `after`: The state a loop is in after a number of rounds.
* `Reaches`: A loop gets from one state to another.
* `Ends`: A loop leaves with an answer.
* `Revisits`: A loop comes back to a state it has been in.

## Theorems

* `run_mono`: A larger bound gives the same answer.
* `run_unique`: Two bounds that suffice give the same answer.
* `halts_of_throw`: A loop whose body throws at once halts.
* `halts_iff_of_ok`: A loop halts exactly when it halts one round later.
* `run_of_measure`: A falling measure bounds the rounds of a loop.
* `halts_of_measure`: A falling measure makes a loop halt.
* `not_halts_of_forever`: A loop confined to states that go on never halts.
* `after_add`: Splitting a number of rounds.
* `halts_iff_after`: Halting is reaching a state whose body throws.
* `ends_iff_of_reaches`: A loop leaves with the answer of any state it gets to.
* `run_inv`: What every round preserves holds of the state left from.
* `halts_iff_no_revisit_of_rank`: A loop whose rank never rises, and that has
  finitely many states at each rank, halts exactly when it revisits no state.
* `run_map`: A loop that shadows another round by round.
-/

namespace TimelapsePlus

namespace Loop

variable {σ ε : Type}

/-- Run a loop for at most `n` rounds. -/
def run (body : σ → Except ε σ) : Nat → σ → Option ε
  | 0, _ => none
  | n + 1, s => match body s with
    | .error a => some a
    | .ok s' => run body n s'

/-- The loop leaves, after some number of rounds. -/
def Halts (body : σ → Except ε σ) (s : σ) : Prop :=
  ∃ n a, run body n s = some a

theorem run_zero (body : σ → Except ε σ) (s : σ) : run body 0 s = none := rfl

theorem run_succ_ok (body : σ → Except ε σ) (n : Nat) {s s' : σ} (h : body s = .ok s') :
    run body (n + 1) s = run body n s' := by
  rw [run, h]

theorem run_succ_error (body : σ → Except ε σ) (n : Nat) {s : σ} {a : ε}
    (h : body s = .error a) : run body (n + 1) s = some a := by
  rw [run, h]

theorem run_zero_ne_some (body : σ → Except ε σ) (s : σ) (a : ε) : run body 0 s ≠ some a := by
  rw [run_zero]
  exact (Option.some_ne_none a).symm

theorem run_succ_of_run (body : σ → Except ε σ) (n : Nat) (s : σ) (a : ε)
    (h : run body n s = some a) : run body (n + 1) s = some a := by
  induction n generalizing s with
  | zero => exact absurd h (run_zero_ne_some body s a)
  | succ k ih =>
      cases hb : body s with
      | error e =>
          rw [run_succ_error body _ hb] at h ⊢
          exact h
      | ok s' =>
          rw [run_succ_ok body _ hb] at h ⊢
          exact ih s' h

theorem run_mono (body : σ → Except ε σ) {m n : Nat} (s : σ) (a : ε) (hle : m ≤ n)
    (h : run body m s = some a) : run body n s = some a := by
  induction hle with
  | refl => exact h
  | step _ ih => exact run_succ_of_run body _ s a ih

theorem run_unique (body : σ → Except ε σ) {m n : Nat} (s : σ) {a b : ε}
    (hm : run body m s = some a) (hn : run body n s = some b) : a = b := by
  rcases Nat.le_total m n with h | h
  · have := run_mono body s a h hm
    rw [hn, Option.some.injEq] at this
    exact this.symm
  · have := run_mono body s b h hn
    rw [hm, Option.some.injEq] at this
    exact this

theorem halts_of_throw (body : σ → Except ε σ) {s : σ} {a : ε} (h : body s = .error a) :
    Halts body s :=
  ⟨1, a, run_succ_error body 0 h⟩

theorem halts_iff_of_ok (body : σ → Except ε σ) {s s' : σ} (h : body s = .ok s') :
    Halts body s ↔ Halts body s' := by
  constructor
  · rintro ⟨n, a, hn⟩
    cases n with
    | zero => exact absurd hn (run_zero_ne_some body s a)
    | succ k =>
        rw [run_succ_ok body k h] at hn
        exact ⟨k, a, hn⟩
  · rintro ⟨n, a, hn⟩
    exact ⟨n + 1, a, by rw [run_succ_ok body n h]; exact hn⟩

/-- A loop whose measure falls on every round that goes on leaves within as many
    rounds as the measure says, as long as the rounds stay within an invariant. -/
theorem run_of_measure (body : σ → Except ε σ) (I : σ → Prop) (μ : σ → Nat)
    (hstep : ∀ s s', I s → body s = .ok s' → I s' ∧ μ s' < μ s) :
    ∀ n s, I s → μ s < n → ∃ a, run body n s = some a := by
  intro n
  induction n with
  | zero => exact fun s _ h => absurd h (Nat.not_lt_zero _)
  | succ n ih =>
      intro s hI hlt
      cases hb : body s with
      | error a => exact ⟨a, run_succ_error body n hb⟩
      | ok s' =>
          rcases hstep s s' hI hb with ⟨hI', hless⟩
          rw [run_succ_ok body n hb]
          exact ih s' hI' (by omega)

/-- A loop halts when a measure falls on every round that goes on, as long as
    the rounds stay within an invariant. -/
theorem halts_of_measure (body : σ → Except ε σ) (I : σ → Prop) (μ : σ → Nat)
    (hstep : ∀ s s', I s → body s = .ok s' → I s' ∧ μ s' < μ s) :
    ∀ s, I s → Halts body s := by
  intro s hI
  exact ⟨μ s + 1, run_of_measure body I μ hstep (μ s + 1) s hI (Nat.lt_succ_self _)⟩

theorem not_halts_of_forever (body : σ → Except ε σ) (I : σ → Prop)
    (hstep : ∀ s, I s → ∃ s', body s = .ok s' ∧ I s') (s : σ) (hs : I s) :
    ¬ Halts body s := by
  rintro ⟨n, a, hn⟩
  induction n generalizing s with
  | zero => exact absurd hn (run_zero_ne_some body s a)
  | succ k ih =>
      rcases hstep s hs with ⟨s', hb, hs'⟩
      rw [run_succ_ok body k hb] at hn
      exact ih s' hs' hn

/-- The state after `n` rounds, or `none` when the loop left before. -/
def after (body : σ → Except ε σ) : Nat → σ → Option σ
  | 0, s => some s
  | n + 1, s => match body s with
    | .error _ => none
    | .ok s' => after body n s'

theorem after_zero (body : σ → Except ε σ) (s : σ) : after body 0 s = some s := rfl

theorem after_succ_ok (body : σ → Except ε σ) (n : Nat) {s s' : σ} (h : body s = .ok s') :
    after body (n + 1) s = after body n s' := by
  rw [after, h]

theorem after_succ_error (body : σ → Except ε σ) (n : Nat) {s : σ} {a : ε}
    (h : body s = .error a) : after body (n + 1) s = none := by
  rw [after, h]

/-- A state reached in one round more is reached from the state after the first. -/
theorem exists_of_after_succ {body : σ → Except ε σ} {n : Nat} {s t : σ}
    (h : after body (n + 1) s = some t) : ∃ s', body s = .ok s' ∧ after body n s' = some t := by
  cases hb : body s with
  | error e =>
      rw [after_succ_error body n hb] at h
      exact absurd h (Option.some_ne_none t).symm
  | ok s' =>
      rw [after_succ_ok body n hb] at h
      exact ⟨s', rfl, h⟩

theorem after_add (body : σ → Except ε σ) (m n : Nat) {s t : σ}
    (h : after body m s = some t) : after body (m + n) s = after body n t := by
  induction m generalizing s with
  | zero =>
      rw [after_zero, Option.some.injEq] at h
      rw [h, Nat.zero_add]
  | succ k ih =>
      rcases exists_of_after_succ h with ⟨s', hb, hs'⟩
      rw [Nat.add_right_comm, after_succ_ok body _ hb]
      exact ih hs'

/-- The step after a state reached is the next state reached. -/
theorem after_succ (body : σ → Except ε σ) (n : Nat) {s t t' : σ}
    (h : after body n s = some t) (hb : body t = .ok t') : after body (n + 1) s = some t' := by
  rw [after_add body n 1 h, after_succ_ok body 0 hb, after_zero]

theorem run_add (body : σ → Except ε σ) (m n : Nat) {s t : σ}
    (h : after body m s = some t) : run body (m + n) s = run body n t := by
  induction m generalizing s with
  | zero =>
      rw [after_zero, Option.some.injEq] at h
      rw [h, Nat.zero_add]
  | succ k ih =>
      rcases exists_of_after_succ h with ⟨s', hb, hs'⟩
      rw [Nat.add_right_comm, run_succ_ok body _ hb]
      exact ih hs'

/-- A run that leaves passes through everything reached on the way. -/
theorem halts_iff_of_after (body : σ → Except ε σ) (n : Nat) {s t : σ}
    (h : after body n s = some t) : Halts body s ↔ Halts body t := by
  constructor
  · rintro ⟨m, a, hm⟩
    refine ⟨m, a, ?_⟩
    rw [← run_add body n m h]
    exact run_mono body s a (by omega) hm
  · rintro ⟨m, a, hm⟩
    exact ⟨n + m, a, by rw [run_add body n m h]; exact hm⟩

/-- A run that leaves does so from the state it reached last. -/
theorem run_eq_some (body : σ → Except ε σ) (n : Nat) (s : σ) (a : ε)
    (h : run body n s = some a) :
    ∃ k t, k < n ∧ after body k s = some t ∧ body t = .error a := by
  induction n generalizing s with
  | zero => exact absurd h (run_zero_ne_some body s a)
  | succ m ih =>
      cases hb : body s with
      | error e =>
          rw [run_succ_error body m hb, Option.some.injEq] at h
          exact ⟨0, s, by omega, rfl, by rw [hb, h]⟩
      | ok s' =>
          rw [run_succ_ok body m hb] at h
          rcases ih s' h with ⟨k, t, hk, hafter, ht⟩
          exact ⟨k + 1, t, by omega, by rw [after_succ_ok body k hb]; exact hafter, ht⟩

theorem halts_iff_after (body : σ → Except ε σ) (s : σ) :
    Halts body s ↔ ∃ n t a, after body n s = some t ∧ body t = .error a := by
  constructor
  · rintro ⟨n, a, hn⟩
    rcases run_eq_some body n s a hn with ⟨k, t, _, hk, ht⟩
    exact ⟨k, t, a, hk, ht⟩
  · rintro ⟨n, t, a, hn, ht⟩
    rw [halts_iff_of_after body n hn]
    exact halts_of_throw body ht

/-- What holds at the start and is preserved by every round holds of every
    state reached. -/
theorem after_inv (body : σ → Except ε σ) (I : σ → Prop)
    (hstep : ∀ s s', I s → body s = .ok s' → I s') (n : Nat) (s t : σ) (hs : I s)
    (h : after body n s = some t) : I t := by
  induction n generalizing s with
  | zero =>
      rw [after_zero, Option.some.injEq] at h
      rw [← h]
      exact hs
  | succ k ih =>
      rcases exists_of_after_succ h with ⟨s', hb, hs'⟩
      exact ih s' (hstep s s' hs hb) hs'

/-- What every round preserves holds of the state the loop leaves from, so an
    exit condition proved from it holds of every answer. -/
theorem run_inv (body : σ → Except ε σ) (I : σ → Prop) (Q : ε → Prop)
    (hstep : ∀ s s', I s → body s = .ok s' → I s')
    (hexit : ∀ s a, I s → body s = .error a → Q a)
    (n : Nat) (s : σ) (a : ε) (hs : I s) (h : run body n s = some a) : Q a := by
  rcases run_eq_some body n s a h with ⟨k, t, _, hk, ht⟩
  exact hexit t a (after_inv body I hstep k s t hs hk) ht

/-- The loop gets from one state to another. -/
def Reaches (body : σ → Except ε σ) (s t : σ) : Prop := ∃ n, after body n s = some t

theorem Reaches.refl (body : σ → Except ε σ) (s : σ) : Reaches body s s := ⟨0, rfl⟩

theorem Reaches.trans {body : σ → Except ε σ} {s t u : σ} (hst : Reaches body s t)
    (htu : Reaches body t u) : Reaches body s u := by
  rcases hst with ⟨m, hm⟩
  rcases htu with ⟨n, hn⟩
  exact ⟨m + n, by rw [after_add body m n hm]; exact hn⟩

theorem reaches_of_ok {body : σ → Except ε σ} {s t : σ} (h : body s = .ok t) :
    Reaches body s t :=
  ⟨1, by rw [after_succ_ok body 0 h, after_zero]⟩

/-- The loop leaves with this answer. -/
def Ends (body : σ → Except ε σ) (s : σ) (a : ε) : Prop := ∃ n, run body n s = some a

theorem ends_of_throw (body : σ → Except ε σ) {s : σ} {a : ε} (h : body s = .error a) :
    Ends body s a :=
  ⟨1, run_succ_error body 0 h⟩

/-- A loop leaves with the answer of any state it gets to. -/
theorem ends_iff_of_reaches {body : σ → Except ε σ} {s t : σ} (h : Reaches body s t) (a : ε) :
    Ends body s a ↔ Ends body t a := by
  rcases h with ⟨n, hn⟩
  constructor
  · rintro ⟨m, hm⟩
    exact ⟨m, by rw [← run_add body n m hn]; exact run_mono body s a (by omega) hm⟩
  · rintro ⟨m, hm⟩
    exact ⟨n + m, by rw [run_add body n m hn]; exact hm⟩

/-- The loop comes back to a state it has already been in. -/
def Revisits (body : σ → Except ε σ) (s : σ) : Prop :=
  ∃ i j t, i < j ∧ after body i s = some t ∧ after body j s = some t

/-- A loop that has come back once comes back forever. -/
theorem not_halts_of_revisits (body : σ → Except ε σ) (s : σ) (h : Revisits body s) :
    ¬ Halts body s := by
  rcases h with ⟨i, j, t, hij, hi, hj⟩
  have hcycle : after body (j - i) t = some t := by
    rw [← after_add body i (j - i) hi, show i + (j - i) = j by omega]
    exact hj
  rw [halts_iff_of_after body i hi]
  -- The states on the cycle from `t` are never left.
  refine not_halts_of_forever body (fun u => ∃ k, k < j - i ∧ after body k t = some u)
    (fun u hu => ?_) t ⟨0, by omega, rfl⟩
  rcases hu with ⟨k, hk, hku⟩
  have hnext : after body (j - i - k) u = some t := by
    rw [← after_add body k (j - i - k) hku, show k + (j - i - k) = j - i by omega]
    exact hcycle
  rw [show j - i - k = j - i - k - 1 + 1 by omega] at hnext
  rcases exists_of_after_succ hnext with ⟨u', hb, -⟩
  refine ⟨u', hb, ?_⟩
  have hu' := after_succ body k hku hb
  by_cases hlast : k + 1 < j - i
  · exact ⟨k + 1, hlast, hu'⟩
  · rw [show k + 1 = j - i by omega, hcycle] at hu'
    exact ⟨0, by omega, hu'⟩

/-- A loop that never halts has a state after every number of rounds. -/
theorem exists_after_of_not_halts (body : σ → Except ε σ) (s : σ) (h : ¬ Halts body s) (n : Nat) :
    ∃ t, after body n s = some t := by
  induction n with
  | zero => exact ⟨s, rfl⟩
  | succ k ih =>
      rcases ih with ⟨t, ht⟩
      cases hb : body t with
      | error a => exact absurd ((halts_iff_after body s).mpr ⟨k, t, a, ht, hb⟩) h
      | ok t' => exact ⟨t', after_succ body k ht hb⟩

/-- A loop halts exactly when it revisits no state, as long as its rank never
    rises and it has finitely many states to go to while the rank stays. -/
theorem halts_iff_no_revisit_of_rank (body : σ → Except ε σ) (I : σ → Prop) (μ : σ → Nat)
    (L : σ → Set σ) (hI : ∀ s s', I s → body s = .ok s' → I s')
    (hμ : ∀ s s', I s → body s = .ok s' → μ s' ≤ μ s) (hfin : ∀ s, (L s).Finite)
    (hself : ∀ s, I s → s ∈ L s)
    (hlevel : ∀ s s', I s → body s = .ok s' → μ s' = μ s → L s' = L s)
    (s : σ) (hs : I s) : Halts body s ↔ ¬ Revisits body s := by
  refine ⟨fun hh hr => not_halts_of_revisits body s hr hh, fun hno => ?_⟩
  by_contra hnh
  choose f hf using exists_after_of_not_halts body s hnh
  have hIf : ∀ n, I (f n) := fun n => after_inv body I hI n s (f n) hs (hf n)
  have hstep : ∀ n, body (f n) = .ok (f (n + 1)) := by
    intro n
    cases hb : body (f n) with
    | error a => exact absurd ((halts_iff_after body s).mpr ⟨n, f n, a, hf n, hb⟩) hnh
    | ok t =>
        have := after_succ body n (hf n) hb
        rw [hf (n + 1), Option.some.injEq] at this
        rw [this]
  -- The rank reaches its least value and stays there.
  obtain ⟨N, hN⟩ : ∃ N, ∀ n, μ (f N) ≤ μ (f n) := by
    classical
    have hex : ∃ m, ∃ n, μ (f n) = m := ⟨μ (f 0), 0, rfl⟩
    rcases Nat.find_spec hex with ⟨N, hN⟩
    exact ⟨N, fun n => by rw [hN]; exact Nat.find_min' hex ⟨n, rfl⟩⟩
  have hstay : ∀ k, μ (f (N + k)) = μ (f N) ∧ L (f (N + k)) = L (f N) := by
    intro k
    induction k with
    | zero => exact ⟨rfl, rfl⟩
    | succ j ih =>
        have hle := hμ _ _ (hIf (N + j)) (hstep (N + j))
        have hge := hN (N + j + 1)
        have heq : μ (f (N + j + 1)) = μ (f (N + j)) := by omega
        have hL := hlevel _ _ (hIf (N + j)) (hstep (N + j)) heq
        exact ⟨by rw [← Nat.add_assoc, heq, ih.1], by rw [← Nat.add_assoc, hL, ih.2]⟩
  -- Infinitely many rounds share finitely many states.
  have hinj : Function.Injective fun k => f (N + k) := by
    intro i j heq
    by_contra hne
    simp only at heq
    rcases Nat.lt_or_gt_of_ne hne with hlt | hlt
    · exact hno ⟨N + i, N + j, f (N + i), by omega, hf _, by rw [hf, heq]⟩
    · exact hno ⟨N + j, N + i, f (N + j), by omega, hf _, by rw [hf, heq]⟩
  have hmem : ∀ k, f (N + k) ∈ L (f N) := by
    intro k
    have := hself _ (hIf (N + k))
    rwa [(hstay k).2] at this
  exact Set.infinite_of_injective_forall_mem hinj hmem (hfin (f N))

/-- A loop that shadows another: its state is a function of the other's, round
    by round, and so is the answer it leaves with. -/
theorem run_map {τ δ : Type} (body : σ → Except ε σ) (body' : τ → Except δ τ) (h : σ → τ)
    (g : ε → δ) (hok : ∀ s s', body s = .ok s' → body' (h s) = .ok (h s'))
    (herror : ∀ s a, body s = .error a → body' (h s) = .error (g a)) (n : Nat) (s : σ) :
    run body' n (h s) = (run body n s).map g := by
  induction n generalizing s with
  | zero => rfl
  | succ k ih =>
      cases hb : body s with
      | error a =>
          rw [run_succ_error body' k (herror s a hb), run_succ_error body k hb, Option.map_some]
      | ok s' => rw [run_succ_ok body' k (hok s s' hb), run_succ_ok body k hb, ih s']

end Loop

end TimelapsePlus
