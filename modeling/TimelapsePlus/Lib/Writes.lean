import Mathlib.Data.List.Induction

/-!
# The Last Writer of a Flag

Of the labels a system is given, some concern a flag and the others leave it as it
is. One that concerns it makes it what it makes it, whatever it was before. So the
flag is what the last of these labels made it, and to tell it after a run takes only
the state that label was given in.

## Main definitions

* `LastSets`: The last label that concerns a flag set it.

## Theorems

* `lastSets_concat`, `lastSets_concat_of_not`: A run that is one label longer.
* `flag_iff_lastSets`: A flag is set exactly when its last writer set it.
-/

namespace TimelapsePlus

namespace Writes

variable {σ ℓ : Type} {step : σ → ℓ → σ} {concerns : ℓ → Prop} {sets : σ → ℓ → Prop} {s : σ}

/-- There is a last label that concerns the flag, and it set it in the state it was given
    in. -/
def LastSets (step : σ → ℓ → σ) (concerns : ℓ → Prop) (sets : σ → ℓ → Prop) (s : σ)
    (ls : List ℓ) : Prop :=
  ∃ before l after, ls = before ++ l :: after ∧ concerns l ∧ (∀ l' ∈ after, ¬ concerns l') ∧
    sets (before.foldl step s) l

theorem not_lastSets_nil : ¬ LastSets step concerns sets s [] := by
  rintro ⟨before, l, after, hsplit, -⟩
  exact absurd hsplit.symm (List.append_ne_nil_of_right_ne_nil _ (List.cons_ne_nil _ _))

/-- A last label that concerns the flag is the last of those. -/
theorem lastSets_concat {ls : List ℓ} {l : ℓ} (h : concerns l) :
    LastSets step concerns sets s (ls ++ [l]) ↔ sets (ls.foldl step s) l := by
  constructor
  · rintro ⟨before, l', after, hsplit, -, hafter, hsets⟩
    rcases List.eq_nil_or_concat after with rfl | ⟨init, last, rfl⟩
    · rcases List.append_inj' hsplit rfl with ⟨rfl, hl⟩
      cases hl
      exact hsets
    · -- Otherwise it would be among those after it.
      rw [List.concat_eq_append, ← List.cons_append, ← List.append_assoc] at hsplit
      rcases List.append_inj' hsplit rfl with ⟨-, hl⟩
      cases hl
      refine absurd h (hafter l ?_)
      rw [List.concat_eq_append]
      exact List.mem_append_right _ List.mem_cons_self
  · intro hsets
    exact ⟨ls, l, [], rfl, h, fun l' hl' => absurd hl' List.not_mem_nil, hsets⟩

/-- Any other leaves it to those before. -/
theorem lastSets_concat_of_not {ls : List ℓ} {l : ℓ} (h : ¬ concerns l) :
    LastSets step concerns sets s (ls ++ [l]) ↔ LastSets step concerns sets s ls := by
  constructor
  · rintro ⟨before, l', after, hsplit, hl', hafter, hsets⟩
    rcases List.eq_nil_or_concat after with rfl | ⟨init, last, rfl⟩
    · rcases List.append_inj' hsplit rfl with ⟨-, hl⟩
      cases hl
      exact absurd hl' h
    · rw [List.concat_eq_append, ← List.cons_append, ← List.append_assoc] at hsplit
      rcases List.append_inj' hsplit rfl with ⟨hls, -⟩
      refine ⟨before, l', init, hls, hl', fun m hm => hafter m ?_, hsets⟩
      rw [List.concat_eq_append]
      exact List.mem_append_left _ hm
  · rintro ⟨before, l', after, rfl, hl', hafter, hsets⟩
    refine ⟨before, l', after ++ [l], by rw [List.append_assoc, List.cons_append], hl', ?_, hsets⟩
    intro m hm
    rcases List.mem_append.mp hm with hm | hm
    · exact hafter m hm
    · rw [List.mem_singleton.mp hm]
      exact h

/-- A flag is set exactly when the last label that concerns it set it. -/
theorem flag_iff_lastSets (flag : σ → Prop)
    (hkeep : ∀ s l, ¬ concerns l → (flag (step s l) ↔ flag s))
    (hset : ∀ s l, concerns l → (flag (step s l) ↔ sets s l)) (hs : ¬ flag s) (ls : List ℓ) :
    flag (ls.foldl step s) ↔ LastSets step concerns sets s ls := by
  -- By induction on the run, from its last label on.
  induction ls using List.reverseRecOn with
  | nil => exact iff_of_false hs not_lastSets_nil
  | append_singleton ls l ih =>
      rw [List.foldl_append, List.foldl_cons, List.foldl_nil]
      by_cases h : concerns l
      · rw [hset _ l h, lastSets_concat h]
      · rw [hkeep _ l h, ih, lastSets_concat_of_not h]

end Writes

end TimelapsePlus
