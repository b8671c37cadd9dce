import TimelapsePlus.Lib.Run

/-!
# What Does Not Show

A state may hold more than there is to be seen of it. What shows of it is given
as a state again, in which the rest has been made the same for all. An operation
that is blind does not let the rest come to light: what is seen of its result is
what is seen of its result on the part that shows. Blind operations are put
together from blind ones, as long as every decision is made on the part that
shows.

A system can so be compared with itself. Two of its states that show the same
may differ in the rest, and when the same steps are taken from both they go on
showing the same.

## Main definitions

* `Blind`: An operation that does not let the rest come to light.
* `both`: Each step is taken in both of two states.

## Theorems

* `Blind.congr`: States that show the same have results that look the same.
* `Blind.of_shown`, `Blind.ite`, `Blind.comp`, `Blind.foldl`, `Blind.some`: Putting blind
  operations together.
* `map_eq_map_of_view`: From one view of a result to another.
* `both_eq_some`: A step of both is a step of each.
* `Run.alike`: What looks the same goes on looking the same.
-/

namespace TimelapsePlus

variable {σ τ ℓ α β γ : Type}

section Blind

variable {shown : σ → σ} {view : β → γ}

/-- What is seen of the result depends on what shows of the state. -/
def Blind (shown : σ → σ) (view : β → γ) (f : σ → β) : Prop :=
  ∀ s, view (f s) = view (f (shown s))

/-- States that show the same have results that look the same. -/
theorem Blind.congr {f : σ → β} (h : Blind shown view f) {s t : σ} (hst : shown s = shown t) :
    view (f s) = view (f t) := by
  rw [h s, h t, hst]

/-- What is done to the part that shows is done to the whole. -/
theorem Blind.of_shown {f : σ → τ} {shown' : τ → τ} (hshown : ∀ t, shown' (shown' t) = shown' t)
    (h : ∀ s, f (shown s) = shown' (f s)) : Blind shown shown' f :=
  fun s => by rw [h, hshown]

/-- A decision that is made on what shows. -/
theorem Blind.ite {p : σ → Prop} {_ : DecidablePred p} {f g : σ → β}
    (hp : ∀ s, p s ↔ p (shown s)) (hf : Blind shown view f) (hg : Blind shown view g) :
    Blind shown view fun s => if p s then f s else g s := by
  intro s
  by_cases h : p s
  · simp only [if_pos h, if_pos ((hp s).mp h)]
    exact hf s
  · simp only [if_neg h, if_neg fun h' => h ((hp s).mpr h')]
    exact hg s

/-- One operation after another. -/
theorem Blind.comp {shown' : τ → τ} {f : τ → β} {g : σ → τ} (hf : Blind shown' view f)
    (hg : Blind shown shown' g) : Blind shown view fun s => f (g s) :=
  fun s => hf.congr (hg s)

/-- An operation for each element of a list. -/
theorem Blind.foldl {step : σ → α → σ} (h : ∀ a, Blind shown shown fun s => step s a)
    (hshown : ∀ s, shown (shown s) = shown s) (l : List α) :
    Blind shown shown fun s => l.foldl step s := by
  induction l with
  | nil => exact fun s => (hshown s).symm
  | cons a l ih => exact ih.comp (h a)

/-- An operation that always has a result. -/
theorem Blind.some {f : σ → β} (h : Blind shown view f) :
    Blind shown (Option.map view) fun s => Option.some (f s) :=
  fun s => congrArg Option.some (h s)

end Blind

/-- Results that look the same, if there are any, still do after another view. -/
theorem map_eq_map_of_view {x y : Option σ} (view : σ → α) {f g : σ → β}
    (h : x.map view = y.map view)
    (hfg : ∀ a b, x = some a → y = some b → view a = view b → f a = g b) :
    x.map f = y.map g := by
  cases x with
  | none =>
      cases y with
      | none => rfl
      | some b => exact absurd h (by simp only [Option.map_none, Option.map_some, reduceCtorEq,
          not_false_eq_true])
  | some a =>
      cases y with
      | none => exact absurd h (by simp only [Option.map_none, Option.map_some, reduceCtorEq,
          not_false_eq_true])
      | some b => exact congrArg some (hfg a b rfl rfl (Option.some.inj h))

/-- Take a step in both states, if it can be taken in both. -/
def both (step : σ → ℓ → Option σ) (p : σ × σ) (l : ℓ) : Option (σ × σ) :=
  match step p.1 l, step p.2 l with
  | some s, some t => some (s, t)
  | _, _ => none

/-- A step of both is a step of each. -/
theorem both_eq_some {step : σ → ℓ → Option σ} {p q : σ × σ} {l : ℓ} :
    both step p l = some q ↔ step p.1 l = some q.1 ∧ step p.2 l = some q.2 := by
  unfold both
  cases step p.1 l with
  | none => simp only [reduceCtorEq, false_and]
  | some s =>
      cases step p.2 l with
      | none => simp only [reduceCtorEq, and_false]
      | some t => simp only [Option.some.injEq, Prod.ext_iff]

/-- What looks the same goes on looking the same, if a step that is allowed does. -/
theorem Run.alike {step : σ → ℓ → Option σ} {ok : σ × σ → ℓ → Prop} (view : σ → α)
    (hstep : ∀ p l, view p.1 = view p.2 → ok p l →
      (step p.1 l).map view = (step p.2 l).map view)
    {p q : σ × σ} (h : Run (both step) ok p q) (hp : view p.1 = view p.2) :
    view q.1 = view q.2 := by
  refine h.invariant (fun r => view r.1 = view r.2) (fun r l t hr hok hnext => ?_) hp
  rcases both_eq_some.mp hnext with ⟨hleft, hright⟩
  have hmap := hstep r l hr hok
  rw [hleft, hright] at hmap
  exact Option.some.inj hmap

end TimelapsePlus
