import TimelapsePlus.Lib.Run

/-!
# Nested Labels

Labels of which some open and some close, as calls and returns do. Between an opening and
the closing that matches it there is a list of labels in which every opening is closed.

A system keeps a stack of what its openings have left there, and a closing takes the
latest of it. Where the labels are balanced the stack is the same afterwards, so that a
closing finds what the matching opening left.

## Main definitions

* `Balanced`: Every opening is closed, and every closing closes one.

## Theorems

* `Path.append_inv`: A path along two lists.
* `Balanced.keeps`: A balanced path leaves the stack as it was.
-/

namespace TimelapsePlus

section Nesting

variable {σ ℓ φ : Type}

/-- Every opening is closed, and every closing closes one. -/
inductive Balanced (opens closes : ℓ → Prop) : List ℓ → Prop
  | nil : Balanced opens closes []
  | plain (l : ℓ) (ls : List ℓ) (hopens : ¬ opens l) (hcloses : ¬ closes l)
      (hrest : Balanced opens closes ls) : Balanced opens closes (l :: ls)
  | nest (o : ℓ) (ls : List ℓ) (c : ℓ) (ls' : List ℓ) (hopens : opens o)
      (hinner : Balanced opens closes ls) (hcloses : closes c)
      (hrest : Balanced opens closes ls') : Balanced opens closes (o :: (ls ++ c :: ls'))

/-- A path along two lists goes through a state between them. -/
theorem Path.append_inv {step : σ → ℓ → Option σ} {ok : σ → ℓ → Prop} {s t : σ}
    {ls ls' : List ℓ} (h : Path step ok s (ls ++ ls') t) :
    ∃ u, Path step ok s ls u ∧ Path step ok u ls' t := by
  induction ls generalizing s with
  | nil => exact ⟨s, .nil s, h⟩
  | cons l ls ih =>
      cases h with
      | cons _ _ hok hstep hpath =>
          rcases ih hpath with ⟨u, hfirst, hsecond⟩
          exact ⟨u, .cons l ls hok hstep hfirst, hsecond⟩

/-- A balanced path leaves the stack as it was: each opening puts something on it, the
    labels up to the closing leave it there, and the closing takes it off. -/
theorem Balanced.keeps {step : σ → ℓ → Option σ} {ok : σ → ℓ → Prop}
    {opens closes : ℓ → Prop} (stack : σ → List φ)
    (hopen : ∀ s l t, opens l → ok s l → step s l = some t → ∃ f, stack t = f :: stack s)
    (hclose : ∀ s l t f fs, closes l → step s l = some t → stack s = f :: fs → stack t = fs)
    (hplain : ∀ s l t, ¬ opens l → ¬ closes l → step s l = some t → stack t = stack s)
    {ls : List ℓ} (hb : Balanced opens closes ls) {s t : σ} (h : Path step ok s ls t) :
    stack t = stack s := by
  induction hb generalizing s t with
  | nil =>
      cases h
      rfl
  | plain l ls hopens hcloses hrest ih =>
      cases h with
      | cons _ _ hok hstep hpath =>
          rw [ih hpath, hplain _ l _ hopens hcloses hstep]
  | nest o ls c ls' hopens hinner hcloses hrest ihinner ihrest =>
      cases h with
      | cons _ _ hok hstep hpath =>
          rcases hpath.append_inv with ⟨u, hpathinner, hpathrest⟩
          cases hpathrest with
          | cons _ _ hok' hstep' hpath' =>
              rcases hopen _ o _ hopens hok hstep with ⟨f, hf⟩
              -- What was put there is what the closing finds.
              have hfound := (ihinner hpathinner).trans hf
              rw [ihrest hpath', hclose _ c _ f _ hcloses hstep' hfound]

end Nesting

end TimelapsePlus
