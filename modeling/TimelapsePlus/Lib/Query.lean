import Mathlib.Logic.Basic

/-!
# Functions that Read a Memory

A function that only reads is the places it looks at, one after the other, each
with what it does for every value that may be there. So besides what it comes to
on a memory it says where it has looked, also at a value it then makes no use
of. What it has not looked at it does not depend on.

## Main definitions

* `Query`: A function that reads.
* `Query.run`, `Query.touched`: What it comes to, and where it has looked.
* `Query.Within`: It looks at some places only, whatever the memory holds.
* `Query.search`, `Query.scan`: The loops that stop at the first value they
  are after.
* `Query.collect`: The loop that reads as many values as it is told to.

## Theorems

* `run_congr`: A function does not depend on what it has not looked at.
* `Within.touched`: Where it may look is where it looks.
* `within_bind`, `within_search`, `within_scan`, `within_search_bind`: The places
  of what is put together.
* `run_search`, `run_collect`: What a search comes to, and a loop that collects.
* `touched_bind`, `touched_collect`: Where they have looked.
-/

namespace TimelapsePlus

/-- A function that reads a memory with indices `ι` and values `V`. -/
inductive Query (ι V α : Type)
  | done (a : α)
  | read (i : ι) (k : V → Query ι V α)

namespace Query

variable {ι V α β : Type}

/-- One function after the other. -/
def bind : Query ι V α → (α → Query ι V β) → Query ι V β
  | .done a, f => f a
  | .read i k, f => .read i fun v => (k v).bind f

instance : Monad (Query ι V) where
  pure := .done
  bind := .bind

/-- The value at an index. -/
def look (i : ι) : Query ι V V := .read i .done

/-- What a function comes to. -/
def run (mem : ι → V) : Query ι V α → α
  | .done a => a
  | .read i k => (k (mem i)).run mem

/-- The indices it looks at, in order. -/
def touched (mem : ι → V) : Query ι V α → List ι
  | .done _ => []
  | .read i k => i :: (k (mem i)).touched mem

/-- Every index it may look at is one of these. -/
def Within (P : ι → Prop) : Query ι V α → Prop
  | .done _ => True
  | .read i k => P i ∧ ∀ v, (k v).Within P

/-- The first of some indices with a value that is picked, and what it is picked as. -/
def search (pick : ι → V → Option α) : List ι → Query ι V (Option α)
  | [] => .done none
  | i :: is => .read i fun v => match pick i v with
    | none => search pick is
    | some a => .done (some a)

/-- The values at some indices, one after the other, up to one that is good. -/
def scan (good : V → Bool) : List ι → V → Query ι V V
  | [], v => .done v
  | i :: is, _ => .read i fun v => if good v then .done v else scan good is v

/-- One function for each of some values, and all they come to. -/
def collect {κ : Type} (f : κ → Query ι V α) : List κ → Query ι V (List α)
  | [] => .done []
  | k :: ks => do
    let a ← f k
    let as ← collect f ks
    return a :: as

section Run

variable {mem mem' : ι → V}

@[simp] theorem run_pure (a : α) : (pure a : Query ι V α).run mem = a := rfl

@[simp] theorem run_look (i : ι) : (look i : Query ι V V).run mem = mem i := rfl

@[simp] theorem run_bind (x : Query ι V α) (f : α → Query ι V β) :
    (x >>= f).run mem = (f (x.run mem)).run mem := by
  induction x with
  | done a => rfl
  | read i k ih => exact ih (mem i)

/-- A function does not depend on what it has not looked at. -/
theorem run_congr (x : Query ι V α) (h : ∀ i ∈ x.touched mem, mem i = mem' i) :
    x.run mem = x.run mem' := by
  induction x with
  | done a => rfl
  | read i k ih =>
      -- The first place holds the same, and so the functions go on in the same way.
      have hsame : mem i = mem' i := h i List.mem_cons_self
      have hrest := ih (mem i) fun j hj => h j (List.mem_cons_of_mem i hj)
      exact hrest.trans (congrArg (fun v => (k v).run mem') hsame)

theorem run_search_cons (pick : ι → V → Option α) (i : ι) (is : List ι) :
    (search pick (i :: is)).run mem = (match pick i (mem i) with
      | none => search pick is
      | some a => .done (some a)).run mem := rfl

/-- A search finds the first value that is picked. -/
@[simp] theorem run_search (pick : ι → V → Option α) (is : List ι) :
    (search pick is).run mem = is.findSome? fun i => pick i (mem i) := by
  induction is with
  | nil => rfl
  | cons i is ih =>
      rw [run_search_cons, List.findSome?_cons]
      cases pick i (mem i) with
      | none => exact ih
      | some a => rfl

theorem collect_cons {κ : Type} (f : κ → Query ι V α) (k : κ) (ks : List κ) :
    collect f (k :: ks) = do
      let a ← f k
      let as ← collect f ks
      return a :: as := rfl

@[simp] theorem run_collect {κ : Type} (f : κ → Query ι V α) (ks : List κ) :
    (collect f ks).run mem = ks.map fun k => (f k).run mem := by
  induction ks with
  | nil => rfl
  | cons k ks ih => simp only [collect_cons, run_bind, run_pure, ih, List.map_cons]

@[simp] theorem touched_pure (a : α) : (pure a : Query ι V α).touched mem = [] := rfl

@[simp] theorem touched_look (i : ι) : (look i : Query ι V V).touched mem = [i] := rfl

/-- The places one function looks at, then those the other does. -/
@[simp] theorem touched_bind (x : Query ι V α) (f : α → Query ι V β) :
    (x >>= f).touched mem = x.touched mem ++ (f (x.run mem)).touched mem := by
  induction x with
  | done a => rfl
  | read i k ih => exact congrArg (i :: ·) (ih (mem i))

@[simp] theorem touched_collect {κ : Type} (f : κ → Query ι V α) (ks : List κ) :
    (collect f ks).touched mem = ks.flatMap fun k => (f k).touched mem := by
  induction ks with
  | nil => rfl
  | cons k ks ih =>
      simp only [collect_cons, touched_bind, touched_pure, ih, List.append_nil, List.flatMap_cons]

end Run

section Within

variable {P : ι → Prop}

theorem within_pure (a : α) : (pure a : Query ι V α).Within P := trivial

theorem within_look {i : ι} (h : P i) : (look i : Query ι V V).Within P := ⟨h, fun _ => trivial⟩

theorem within_bind {x : Query ι V α} {f : α → Query ι V β} (hx : x.Within P)
    (hf : ∀ a, (f a).Within P) : (x >>= f).Within P := by
  induction x with
  | done a => exact hf a
  | read i k ih => exact ⟨hx.1, fun v => ih v (hx.2 v)⟩

theorem within_ite {c : Prop} [Decidable c] {x y : Query ι V α} (hx : c → x.Within P)
    (hy : ¬ c → y.Within P) : (if c then x else y).Within P := by
  by_cases hc : c
  · rw [if_pos hc]
    exact hx hc
  · rw [if_neg hc]
    exact hy hc

theorem within_search (pick : ι → V → Option α) {is : List ι} (h : ∀ i ∈ is, P i) :
    (search pick is).Within P := by
  induction is with
  | nil => trivial
  | cons i is ih =>
      refine ⟨h i List.mem_cons_self, fun v => ?_⟩
      simp only
      split
      · exact ih fun j hj => h j (List.mem_cons_of_mem i hj)
      · trivial

/-- What comes after a search may look where that depends on what was picked. -/
theorem within_search_bind (pick : ι → V → Option α) {f : Option α → Query ι V β} {is : List ι}
    (h : ∀ i ∈ is, P i) (hnone : (f none).Within P)
    (hsome : ∀ i ∈ is, ∀ v a, pick i v = some a → (f (some a)).Within P) :
    (search pick is >>= f).Within P := by
  induction is with
  | nil => exact hnone
  | cons i is ih =>
      refine ⟨h i List.mem_cons_self, fun v => ?_⟩
      simp only
      split
      · exact ih (fun j hj => h j (List.mem_cons_of_mem i hj))
          fun j hj => hsome j (List.mem_cons_of_mem i hj)
      · rename_i a hpick
        exact hsome i List.mem_cons_self v a hpick

theorem within_scan (good : V → Bool) {is : List ι} (h : ∀ i ∈ is, P i) (v : V) :
    (scan good is v).Within P := by
  induction is generalizing v with
  | nil => trivial
  | cons i is ih =>
      refine ⟨h i List.mem_cons_self, fun v => ?_⟩
      refine within_ite (fun _ => trivial) fun _ => ih (fun j hj => ?_) v
      exact h j (List.mem_cons_of_mem i hj)

/-- Where a function may look is where it looks. -/
theorem Within.touched {x : Query ι V α} (h : x.Within P) (mem : ι → V) :
    ∀ i ∈ x.touched mem, P i := by
  induction x with
  | done a => exact fun i hi => absurd hi List.not_mem_nil
  | read i k ih =>
      intro j hj
      rcases List.mem_cons.mp hj with heq | hmem
      · rw [heq]
        exact h.1
      · exact ih (mem i) (h.2 (mem i)) j hmem

end Within

end Query

end TimelapsePlus
