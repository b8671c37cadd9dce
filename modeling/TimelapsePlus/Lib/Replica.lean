import Mathlib.Data.List.Basic
import Mathlib.Order.Monotone.Basic
import TimelapsePlus.Lib.Run

/-!
# Copies of a Value Kept Elsewhere

A value changes at one end of a line, and at the other end there is a copy. What the
value is gets sent now and then. What is underway may be lost, but it never overtakes
what was sent before, and the copy is only ever made what has just come.

So the copy lags: it is what the value was at some time, and that time never goes back.
The proof puts a time on every value underway. The times stand in order on the line,
none is before the time of the copy, and a loss takes some of them away.

Whether the copy ever gets there is another matter. A watcher looks at the value in
rounds: it may change, it is checked against what the last check noted and sent if it
is another, and then it may change again before it is sent because somebody asks, or
noted because it is to be watched anew. When all changes fall on one side of the check,
what was sent last is what the value is, or nothing was noticed and the value is what the
watcher started from. With changes on both sides neither need hold, since a value may be
sent and taken back between two checks; and a watch set up anew behind a change takes
note of it without a word.

## Main definitions

* `past`, `Lags`: The copy is what the value was.
* `Trails`: The same, for the values underway too.
* `Watcher`, `Watcher.step`: The rounds of a watcher.
* `Watcher.Early`, `Watcher.Late`: All changes come before the check, or after it.
* `Watcher.Told`: What was sent last is what the value is, or nothing was noticed.

## Theorems

* `Trails.wait`, `Trails.take`: What a step may do to the line and the copy.
* `Watcher.early_told`, `Watcher.late_told`: What is sent by a watcher.
* `Run.simulated`: Runs of a system that does what another does.
-/

namespace TimelapsePlus

/-- A run of a system whose every step is one of another, or is nothing to it, is a run
    of the other. -/
theorem Run.simulated {σ τ ℓ m : Type} {step : σ → ℓ → Option σ} {ok : σ → ℓ → Prop}
    {step' : τ → m → Option τ} {ok' : τ → m → Prop} (R : σ → τ → Prop)
    (hstep : ∀ s l t w, R s w → ok s l → step s l = some t →
      R t w ∨ ∃ l' w', ok' w l' ∧ step' w l' = some w' ∧ R t w')
    {s t : σ} {w : τ} (h : Run step ok s t) (hs : R s w) : ∃ w', R t w' ∧ Run step' ok' w w' := by
  induction h with
  | refl => exact ⟨w, hs, .refl⟩
  | tail l _ hok hnext ih =>
      rcases ih with ⟨w', hw', hrun⟩
      rcases hstep _ l _ w' hw' hok hnext with hsame | ⟨l', w'', hok', hnext', hw''⟩
      · exact ⟨w', hsame, hrun⟩
      · exact ⟨w'', hw'', .tail l' hrun hok' hnext'⟩

namespace Replica

section Order

variable {V : Type}

/-- What the value was, with what the copy starts from put before it. -/
def past (first : V) (source : Nat → V) : Nat → V
  | 0 => first
  | i + 1 => source i

/-- Up to a step the copy is what the value was, at a time that never goes back. -/
def Lags (source copy : Nat → V) (n : Nat) : Prop :=
  ∃ time : Nat → Nat, Monotone time ∧
    ∀ i ≤ n, time i ≤ i + 1 ∧ copy i = past (copy 0) source (time i)

/-- So are the values underway, and their times are in order. -/
structure TrailsAt (source copy : Nat → V) (link : List V) (n : Nat) (time : Nat → Nat)
    (stamps : List Nat) : Prop where
  monotone : Monotone time
  lags : ∀ i ≤ n, time i ≤ i + 1 ∧ copy i = past (copy 0) source (time i)
  /-- The time of the copy is not yet known to go on. -/
  stays : ∀ i, n ≤ i → time i = time n
  stamped : link = stamps.map (past (copy 0) source)
  ordered : (time n :: stamps).Pairwise (· ≤ ·)
  begun : ∀ t ∈ stamps, t ≤ n + 1

/-- There are such times. -/
def Trails (source copy : Nat → V) (link : List V) (n : Nat) : Prop :=
  ∃ time stamps, TrailsAt source copy link n time stamps

variable {source copy : Nat → V} {link link' : List V} {n : Nat}

theorem Trails.lags (h : Trails source copy link n) : Lags source copy n := by
  rcases h with ⟨time, stamps, h⟩
  exact ⟨time, h.monotone, h.lags⟩

/-- Before anything is sent the copy is what it starts from. -/
theorem trails_start (source copy : Nat → V) : Trails source copy [] 0 := by
  refine ⟨fun _ => 0, [], monotone_const, ?_, fun _ _ => rfl, rfl, List.pairwise_singleton _ _,
    fun _ ht => absurd ht List.not_mem_nil⟩
  intro i hi
  rw [Nat.le_zero.mp hi]
  exact ⟨Nat.zero_le 1, rfl⟩

/-- A step that leaves the copy alone may lose something of what is underway, and send
    what the value is. -/
theorem Trails.wait (h : Trails source copy link n) (hcopy : copy (n + 1) = copy n)
    {new : List V} (hlink : link'.Sublist (link ++ new))
    (hnew : ∀ v ∈ new, v = source (n + 1)) : Trails source copy link' (n + 1) := by
  rcases h with ⟨time, stamps, h⟩
  -- What is sent gets the time of the step.
  have hsent : new = (List.replicate new.length (n + 2)).map (past (copy 0) source) := by
    rw [List.map_replicate]
    exact List.eq_replicate_iff.mpr ⟨rfl, hnew⟩
  rw [h.stamped, hsent, ← List.map_append] at hlink
  rcases List.sublist_map_iff.mp hlink with ⟨stamps', hsub, hstamps⟩
  have hmem : ∀ t ∈ stamps', t ∈ stamps ∨ t = n + 2 := fun t ht =>
    (List.mem_append.mp (hsub.subset ht)).imp_right List.eq_of_mem_replicate
  have hlast := h.stays (n + 1) (Nat.le_succ n)
  have htime := (h.lags n (Nat.le_refl n)).1
  refine ⟨time, stamps', h.monotone, ?_, ?_, hstamps, ?_, ?_⟩
  · intro i hi
    by_cases hn : i ≤ n
    · exact h.lags i hn
    · have heq : i = n + 1 := by omega
      rw [heq, hlast, hcopy]
      exact ⟨by omega, (h.lags n (Nat.le_refl n)).2⟩
  · intro i hi
    rw [hlast]
    exact h.stays i (by omega)
  · rw [hlast]
    rcases List.pairwise_cons.mp h.ordered with ⟨hfirst, hrest⟩
    refine List.pairwise_cons.mpr ⟨fun t ht => ?_, List.Pairwise.sublist hsub ?_⟩
    · rcases hmem t ht with hold | hnew
      · exact hfirst t hold
      · omega
    · refine List.pairwise_append.mpr ⟨hrest, ?_, fun t ht u hu => ?_⟩
      · exact List.pairwise_replicate.mpr (Or.inr (Nat.le_refl _))
      · rw [List.eq_of_mem_replicate hu]
        exact Nat.le_succ_of_le (h.begun t ht)
  · intro t ht
    rcases hmem t ht with hold | hnew
    · exact Nat.le_succ_of_le (h.begun t hold)
    · omega

/-- The copy may be made what comes first. -/
theorem Trails.take {v : V} (h : Trails source copy (v :: link) n) (hcopy : copy (n + 1) = v) :
    Trails source copy link (n + 1) := by
  rcases h with ⟨time, stamps, h⟩
  cases stamps with
  | nil => exact absurd h.stamped (List.cons_ne_nil _ _)
  | cons t stamps =>
      have hstamped := h.stamped
      rw [List.map_cons, List.cons.injEq] at hstamped
      rcases List.pairwise_cons.mp h.ordered with ⟨hfirst, hrest⟩
      have hle := hfirst t List.mem_cons_self
      -- From this step on the time of the copy is that of the value that came.
      refine ⟨fun i => if i ≤ n then time i else t, stamps, ?_, ?_, ?_, hstamped.2, ?_, ?_⟩
      · intro i j hij
        simp only
        split
        · split
          · exact h.monotone hij
          · exact Nat.le_trans (h.monotone (by omega)) hle
        · rw [if_neg (by omega)]
      · intro i hi
        split
        · next hn => exact h.lags i hn
        · next hn =>
            have heq : i = n + 1 := by omega
            rw [heq, hcopy]
            exact ⟨Nat.le_succ_of_le (h.begun t List.mem_cons_self), hstamped.1⟩
      · intro i hi
        rw [if_neg (by omega), if_neg (by omega)]
      · rw [if_neg (by omega)]
        exact hrest
      · intro u hu
        exact Nat.le_succ_of_le (h.begun u (List.mem_cons_of_mem t hu))

end Order

/-! ### What is sent last -/

/-- What a copy comes to be when all that is underway has come. -/
def newest {V : Type} (copy : V) (link : List V) : V := link.getLast?.getD copy

section Newest

variable {V : Type} {copy v : V} {link new : List V}

theorem newest_nil (copy : V) : newest copy [] = copy := rfl

/-- A value that comes was underway. -/
theorem newest_cons (copy v : V) (link : List V) : newest copy (v :: link) = newest v link := by
  unfold newest
  rw [List.getLast?_cons]
  rfl

theorem newest_append_nil (copy : V) (link : List V) (hnew : new = []) :
    newest copy (link ++ new) = newest copy link := by
  rw [hnew, List.append_nil]

/-- What is sent comes last. -/
theorem newest_append (copy : V) (link : List V) (hne : new ≠ []) (hnew : ∀ w ∈ new, w = v) :
    newest copy (link ++ new) = v := by
  unfold newest
  rw [List.getLast?_append_of_ne_nil link hne, List.getLast?_eq_some_getLast hne, Option.getD_some]
  exact hnew _ (List.getLast_mem hne)

end Newest

/-! ### Watching -/

/-- Where in its round a watcher is. -/
inductive Phase
  | toChange
  | toCheck
  | toAnswer
deriving Repr, DecidableEq

/-- A value, what the last check of it noted, and what was sent last. -/
structure Watcher (V W : Type) where
  phase : Phase
  source : V
  noted : V
  newest : W

/-- What is done in a round. -/
inductive Move (V : Type)
  | change (v : V)
  | check
  | answer (v : V) (asked renewed : Bool)

namespace Watcher

variable {V W : Type} [DecidableEq V] (shown : V → W)

/-- A check sends the value if it is not what was noted, and notes it. An answer sends it
    if it is asked for, and notes it if it is watched anew. -/
def step (w : Watcher V W) : Move V → Option (Watcher V W)
  | .change v =>
    if w.phase = .toChange then some { w with phase := .toCheck, source := v } else none
  | .check =>
    if w.phase = .toCheck then
      some { w with
        phase := .toAnswer
        noted := w.source
        newest := if w.source = w.noted then w.newest else shown w.source }
    else none
  | .answer v asked renewed =>
    if w.phase = .toAnswer then
      some { w with
        phase := .toChange
        source := v
        noted := if renewed then v else w.noted
        newest := if asked then shown v else w.newest }
    else none

omit [DecidableEq V] in
/-- The value does not change behind a check. -/
def Early (w : Watcher V W) (m : Move V) : Prop :=
  ∀ v asked renewed, m = .answer v asked renewed → v = w.source

omit [DecidableEq V] in
/-- It does not change ahead of one, and it is not watched anew. -/
def Late (w : Watcher V W) (m : Move V) : Prop :=
  (∀ v, m = .change v → v = w.source) ∧ ∀ v asked, m ≠ .answer v asked true

omit [DecidableEq V] in
/-- Behind a check what was sent last is what the value is. Otherwise nothing was noticed,
    and both are what they were. -/
def Told (w₀ w : Watcher V W) : Prop :=
  w.phase = .toAnswer →
    w.newest = shown w.source ∨ w.newest = w₀.newest ∧ w.source = w₀.noted

omit [DecidableEq V] in
/-- What was sent last was noted, or nothing was noticed. -/
def Notes (w₀ w : Watcher V W) : Prop :=
  w.newest = shown w.noted ∨ w.noted = w₀.noted ∧ w.newest = w₀.newest

variable {shown} {w₀ w w' : Watcher V W}

/-- A step, by what is done. -/
theorem step_cases {m : Move V} (h : step shown w m = some w') :
    (∃ v, m = .change v ∧ w.phase = .toChange ∧ w' = { w with phase := .toCheck, source := v }) ∨
    (m = .check ∧ w.phase = .toCheck ∧ w' = { w with
      phase := .toAnswer, noted := w.source
      newest := if w.source = w.noted then w.newest else shown w.source }) ∨
    (∃ v asked renewed, m = .answer v asked renewed ∧ w.phase = .toAnswer ∧ w' = { w with
      phase := .toChange, source := v, noted := if renewed then v else w.noted
      newest := if asked then shown v else w.newest }) := by
  cases m with
  | change v =>
      rw [step, Option.ite_none_right_eq_some] at h
      exact Or.inl ⟨v, rfl, h.1, (Option.some.inj h.2).symm⟩
  | check =>
      rw [step, Option.ite_none_right_eq_some] at h
      exact Or.inr (Or.inl ⟨rfl, h.1, (Option.some.inj h.2).symm⟩)
  | answer v asked renewed =>
      rw [step, Option.ite_none_right_eq_some] at h
      exact Or.inr (Or.inr ⟨v, asked, renewed, rfl, h.1, (Option.some.inj h.2).symm⟩)

/-- What a check makes of the notes. -/
theorem Notes.checked (h : Notes shown w₀ w) : Notes shown w₀ { w with
    phase := .toAnswer, noted := w.source
    newest := if w.source = w.noted then w.newest else shown w.source } := by
  by_cases hsame : w.source = w.noted
  · unfold Notes
    simp only [hsame, if_true]
    exact h
  · unfold Notes
    simp only [hsame, if_false]
    exact Or.inl trivial

/-- With all changes before the checks, behind one the notes are kept, and they are of
    what the value is. -/
def EarlyInv (shown : V → W) (w₀ w : Watcher V W) : Prop :=
  Notes shown w₀ w ∧ (w.phase ≠ .toCheck → w.source = w.noted)

/-- When no change comes behind a check, what was sent last is what the value is, or
    nothing was noticed. -/
theorem early_told (hnoted : w₀.source = w₀.noted)
    (h : Run (step shown) Early w₀ w) : Told shown w₀ w := by
  have hinv : EarlyInv shown w₀ w := by
    refine h.invariant (EarlyInv shown w₀) ?_ ⟨Or.inr ⟨rfl, rfl⟩, fun _ => hnoted⟩
    intro w m w' hw hearly hstep
    rcases step_cases hstep with ⟨v, rfl, hp, rfl⟩ | ⟨rfl, hp, rfl⟩ |
      ⟨v, asked, renewed, rfl, hp, rfl⟩
    · exact ⟨hw.1, fun hno => absurd rfl hno⟩
    · exact ⟨hw.1.checked, fun _ => rfl⟩
    · -- An answer sends what the check has just noted, and a new watch notes it again.
      have hsame : v = w.source := hearly v asked renewed rfl
      have hnow := hw.2 (by rw [hp]; exact Phase.noConfusion)
      have hnoted : (if renewed then v else w.noted) = w.noted := by
        cases renewed with
        | true => exact hsame.trans hnow
        | false => rfl
      refine ⟨?_, fun _ => hsame.trans (hnow.trans hnoted.symm)⟩
      unfold Notes
      simp only [hnoted]
      cases asked with
      | true => exact Or.inl (congrArg shown (hsame.trans hnow))
      | false => exact hw.1
  intro hanswer
  have hnow := hinv.2 (by rw [hanswer]; exact Phase.noConfusion)
  rcases hinv.1 with hsent | hquiet
  · exact Or.inl (by rw [hsent, hnow])
  · exact Or.inr ⟨hquiet.2, hnow.trans hquiet.1⟩

/-- With all changes behind the checks, what an answer sent stays what the value is up to
    the check. -/
def LateInv (shown : V → W) (w₀ w : Watcher V W) : Prop :=
  (Notes shown w₀ w ∨ w.newest = shown w.source ∧ w.phase ≠ .toAnswer) ∧
    (w.phase = .toAnswer → w.source = w.noted)

/-- When none comes ahead of a check, it is the same. -/
theorem late_told (hphase : w₀.phase = .toChange) (h : Run (step shown) Late w₀ w) :
    Told shown w₀ w := by
  have hinv : LateInv shown w₀ w := by
    refine h.invariant (LateInv shown w₀) ?_ ⟨Or.inl (Or.inr ⟨rfl, rfl⟩), fun hno => ?_⟩
    · intro w m w' hw hlate hstep
      rcases step_cases hstep with ⟨v, rfl, hp, rfl⟩ | ⟨rfl, hp, rfl⟩ |
        ⟨v, asked, renewed, rfl, hp, rfl⟩
      · refine ⟨hw.1.imp_right fun hsent => ⟨?_, Phase.noConfusion⟩, Phase.noConfusion⟩
        rw [hlate.1 v rfl]
        exact hsent.1
      · refine ⟨Or.inl ?_, fun _ => rfl⟩
        rcases hw.1 with hnotes | hsent
        · exact hnotes.checked
        · -- What the answer sent is noted now.
          refine Or.inl ?_
          by_cases hsame : w.source = w.noted
          · simp only [hsame, if_true]
            rw [← hsame]
            exact hsent.1
          · simp only [hsame, if_false]
      · refine ⟨?_, Phase.noConfusion⟩
        cases renewed with
        | true => exact absurd rfl (hlate.2 v asked)
        | false =>
            cases asked with
            | true => exact Or.inr ⟨rfl, Phase.noConfusion⟩
            | false => exact Or.inl (hw.1.resolve_right fun hsent => hsent.2 hp)
    · rw [hphase] at hno
      exact Phase.noConfusion hno
  intro hanswer
  have hnow := hinv.2 hanswer
  rcases hinv.1.resolve_right fun hsent => hsent.2 hanswer with hsent | hquiet
  · exact Or.inl (by rw [hsent, hnow])
  · exact Or.inr ⟨hquiet.2, hnow.trans hquiet.1⟩

end Watcher

end Replica

end TimelapsePlus
