import TimelapsePlus.Menu.MainLoop

/-!
# A Run and the Ramp's Method

A run changes the ramp's method on its way, by itself at the night's target or as the
menu says, and `RUN_END` writes back the method it started with. That method is saved
in the precheck, once, in a call of `task` that finds no alert waiting. `RUN_END` writes
it back however the run has come there. A run stopped at its alerts has saved nothing,
and neither has one whose precheck the ramp's monitor has taken for done. What is
written back is then the method of an earlier run, or of none.

## Main definitions

* `Intervalometer.Unsaved`: The method of a run is still to be saved.
* `Intervalometer.Going`, `Intervalometer.Closed`: What every block of `task` after the
  precheck keeps, and what it may return with.
* `Intervalometer.Saved`: What is saved of the method, or is still to be.
* `Held`: The main loop's state, and the method the run was begun with.
* `Held.step`: One step.
* `Held.Orderly`: The method of a run is saved before it may be needed.

## Theorems

* `chain_kept`: What every block keeps, a call returns with.
* `task_saved`, `goOn_saved`: A call of `task` keeps what is saved.
* `step_saved`: An orderly step keeps it.
* `run_method`: In an orderly run `RUN_END` leaves the method the run was begun with.
* `method_stale`: A run stopped at its alerts.
-/

namespace TimelapsePlus

namespace Shutter

namespace Intervalometer

/-- The method of a run is still to be saved. -/
def Unsaved (s : Intervalometer) : Prop :=
  s.running = true ∧ (s.enter = false ∨ s.preChecked = 1)

instance (s : Intervalometer) : Decidable s.Unsaved :=
  inferInstanceAs (Decidable (_ ∧ (_ ∨ _)))

/-- The run is past where its method is saved. -/
structure Kept (method : BrampMethod) (s : Intervalometer) : Prop where
  entered : s.enter = true
  past : ¬ s.Unsaved
  saved : s.switchBack = method

/-- The run has ended, with the method written back. -/
structure Restored (method : BrampMethod) (s : Intervalometer) : Prop where
  left : s.enter = false
  still : s.running = false
  unchecked : s.preChecked = 0
  restored : s.program.brampMethod = method

/-- The run goes on past its precheck in the call of `task` at hand. -/
def Going (method : BrampMethod) (s : Intervalometer) : Prop := s.Kept method ∧ s.place = none

/-- A call of `task` returns with the run past its precheck, or ended. -/
def Closed (method : BrampMethod) (s : Intervalometer) : Prop :=
  s.Kept method ∨ s.Restored method ∧ s.place = none

section Blocks

/-! After the precheck only `RUN_END` touches what is saved. -/

variable {method : BrampMethod} {s : Intervalometer} (f : Found)

theorem Unsaved.congr {t : Intervalometer} (h : t.Unsaved) (hrun : t.running = s.running)
    (henter : t.enter = s.enter) (hpre : t.preChecked = s.preChecked) : s.Unsaved := by
  unfold Unsaved at h ⊢
  rw [hrun, henter, hpre] at h
  exact h

theorem Kept.congr {t : Intervalometer} (h : s.Kept method) (hrun : t.running = s.running)
    (henter : t.enter = s.enter) (hpre : t.preChecked = s.preChecked)
    (hsaved : t.switchBack = s.switchBack) : t.Kept method := by
  refine ⟨?_, fun hunsaved => h.past (hunsaved.congr hrun henter hpre), ?_⟩
  · rw [henter]
    exact h.entered
  · rw [hsaved]
    exact h.saved

/-- A call that waits has not ended the run. -/
theorem rest_kept (p : Place) (ms : Nat) (h : s.Kept method) :
    (s.rest p ms).Ends (Going method) (Closed method) :=
  Or.inl (h.congr rfl rfl rfl rfl)

theorem resume_kept (h : s.Going method) : s.resume.Ends (Going method) (Closed method) := by
  unfold resume
  split_ifs <;> exact ⟨h.1.congr rfl rfl rfl rfl, h.2⟩

theorem whilePaused_kept (h : s.Going method) :
    (s.whilePaused f).Ends (Going method) (Closed method) := by
  unfold whilePaused
  split_ifs
  · exact Or.inl h.1
  · exact ⟨h.1.congr rfl rfl rfl rfl, h.2⟩
  · exact h

theorem startPause_kept (h : s.Going method) :
    s.startPause.Ends (Going method) (Closed method) := by
  unfold startPause
  split_ifs
  · exact ⟨h.1.congr rfl rfl rfl rfl, h.2⟩
  · exact h

theorem cancel_kept (h : s.Going method) : s.cancel.Ends (Going method) (Closed method) := by
  unfold cancel
  split_ifs
  · exact h
  · exact ⟨h.1.congr rfl rfl rfl rfl, h.2⟩

theorem delay_kept (h : s.Going method) : s.delay.Ends (Going method) (Closed method) := by
  unfold delay
  by_cases hdelay : s.runState = .delay
  · rw [if_pos hdelay]
    simp only
    split_ifs
    · exact ⟨h.1.congr rfl rfl rfl rfl, h.2⟩
    · exact rest_kept _ _ (h.1.congr rfl rfl rfl rfl)
    · exact ⟨h.1.congr rfl rfl rfl rfl, h.2⟩
    · exact ⟨h.1.congr rfl rfl rfl rfl, h.2⟩
  · rw [if_neg hdelay]
    exact h

theorem delayAwake_kept (h : s.Going method) :
    s.delayAwake.Ends (Going method) (Closed method) :=
  ⟨h.1.congr rfl rfl rfl rfl, h.2⟩

theorem captured_kept (c : Shot) (h : s.Going method) :
    (s.captured c).Ends (Going method) (Closed method) := by
  cases c with
  | photo =>
      exact Flow.ends_ite (fun _ => ⟨h.1.congr rfl rfl rfl rfl, h.2⟩)
        (fun _ => ⟨h.1.congr rfl rfl rfl rfl, h.2⟩)
  | manual => exact rest_kept _ _ h.1
  | basic => exact h

theorem captureEnd_kept (c : Shot) (h : s.Going method) :
    (s.captureEnd c).Ends (Going method) (Closed method) := by
  unfold captureEnd
  split_ifs
  · exact rest_kept _ _ (h.1.congr rfl rfl rfl rfl)
  · exact captured_kept c h

theorem captureCore_kept (c : Shot) (h : s.Going method) :
    (s.captureCore c f).Ends (Going method) (Closed method) := by
  have hgoing : ({ s with
      world := (s.world.capture f.io).1
      refused := (s.world.capture f.io).1.lastShutterError } : Intervalometer).Going method :=
    ⟨h.1.congr rfl rfl rfl rfl, h.2⟩
  simp only [captureCore]
  by_cases hcode : (s.world.capture f.io).2 = true
  · rw [if_pos hcode]
    exact rest_kept _ _ hgoing.1
  · rw [if_neg hcode]
    exact captureEnd_kept c hgoing

theorem capture_kept (c : Shot) (h : s.Going method) :
    (s.capture c f).Ends (Going method) (Closed method) := by
  unfold capture
  split_ifs
  · exact rest_kept _ _ (h.1.congr rfl rfl rfl rfl)
  · exact captureCore_kept f c h

theorem captureHalf_kept (c : Shot) (h : s.Going method) :
    (s.captureHalf c).Ends (Going method) (Closed method) :=
  rest_kept _ _ (h.1.congr rfl rfl rfl rfl)

theorem photo_kept (h : s.Going method) : (s.photo f).Ends (Going method) (Closed method) := by
  unfold photo
  refine Flow.ends_ite (fun _ => Flow.ends_ite (fun _ => ?_) fun _ => ?_) fun _ => h
  · exact ⟨h.1.congr rfl rfl rfl rfl, h.2⟩
  · exact capture_kept f .photo ⟨h.1.congr rfl rfl rfl rfl, h.2⟩

theorem bulbStart_kept (h : s.Going method) :
    s.bulbStart.Ends (Going method) (Closed method) :=
  rest_kept _ _ (h.1.congr rfl rfl rfl rfl)

theorem prepareHalf_kept (h : s.Going method) :
    s.prepareHalf.Ends (Going method) (Closed method) :=
  rest_kept _ _ (h.1.congr rfl rfl rfl rfl)

theorem bulbPrepare_kept (h : s.Going method) :
    s.bulbPrepare.Ends (Going method) (Closed method) := by
  unfold bulbPrepare
  simp only
  split_ifs
  · exact rest_kept _ _ (h.1.congr rfl rfl rfl rfl)
  · exact bulbStart_kept ⟨h.1.congr rfl rfl rfl rfl, h.2⟩

theorem expose_kept (h : s.Going method) : (s.expose f).Ends (Going method) (Closed method) := by
  unfold expose
  split_ifs
  · exact capture_kept f .manual h
  · exact bulbPrepare_kept h
  · exact capture_kept f .basic h

/-- The method may change on its way, and what is saved of it does not. -/
theorem expSetup_going (h : s.Going method) : (s.expSetup f).Going method := by
  unfold expSetup
  by_cases hramp : s.program.ramp = true
  · rw [if_pos hramp]
    exact ⟨h.1.congr rfl rfl rfl rfl, h.2⟩
  · rw [if_neg hramp]
    split_ifs <;> exact ⟨h.1.congr rfl rfl rfl rfl, h.2⟩

theorem bulbOver_kept (h : s.Going method) :
    s.bulbOver.Ends (Going method) (Closed method) := by
  unfold bulbOver
  simp only
  split_ifs <;> exact rest_kept _ _ (h.1.congr rfl rfl rfl rfl)

theorem bulb_kept (h : s.Going method) : (s.bulb f).Ends (Going method) (Closed method) := by
  unfold bulb
  by_cases hbulb : s.runState = .bulb
  · rw [if_pos hbulb]
    by_cases hold : s.oldState ≠ some .bulb
    · rw [if_pos hold]
      have hgoing : (expSetup f
          { s with oldState := some .bulb, bulbLength := f.bulbLength }).Going method :=
        expSetup_going f ⟨h.1.congr rfl rfl rfl rfl, h.2⟩
      simp only
      split_ifs
      · exact Or.inl (hgoing.1.congr rfl rfl rfl rfl)
      · exact expose_kept f hgoing
    · rw [if_neg hold]
      split_ifs
      · exact h
      · exact bulbOver_kept h
  · rw [if_neg hbulb]
    exact h

theorem bulbStarted_kept (h : s.Going method) :
    (s.bulbStarted f).Ends (Going method) (Closed method) := by
  unfold bulbStarted
  by_cases herror : s.world.lastShutterError = true
  · rw [if_pos herror]
    simp only
    split_ifs <;> exact Or.inl (h.1.congr rfl rfl rfl rfl)
  · rw [if_neg herror]
    exact ⟨h.1.congr rfl rfl rfl rfl, h.2⟩

theorem bulbSettled_kept (h : s.Going method) :
    s.bulbSettled.Ends (Going method) (Closed method) := by
  unfold bulbSettled
  simp only
  split_ifs <;> exact Or.inl (h.1.congr rfl rfl rfl rfl)

theorem conclude_going (h : s.Going method) : s.conclude.Going method := by
  unfold conclude
  split_ifs <;> exact ⟨h.1.congr rfl rfl rfl rfl, h.2⟩

theorem proceed_going (h : s.Going method) : s.proceed.Going method := by
  unfold proceed
  split_ifs <;> exact ⟨h.1.congr rfl rfl rfl rfl, h.2⟩

theorem next_kept (h : s.Going method) : (s.next f).Ends (Going method) (Closed method) := by
  unfold next
  by_cases hnext : s.runState = .next
  · rw [if_pos hnext]
    have hgoing : (if s.oldState = some .next then s
        else { s with
          oldState := some .next
          lastPhotoEndMs := s.world.clock.totalMs } : Intervalometer).Going method := by
      split_ifs
      · exact h
      · exact ⟨h.1.congr rfl rfl rfl rfl, h.2⟩
    simp only
    split_ifs at hgoing ⊢
    all_goals first
      | exact Or.inl (hgoing.1.congr rfl rfl rfl rfl)
      | exact ⟨(conclude_going (proceed_going hgoing)).1.congr rfl rfl rfl rfl,
          (conclude_going (proceed_going hgoing)).2⟩
  · rw [if_neg hnext]
    exact h

theorem gapWait_going (h : s.Going method) : s.gapWait.Going method := by
  unfold gapWait
  split_ifs <;> exact ⟨h.1.congr rfl rfl rfl rfl, h.2⟩

theorem gapSettled_kept (h : s.Going method) :
    (s.gapSettled f).Ends (Going method) (Closed method) := by
  unfold gapSettled
  split_ifs
  · exact h
  · exact ⟨(gapWait_going h).1.congr rfl rfl rfl rfl, (gapWait_going h).2⟩
  · exact gapWait_going h
  · exact h

theorem gap_kept (h : s.Going method) : (s.gap f).Ends (Going method) (Closed method) := by
  unfold gap
  by_cases hgap : s.runState = .gap
  · rw [if_pos hgap]
    by_cases hold : s.oldState = some .gap
    · rw [if_pos hold]
      cases f.focus with
      | settled => exact h
      | waits => exact Or.inl h.1
      | moves => exact rest_kept _ _ h.1
    · rw [if_neg hold]
      cases f.focus with
      | settled => exact ⟨h.1.congr rfl rfl rfl rfl, h.2⟩
      | waits => exact Or.inl (h.1.congr rfl rfl rfl rfl)
      | moves => exact rest_kept _ _ (h.1.congr rfl rfl rfl rfl)
  · rw [if_neg hgap]
    exact h

theorem externalTrigger_kept (h : s.Going method) :
    (s.externalTrigger f).Ends (Going method) (Closed method) := by
  unfold externalTrigger
  split_ifs <;> exact ⟨h.1.congr rfl rfl rfl rfl, h.2⟩

theorem externalTriggerRelease_kept (h : s.Going method) :
    (s.externalTriggerRelease f).Ends (Going method) (Closed method) := by
  unfold externalTriggerRelease
  split
  · split
    · split_ifs <;> exact ⟨h.1.congr rfl rfl rfl rfl, h.2⟩
    · exact ⟨h.1.congr rfl rfl rfl rfl, h.2⟩
  · exact h

theorem errorCounted_kept (h : s.Going method) :
    s.errorCounted.Ends (Going method) (Closed method) := by
  unfold errorCounted
  split_ifs <;> exact Or.inl (h.1.congr rfl rfl rfl rfl)

theorem error_kept (h : s.Going method) : (s.error f).Ends (Going method) (Closed method) := by
  unfold error
  split_ifs
  · exact rest_kept _ _ (h.1.congr rfl rfl rfl rfl)
  · exact errorCounted_kept h
  · exact h

theorem errorReset_kept (h : s.Going method) :
    s.errorReset.Ends (Going method) (Closed method) :=
  rest_kept _ _ (h.1.congr rfl rfl rfl rfl)

theorem errorEnable_kept (h : s.Going method) :
    s.errorEnable.Ends (Going method) (Closed method) :=
  rest_kept _ _ (h.1.congr rfl rfl rfl rfl)

theorem reconnect_kept (h : s.Going method) :
    (s.reconnect f).Ends (Going method) (Closed method) :=
  ⟨h.1.congr rfl rfl rfl rfl, h.2⟩

/-- `RUN_END` writes back what is saved. -/
theorem finish_kept (h : s.Going method) : (s.finish f).Ends (Going method) (Closed method) := by
  unfold finish
  split_ifs
  · exact Or.inr ⟨⟨rfl, rfl, rfl, h.1.saved⟩, h.2⟩
  · exact h

/-- A run whose precheck is over starts with what is saved. -/
theorem launch_kept (h : s.Going method) : s.launch.Ends (Going method) (Closed method) := by
  unfold launch
  split_ifs
  · exact Or.inl h.1
  · refine ⟨⟨h.1.entered, fun hunsaved => ?_, h.1.saved⟩, h.2⟩
    rcases hunsaved.2 with hleft | hone
    · exact absurd (hleft.symm.trans h.1.entered) Bool.false_ne_true
    · exact Nat.zero_ne_one hone
  · exact h

end Blocks

section Chains

/-! What every block keeps, a call of `task` returns with. -/

variable {method : BrampMethod} (f : Found)

/-- A block keeps what is saved. -/
def Keeps (method : BrampMethod) (g : Intervalometer → Flow Intervalometer) : Prop :=
  ∀ s, s.Going method → (g s).Ends (Going method) (Closed method)

theorem chain_kept {gs : List (Intervalometer → Flow Intervalometer)}
    (hkeep : ∀ g ∈ gs, Keeps method g) {s : Intervalometer} (h : s.Going method) :
    Closed method (chain gs s) := by
  have hchain : Closed method (chain (gs ++ []) s) :=
    chain_append (Going method) (Closed method) hkeep (fun t ht => by exact Or.inl ht.1) h
  rw [List.append_nil] at hchain
  exact hchain

theorem fromNext_kept : ∀ g ∈ fromNext f, Keeps method g := by
  intro g hg
  simp only [fromNext, List.mem_cons, List.not_mem_nil, or_false] at hg
  rcases hg with rfl | rfl | rfl | rfl | rfl | rfl | rfl
  · exact fun s => next_kept f
  · exact fun s => gap_kept f
  · exact fun s => gapSettled_kept f
  · exact fun s => externalTrigger_kept f
  · exact fun s => externalTriggerRelease_kept f
  · exact fun s => error_kept f
  · exact fun s => finish_kept f

theorem bulb_fromNext_kept : ∀ g ∈ bulb f :: fromNext f, Keeps method g :=
  List.forall_mem_cons.mpr ⟨fun _ => bulb_kept f, fromNext_kept f⟩

theorem fromPhoto_kept : ∀ g ∈ fromPhoto f, Keeps method g :=
  List.forall_mem_cons.mpr ⟨fun _ => photo_kept f, bulb_fromNext_kept f⟩

theorem fromResume_kept : ∀ g ∈ fromResume f, Keeps method g := by
  intro g hg
  rw [fromResume, List.mem_append] at hg
  rcases hg with hg | hg
  · simp only [List.mem_cons, List.not_mem_nil, or_false] at hg
    rcases hg with rfl | rfl | rfl | rfl | rfl
    · exact fun s => resume_kept
    · exact fun s => whilePaused_kept f
    · exact fun s => startPause_kept
    · exact fun s => cancel_kept
    · exact fun s => delay_kept
  · exact fromPhoto_kept f g hg

theorem afterShot_kept (c : Shot) : ∀ g ∈ afterShot f c, Keeps method g := by
  cases c with
  | photo => exact bulb_fromNext_kept f
  | manual => exact fromNext_kept f
  | basic => exact fromNext_kept f

/-- Wherever a call has waited, it goes on with blocks that keep what is saved. -/
theorem after_kept (p : Place) : ∀ g ∈ after f p, Keeps method g := by
  cases p with
  | loading => exact List.forall_mem_cons.mpr ⟨fun _ => launch_kept, fromResume_kept f⟩
  | waking => exact List.forall_mem_cons.mpr ⟨fun _ => delayAwake_kept, fromPhoto_kept f⟩
  | captureOff c => exact List.forall_mem_singleton.mpr fun _ => captureHalf_kept c
  | captureHalf c =>
      exact List.forall_mem_cons.mpr ⟨fun _ => captureCore_kept f c, afterShot_kept f c⟩
  | shutterNow c =>
      exact List.forall_mem_cons.mpr ⟨fun _ => captureEnd_kept c, afterShot_kept f c⟩
  | captureFinish c =>
      exact List.forall_mem_cons.mpr ⟨fun _ => reconnect_kept f,
        List.forall_mem_cons.mpr ⟨fun _ => captured_kept c, afterShot_kept f c⟩⟩
  | manual => exact List.forall_mem_cons.mpr ⟨fun _ => bulbStarted_kept f, fromNext_kept f⟩
  | prepareOff => exact List.forall_mem_singleton.mpr fun _ => prepareHalf_kept
  | prepareHalf => exact List.forall_mem_singleton.mpr fun _ => bulbStart_kept
  | starting => exact List.forall_mem_cons.mpr ⟨fun _ => bulbStarted_kept f, fromNext_kept f⟩
  | finishing =>
      exact List.forall_mem_cons.mpr ⟨fun _ => reconnect_kept f,
        List.forall_mem_singleton.mpr fun _ h => rest_kept _ _ h.1⟩
  | settling => exact List.forall_mem_singleton.mpr fun _ => bulbSettled_kept
  | focusing =>
      refine List.forall_mem_cons.mpr ⟨fun _ => gapSettled_kept f, fun g hg => ?_⟩
      -- What is left is the end of the blocks from `RUN_NEXT` on.
      exact fromNext_kept f g (List.mem_cons_of_mem _ (List.mem_cons_of_mem _
        (List.mem_cons_of_mem _ hg)))
  | nudging => exact List.forall_mem_singleton.mpr fun _ => errorReset_kept
  | disabling => exact List.forall_mem_singleton.mpr fun _ => errorEnable_kept
  | enabling =>
      exact List.forall_mem_cons.mpr ⟨fun _ => reconnect_kept f,
        List.forall_mem_singleton.mpr fun _ => errorCounted_kept⟩

end Chains

/-- What is saved of the method, or is still to be. -/
structure Saved (method : BrampMethod) (s : Intervalometer) : Prop where
  fresh : s.enter = false → s.preChecked = 0
  unsaved : s.Unsaved → s.program.brampMethod = method
  saved : s.enter = true → ¬ s.Unsaved → s.switchBack = method
  held : s.place ≠ none → s.enter = true ∧ ¬ s.Unsaved

theorem Closed.isSaved {method : BrampMethod} {s : Intervalometer} (h : s.Closed method) :
    s.Saved method := by
  rcases h with hkept | ⟨hrestored, hplace⟩
  · refine ⟨fun hleft => ?_, fun hunsaved => absurd hunsaved hkept.past, fun _ _ => hkept.saved,
      fun _ => ⟨hkept.entered, hkept.past⟩⟩
    exact absurd (hleft.symm.trans hkept.entered) Bool.false_ne_true
  · refine ⟨fun _ => hrestored.unchecked, fun hunsaved => ?_, fun henter => ?_,
      fun hsome => absurd hplace hsome⟩
    · exact absurd (hrestored.still.symm.trans hunsaved.1) Bool.false_ne_true
    · exact absurd (hrestored.left.symm.trans henter) Bool.false_ne_true

theorem Closed.isRestored {method : BrampMethod} {s : Intervalometer} (h : s.Closed method)
    (hleft : s.enter = false) : s.program.brampMethod = method := by
  rcases h with hkept | ⟨hrestored, -⟩
  · exact absurd (hleft.symm.trans hkept.entered) Bool.false_ne_true
  · exact hrestored.restored

/-- The precheck finds the method saved, or is the first to look at it. -/
theorem prepare_saved {method : BrampMethod} {s : Intervalometer} (h : s.Saved method)
    (hstart : s.toStart = true) (hplace : s.place = none) : s.prepare.Saved method := by
  unfold toStart at hstart
  rw [Bool.and_eq_true, Bool.or_eq_true, Bool.not_eq_true', decide_eq_true_eq] at hstart
  have hpre : s.prepare.preChecked = if s.preChecked = 0 then 1 else s.preChecked := rfl
  refine ⟨fun hleft => absurd hleft.symm Bool.false_ne_true, fun hunsaved => ?_,
    fun _ hpast => ?_, fun hsome => absurd hplace hsome⟩
  · refine h.unsaved ⟨hstart.1, ?_⟩
    by_cases henter : s.enter = false
    · exact Or.inl henter
    · have hpos := hstart.2.resolve_left henter
      rcases hunsaved.2 with hleft | hone
      · exact absurd hleft.symm Bool.false_ne_true
      · rw [hpre, if_neg (by omega)] at hone
        exact Or.inr hone
  · by_cases hzero : s.preChecked = 0
    · exact absurd ⟨hstart.1, Or.inr (by rw [hpre, if_pos hzero])⟩ hpast
    · have henter : s.enter = true := by
        by_contra hno
        exact hzero (h.fresh (by rw [← Bool.not_eq_true]; exact hno))
      refine h.saved henter fun hunsaved => ?_
      rcases hunsaved.2 with hleft | hone
      · exact absurd (hleft.symm.trans henter) Bool.false_ne_true
      · exact hpast ⟨hstart.1, Or.inr (by rw [hpre, if_neg hzero]; exact hone)⟩

/-- A precheck with no alert waiting saves the method, if it is not saved yet. -/
theorem startup_saved {method : BrampMethod} (f : Found) {s : Intervalometer}
    (h : s.Saved method) (hin : s.running = true ∨ s.enter = true) (hplace : s.place = none) :
    (s.startup f).Ends (Going method)
      (fun t => t.Saved method ∧ (t.enter = false → t.program.brampMethod = method)) := by
  unfold startup
  by_cases hstart : s.toStart = true
  · rw [if_pos hstart]
    have hprepare := prepare_saved h hstart hplace
    have hrun : s.running = true := by
      unfold toStart at hstart
      rw [Bool.and_eq_true] at hstart
      exact hstart.1
    refine Flow.ends_ite (fun _ => ?_) fun _ => Flow.ends_ite (fun hone => ?_) fun hne => ?_
    · exact ⟨hprepare, fun hleft => absurd hleft.symm Bool.false_ne_true⟩
    · -- This is the call that saves it.
      have hpre : s.prepare.load.preChecked = if s.prepare.asksTarget then 2 else 3 := rfl
      have hkept : s.prepare.load.Kept method := by
        refine ⟨rfl, fun hunsaved => ?_, hprepare.unsaved ⟨hrun, Or.inr hone⟩⟩
        rcases hunsaved.2 with hleft | hagain
        · exact absurd hleft.symm Bool.false_ne_true
        · rw [hpre] at hagain
          split_ifs at hagain <;> omega
      have hclosed : Closed method (s.prepare.load.rest .loading
          (if s.prepare.world.link.ready then 500 else 0)).state :=
        rest_kept .loading _ hkept
      exact ⟨hclosed.isSaved, hclosed.isRestored⟩
    · have hpast : ¬ s.prepare.Unsaved := by
        intro hunsaved
        rcases hunsaved.2 with hleft | hone
        · exact absurd hleft.symm Bool.false_ne_true
        · exact hne hone
      exact ⟨⟨rfl, hpast, hprepare.saved rfl hpast⟩, hplace⟩
  · rw [if_neg hstart]
    unfold toStart at hstart
    rw [Bool.and_eq_true, Bool.or_eq_true, Bool.not_eq_true', decide_eq_true_eq] at hstart
    have hpast : ¬ s.Unsaved := by
      intro hunsaved
      rcases hunsaved.2 with hleft | hone
      · exact hstart ⟨hunsaved.1, Or.inl hleft⟩
      · exact hstart ⟨hunsaved.1, Or.inr (by omega)⟩
    have henter : s.enter = true := by
      rcases hin with hrun | henter
      · by_contra hno
        exact hpast ⟨hrun, Or.inl (by rw [← Bool.not_eq_true]; exact hno)⟩
      · exact henter
    exact ⟨⟨henter, hpast, h.saved henter hpast⟩, hplace⟩

/-- What is saved depends on where the run is in its precheck. -/
theorem Saved.congr {method : BrampMethod} {s t : Intervalometer} (h : s.Saved method)
    (hrun : t.running = s.running) (henter : t.enter = s.enter)
    (hpre : t.preChecked = s.preChecked) (hsaved : t.switchBack = s.switchBack)
    (hplace : t.place = s.place)
    (hmethod : s.Unsaved → t.program.brampMethod = s.program.brampMethod) : t.Saved method := by
  have hiff : t.Unsaved ↔ s.Unsaved := by
    unfold Unsaved
    rw [hrun, henter, hpre]
  refine ⟨fun hleft => ?_, fun hunsaved => ?_, fun hentered hpast => ?_, fun hsome => ?_⟩
  · rw [hpre]
    exact h.fresh (henter ▸ hleft)
  · rw [hmethod (hiff.mp hunsaved)]
    exact h.unsaved (hiff.mp hunsaved)
  · rw [hsaved]
    exact h.saved (henter ▸ hentered) fun hunsaved => hpast (hiff.mpr hunsaved)
  · rw [henter, hiff]
    exact h.held (hplace ▸ hsome)

/-- What is saved does not depend on the outputs. -/
theorem Saved.world {method : BrampMethod} {s : Intervalometer} (h : s.Saved method) (w : World)
    (n : Nat) (b : Bool) : Saved method { s with world := w, left := n, disabled := b } :=
  ⟨h.fresh, h.unsaved, h.saved, h.held⟩

theorem pause_saved {method : BrampMethod} {s : Intervalometer} (p : Bool)
    (h : s.Saved method) : (s.pause p).Saved method ∧ (s.pause p).enter = s.enter := by
  unfold pause
  split_ifs <;> exact ⟨h.congr rfl rfl rfl rfl rfl fun _ => rfl, rfl⟩

/-- A call of `task` keeps what is saved, and a run that ends in it has its method back. -/
theorem task_saved {method : BrampMethod} (f : Found) {s : Intervalometer} (h : s.Saved method)
    (hplace : s.place = none) : (s.task f).Saved method ∧
      (s.enter = true → (s.task f).enter = false →
        (s.task f).program.brampMethod = method) := by
  have hworld : Saved method { s with world := s.world.senseCable } :=
    h.world s.world.senseCable s.left s.disabled
  by_cases hin : (s.running || s.enter) = true
  · have harrive : s.arrive = .on { s with world := s.world.senseCable } := by
      rw [arrive, if_pos hin]
    rw [Bool.or_eq_true] at hin
    rw [task, stages, List.cons_append, chain_on harrive]
    have hends := chain_then (Going method) _ (startup_saved f hworld hin hplace) fun t ht => by
      have hclosed := chain_kept
        (List.forall_mem_cons.mpr ⟨fun _ => launch_kept, fromResume_kept f⟩) ht
      exact ⟨hclosed.isSaved, hclosed.isRestored⟩
    exact ⟨hends.1, fun _ => hends.2⟩
  · have harrive : s.arrive = .back { s with world := s.world.senseCable } := by
      rw [arrive, if_neg hin]
    rw [Bool.or_eq_true] at hin
    rw [task, stages, List.cons_append, chain_back harrive]
    exact ⟨hworld, fun henter => absurd (Or.inr henter) hin⟩

/-- So does what a call does when it has waited. -/
theorem goOn_saved {method : BrampMethod} (f : Found) (p : Place) {s : Intervalometer}
    (h : s.Saved method) (hplace : s.place = some p) : (s.goOn p f).Saved method ∧
      ((s.goOn p f).enter = false → (s.goOn p f).program.brampMethod = method) := by
  obtain ⟨henter, hpast⟩ := h.held (by
    rw [hplace]
    exact Option.some_ne_none p)
  have hgoing : Going method { s with place := none } :=
    ⟨⟨henter, hpast, h.saved henter hpast⟩, rfl⟩
  have hclosed := chain_kept (after_kept f p) hgoing
  exact ⟨hclosed.isSaved, hclosed.isRestored⟩

end Intervalometer

end Shutter

namespace Menu

open Shutter

/-- A run may be begun. -/
def Action.begins : Action → Bool
  | .begin => true
  | _ => false

/-- A run may be begun. -/
def Happening.begins : Happening → Bool
  | .menu a => a.begins
  | .loading a => a.begins
  | .remote a => a.begins
  | _ => false

/-- The main loop's state, and the method the run was begun with. -/
structure Held where
  desk : Desk
  begun : BrampMethod

namespace Desk

/-- The method saved by an earlier run is the programme's. -/
def Lucky (s : Desk) : Prop := s.timer.switchBack = s.timer.program.brampMethod

instance (s : Desk) : Decidable s.Lucky := inferInstanceAs (Decidable (_ = _))

/-- A run is neither stopped nor taken for checked before its method is saved, the
    method is not changed before that, and no run is begun while one that is past its
    precheck has been stopped and has not ended. -/
def Leaves (s : Desk) : Action → Prop
  | .begin => s.timer.running = false → s.timer.enter = true → s.timer.preChecked ≠ 1 → s.Lucky
  | .stop | .confirm => s.timer.Unsaved → s.timer.enter = true → s.Lucky
  | .switchTo method => s.timer.Unsaved → method = s.timer.program.brampMethod
  | .edit p => s.timer.Unsaved → p.program.brampMethod = s.timer.program.brampMethod
  | .load id =>
    s.timer.Unsaved → (s.stored id).program.brampMethod = s.timer.program.brampMethod
  | .nothing | .save _ | .pad _ | .pause _ => True

instance (s : Desk) (a : Action) : Decidable (s.Leaves a) :=
  match a with
  | .begin => inferInstanceAs (Decidable (_ → _ → _ → _))
  | .stop | .confirm => inferInstanceAs (Decidable (_ → _ → _))
  | .switchTo _ | .edit _ | .load _ => inferInstanceAs (Decidable (_ → _))
  | .nothing | .save _ | .pad _ | .pause _ => inferInstanceAs (Decidable True)

/-- A run that is begun has its method still to be saved, or saved already. -/
theorem begin_saved {s t : Desk} {method : BrampMethod} (h : s.timer.Saved method)
    (hleaves : s.Leaves .begin) (hact : s.act .begin = some t) :
    t.timer.Saved (if s.timer.running then method else s.timer.program.brampMethod) ∧
      t.timer.enter = s.timer.enter := by
  rcases Option.map_eq_some_iff.mp hact with ⟨u, hu, rfl⟩
  rw [Intervalometer.step, Option.ite_none_right_eq_some, Option.some.injEq] at hu
  obtain ⟨hrest, rfl⟩ := hu
  refine ⟨?_, rfl⟩
  by_cases hrun : s.timer.running = true
  · rw [if_pos hrun]
    exact h.congr hrun.symm rfl rfl rfl rfl fun _ => rfl
  · rw [if_neg hrun]
    rw [Bool.not_eq_true] at hrun
    have hplace : s.timer.place = none := by
      rw [Intervalometer.atRest, Bool.and_eq_true, Option.isNone_iff_eq_none] at hrest
      exact hrest.1
    refine ⟨h.fresh, fun _ => rfl, fun henter hpast => ?_, fun hsome => absurd hplace hsome⟩
    exact hleaves hrun henter fun hone => hpast ⟨rfl, Or.inr hone⟩

/-- A run that is stopped or taken for checked has its method saved, or needs none. -/
theorem stop_saved {s t : Desk} {method : BrampMethod} (h : s.timer.Saved method)
    (hleaves : s.Leaves .stop) (hact : s.act .stop = some t) :
    t.timer.Saved method ∧ t.timer.enter = s.timer.enter := by
  rcases Option.map_eq_some_iff.mp hact with ⟨u, hu, rfl⟩
  rw [Intervalometer.step, Option.ite_none_right_eq_some, Option.some.injEq] at hu
  obtain ⟨hrest, rfl⟩ := hu
  have hpast : ¬ s.timer.stop.Unsaved := fun hunsaved => Bool.false_ne_true hunsaved.1
  have hplace : s.timer.place = none := by
    rw [Intervalometer.atRest, Bool.and_eq_true, Option.isNone_iff_eq_none] at hrest
    exact hrest.1
  refine ⟨⟨h.fresh, fun hunsaved => absurd hunsaved hpast, fun henter _ => ?_,
    fun hsome => absurd hplace hsome⟩, rfl⟩
  by_cases hunsaved : s.timer.Unsaved
  · exact (hleaves hunsaved henter).trans (h.unsaved hunsaved)
  · exact h.saved henter hunsaved

theorem confirm_saved {s t : Desk} {method : BrampMethod} (h : s.timer.Saved method)
    (hleaves : s.Leaves .confirm) (hact : s.act .confirm = some t) :
    t.timer.Saved method ∧ t.timer.enter = s.timer.enter := by
  rcases Option.map_eq_some_iff.mp hact with ⟨u, hu, rfl⟩
  rw [Intervalometer.step, Option.ite_none_right_eq_some, Option.some.injEq] at hu
  obtain ⟨hrest, rfl⟩ := hu
  by_cases hzero : s.timer.preChecked = 0
  · rw [Intervalometer.confirm, if_pos hzero]
    exact ⟨h, rfl⟩
  · rw [Intervalometer.confirm, if_neg hzero]
    have henter : s.timer.enter = true := by
      by_contra hno
      exact hzero (h.fresh (by rw [← Bool.not_eq_true]; exact hno))
    refine ⟨⟨fun hleft => absurd (hleft.symm.trans henter) Bool.false_ne_true,
      fun hunsaved => ?_, fun _ _ => ?_, fun hsome => ?_⟩, rfl⟩
    · rcases hunsaved.2 with hleft | hone
      · exact absurd (hleft.symm.trans henter) Bool.false_ne_true
      · exact absurd hone (show 3 ≠ 1 by decide)
    · by_cases hunsaved : s.timer.Unsaved
      · exact (hleaves hunsaved henter).trans (h.unsaved hunsaved)
      · exact h.saved henter hunsaved
    · rw [Intervalometer.atRest, Bool.and_eq_true, Option.isNone_iff_eq_none] at hrest
      exact absurd hrest.1 hsome

/-- An action of the menu or the remote keeps what is saved of a run's method. -/
theorem act_saved {s t : Desk} {method : BrampMethod} (a : Action) (h : s.timer.Saved method)
    (hleaves : s.Leaves a) (hact : s.act a = some t) :
    t.timer.Saved (if a.begins && !s.timer.running then s.timer.program.brampMethod
      else method) ∧ t.timer.enter = s.timer.enter := by
  cases a with
  | begin =>
      have hbegin := begin_saved h hleaves hact
      rw [Action.begins, Bool.true_and]
      cases hrun : s.timer.running with
      | true =>
          rw [hrun] at hbegin
          exact hbegin
      | false =>
          rw [hrun] at hbegin
          exact hbegin
  | stop => exact stop_saved h hleaves hact
  | confirm => exact confirm_saved h hleaves hact
  | nothing | save | pad =>
      obtain rfl := Option.some.inj hact
      exact ⟨h, rfl⟩
  | edit p =>
      obtain rfl := Option.some.inj hact
      exact ⟨h.congr rfl rfl rfl rfl rfl hleaves, rfl⟩
  | load id =>
      obtain rfl := Option.some.inj hact
      exact ⟨h.congr rfl rfl rfl rfl rfl hleaves, rfl⟩
  | pause p =>
      rcases Option.map_eq_some_iff.mp hact with ⟨u, hu, rfl⟩
      rw [Intervalometer.step, Option.ite_none_right_eq_some, Option.some.injEq] at hu
      obtain ⟨-, rfl⟩ := hu
      exact Intervalometer.pause_saved p h
  | switchTo m =>
      rcases Option.map_eq_some_iff.mp hact with ⟨u, hu, rfl⟩
      rw [Intervalometer.step, Option.ite_none_right_eq_some, Option.some.injEq] at hu
      obtain ⟨-, rfl⟩ := hu
      exact ⟨h.congr rfl rfl rfl rfl rfl hleaves, rfl⟩

end Desk

namespace Held

/-- One step. A run is begun when none is on. -/
def step (s : Held) (h : Happening) : Option Held :=
  (s.desk.step h).map fun desk =>
    { desk := desk
      begun :=
        if h.begins && !s.desk.timer.running then s.desk.timer.program.brampMethod else s.begun }

/-- The method of a run is saved before it may be needed. -/
def Orderly (s : Held) : Happening → Prop
  | .menu a | .loading a | .remote a => s.desk.Leaves a
  | _ => True

instance (s : Held) (h : Happening) : Decidable (s.Orderly h) :=
  match h with
  | .menu a | .loading a | .remote a => inferInstanceAs (Decidable (s.desk.Leaves a))
  | .conditions | .task _ | .goOn _ | .beside _ => inferInstanceAs (Decidable True)

/-- The run at hand ends in a step. -/
def Ends (s t : Held) : Prop := s.desk.timer.enter = true ∧ t.desk.timer.enter = false

instance (s t : Held) : Decidable (s.Ends t) := inferInstanceAs (Decidable (_ ∧ _))

/-- What happens beside the main loop leaves what is saved alone. -/
theorem beside_saved {s t : Intervalometer} {method : BrampMethod} {o : Order}
    (h : s.Saved method) (ho : Desk.Beside o = true) (hstep : s.step o = some t) :
    t.Saved method ∧ t.enter = s.enter := by
  cases o with
  | tick io =>
      obtain rfl := Option.some.inj hstep
      exact ⟨h.world _ _ _, rfl⟩
  | resume =>
      rcases Option.map_eq_some_iff.mp hstep with ⟨w, -, rfl⟩
      exact ⟨h.world _ _ _, rfl⟩
  | pins cablePin syncPin =>
      obtain rfl := Option.some.inj hstep
      exact ⟨h.world _ _ _, rfl⟩
  | connect link disabled =>
      obtain rfl := Option.some.inj hstep
      exact ⟨h.world _ _ _, rfl⟩
  | _ => exact absurd ho Bool.false_ne_true

/-- An orderly step keeps what is saved, and a run that ends in it has its method back. -/
theorem step_saved {s t : Held} (h : Happening) (hs : s.desk.timer.Saved s.begun)
    (horderly : s.Orderly h) (hstep : s.step h = some t) :
    t.desk.timer.Saved t.begun ∧ (s.Ends t → t.desk.timer.program.brampMethod = s.begun) := by
  rcases Option.map_eq_some_iff.mp hstep with ⟨desk, hdesk, rfl⟩
  -- A step that leaves `enter` as it was ends no run.
  have hopen : desk.timer.enter = s.desk.timer.enter → ∀ begun : BrampMethod,
      s.Ends ⟨desk, begun⟩ → desk.timer.program.brampMethod = s.begun := by
    intro hsame begun hends
    exact absurd (hends.2.symm.trans (hsame.trans hends.1)) Bool.false_ne_true
  cases h with
  | conditions =>
      simp only [Desk.step] at hdesk
      split_ifs at hdesk
      obtain rfl := Option.some.inj hdesk
      exact ⟨hs.congr rfl rfl rfl rfl rfl fun _ => rfl, hopen rfl _⟩
  | menu a =>
      simp only [Desk.step] at hdesk
      split_ifs at hdesk
      rcases Option.map_eq_some_iff.mp hdesk with ⟨u, hact, rfl⟩
      obtain ⟨hsaved, hsame⟩ := Desk.act_saved a hs horderly hact
      exact ⟨hsaved, hopen hsame _⟩
  | loading a =>
      simp only [Desk.step] at hdesk
      split_ifs at hdesk
      obtain ⟨hsaved, hsame⟩ := Desk.act_saved a hs horderly hdesk
      exact ⟨hsaved, hopen hsame _⟩
  | remote a =>
      simp only [Desk.step] at hdesk
      split_ifs at hdesk
      rcases Option.map_eq_some_iff.mp hdesk with ⟨u, hact, rfl⟩
      obtain ⟨hsaved, hsame⟩ := Desk.act_saved a hs horderly hact
      exact ⟨hsaved, hopen hsame _⟩
  | task f =>
      simp only [Desk.step] at hdesk
      split_ifs at hdesk
      rcases Option.map_eq_some_iff.mp hdesk with ⟨v, horder, rfl⟩
      rcases Option.map_eq_some_iff.mp horder with ⟨u, hu, rfl⟩
      rw [Intervalometer.step, Option.ite_none_right_eq_some, Option.some.injEq] at hu
      obtain ⟨hrest, rfl⟩ := hu
      rw [Intervalometer.atRest, Bool.and_eq_true, Option.isNone_iff_eq_none] at hrest
      obtain ⟨hsaved, hback⟩ := Intervalometer.task_saved f hs hrest.1
      exact ⟨hsaved, fun hends => hback hends.1 hends.2⟩
  | goOn f =>
      simp only [Desk.step] at hdesk
      split_ifs at hdesk
      rcases Option.map_eq_some_iff.mp hdesk with ⟨u, hu, rfl⟩
      rw [Intervalometer.step] at hu
      cases hplace : s.desk.timer.place with
      | none =>
          rw [hplace] at hu
          exact absurd hu (by simp only [reduceCtorEq, not_false_eq_true])
      | some p =>
          rw [hplace] at hu
          simp only [Option.ite_none_right_eq_some, Option.some.injEq] at hu
          obtain ⟨-, rfl⟩ := hu
          obtain ⟨hsaved, hback⟩ := Intervalometer.goOn_saved f p hs hplace
          exact ⟨hsaved, fun hends => hback hends.2⟩
  | beside o =>
      simp only [Desk.step] at hdesk
      split_ifs at hdesk with hbeside
      rcases Option.map_eq_some_iff.mp hdesk with ⟨u, hu, rfl⟩
      obtain ⟨hsaved, hsame⟩ := beside_saved hs hbeside hu
      exact ⟨hsaved, hopen hsame _⟩

/-- The main loop is entered between runs, or with a run begun at once. -/
def boot (world : World) (program : Program) (autoRun : Bool) (gapMin : Nat)
    (stored : Nat → Stored) (brampGap : Fin 256) : Held :=
  let timer := Intervalometer.idle world program
  { desk := Desk.boot (if autoRun then timer.begin else timer) gapMin stored brampGap
    begun := program.brampMethod }

theorem boot_saved (world : World) (program : Program) (autoRun : Bool) (gapMin : Nat)
    (stored : Nat → Stored) (brampGap : Fin 256) :
    (boot world program autoRun gapMin stored brampGap).desk.timer.Saved
      program.brampMethod := by
  cases autoRun with
  | true =>
      exact ⟨fun _ => rfl, fun _ => rfl, fun henter => absurd henter Bool.false_ne_true,
        fun hsome => absurd rfl hsome⟩
  | false =>
      exact ⟨fun _ => rfl, fun _ => rfl, fun henter => absurd henter Bool.false_ne_true,
        fun hsome => absurd rfl hsome⟩

/-- In an orderly run of the main loop, a run of the programme ends with the ramp's
    method it was begun with, wherever it is stopped and however the method was switched
    on its way. -/
theorem run_method (world : World) (program : Program) (autoRun : Bool) (gapMin : Nat)
    (stored : Nat → Stored) (brampGap : Fin 256) (s t : Held) (h : Happening)
    (hrun : Run step Orderly (boot world program autoRun gapMin stored brampGap) s)
    (horderly : s.Orderly h) (hstep : s.step h = some t) (hends : s.Ends t) :
    t.desk.timer.program.brampMethod = s.begun := by
  have hsaved : s.desk.timer.Saved s.begun :=
    hrun.invariant (fun s => s.desk.timer.Saved s.begun)
      (fun _ l _ hs hok hnext => (step_saved l hs hok hnext).1)
      (boot_saved world program autoRun gapMin stored brampGap)
  exact (step_saved h hsaved horderly hstep).2 hends

/-- The main loop is entered with an automatic ramp set, and no camera. -/
def fresh : Held :=
  boot (World.idle cableSettings 0 .none) (Desk.rampProgram 360) false 60
    (fun _ => ⟨Desk.rampProgram 360, 60⟩) Desk.fresh.brampGap

/-- A run is begun from the menu, checked and started, and stopped in the delay. -/
def stoppedLate : List Happening :=
  [.conditions, .menu .begin, .task .plain, .goOn .plain, .remote .nothing, .conditions,
    .menu .stop]

/-- A run is begun from the menu and stopped at the alerts of its precheck. -/
def stoppedEarly : List Happening :=
  [.conditions, .menu .begin, .task { Found.plain with alert := true }, .remote .nothing,
    .conditions, .menu .stop]

/-- A run that is stopped in its delay has its method back. -/
theorem run_method_stopped : ∃ s t, Run step Orderly fresh s ∧ s.step (.task .plain) = some t ∧
    s.Ends t ∧ t.desk.timer.program.brampMethod = s.begun := by
  have hallowed : allowed step Orderly fresh stoppedLate = true := by decide +kernel
  rcases run_of_allowed _ hallowed with ⟨s, hsteps, hrun⟩
  have hends : ((steps step fresh stoppedLate).bind fun s =>
      (s.step (.task .plain)).map fun t => decide (s.Ends t)) = some true := by decide +kernel
  rw [hsteps, Option.bind_some, Option.map_eq_some_iff] at hends
  rcases hends with ⟨t, hstep, hdecide⟩
  have hst := of_decide_eq_true hdecide
  exact ⟨s, t, hrun, hstep, hst, run_method _ _ _ _ _ _ s t (.task .plain) hrun trivial hstep hst⟩

/-- A run that is stopped at its alerts: an automatic ramp comes to have keyframes. -/
theorem method_stale : ∃ s t, Run step (fun _ _ => True) fresh s ∧
    s.step (.task .plain) = some t ∧ s.Ends t ∧ s.begun = .auto ∧
      t.desk.timer.program.brampMethod = .keyframe := by
  have hrun : ((steps step fresh stoppedEarly).bind fun s =>
      (s.step (.task .plain)).map fun t => decide (s.Ends t) && decide (s.begun = .auto) &&
        decide (t.desk.timer.program.brampMethod = .keyframe)) = some true := by decide +kernel
  rcases Option.bind_eq_some_iff.mp hrun with ⟨s, hsteps, hlast⟩
  rcases Option.map_eq_some_iff.mp hlast with ⟨t, hstep, ht⟩
  rw [Bool.and_eq_true, Bool.and_eq_true, decide_eq_true_eq, decide_eq_true_eq,
    decide_eq_true_eq] at ht
  exact ⟨s, t, run_of_steps _ hsteps, hstep, ht.1.1, ht.1.2, ht.2⟩

end Held

end Menu

end TimelapsePlus
