import Exynos9810.Power.InteractionHint

/-!
# The interaction hint when `Exit` returns

`Exit` overwrites `mState` before the `Routine` thread can run `Release`, which then
only drains the event fd.
-/
namespace Exynos9810.Power

open Transition InteractionHandler

/-- The hint calls are those made before `Exit`, and `Exit` is done only with a thread
that has left its loop. -/
structure Exiting (calls : List Action) (s : InteractionHandler) : Prop where
  state : s.mState = .uninitialized
  called : s.exit ≠ .none
  left : s.exit = .done → s.routine = .returned
  calls : hintCalls s.log = calls

variable {k : InteractionProps} {s s' : InteractionHandler} {calls : List Action}

theorem exiting_exit (hstep : s.step k .exit = some s') :
    Exiting (hintCalls s.log) s' ∧ s.exit = .none := by
  simp only [step, exitLocked, abortWaitLocked] at hstep
  split_ifs at hstep with hguard <;> cases hstep
  all_goals
    refine ⟨⟨rfl, by simp, ?_, rfl⟩, not_not.mp (not_or.mp hguard).1⟩
    intro hdone
    cases hdone

theorem exiting_step (h : Exiting calls s) (hstep : InteractionStep k s s') :
    Exiting calls s' := by
  cases hstep with
  | covered => exact h
  | fallback => exact ⟨h.state, h.called, h.left, by simp [act, hintCalls_concat, h.calls]⟩
  | lock _ _ hstate | extend _ _ hstate | interrupt _ _ hstate =>
    rw [h.state] at hstate
    cases hstate
  | wake _ _ hinit => exact absurd h.state hinit
  | leave => exact ⟨h.state, h.called, fun _ => rfl, h.calls⟩
  | waitOn pc hpc =>
    refine ⟨h.state, h.called, fun hdone => ?_, h.calls⟩
    rw [h.left hdone] at hpc
    cases hpc
  | waitReturns hpc =>
    refine ⟨h.state, h.called, fun hdone => ?_, ?_⟩
    · rw [h.left hdone] at hpc
      cases hpc
    · simp [waitReturns, act, hintCalls_concat, h.calls]
  | releaseHint _ hstate =>
    rw [h.state] at hstate
    cases hstate
  | releaseDrain hpc =>
    refine ⟨h.state, h.called, fun hdone => ?_, h.calls⟩
    rw [h.left hdone] at hpc
    cases hpc
  | exit hexit => exact absurd hexit h.called
  | exitJoined _ hpc => exact ⟨h.state, by simp, fun _ => hpc, h.calls⟩

/-- When `Exit` returns, the thread has left its loop and the handler is uninitialised.
The hint is free just when `Exit` came while the handler was idle. -/
theorem exit_frees_hint_iff (k : InteractionProps) (mLastTimespec : Timespec)
    (s s' t : InteractionHandler) (hrun : Reach (step k) Free (initialised mLastTimespec) s)
    (hexit : s.step k .exit = some s') (hrest : Reach (step k) Free s' t)
    (hdone : t.exit = .done) :
    t.routine = .returned ∧ t.mState = .uninitialized ∧
      (¬HintHeld t.log ↔ s.mState = .idle) := by
  obtain ⟨hexiting, hnone⟩ := exiting_exit hexit
  have hend := hrest.invariant (Exiting (hintCalls s.log)) hexiting
    fun _ _ _ h _ hstep => exiting_step h (step_cases hstep)
  obtain ⟨hsynced, hhint, -⟩ := tracked_of_reach hrun hnone
  have hheld : HintHeld t.log ↔ s.mState = .interaction ∨ s.mState = .waiting := by
    rw [← hhint.held, HintHeld, HintHeld, hend.calls]
  refine ⟨hend.left hdone, hend.state, ?_⟩
  rw [hheld]
  have hinit := hsynced.init
  cases hstate : s.mState <;> simp_all

theorem exit_frees_hint_iff_idle :
    ∃ s s' t, exec (step {}) Free (initialised ⟨0, 0⟩) interruptedRun = some s ∧
      s.mState = .idle ∧ s.step {} .exit = some s' ∧
      exec (step {}) Free s' [.routineWake, .exitJoined] = some t ∧ t.exit = .done ∧
      t.routine = .returned ∧ ¬HintHeld t.log := by
  obtain ⟨hreturned, -, hfree⟩ := exit_frees_hint_iff {} ⟨0, 0⟩ _ _ _
    (reach_of_exec interruptedRun rfl) rfl (reach_of_exec [.routineWake, .exitJoined] rfl) rfl
  exact ⟨_, _, _, rfl, rfl, rfl, rfl, rfl, hreturned, hfree.mpr rfl⟩

/-- `Exit` during a wait: the wait is aborted, `Release` finds the overwritten state, and
nobody ends the hint. -/
theorem exit_keeps_hint :
    ∃ t, exec (step {}) Free (initialised ⟨0, 0⟩)
        [.acquire 0 ⟨0, 0⟩, .routineWake, .exit, .waitForIdle .aborted, .release, .routineWake,
          .exitJoined] = some t ∧
      t.exit = .done ∧ t.routine = .returned ∧ hintCalls t.log = [.doHint] ∧ HintHeld t.log := by
  exact ⟨_, rfl, rfl, rfl, rfl, rfl⟩

end Exynos9810.Power
