import Exynos9810.Power.InteractionHandler
import Mathlib.Data.List.Chain

/-!
# The interaction hint until `Exit`

`mState`, the event fd and the place of the `Routine` thread move together.  From
that follow when the hint is held, that a wait starts without an abort left over,
and that no wait ends a boost that is newer than it.
-/
namespace Exynos9810.Power

open Transition InteractionHandler

def hintCalls (log : List Action) : List Action :=
  log.filter fun action => action = .doHint || action = .endHint

/-- `DoHint` and `EndHint` take turns, as if an `EndHint` had been before them. -/
def HintsAlternate (log : List Action) : Prop :=
  (Action.endHint :: hintCalls log).IsChain (· ≠ ·)

def HintHeld (log : List Action) : Prop :=
  (hintCalls log).getLast? = some .doHint

def WaitedOut (log : List Action) : Prop :=
  ∃ front wait, log = front ++ .toWaiting :: wait ∧ .toInteraction ∈ front ∧
    .toInteraction ∉ wait ∧ .waitReturned ∈ wait

/-- Every `EndHint` comes when the wait for the last boost is over. -/
def EndsWaitedOut (log : List Action) : Prop :=
  ∀ before after, log = before ++ .endHint :: after → WaitedOut before

structure Synced (s : InteractionHandler) : Prop where
  init : s.mState ≠ .uninitialized
  running : s.routine ≠ .returned
  atLoop : s.routine = .atLoop → s.mState ≠ .waiting ∧ s.eventFd = 0
  inWait : s.routine.inWait → s.mState ≠ .idle
  waiting : s.mState = .waiting → s.eventFd = 0

variable {k : InteractionProps} {s s' : InteractionHandler}

@[simp] theorem mState_boost (finalDuration : Int32) (now : Timespec) :
    (s.boost finalDuration now).mState = .interaction := rfl

@[simp] theorem routine_boost (finalDuration : Int32) (now : Timespec) :
    (s.boost finalDuration now).routine = s.routine := by
  simp only [boost, abortOrLock, abortWaitLocked, act]
  split_ifs <;> rfl

@[simp] theorem exit_boost (finalDuration : Int32) (now : Timespec) :
    (s.boost finalDuration now).exit = s.exit := by
  simp only [boost, abortOrLock, abortWaitLocked, act]
  split_ifs <;> rfl

theorem eventFd_boost (finalDuration : Int32) (now : Timespec) (hstate : s.mState ≠ .waiting) :
    (s.boost finalDuration now).eventFd = s.eventFd := by
  simp only [boost, abortOrLock, act, hstate, if_false]
  split_ifs <;> rfl

theorem log_boost (finalDuration : Int32) (now : Timespec) :
    (s.boost finalDuration now).log =
      s.log ++ if s.mState = .idle then [.doHint, .toInteraction] else [.toInteraction] := by
  simp only [boost, abortOrLock, abortWaitLocked, act]
  split_ifs <;> simp_all

theorem exit_of_step (hstep : InteractionStep k s s') (hexit : s'.exit = .none) :
    s.exit = .none := by
  cases hstep with
  | lock finalDuration now | extend finalDuration now | interrupt finalDuration now =>
    rw [exit_boost] at hexit
    exact hexit
  | exit | exitJoined => cases hexit
  | _ => exact hexit

theorem synced_step (h : Synced s) (hstep : InteractionStep k s s') (hexit : s'.exit = .none) :
    Synced s' := by
  cases hstep with
  | fallback | covered => exact ⟨h.init, h.running, h.atLoop, h.inWait, h.waiting⟩
  | lock finalDuration now hstate | extend finalDuration now hstate =>
    refine ⟨nofun, ?_, ?_, nofun, nofun⟩
    · rw [routine_boost]
      exact h.running
    · rw [routine_boost, eventFd_boost _ _ (by simp [hstate])]
      exact fun hpc => ⟨nofun, (h.atLoop hpc).2⟩
  | interrupt finalDuration now hstate =>
    refine ⟨nofun, ?_, ?_, nofun, nofun⟩
    · rw [routine_boost]
      exact h.running
    · rw [routine_boost]
      exact fun hpc => absurd hstate (h.atLoop hpc).1
  | wake hpc => exact ⟨nofun, nofun, nofun, nofun, fun _ => (h.atLoop hpc).2⟩
  | leave _ hstate => exact absurd hstate h.init
  | waitOn pc hpc hpc' =>
    refine ⟨h.init, ?_, ?_, fun _ => h.inWait hpc, h.waiting⟩
    · rintro rfl
      cases hpc'
    · rintro rfl
      cases hpc'
  | waitReturns hpc => exact ⟨h.init, nofun, nofun, fun _ => h.inWait hpc, h.waiting⟩
  | releaseHint _ hstate => exact ⟨nofun, nofun, fun _ => ⟨nofun, h.waiting hstate⟩, nofun, nofun⟩
  | releaseDrain _ hstate =>
    exact ⟨h.init, nofun, fun _ => ⟨hstate, rfl⟩, nofun, fun hwaiting => absurd hwaiting hstate⟩
  | exit | exitJoined => cases hexit

section Hints

variable {log : List Action}

theorem hintCalls_concat (log : List Action) (action : Action) :
    hintCalls (log ++ [action]) =
      hintCalls log ++ if action = .doHint ∨ action = .endHint then [action] else [] := by
  simp only [hintCalls, List.filter_append, List.filter_cons, List.filter_nil, Bool.or_eq_true,
    decide_eq_true_eq]

theorem hintHeld_concat (log : List Action) {action : Action}
    (haction : action = .doHint ∨ action = .endHint) :
    HintHeld (log ++ [action]) ↔ action = .doHint := by
  rw [HintHeld, hintCalls_concat, if_pos haction, List.getLast?_concat, Option.some_inj]

theorem hintsAlternate_concat (h : HintsAlternate log) {action : Action}
    (haction : action = .doHint ∨ action = .endHint)
    (hturn : (hintCalls log).getLast?.getD .endHint ≠ action) :
    HintsAlternate (log ++ [action]) := by
  rw [HintsAlternate, hintCalls_concat, if_pos haction, ← List.cons_append, List.isChain_append]
  refine ⟨h, .singleton action, ?_⟩
  intro last hlast next hnext
  rw [List.getLast?_cons, Option.mem_some_iff] at hlast
  cases hnext
  exact hlast ▸ hturn

end Hints

/-- The calls alternate, and the hint is held while `mState` says so. -/
structure HintTracked (s : InteractionHandler) : Prop where
  alternate : HintsAlternate s.log
  held : HintHeld s.log ↔ s.mState = .interaction ∨ s.mState = .waiting

theorem hintTracked_of_hintCalls (h : HintTracked s) (hcalls : hintCalls s'.log = hintCalls s.log)
    (hstate : s'.mState = .interaction ∨ s'.mState = .waiting ↔
      s.mState = .interaction ∨ s.mState = .waiting) : HintTracked s' := by
  constructor
  · rw [HintsAlternate, hcalls]
    exact h.alternate
  · rw [HintHeld, hcalls, hstate]
    exact h.held

theorem hintTracked_lock (h : HintTracked s) (hstate : s.mState = .idle) (finalDuration : Int32)
    (now : Timespec) : HintTracked (s.boost finalDuration now) := by
  have hfree : ¬HintHeld s.log := by
    rw [h.held, hstate]
    decide
  have hturn : (hintCalls s.log).getLast?.getD .endHint ≠ .doHint := by
    intro hlast
    cases hcalls : (hintCalls s.log).getLast? with
    | none =>
      rw [hcalls] at hlast
      cases hlast
    | some call =>
      rw [hcalls] at hlast
      exact hfree (hcalls.trans (congrArg some hlast))
  have hlocked : HintTracked { s with mState := .interaction, log := s.log ++ [.doHint] } :=
    ⟨hintsAlternate_concat h.alternate (.inl rfl) hturn, by
      simp [hintHeld_concat s.log (.inl rfl)]⟩
  refine hintTracked_of_hintCalls hlocked ?_ .rfl
  rw [log_boost, if_pos hstate, List.append_cons, hintCalls_concat]
  exact List.append_nil _

theorem hintTracked_release (h : HintTracked s) (hstate : s.mState = .waiting) :
    HintTracked ({ s with mState := .idle, routine := .atLoop }.act .endHint) := by
  have hheld : (hintCalls s.log).getLast? = some .doHint := h.held.mpr (.inr hstate)
  constructor
  · refine hintsAlternate_concat h.alternate (.inr rfl) ?_
    rw [hheld]
    nofun
  · simp [act, hintHeld_concat s.log (.inr rfl)]

theorem hintTracked_step (hsynced : Synced s) (h : HintTracked s) (hstep : InteractionStep k s s')
    (hexit : s'.exit = .none) : HintTracked s' := by
  cases hstep with
  | fallback => exact hintTracked_of_hintCalls h (by simp [act, hintCalls_concat]) .rfl
  | covered => exact h
  | lock finalDuration now hstate => exact hintTracked_lock h hstate finalDuration now
  | extend finalDuration now hstate | interrupt finalDuration now hstate =>
    exact hintTracked_of_hintCalls h (by simp [log_boost, hstate, hintCalls_concat])
      (by simp [hstate])
  | wake hpc hidle hinit =>
    have hinteraction : s.mState = .interaction := by
      cases hstate : s.mState <;> simp_all [hsynced.atLoop hpc]
    exact hintTracked_of_hintCalls h (by simp [act, hintCalls_concat])
      (by simp [act, hinteraction])
  | leave _ hstate => exact absurd hstate hsynced.init
  | waitOn => exact hintTracked_of_hintCalls h rfl .rfl
  | waitReturns =>
    exact hintTracked_of_hintCalls h (by simp [waitReturns, act, hintCalls_concat]) .rfl
  | releaseHint _ hstate => exact hintTracked_release h hstate
  | releaseDrain => exact hintTracked_of_hintCalls h rfl .rfl
  | exit | exitJoined => cases hexit

section Waits

theorem endsWaitedOut_concat {log : List Action} (h : EndsWaitedOut log) {action : Action}
    (haction : action = .endHint → WaitedOut log) : EndsWaitedOut (log ++ [action]) := by
  intro before after hsplit
  rcases List.eq_nil_or_concat after with rfl | ⟨after, last, rfl⟩
  · obtain ⟨rfl, hlast⟩ := List.append_inj' hsplit rfl
    exact haction (List.cons.inj hlast).1
  · rw [List.concat_eq_append, ← List.cons_append, ← List.append_assoc] at hsplit
    exact h before after (List.append_inj' hsplit rfl).1

end Waits

/-- While `mState` is `WAITING`, no boost has come behind the start of the wait. -/
structure WaitTracked (s : InteractionHandler) : Prop where
  ends : EndsWaitedOut s.log
  acquired : s.mState = .interaction → .toInteraction ∈ s.log
  waiting : s.mState = .waiting → ∃ front wait, s.log = front ++ .toWaiting :: wait ∧
    .toInteraction ∈ front ∧ .toInteraction ∉ wait ∧
    (s.routine = .atRelease → .waitReturned ∈ wait)

theorem waitTracked_boost (h : WaitTracked s) (finalDuration : Int32) (now : Timespec) :
    WaitTracked (s.boost finalDuration now) := by
  refine ⟨?_, ?_, nofun⟩
  · rw [log_boost]
    split
    · rw [List.append_cons]
      refine endsWaitedOut_concat (endsWaitedOut_concat h.ends ?_) ?_ <;> nofun
    · exact endsWaitedOut_concat h.ends nofun
  · intro _
    rw [log_boost]
    split <;> simp

theorem waitTracked_step (hsynced : Synced s) (h : WaitTracked s) (hstep : InteractionStep k s s')
    (hexit : s'.exit = .none) : WaitTracked s' := by
  cases hstep with
  | covered => exact h
  | fallback durationMs =>
    refine ⟨endsWaitedOut_concat h.ends nofun, ?_, ?_⟩
    · exact fun hstate => List.mem_append_left _ (h.acquired hstate)
    · intro hstate
      obtain ⟨front, wait, hlog, hfront, hwait, hreturned⟩ := h.waiting hstate
      refine ⟨front, wait ++ [.doHintFor durationMs], ?_, hfront, ?_, ?_⟩
      · simp [act, hlog]
      · simp [hwait]
      · exact fun hpc => List.mem_append_left _ (hreturned hpc)
  | lock | extend | interrupt => exact waitTracked_boost h _ _
  | wake hpc hidle hinit =>
    have hacquired : .toInteraction ∈ s.log := by
      apply h.acquired
      cases hstate : s.mState <;> simp_all [hsynced.atLoop hpc]
    exact ⟨endsWaitedOut_concat h.ends nofun, nofun,
      fun _ => ⟨s.log, [], rfl, hacquired, nofun, nofun⟩⟩
  | leave _ hstate => exact absurd hstate hsynced.init
  | waitOn pc _ _ hrelease =>
    refine ⟨h.ends, h.acquired, fun hstate => ?_⟩
    obtain ⟨front, wait, hlog, hfront, hwait, -⟩ := h.waiting hstate
    exact ⟨front, wait, hlog, hfront, hwait, fun hpc => absurd hpc hrelease⟩
  | waitReturns =>
    refine ⟨endsWaitedOut_concat h.ends nofun, ?_, ?_⟩
    · exact fun hstate => List.mem_append_left _ (h.acquired hstate)
    · intro hstate
      obtain ⟨front, wait, hlog, hfront, hwait, -⟩ := h.waiting hstate
      refine ⟨front, wait ++ [.waitReturned], ?_, hfront, ?_, ?_⟩
      · simp [waitReturns, act, hlog]
      · simp [hwait]
      · exact fun _ => List.mem_append_right _ (.head _)
  | releaseHint hpc hstate =>
    refine ⟨endsWaitedOut_concat h.ends fun _ => ?_, nofun, nofun⟩
    obtain ⟨front, wait, hlog, hfront, hwait, hreturned⟩ := h.waiting hstate
    exact ⟨front, wait, hlog, hfront, hwait, hreturned hpc⟩
  | releaseDrain _ hstate =>
    exact ⟨h.ends, h.acquired, fun hwaiting => absurd hwaiting hstate⟩
  | exit | exitJoined => cases hexit

theorem tracked_of_reach {mLastTimespec : Timespec}
    (hreach : Reach (step k) Free (initialised mLastTimespec) s) (hexit : s.exit = .none) :
    Synced s ∧ HintTracked s ∧ WaitTracked s := by
  refine hreach.invariant (fun s => s.exit = .none → Synced s ∧ HintTracked s ∧ WaitTracked s)
    ?_ ?_ hexit
  · intro _
    refine ⟨⟨nofun, nofun, fun _ => ⟨nofun, rfl⟩, nofun, nofun⟩, ⟨.singleton _, ?_⟩, ?_⟩
    · constructor <;> nofun
    · refine ⟨?_, nofun, nofun⟩
      intro before after hsplit
      simp [initialised, init, new] at hsplit
  · intro s event s' h _ hstep hexit'
    have hcases := step_cases hstep
    obtain ⟨hsynced, hhint, hwait⟩ := h (exit_of_step hcases hexit')
    exact ⟨synced_step hsynced hcases hexit', hintTracked_step hsynced hhint hcases hexit',
      waitTracked_step hsynced hwait hcases hexit'⟩

/-- Up to a call of `Exit` the untimed calls for the hint alternate, and the hint is
held exactly in the states `INTERACTION` and `WAITING`. -/
theorem interaction_hint_alternates (k : InteractionProps) (mLastTimespec : Timespec)
    (s : InteractionHandler) (hrun : Reach (step k) Free (initialised mLastTimespec) s)
    (hexit : s.exit = .none) :
    HintsAlternate s.log ∧
      (HintHeld s.log ↔ s.mState = .interaction ∨ s.mState = .waiting) := by
  obtain ⟨-, hhint, -⟩ := tracked_of_reach hrun hexit
  exact ⟨hhint.alternate, hhint.held⟩

/-- Up to a call of `Exit` every wait starts with the event fd at zero, and every
`EndHint` comes behind a whole wait that was begun after the last boost. -/
theorem interaction_waits_whole (k : InteractionProps) (mLastTimespec : Timespec)
    (s : InteractionHandler) (hrun : Reach (step k) Free (initialised mLastTimespec) s)
    (hexit : s.exit = .none) :
    (∀ s', s.step k .routineWake = some s' → s'.mState = .waiting → s'.eventFd = 0) ∧
      EndsWaitedOut s.log := by
  obtain ⟨hsynced, -, hwait⟩ := tracked_of_reach hrun hexit
  refine ⟨?_, hwait.ends⟩
  intro s' hwake hstate
  have hexit' : s'.exit = .none := by
    simp only [step, routineWake] at hwake
    split_ifs at hwake <;> cases hwake <;> exact hexit
  exact (synced_step hsynced (step_cases hwake) hexit').waiting hstate

def interruptedRun : List InteractionEvent :=
  [.acquire 0 ⟨0, 0⟩, .routineWake, .waitForIdle .timeout, .waitForIdle .busy,
    .acquire 0 ⟨100, 0⟩, .waitForIdle .aborted, .release, .routineWake,
    .waitForIdle .timeout, .waitForIdle .idle, .release]

theorem interaction_hint_alternates_interrupted :
    ∃ s, exec (step {}) Free (initialised ⟨0, 0⟩) interruptedRun = some s ∧ s.exit = .none ∧
      hintCalls s.log = [.doHint, .endHint] ∧ HintsAlternate s.log ∧
      (HintHeld s.log ↔ s.mState = .interaction ∨ s.mState = .waiting) := by
  exact ⟨_, rfl, rfl, rfl, interaction_hint_alternates {} ⟨0, 0⟩ _
    (reach_of_exec interruptedRun rfl) rfl⟩

theorem interaction_waits_whole_interrupted :
    ∃ s, exec (step {}) Free (initialised ⟨0, 0⟩) interruptedRun = some s ∧ s.exit = .none ∧
      .endHint ∈ s.log ∧ EndsWaitedOut s.log := by
  exact ⟨_, rfl, rfl, by decide, (interaction_waits_whole {} ⟨0, 0⟩ _
    (reach_of_exec interruptedRun rfl) rfl).2⟩

end Exynos9810.Power
