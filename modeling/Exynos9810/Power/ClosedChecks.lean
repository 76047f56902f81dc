import Exynos9810.Power.StaleCount

/-!
# Stale checks of a closed session

`close` takes the queued check of its session away, but not one that the looper thread has
already taken out of the queue, and nothing keeps a later report from starting a new one.
Without these two no check is left of a closed session.
-/
namespace Exynos9810.Power

open Transition PowerHal

/-- At the removal of a session's messages the handler is not at work for it, and a report
on a closed session finds the flag of the timer set. -/
def BinderPc.LeavesNoCheck (s : PowerHal) : BinderPc → Prop
  | .closeRemoveMessages id => s.looper.handles ≠ some id
  | .reportTimer id _ => (s.session id).sessionClosed → (s.session id).isMonitoringStale
  | _ => True

instance (s : PowerHal) (pc : BinderPc) : Decidable (pc.LeavesNoCheck s) := by
  unfold BinderPc.LeavesNoCheck
  split <;> infer_instance

def LeavesNoCheck (s : PowerHal) : Event → Prop
  | .binder => s.binder.LeavesNoCheck s
  | _ => True

instance (s : PowerHal) (event : Event) : Decidable (LeavesNoCheck s event) := by
  unfold LeavesNoCheck
  split <;> infer_instance

def ClosedUnchecked (s : PowerHal) : Prop :=
  ∀ id, (s.session id).sessionClosed → s.binder ≠ .closeRemoveMessages id → staleChecks s id = 0

variable {p : Platform} {s s' : PowerHal}

theorem closedUnchecked_begin (h : ClosedUnchecked s) (hidle : s.binder = .idle) (call : Call) :
    ClosedUnchecked (s.begin p call) := by
  intro id hclosed hremoved
  obtain ⟨_, _, _, hmessages, hlooper⟩ := begin_frame (p := p) (s := s) call
  have hbefore : (s.session id).sessionClosed := by
    cases call <;> grind [begin, PowerHintSession.new]
  unfold staleChecks
  rw [hmessages, hlooper]
  exact h id hbefore (by simp [hidle])

theorem staleChecks_removeMessages {id : SessionId} (hpc : s.binder = .closeRemoveMessages id)
    (hunhandled : s.looper.handles ≠ some id) (hstep : BinderStep p s s') :
    staleChecks s' id = 0 := by
  cases hstep with
  | closeRemoveMessages hpc' =>
    cases hpc.symm.trans hpc'
    have hcount : (s.removeMessages id).messages.countP (·.checks = some id) = 0 := by
      rw [List.countP_eq_zero]
      intro message hmem
      have hkept := (List.mem_filter.mp hmem).2
      cases message <;> simp_all [Message.checks]
    have hunhandled : ((s.removeMessages id).binderAt (.closeReset id)).looper.handles ≠ some id :=
      hunhandled
    rw [staleChecks, if_neg hunhandled]
    exact hcount
  | createAdd hpc' | createBoost hpc' | pauseStore hpc' | resumeBoost hpc' | reportTimer hpc'
  | closeReset hpc' | closeUnregister hpc' | reportBoosts hpc' | reportKeeps hpc'
  | reportBoost hpc' | post hpc' => cases hpc.symm.trans hpc'

theorem closedUnchecked_binderStep (h : ClosedUnchecked s)
    (hallowed : LeavesNoCheck s .binder) (hstep : BinderStep p s s') : ClosedUnchecked s' := by
  intro id hclosed _
  rw [sessionClosed_binderStep hstep] at hclosed
  by_cases hremove : s.binder = .closeRemoveMessages id
  · have hunhandled : s.looper.handles ≠ some id := by
      rw [LeavesNoCheck, hremove] at hallowed
      exact hallowed
    exact staleChecks_removeMessages hremove hunhandled hstep
  · have hzero := h id hclosed hremove
    obtain ⟨hchecks, _⟩ | ⟨⟨output, hpc⟩, _, hchecks⟩ := staleChecks_binderStep hremove hstep
    · rw [hchecks, hzero]
    · have hflag : (s.session id).isMonitoringStale := by
        rw [LeavesNoCheck, hpc] at hallowed
        exact hallowed hclosed
      rw [hchecks, hzero, if_pos hflag]

theorem closedUnchecked_looperStep (h : ClosedUnchecked s) (hstep : LooperStep p s s') :
    ClosedUnchecked s' := by
  intro id hclosed hremove
  rw [sessionClosed_looperStep hstep] at hclosed
  rw [(looperStep_frame hstep).2.2] at hremove
  have hzero := h id hclosed hremove
  obtain ⟨hchecks, _⟩ | ⟨hchecks, _⟩ := staleChecks_looperStep hstep id
  · rw [hchecks, hzero]
  · rw [hzero] at hchecks
    cases hchecks

theorem closedUnchecked_step {event : Event} (h : ClosedUnchecked s)
    (hallowed : LeavesNoCheck s event) (hstep : s.step p event = some s') :
    ClosedUnchecked s' := by
  refine step_preserves ClosedUnchecked hstep h (fun _ => h) ?_ ?_ ?_ ?_
  · exact fun call _ hidle _ _ => closedUnchecked_begin h hidle call
  · rintro rfl hbinder
    exact closedUnchecked_binderStep h hallowed hbinder
  · intro i message looper hidle hmessage hdeliver id hclosed hremove
    rw [staleChecks_dequeue hidle hmessage hdeliver]
    exact h id hclosed hremove
  · exact fun _ hlooper => closedUnchecked_looperStep h hlooper

/-- **No check of a closed session.**  From the removal of its messages on, and so after
`close` has returned, no check of the session is queued or being delivered in any state of
a run in which no handler is at work at the removal and no later report starts the timer. -/
theorem closed_session_unchecked (p : Platform) (s : PowerHal)
    (hrun : Reach (step p) LeavesNoCheck PowerHal.init s) (id : SessionId)
    (hclosed : (s.session id).sessionClosed) (hremoved : s.binder ≠ .closeRemoveMessages id) :
    staleChecks s id = 0 := by
  have hunchecked : ClosedUnchecked s := hrun.invariant ClosedUnchecked nofun
    fun _ _ _ h hallowed hstep => closedUnchecked_step h hallowed hstep
  exact hunchecked id hclosed hremoved

/-- The check is still queued when the session is closed.  The flag stays set, so a report
that comes afterwards starts no check. -/
theorem closed_session_unchecked_report :
    ∃ s, exec (step .default) LeavesNoCheck PowerHal.init
        [.call (.createHintSession [7] 16000000), .binder, .binder,
          .call (.reportActualWorkDuration 0 [20000000]), .binder, .binder, .binder,
          .call (.close 0), .binder, .binder, .binder, .binder,
          .call (.reportActualWorkDuration 0 [20000000]), .binder, .binder] = some s ∧
      (s.session 0).sessionClosed ∧ staleChecks s 0 = 0 := by
  refine ⟨_, rfl, rfl, closed_session_unchecked .default _ (reach_of_exec
    [.call (.createHintSession [7] 16000000), .binder, .binder,
      .call (.reportActualWorkDuration 0 [20000000]), .binder, .binder, .binder,
      .call (.close 0), .binder, .binder, .binder, .binder,
      .call (.reportActualWorkDuration 0 [20000000]), .binder, .binder] rfl) 0 rfl nofun⟩

/-- A report on a closed session queues a check; and a check that is taken out of the queue
before the messages are removed is queued again after `close` has returned. -/
theorem closed_session_checked :
    (∃ s, exec (step .default) Free PowerHal.init
        [.call (.createHintSession [7] 16000000), .binder, .binder,
          .call (.close 0), .binder, .binder, .binder, .binder,
          .call (.reportActualWorkDuration 0 [20000000]), .binder, .binder, .binder] = some s ∧
      (s.session 0).sessionClosed ∧ s.binder = .idle ∧
      .stale 0 320000000 ∈ s.messages) ∧
    ∃ s, exec (step .default) Free PowerHal.init
        [.call (.createHintSession [7] 16000000), .binder, .binder,
          .call (.reportActualWorkDuration 0 [20000000]), .binder, .binder, .binder,
          .tick 320000000, .dequeue 0,
          .call (.close 0), .binder, .binder, .binder, .binder, .looper] = some s ∧
      (s.session 0).sessionClosed ∧ s.binder = .idle ∧
      .stale 0 320000000 ∈ s.messages :=
  ⟨⟨_, rfl, rfl, rfl, by decide⟩, ⟨_, rfl, rfl, rfl, by decide⟩⟩

end Exynos9810.Power
