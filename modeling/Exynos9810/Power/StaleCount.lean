import Exynos9810.Power.StaleCheck

/-!
# One stale check at a time

A report starts a stale check only if none is under way, and the handler ends the check or
passes it on.  So an open session has one check queued or being delivered while it is
monitored, and none otherwise.
-/
namespace Exynos9810.Power

open Transition PowerHal

/-- The stale checks of a session that are queued, and the one that has been taken out of
the queue and is not handled yet. -/
def staleChecks (s : PowerHal) (id : SessionId) : Nat :=
  s.messages.countP (·.checks = some id) + if s.looper.handles = some id then 1 else 0

/-- The flag counts the checks of an open session.  Entries that are not in use are open
and not monitored. -/
structure ChecksCounted (s : PowerHal) : Prop where
  counted : ∀ id, (s.session id).sessionClosed = false →
    staleChecks s id = if (s.session id).isMonitoringStale then 1 else 0
  fresh : ∀ id, s.created ≤ id →
    (s.session id).sessionClosed = false ∧ (s.session id).isMonitoringStale = false
  reporting : ∀ id output, s.binder = .reportTimer id output → id < s.created

variable {p : Platform} {s s' : PowerHal} {id : SessionId}

section Counts

theorem countP_eraseIdx {messages : List Message} {i : Nat} {message : Message}
    (hmessage : messages[i]? = some message) (id : SessionId) :
    messages.countP (·.checks = some id) =
      (messages.eraseIdx i).countP (·.checks = some id) +
        if message.checks = some id then 1 else 0 := by
  obtain ⟨hlength, hget⟩ := List.getElem?_eq_some_iff.mp hmessage
  rw [← (List.getElem_cons_eraseIdx_perm hlength).countP_eq, List.countP_cons, hget]
  simp

theorem countP_removeMessages {target : SessionId} (hne : id ≠ target) :
    (s.removeMessages target).messages.countP (·.checks = some id) =
      s.messages.countP (·.checks = some id) := by
  simp only [removeMessages, List.countP_filter]
  apply List.countP_congr
  intro message _
  cases message with
  | stale session uptime =>
    simp only [Message.checks, Option.some.injEq, decide_eq_true_eq, Bool.and_eq_true,
      ne_eq, decide_not, Bool.not_eq_eq_eq_not, Bool.not_true, decide_eq_false_iff_not]
    constructor
    · exact fun h => h.1
    · rintro rfl
      exact ⟨rfl, hne⟩
  | manager => simp [Message.checks]

theorem countP_timerMessages (target : SessionId) :
    (s.timerMessages p target).countP (·.checks = some id) =
      if id = target ∧ (s.session target).isMonitoringStale = false then 1 else 0 := by
  unfold timerMessages
  cases hmonitoring : (s.session target).isMonitoringStale with
  | true => split <;> simp [Message.checks]
  | false =>
    by_cases hid : id = target
    · split <;> simp [Message.checks, hid]
    · split <;> simp [Message.checks, hid, Ne.symm hid]

end Counts

theorem counted_begin (h : ChecksCounted s) (call : Call)
    (hknown : ∀ id ∈ call.session, id < s.created) (hidle : s.binder = .idle) :
    ChecksCounted (s.begin p call) := by
  obtain ⟨_, _, _, hmessages, hlooper⟩ := begin_frame (p := p) (s := s) call
  refine ⟨?_, ?_, ?_⟩
  · intro id hopen
    have hcounted := h.counted id
    have hfresh := h.fresh id
    unfold staleChecks at hcounted ⊢
    rw [hmessages, hlooper]
    cases call <;> grind [begin, PowerHintSession.new]
  · intro id hid
    have hold : s.created ≤ id := le_trans (created_le_begin call) hid
    have hfresh := h.fresh id hold
    have hne : call.session ≠ some id := fun heq => absurd (hknown id heq) (not_lt.mpr hold)
    cases call <;> grind [begin, PowerHintSession.new, Call.session]
  · intro id output hpc
    cases call with
    | reportActualWorkDuration target actualDurations =>
      cases hpc
      exact hknown id rfl
    | updateTargetWorkDuration target new =>
      change s.binder = _ at hpc
      rw [hidle] at hpc
      cases hpc
    | _ => cases hpc

/-- A statement of the binder thread leaves the checks and the flag of a session alone, or
it is the timer of a report: the flag is set then, and a check is sent if it was not. -/
theorem staleChecks_binderStep (hremove : s.binder ≠ .closeRemoveMessages id)
    (hstep : BinderStep p s s') :
    staleChecks s' id = staleChecks s id ∧
        (s'.session id).isMonitoringStale = (s.session id).isMonitoringStale ∨
      (∃ output, s.binder = .reportTimer id output) ∧
        (s'.session id).isMonitoringStale = true ∧
        staleChecks s' id =
          staleChecks s id + if (s.session id).isMonitoringStale then 0 else 1 := by
  unfold staleChecks
  cases hstep with
  | createAdd | reportBoosts | reportKeeps | closeUnregister => exact .inl ⟨rfl, rfl⟩
  | createBoost | resumeBoost | closeReset | reportBoost | pauseStore =>
    exact .inl ⟨rfl, by grind⟩
  | post =>
    refine .inl ⟨?_, rfl⟩
    change List.countP _ (s.messages ++ [.manager]) + _ = _
    rw [List.countP_append]
    rfl
  | @closeRemoveMessages target hpc =>
    have hne : id ≠ target := fun heq => hremove (heq ▸ hpc)
    refine .inl ⟨?_, rfl⟩
    change List.countP _ (s.removeMessages target).messages + _ = _
    rw [countP_removeMessages hne]
    rfl
  | @reportTimer target output hpc =>
    simp only [binderAt, timerRestarted, session_update, List.countP_append,
      countP_timerMessages]
    by_cases hid : id = target
    · refine .inr ⟨⟨output, hid ▸ hpc⟩, by simp [hid], ?_⟩
      cases hmonitoring : (s.session id).isMonitoringStale with
      | true => simp [← hid, hmonitoring, update]
      | false =>
        simp only [← hid, hmonitoring, update, and_self, if_true, Bool.false_eq_true, if_false]
        exact Nat.add_right_comm _ _ _
    · exact .inl ⟨by simp [hid, update], by simp [hid]⟩

theorem counted_binderStep (hmonitored : Monitored s) (h : ChecksCounted s)
    (hstep : BinderStep p s s') : ChecksCounted s' := by
  refine ⟨?_, ?_, ?_⟩
  · intro id hopen
    rw [sessionClosed_binderStep hstep] at hopen
    have hcounted := h.counted id hopen
    have hremove : s.binder ≠ .closeRemoveMessages id := by
      intro hpc
      rw [hmonitored.removing id hpc] at hopen
      cases hopen
    obtain ⟨hchecks, hflag⟩ | ⟨_, hflag, hchecks⟩ := staleChecks_binderStep hremove hstep
    · rw [hchecks, hflag]
      exact hcounted
    · rw [hchecks, hflag, hcounted]
      cases (s.session id).isMonitoringStale <;> rfl
  · intro id hid
    rw [created_binderStep hstep] at hid
    rw [sessionClosed_binderStep hstep]
    obtain ⟨hclosed, hflag⟩ := h.fresh id hid
    refine ⟨hclosed, ?_⟩
    obtain ⟨_, heq⟩ | ⟨_, _, heq⟩ | ⟨_, heq⟩ | ⟨output, hpc, _⟩ := session_binderStep hstep id
    · rw [heq]
      exact hflag
    · rw [heq]
      exact hflag
    · rw [heq]
      exact hflag
    · exact absurd (h.reporting id output hpc) (not_lt.mpr hid)
  · intro id output hpc
    have hlater := isFirst_binderStep hstep
    rw [hpc] at hlater
    cases hlater

theorem staleChecks_looperStep (hstep : LooperStep p s s') (id : SessionId) :
    staleChecks s' id = staleChecks s id ∧
        (s'.session id).isMonitoringStale = (s.session id).isMonitoringStale ∨
      staleChecks s id = staleChecks s' id + 1 ∧
        (s'.session id).isMonitoringStale = false := by
  unfold staleChecks
  cases hstep with
  | expired hpc =>
    rw [hpc]
    exact .inl ⟨rfl, rfl⟩
  | again hpc =>
    rw [hpc]
    refine .inl ⟨?_, rfl⟩
    change List.countP _ (s.messages ++ [_]) + 0 = _
    rw [List.countP_append, List.countP_singleton]
    simp [Message.checks, LooperPc.handles]
  | staleReset hpc =>
    rw [hpc]
    exact .inl ⟨rfl, by grind⟩
  | stalePost hpc =>
    rw [hpc]
    refine .inl ⟨?_, rfl⟩
    change List.countP _ (s.messages ++ [.manager]) + _ = _
    rw [List.countP_append]
    rfl
  | @staleClear target hpc =>
    rw [hpc]
    by_cases hid : id = target
    · exact .inr ⟨by simp [hid, LooperPc.handles, looperAt, update], by simp [hid, looperAt]⟩
    · refine .inl ⟨?_, by simp [hid, looperAt]⟩
      simp [Ne.symm hid, LooperPc.handles, looperAt, update]
  | unchanged hpc | changed hpc | managerHint hpc =>
    rw [hpc]
    exact .inl ⟨rfl, rfl⟩

theorem counted_looperStep (h : ChecksCounted s) (hstep : LooperStep p s s') :
    ChecksCounted s' := by
  have hcreated := created_looperStep hstep
  refine ⟨?_, ?_, ?_⟩
  · intro id hopen
    rw [sessionClosed_looperStep hstep] at hopen
    have hcounted := h.counted id hopen
    obtain ⟨hchecks, hflag⟩ | ⟨hchecks, hflag⟩ := staleChecks_looperStep hstep id
    · rw [hchecks, hflag]
      exact hcounted
    · rw [hflag]
      rw [hchecks] at hcounted
      split at hcounted
      · exact Nat.succ.inj hcounted
      · cases hcounted
  · intro id hid
    rw [hcreated] at hid
    rw [sessionClosed_looperStep hstep]
    obtain ⟨hclosed, hflag⟩ := h.fresh id hid
    refine ⟨hclosed, ?_⟩
    obtain ⟨_, hsame⟩ | ⟨_, hcleared⟩ := staleChecks_looperStep hstep id
    · rw [hsame]
      exact hflag
    · exact hcleared
  · intro id output hpc
    rw [(looperStep_frame hstep).2.2] at hpc
    rw [hcreated]
    exact h.reporting id output hpc

theorem staleChecks_dequeue {i : Nat} {message : Message} {looper : LooperPc}
    (hidle : s.looper = .idle) (hmessage : s.messages[i]? = some message)
    (hdeliver : message.deliver s.now = some looper) (id : SessionId) :
    staleChecks ({ s with messages := s.messages.eraseIdx i }.looperAt looper) id =
      staleChecks s id := by
  have hhandles : looper.handles = message.checks := by
    cases message with
    | stale session uptime =>
      change (if _ then some _ else none) = _ at hdeliver
      split at hdeliver
      · cases hdeliver
        rfl
      · cases hdeliver
    | manager =>
      cases hdeliver
      rfl
  unfold staleChecks
  rw [countP_eraseIdx hmessage id, hidle, ← hhandles]
  rfl

theorem counted_step {event : Event} (hmonitored : Monitored s) (h : ChecksCounted s)
    (hstep : s.step p event = some s') : ChecksCounted s' := by
  refine step_preserves ChecksCounted hstep h (fun _ => ⟨h.counted, h.fresh, h.reporting⟩)
    ?_ ?_ ?_ ?_
  · exact fun call _ hidle hknown _ => counted_begin h call hknown hidle
  · exact fun _ hbinder => counted_binderStep hmonitored h hbinder
  · intro i message looper hidle hmessage hdeliver
    refine ⟨?_, h.fresh, h.reporting⟩
    intro id hopen
    rw [staleChecks_dequeue hidle hmessage hdeliver]
    exact h.counted id hopen
  · exact fun _ hlooper => counted_looperStep h hlooper

/-- **Stale checks.**  An open session never has more than one check queued or taken out of
the queue, and outside the body of the handler it has one exactly while it is monitored. -/
theorem one_stale_check (p : Platform) (s : PowerHal)
    (hrun : Reach (step p) Free PowerHal.init s) (id : SessionId)
    (hopen : (s.session id).sessionClosed = false) :
    staleChecks s id ≤ 1 ∧
      (s.looper.locks ≠ some id →
        (staleChecks s id = 1 ↔ (s.session id).isMonitoringStale = true)) := by
  have hboth : Monitored s ∧ ChecksCounted s := by
    refine hrun.invariant (fun s => Monitored s ∧ ChecksCounted s) ?_ ?_
    · exact ⟨⟨nofun, nofun⟩, ⟨fun _ _ => rfl, fun _ _ => ⟨rfl, rfl⟩, nofun⟩⟩
    · rintro s event s' ⟨hmonitored, h⟩ _ hstep
      exact ⟨monitored_step hmonitored hstep, counted_step hmonitored h hstep⟩
  rw [hboth.2.counted id hopen]
  cases (s.session id).isMonitoringStale <;> simp

/-- A second report comes between the delivery of a check and its handling; the handler
passes the check on and the report has not sent another. -/
theorem one_stale_check_between :
    ∃ s, exec (step .default) Free PowerHal.init
        [.call (.createHintSession [7] 16000000), .binder, .binder,
          .call (.reportActualWorkDuration 0 [20000000]), .binder, .binder, .binder,
          .tick 320000000, .dequeue 0,
          .call (.reportActualWorkDuration 0 [20000000]), .binder, .binder, .looper] = some s ∧
      s.messages = [.stale 0 640000000] ∧ staleChecks s 0 ≤ 1 ∧
      (s.looper.locks ≠ some 0 →
        (staleChecks s 0 = 1 ↔ (s.session 0).isMonitoringStale = true)) := by
  refine ⟨_, rfl, rfl, one_stale_check .default _ (reach_of_exec
    [.call (.createHintSession [7] 16000000), .binder, .binder,
      .call (.reportActualWorkDuration 0 [20000000]), .binder, .binder, .binder,
      .tick 320000000, .dequeue 0,
      .call (.reportActualWorkDuration 0 [20000000]), .binder, .binder, .looper] rfl) 0 rfl⟩

end Exynos9810.Power
