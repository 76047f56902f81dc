import Exynos9810.Power.StaleCheck

/-!
# The activity that the session manager sees

The hint follows `mActive`, which is only brought up to date by manager messages.
Reports, `pause`, `resume`, `close` and stale checks post one whenever they change
the activity of a session; creating a session does not.
-/
namespace Exynos9810.Power

open Transition PowerHal

def Reporting (s : PowerHal) (id : SessionId) : Prop :=
  ∃ output, s.binder = .reportTimer id output

/-- A session that has reported is stale once its check has found it stale, and stays
so until its next report. -/
def Overdue (p : Platform) (s : PowerHal) : Prop :=
  ∀ id, 0 < (s.session id).desc.updateCount →
    ((s.session id).isMonitoringStale = false ∨ s.looper.locks = some id) → ¬Reporting s id →
    (s.session id).getStaleTime p < s.now

variable {p : Platform} {s s' : PowerHal}

theorem overdue_begin (h : Overdue p s) {call : Call} (hidle : s.binder = .idle) :
    Overdue p (s.begin p call) := by
  intro id hreported hstopped hnot
  have hidle' : ¬Reporting s id := by
    rintro ⟨output, hpc⟩
    rw [hidle] at hpc
    cases hpc
  cases call with
  | createHintSession threadIds durationNanos =>
    by_cases hid : id = s.created
    · simp [begin, create, binderAt, hid, PowerHintSession.new, AppHintDesc.new] at hreported
    · have heq : (s.begin p (.createHintSession threadIds durationNanos)).session id =
          s.session id := if_neg hid
      rw [heq] at hreported hstopped ⊢
      exact h id hreported hstopped hidle'
  | reportActualWorkDuration target actualDurations =>
    have hne : id ≠ target := by
      rintro rfl
      exact hnot ⟨_, rfl⟩
    have heq : (s.begin p (.reportActualWorkDuration target actualDurations)).session id =
        s.session id := if_neg hne
    rw [heq] at hreported hstopped ⊢
    exact h id hreported hstopped hidle'
  | pause | resume | close | updateTargetWorkDuration =>
    have hbefore := h id
    grind [begin, AppHintDesc.restartIntegral, AppHintDesc.updateTargetWorkDuration,
      PowerHintSession.getStaleTime]

theorem reporting_binderStep {id : SessionId} (hreporting : Reporting s id)
    (hstep : BinderStep p s s') :
    (s'.session id).isMonitoringStale = true ∧ s.looper.locks ≠ some id := by
  obtain ⟨output, hpc⟩ := hreporting
  have hcases := session_binderStep hstep id
  rw [hpc] at hcases
  obtain ⟨htouches, _⟩ | ⟨_, hsets, _⟩ | ⟨hpause, _⟩ | ⟨_, _, hunlocked, heq⟩ := hcases
  · exact absurd rfl htouches
  · cases hsets
  · cases hpause
  · exact ⟨congrArg (·.isMonitoringStale) heq, hunlocked⟩

theorem timer_binderStep {id : SessionId} (hnot : ¬Reporting s id)
    (hstep : BinderStep p s s') :
    (s'.session id).isMonitoringStale = (s.session id).isMonitoringStale ∧
      (s'.session id).getStaleTime p = (s.session id).getStaleTime p := by
  obtain ⟨_, heq⟩ | ⟨_, _, heq⟩ | ⟨_, heq⟩ | ⟨output, hpc, _, _⟩ := session_binderStep hstep id
  · rw [heq]
    exact ⟨rfl, rfl⟩
  · rw [heq]
    exact ⟨rfl, rfl⟩
  · rw [heq]
    exact ⟨rfl, rfl⟩
  · exact absurd ⟨output, hpc⟩ hnot

theorem updateCount_binderStep (hstep : BinderStep p s s') (id : SessionId) :
    (s'.session id).desc.updateCount = (s.session id).desc.updateCount := by
  obtain ⟨_, heq⟩ | ⟨_, _, heq⟩ | ⟨_, heq⟩ | ⟨_, _, _, heq⟩ := session_binderStep hstep id <;>
    exact congrArg (·.desc.updateCount) heq

theorem overdue_binderStep (h : Overdue p s) (hstep : BinderStep p s s') :
    Overdue p s' := by
  intro id hreported hstopped _
  obtain ⟨hnow, _, _, hlooper⟩ := binderStep_frame hstep
  rw [updateCount_binderStep hstep] at hreported
  rw [hlooper] at hstopped
  by_cases hreporting : Reporting s id
  · obtain ⟨hmonitoring, hunlocked⟩ := reporting_binderStep hreporting hstep
    rw [hmonitoring] at hstopped
    obtain hfalse | hlocked := hstopped
    · cases hfalse
    · exact absurd hlocked hunlocked
  · obtain ⟨hmonitoring, htime⟩ := timer_binderStep hreporting hstep
    rw [hmonitoring] at hstopped
    rw [hnow, htime]
    exact h id hreported hstopped hreporting

/-- The looper thread stops monitoring under the lock, which it takes when the stale
time has passed. -/
theorem timer_looperStep (hstep : LooperStep p s s') (id : SessionId) :
    (s'.session id).getStaleTime p = (s.session id).getStaleTime p ∧
      (s'.session id).desc.updateCount = (s.session id).desc.updateCount ∧
      ((s'.session id).isMonitoringStale = false ∨ s'.looper.locks = some id →
        (s.session id).isMonitoringStale = false ∨ s.looper.locks = some id ∨
          (s.session id).getStaleTime p < s.now) := by
  cases hstep with
  | expired hpc hexpired =>
    refine ⟨rfl, rfl, ?_⟩
    rintro (hstopped | hlocked)
    · exact .inl hstopped
    · cases hlocked
      exact .inr (.inr hexpired)
  | staleReset hpc | stalePost hpc | staleClear hpc =>
    rw [hpc]
    grind [LooperPc.locks, PowerHintSession.getStaleTime]
  | again | unchanged | changed | managerHint =>
    refine ⟨rfl, rfl, ?_⟩
    rintro (hstopped | hlocked)
    · exact .inl hstopped
    · cases hlocked

theorem overdue_looperStep (h : Overdue p s) (hstep : LooperStep p s s') :
    Overdue p s' := by
  intro id hreported hstopped hnot
  obtain ⟨hnow, _, hbinder⟩ := looperStep_frame hstep
  obtain ⟨htime, hcount, hbefore⟩ := timer_looperStep hstep id
  unfold Reporting at hnot
  rw [hbinder] at hnot
  rw [hcount] at hreported
  rw [hnow, htime]
  obtain hstopped | hlocked | hexpired := hbefore hstopped
  · exact h id hreported (.inl hstopped) hnot
  · exact h id hreported (.inr hlocked) hnot
  · exact hexpired

theorem overdue_dequeue {messages : List Message} {message : Message} {looper : LooperPc}
    (h : Overdue p s) (hdeliver : message.deliver s.now = some looper) :
    Overdue p ({ s with messages }.looperAt looper) := by
  intro id hreported hstopped hnot
  have hunlocked : looper.locks = none := by
    cases message <;> grind [Message.deliver, LooperPc.locks]
  obtain hstopped | hlocked := hstopped
  · exact h id hreported (.inl hstopped) hnot
  · change looper.locks = some id at hlocked
    rw [hunlocked] at hlocked
    cases hlocked

theorem overdue_step {event : Event} (h : Overdue p s) (hstep : s.step p event = some s') :
    Overdue p s' := by
  refine step_preserves (Overdue p) hstep h ?_ ?_ ?_ ?_ ?_
  · intro nanos id hreported hstopped hnot
    have hbefore : (s.session id).getStaleTime p < s.now := h id hreported hstopped hnot
    exact lt_of_lt_of_le hbefore (Int.le_add_of_nonneg_right (Int.natCast_nonneg nanos))
  · exact fun _ _ hidle _ _ => overdue_begin h hidle
  · exact fun _ hbinder => overdue_binderStep h hbinder
  · exact fun _ _ _ _ _ hdeliver => overdue_dequeue h hdeliver
  · exact fun _ hlooper => overdue_looperStep h hlooper

def Pending (s : PowerHal) : Prop :=
  .manager ∈ s.messages ∨ s.looper = .managerCheck ∨ s.binder = .post

/-- The session is monitored or will be when its report goes on, or it has never
reported. -/
def Watched (s : PowerHal) (id : SessionId) : Prop :=
  (s.session id).isMonitoringStale = true ∨ (s.session id).desc.updateCount = 0 ∨ Reporting s id

/-- While the manager takes the sessions for active, it is going to look again or
there is an active session that is watched. -/
structure Followed (s : PowerHal) : Prop where
  active : s.mActive = true → Pending s ∨
    ∃ id ∈ s.manager.sessions, (s.session id).desc.isActive = true ∧ Watched s id
  clearing : ∀ id, s.looper = .staleClear id → .manager ∈ s.messages

theorem followed_begin (h : Followed s) {call : Call} (hidle : s.binder = .idle) :
    Followed (s.begin p call) := by
  obtain ⟨hmanager, hmActive, _, hmessages, hlooper⟩ := begin_frame (p := p) (s := s) call
  constructor
  · intro hactive
    rw [hmActive] at hactive
    obtain (hqueued | hhandled | hpost) | ⟨id, hid, hisActive, hwatched⟩ := h.active hactive
    · exact .inl (.inl (hmessages ▸ hqueued))
    · exact .inl (.inr (.inl (hlooper.trans hhandled)))
    · cases hidle.symm.trans hpost
    · refine .inr ⟨id, hmanager ▸ hid, ?_, ?_⟩
      · cases call <;> grind [begin, PowerHintSession.new, AppHintDesc.new,
          AppHintDesc.restartIntegral, AppHintDesc.updateTargetWorkDuration]
      · unfold Watched Reporting at hwatched ⊢
        rw [hidle] at hwatched
        cases call <;> grind [begin, PowerHintSession.new, AppHintDesc.new,
          AppHintDesc.restartIntegral, AppHintDesc.updateTargetWorkDuration]
  · rw [hmessages, hlooper]
    exact h.clearing

theorem manager_mem_binderStep (h : .manager ∈ s.messages)
    (hstep : BinderStep p s s') : .manager ∈ s'.messages := by
  obtain ⟨sent, hmessages⟩ | ⟨target, _, hmessages⟩ := messages_binderStep hstep
  · rw [hmessages]
    exact List.mem_append_left sent h
  · rw [hmessages]
    exact List.mem_filter.mpr ⟨h, rfl⟩

theorem manager_mem_of_post (hpc : s.binder = .post) (hstep : BinderStep p s s') :
    .manager ∈ s'.messages := by
  cases hstep with
  | post => exact List.mem_append_right _ (List.mem_singleton_self _)
  | createAdd hpc' | createBoost hpc' | pauseStore hpc' | resumeBoost hpc'
  | closeRemoveMessages hpc' | closeReset hpc' | closeUnregister hpc' | reportTimer hpc'
  | reportBoosts hpc' | reportKeeps hpc' | reportBoost hpc' => cases hpc.symm.trans hpc'

theorem pending_binderStep (h : Pending s) (hstep : BinderStep p s s') :
    Pending s' := by
  obtain hqueued | hhandled | hpost := h
  · exact .inl (manager_mem_binderStep hqueued hstep)
  · exact .inr (.inl ((binderStep_frame hstep).2.2.2.trans hhandled))
  · exact .inl (manager_mem_of_post hpost hstep)

theorem watched_binderStep {id : SessionId} (h : Watched s id)
    (hstep : BinderStep p s s') : Watched s' id := by
  by_cases hreporting : Reporting s id
  · exact .inl (reporting_binderStep hreporting hstep).1
  · obtain hmonitoring | hcount | hreporting' := h
    · exact .inl ((timer_binderStep hreporting hstep).1.trans hmonitoring)
    · exact .inr (.inl ((updateCount_binderStep hstep id).trans hcount))
    · exact absurd hreporting' hreporting

theorem post_of_pauseStore {id : SessionId} (hpc : s.binder = .pauseStore id)
    (hstep : BinderStep p s s') : s'.binder = .post := by
  cases hstep with
  | pauseStore => rfl
  | createAdd hpc' | createBoost hpc' | resumeBoost hpc' | closeRemoveMessages hpc'
  | closeReset hpc' | closeUnregister hpc' | reportTimer hpc' | reportBoosts hpc'
  | reportKeeps hpc' | reportBoost hpc' | post hpc' => cases hpc.symm.trans hpc'

theorem isActive_binderStep {id : SessionId} (h : (s.session id).desc.isActive = true)
    (hstep : BinderStep p s s') :
    (s'.session id).desc.isActive = true ∨ s'.binder = .post := by
  obtain ⟨_, heq⟩ | ⟨_, _, heq⟩ | ⟨hpc, _⟩ | ⟨_, _, _, heq⟩ := session_binderStep hstep id
  · exact .inl ((congrArg (·.desc.isActive) heq).trans h)
  · exact .inl ((congrArg (·.desc.isActive) heq).trans h)
  · exact .inr (post_of_pauseStore hpc hstep)
  · exact .inl ((congrArg (·.desc.isActive) heq).trans h)

theorem followed_binderStep (h : Followed s) (hstep : BinderStep p s s') :
    Followed s' := by
  obtain ⟨_, hmActive, _, hlooper⟩ := binderStep_frame hstep
  constructor
  · intro hactive
    rw [hmActive] at hactive
    obtain hpending | ⟨id, hid, hisActive, hwatched⟩ := h.active hactive
    · exact .inl (pending_binderStep hpending hstep)
    · obtain hsessions | hpost := sessions_binderStep hstep
      · obtain hisActive' | hpost := isActive_binderStep hisActive hstep
        · exact .inr ⟨id, hsessions hid, hisActive', watched_binderStep hwatched hstep⟩
        · exact .inl (.inr (.inr hpost))
      · exact .inl (.inr (.inr hpost))
  · intro id hpc
    rw [hlooper] at hpc
    exact manager_mem_binderStep (h.clearing id hpc) hstep

theorem followed_dequeue {i : Nat} {message : Message} {looper : LooperPc} (h : Followed s)
    (hidle : s.looper = .idle) (hmessage : s.messages[i]? = some message)
    (hdeliver : message.deliver s.now = some looper) :
    Followed ({ s with messages := s.messages.eraseIdx i }.looperAt looper) := by
  constructor
  · intro hactive
    obtain (hqueued | hhandled | hpost) | hwatched := h.active hactive
    · left
      obtain rfl | hrest := eq_or_mem_eraseIdx hmessage hqueued
      · exact .inr (.inl (Option.some.inj hdeliver).symm)
      · exact .inl hrest
    · rw [hidle] at hhandled
      cases hhandled
    · exact .inl (.inr (.inr hpost))
    · exact .inr hwatched
  · intro id hpc
    cases message <;> grind [Message.deliver]

theorem watched_of_isAnyActive (hoverdue : Overdue p s) (h : s.isAnyActive p = true) :
    ∃ id ∈ s.manager.sessions, (s.session id).desc.isActive = true ∧ Watched s id := by
  obtain ⟨id, hid, hisActive, hfresh⟩ := of_decide_eq_true h
  refine ⟨id, hid, hisActive, ?_⟩
  by_contra hnot
  obtain ⟨hmonitoring, hcount, hreporting⟩ := not_or.mp hnot |>.imp_right not_or.mp
  have hstale := hoverdue id (Nat.pos_of_ne_zero hcount) (.inl (by simpa using hmonitoring))
    hreporting
  simp [PowerHintSession.isStale, hstale.le] at hfresh

theorem watched_looperStep {id : SessionId} (h : Watched s id)
    (hclear : s.looper ≠ .staleClear id) (hstep : LooperStep p s s') :
    Watched s' id := by
  unfold Watched Reporting
  rw [(looperStep_frame hstep).2.2]
  obtain ⟨_, heq⟩ | ⟨_, heq⟩ | ⟨hpc, _⟩ := session_looperStep hstep id
  · rw [heq]
    exact h
  · rw [heq]
    exact h
  · exact absurd hpc hclear

theorem isActive_looperStep (hstep : LooperStep p s s') (id : SessionId) :
    (s'.session id).desc.isActive = (s.session id).desc.isActive := by
  obtain ⟨_, heq⟩ | ⟨_, heq⟩ | ⟨_, heq⟩ := session_looperStep hstep id <;>
    exact congrArg (·.desc.isActive) heq

theorem clearing_looperStep {id : SessionId} (hstep : LooperStep p s s')
    (hpc : s'.looper = .staleClear id) : .manager ∈ s'.messages := by
  cases hstep with
  | stalePost => exact List.mem_append_right _ (List.mem_singleton_self _)
  | _ => cases hpc

theorem followed_looperStep (hoverdue : Overdue p s) (h : Followed s)
    (hstep : LooperStep p s s') : Followed s' := by
  obtain ⟨_, hmanager, hbinder⟩ := looperStep_frame hstep
  obtain ⟨sent, hmessages⟩ := messages_looperStep hstep
  have hqueue (hqueued : .manager ∈ s.messages) : Pending s' :=
    .inl (hmessages ▸ List.mem_append_left sent hqueued)
  refine ⟨?_, fun id hpc => clearing_looperStep hstep hpc⟩
  intro hactive
  rw [mActive_looperStep hstep] at hactive
  have hbefore : (.manager ∈ s.messages ∨ s.binder = .post) ∨
      ∃ id ∈ s.manager.sessions, (s.session id).desc.isActive = true ∧ Watched s id := by
    split at hactive
    · exact .inr (watched_of_isAnyActive hoverdue hactive)
    · rename_i hcheck
      obtain (hqueued | hhandled | hpost) | hwatched := h.active hactive
      · exact .inl (.inl hqueued)
      · exact absurd hhandled hcheck
      · exact .inl (.inr hpost)
      · exact .inr hwatched
  obtain (hqueued | hpost) | ⟨id, hid, hisActive, hwatched⟩ := hbefore
  · exact .inl (hqueue hqueued)
  · exact .inl (.inr (.inr (hbinder.trans hpost)))
  · by_cases hclear : s.looper = .staleClear id
    · exact .inl (hqueue (h.clearing id hclear))
    · exact .inr ⟨id, hmanager ▸ hid, (isActive_looperStep hstep id).trans hisActive,
        watched_looperStep hwatched hclear hstep⟩

theorem followed_step {event : Event} (hoverdue : Overdue p s) (h : Followed s)
    (hstep : s.step p event = some s') : Followed s' := by
  refine step_preserves Followed hstep h (fun _ => ⟨h.active, h.clearing⟩) ?_ ?_ ?_ ?_
  · exact fun _ _ hidle _ _ => followed_begin h hidle
  · exact fun _ hbinder => followed_binderStep h hbinder
  · exact fun _ _ _ hidle hmessage hdeliver => followed_dequeue h hidle hmessage hdeliver
  · exact fun _ hlooper => followed_looperStep hoverdue h hlooper

end Exynos9810.Power
