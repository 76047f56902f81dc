import Exynos9810.Library.Transition
import Exynos9810.Power.PowerHalStep

/-!
# Outstanding stale checks

`updateStaleTimer` sends a stale check and sets `mIsMonitoringStale`; the handler
sends the check again until the session is stale.  An open session that is being
monitored therefore has a check outstanding, and so has a boosted one if every
boost is applied while the session is being monitored.
-/
namespace Exynos9810.Power

open Transition PowerHal

def Message.checks : Message → Option SessionId
  | .stale id _ => some id
  | .manager => none

def Outstanding (s : PowerHal) (id : SessionId) : Prop :=
  (∃ message ∈ s.messages, message.checks = some id) ∨ s.looper.handles = some id

variable {p : Platform} {s s' : PowerHal} {id : SessionId}

theorem outstanding_binderStep (h : Outstanding s id)
    (hremove : s.binder ≠ .closeRemoveMessages id)
    (hstep : BinderStep p s s') : Outstanding s' id := by
  obtain ⟨_, _, _, hlooper⟩ := binderStep_frame hstep
  unfold Outstanding
  rw [hlooper]
  obtain ⟨message, hmem, hchecks⟩ | hhandles := h
  · refine .inl ⟨message, ?_, hchecks⟩
    obtain ⟨sent, hmessages⟩ | ⟨target, hpc, hmessages⟩ := messages_binderStep hstep
    · rw [hmessages]
      exact List.mem_append_left sent hmem
    · have hne : target ≠ id := fun heq => hremove (heq ▸ hpc)
      rw [hmessages]
      refine List.mem_filter.mpr ⟨hmem, ?_⟩
      cases message with
      | stale session uptime =>
        have hsession : session = id := Option.some.inj hchecks
        simpa [hsession] using hne.symm
      | manager => rfl
  · exact .inr hhandles

theorem outstanding_looperStep (h : Outstanding s id) (hclear : s.looper ≠ .staleClear id)
    (hstep : LooperStep p s s') : Outstanding s' id := by
  obtain ⟨message, hmem, hchecks⟩ | hhandles := h
  · obtain ⟨sent, hmessages⟩ := messages_looperStep hstep
    exact .inl ⟨message, hmessages ▸ List.mem_append_left sent hmem, hchecks⟩
  · cases hstep with
    | expired hpc | staleReset hpc | stalePost hpc =>
      rw [hpc] at hhandles
      exact .inr hhandles
    | again hpc =>
      rw [hpc] at hhandles
      exact .inl ⟨_, List.mem_append_right _ (List.mem_singleton_self _), hhandles⟩
    | staleClear hpc =>
      rw [hpc] at hhandles hclear
      exact absurd (congrArg LooperPc.staleClear (Option.some.inj hhandles)) hclear
    | unchanged hpc | changed hpc | managerHint hpc =>
      rw [hpc] at hhandles
      cases hhandles

theorem outstanding_dequeue {i : Nat} {message : Message} {looper : LooperPc}
    (h : Outstanding s id) (hidle : s.looper = .idle) (hmessage : s.messages[i]? = some message)
    (hdeliver : message.deliver s.now = some looper) :
    Outstanding ({ s with messages := s.messages.eraseIdx i }.looperAt looper) id := by
  obtain ⟨found, hmem, hchecks⟩ | hhandles := h
  · obtain rfl | hrest := eq_or_mem_eraseIdx hmessage hmem
    · cases found with
      | stale session uptime =>
        have hdelivered : LooperPc.staleCheck session = looper := by
          change (if _ then some _ else none) = _ at hdeliver
          split at hdeliver
          · exact Option.some.inj hdeliver
          · cases hdeliver
        rw [← hdelivered]
        exact .inr hchecks
      | manager => cases hchecks
    · exact .inl ⟨found, hrest, hchecks⟩
  · rw [hidle] at hhandles
    cases hhandles

theorem outstanding_begin (call : Call) (h : Outstanding s id) :
    Outstanding (s.begin p call) id := by
  obtain ⟨_, _, _, hmessages, hlooper⟩ := begin_frame (p := p) (s := s) call
  unfold Outstanding
  rw [hmessages, hlooper]
  exact h

/-- An open session that is being monitored has a check outstanding. -/
structure Monitored (s : PowerHal) : Prop where
  outstanding : ∀ id, (s.session id).sessionClosed = false →
    (s.session id).isMonitoringStale = true → Outstanding s id
  removing : ∀ id, s.binder = .closeRemoveMessages id → (s.session id).sessionClosed = true

theorem monitored_begin (h : Monitored s) (hidle : s.binder = .idle) (call : Call) :
    Monitored (s.begin p call) := by
  constructor
  · intro id hopen hmonitoring
    have hbefore : (s.session id).sessionClosed = false ∧
        (s.session id).isMonitoringStale = true := by
      cases call <;> grind [begin, PowerHintSession.new]
    exact outstanding_begin call (h.outstanding id hbefore.1 hbefore.2)
  · intro id hpc
    cases call <;> grind [begin]

theorem outstanding_reportTimer {output : Int} (hpc : s.binder = .reportTimer id output)
    (hmonitoring : (s.session id).isMonitoringStale = false) (hstep : BinderStep p s s') :
    Outstanding s' id := by
  cases hstep with
  | reportTimer hpc' =>
    cases hpc.symm.trans hpc'
    obtain ⟨uptime, hmem⟩ := exists_stale_mem_timerMessages (p := p) hmonitoring
    exact .inl ⟨.stale id uptime, List.mem_append_right _ hmem, rfl⟩
  | createAdd hpc' | createBoost hpc' | pauseStore hpc' | resumeBoost hpc'
  | closeRemoveMessages hpc' | closeReset hpc' | closeUnregister hpc' | reportBoosts hpc'
  | reportKeeps hpc' | reportBoost hpc' | post hpc' => cases hpc.symm.trans hpc'

theorem monitored_binderStep (h : Monitored s) (hstep : BinderStep p s s') :
    Monitored s' := by
  constructor
  · intro id hopen hmonitoring
    rw [sessionClosed_binderStep hstep] at hopen
    have hkeep (hbefore : (s.session id).isMonitoringStale = true) : Outstanding s' id := by
      refine outstanding_binderStep (h.outstanding id hopen hbefore) ?_ hstep
      intro hpc
      rw [h.removing id hpc] at hopen
      cases hopen
    obtain ⟨_, heq⟩ | ⟨_, _, heq⟩ | ⟨_, heq⟩ | ⟨output, hpc, _, heq⟩ :=
      session_binderStep hstep id
    · exact hkeep (heq ▸ hmonitoring)
    · rw [heq] at hmonitoring
      exact hkeep hmonitoring
    · rw [heq] at hmonitoring
      exact hkeep hmonitoring
    · cases hbefore : (s.session id).isMonitoringStale with
      | true => exact hkeep hbefore
      | false => exact outstanding_reportTimer hpc hbefore hstep
  · intro id hpc
    have hlater := isFirst_binderStep hstep
    rw [hpc] at hlater
    cases hlater

theorem monitored_looperStep (h : Monitored s) (hstep : LooperStep p s s') :
    Monitored s' := by
  constructor
  · intro id hopen hmonitoring
    rw [sessionClosed_looperStep hstep] at hopen
    obtain ⟨htouches, heq⟩ | ⟨hpc, heq⟩ | ⟨_, heq⟩ := session_looperStep hstep id
    · refine outstanding_looperStep (h.outstanding id hopen (heq ▸ hmonitoring)) ?_ hstep
      intro hpc
      rw [hpc] at htouches
      exact htouches rfl
    · rw [heq] at hmonitoring
      refine outstanding_looperStep (h.outstanding id hopen hmonitoring) ?_ hstep
      rw [hpc]
      nofun
    · rw [heq] at hmonitoring
      cases hmonitoring
  · intro id hpc
    rw [(looperStep_frame hstep).2.2] at hpc
    rw [sessionClosed_looperStep hstep]
    exact h.removing id hpc

theorem monitored_step {event : Event} (h : Monitored s) (hstep : s.step p event = some s') :
    Monitored s' := by
  refine step_preserves Monitored hstep h (fun _ => ⟨h.outstanding, h.removing⟩) ?_ ?_ ?_ ?_
  · exact fun call _ hidle _ _ => monitored_begin h hidle call
  · exact fun _ hbinder => monitored_binderStep h hbinder
  · intro i message looper hidle hmessage hdeliver
    refine ⟨?_, h.removing⟩
    intro id hopen hmonitoring
    exact outstanding_dequeue (h.outstanding id hopen hmonitoring) hidle hmessage hdeliver
  · exact fun _ hlooper => monitored_looperStep h hlooper

theorem monitored_of_reach (hreach : Reach (step p) Free PowerHal.init s) : Monitored s :=
  hreach.invariant Monitored ⟨nofun, nofun⟩ fun _ _ _ h _ hstep => monitored_step h hstep

def BoostChecked (s : PowerHal) (id : SessionId) : Prop :=
  (s.session id).sessionClosed = false → 0 < (s.session id).desc.currentMin → Outstanding s id

/-- A boost of the session is applied while it is being monitored, and the handler
stops monitoring it when it is not boosted. -/
def BoostsMonitored (p : Platform) (id : SessionId) (s : PowerHal) : Event → Prop
  | .binder => ∀ set ∈ s.binder.sets p, set.1 = id → 0 < set.2 →
      (s.session id).isMonitoringStale = true
  | .looper => s.looper = .staleClear id → (s.session id).desc.currentMin ≤ 0
  | _ => True

instance (p : Platform) (id : SessionId) (s : PowerHal) (event : Event) :
    Decidable (BoostsMonitored p id s event) := by
  unfold BoostsMonitored
  split <;> infer_instance

theorem boostChecked_begin (h : BoostChecked s id) (call : Call) :
    BoostChecked (s.begin p call) id := by
  intro hopen hboosted
  have hbefore : (s.session id).sessionClosed = false ∧ 0 < (s.session id).desc.currentMin := by
    cases call <;> grind [begin, PowerHintSession.new, AppHintDesc.new,
      AppHintDesc.restartIntegral, AppHintDesc.updateTargetWorkDuration]
  exact outstanding_begin call (h hbefore.1 hbefore.2)

theorem boostChecked_binderStep (hmonitored : Monitored s) (h : BoostChecked s id)
    (hallowed : BoostsMonitored p id s .binder) (hstep : BinderStep p s s') :
    BoostChecked s' id := by
  intro hopen hboosted
  rw [sessionClosed_binderStep hstep] at hopen
  have hkeep (hbefore : Outstanding s id) : Outstanding s' id := by
    refine outstanding_binderStep hbefore ?_ hstep
    intro hpc
    rw [hmonitored.removing id hpc] at hopen
    cases hopen
  obtain ⟨_, heq⟩ | ⟨min, hsets, heq⟩ | ⟨_, heq⟩ | ⟨_, _, _, heq⟩ := session_binderStep hstep id
  · exact hkeep (h hopen (heq ▸ hboosted))
  · have hpositive : 0 < min := by
      rw [heq] at hboosted
      change 0 < Min.min (Max.max 0 min) maxUclampValue at hboosted
      omega
    exact hkeep (hmonitored.outstanding id hopen (hallowed (id, min) hsets rfl hpositive))
  · rw [heq] at hboosted
    exact hkeep (h hopen hboosted)
  · rw [heq] at hboosted
    exact hkeep (h hopen hboosted)

theorem boostChecked_looperStep (h : BoostChecked s id)
    (hallowed : BoostsMonitored p id s .looper) (hstep : LooperStep p s s') :
    BoostChecked s' id := by
  intro hopen hboosted
  rw [sessionClosed_looperStep hstep] at hopen
  obtain ⟨htouches, heq⟩ | ⟨_, heq⟩ | ⟨hpc, heq⟩ := session_looperStep hstep id
  · refine outstanding_looperStep (h hopen (heq ▸ hboosted)) ?_ hstep
    intro hpc
    rw [hpc] at htouches
    exact htouches rfl
  · rw [heq] at hboosted
    cases hboosted
  · rw [heq] at hboosted
    exact absurd hboosted (not_lt.mpr (hallowed hpc))

theorem boostChecked_step {event : Event} (hmonitored : Monitored s) (h : BoostChecked s id)
    (hallowed : BoostsMonitored p id s event) (hstep : s.step p event = some s') :
    BoostChecked s' id := by
  refine step_preserves (BoostChecked · id) hstep h (fun _ => h) ?_ ?_ ?_ ?_
  · exact fun call _ _ _ _ => boostChecked_begin h call
  · rintro rfl hbinder
    exact boostChecked_binderStep hmonitored h hallowed hbinder
  · intro i message looper hidle hmessage hdeliver hopen hboosted
    exact outstanding_dequeue (h hopen hboosted) hidle hmessage hdeliver
  · rintro rfl hlooper
    exact boostChecked_looperStep h hallowed hlooper

/-- Once a session has no boost without an outstanding check, it has none as long
as its boosts are applied while it is being monitored. -/
theorem boost_stays_checked (p : Platform) (id : SessionId) (s₀ s : PowerHal)
    (hreach : Reach (step p) Free PowerHal.init s₀) (hchecked : BoostChecked s₀ id)
    (hrun : Reach (step p) (BoostsMonitored p id) s₀ s) : BoostChecked s id := by
  have hboth : Monitored s ∧ BoostChecked s id := by
    refine hrun.invariant (fun s => Monitored s ∧ BoostChecked s id)
      ⟨monitored_of_reach hreach, hchecked⟩ ?_
    rintro s event s' ⟨hmonitored, h⟩ hallowed hstep
    exact ⟨monitored_step hmonitored hstep, boostChecked_step hmonitored h hallowed hstep⟩
  exact hboth.2

/-- A session reports and is boosted under the check that the report has started;
the check is still there when it is delivered. -/
theorem boost_stays_checked_report :
    ∃ s₀ s, exec (step .default) Free PowerHal.init
        [.call (.createHintSession [7] 16000000), .binder, .binder,
          .call (.reportActualWorkDuration 0 [20000000]), .binder] = some s₀ ∧
      BoostChecked s₀ 0 ∧
      exec (step .default) (BoostsMonitored .default 0) s₀
        [.binder, .binder, .tick 320000001, .dequeue 0] = some s ∧
      (s.session 0).desc.currentMin = 211 ∧ Outstanding s 0 := by
  refine ⟨_, _, rfl, fun _ _ => .inl ⟨.stale 0 320000000, .head _, rfl⟩, rfl, by decide, ?_⟩
  exact boost_stays_checked .default 0 _ _
    (reach_of_exec [.call (.createHintSession [7] 16000000), .binder, .binder,
      .call (.reportActualWorkDuration 0 [20000000]), .binder] rfl)
    (fun _ _ => .inl ⟨.stale 0 320000000, .head _, rfl⟩)
    (reach_of_exec [.binder, .binder, .tick 320000001, .dequeue 0] rfl) rfl (by decide)

/-- A new session is boosted and nothing is going to check it. -/
theorem boost_unchecked :
    ∃ s, exec (step .default) Free PowerHal.init
        [.call (.createHintSession [7] 16000000), .binder, .binder] = some s ∧
      (s.session 0).sessionClosed = false ∧ (s.session 0).desc.currentMin = 384 ∧
      ¬Outstanding s 0 := by
  refine ⟨_, rfl, rfl, rfl, ?_⟩
  rintro (⟨message, hmem, _⟩ | hhandles)
  · cases hmem
  · cases hhandles

end Exynos9810.Power
