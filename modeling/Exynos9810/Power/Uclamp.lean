import Exynos9810.Library.History
import Exynos9810.Power.ApplyStep
import Exynos9810.Power.Closed

namespace Exynos9810.Power

open AppHintDesc PowerHal Transition

def BinderPc.constructs : BinderPc → Option SessionId
  | .createAdd id => some id
  | .createBoost id => some id
  | _ => none

/-- The `sched_util_min` that the session has last requested for a thread. -/
def PowerHintSession.lastRequested (session : PowerHintSession) (tid : Tid) : Option Int :=
  History.lastSet (session.schedAttrs.map fun attr => (attr.tid, attr.utilMin)) tid

def Tunables.InLimits (t : Tunables) (min : Int) : Prop :=
  t.uclampMinLowLimit ≤ min ∧ min ≤ t.uclampMinHighLimit

def PowerHintSession.Requested (session : PowerHintSession) : Prop :=
  ∀ tid ∈ session.desc.threadIds, session.lastRequested tid = some session.desc.currentMin

section Session

variable {p : Platform} {session : PowerHintSession}

theorem requested_setUclamp (min : Int) : (session.setUclamp min maxUclampValue).Requested := by
  intro tid (htid : tid ∈ session.desc.threadIds)
  have hmap : ((session.setUclamp min maxUclampValue).schedAttrs.map
      fun attr => (attr.tid, attr.utilMin)) =
      (session.schedAttrs.map fun attr => (attr.tid, attr.utilMin)) ++
        session.desc.threadIds.map fun tid =>
          (tid, (session.setUclamp min maxUclampValue).desc.currentMin) := by
    simp [PowerHintSession.setUclamp]
  rw [PowerHintSession.lastRequested, hmap, History.lastSet_append_map, if_pos htid]

theorem currentMin_of_inLimits (hordered : p.UclampOrdered) {min : Int} (h : p.InLimits min) :
    (session.setUclamp min maxUclampValue).desc.currentMin = min := by
  have hlow := hordered.low_nonneg
  have hhigh := hordered.high_le_max
  obtain ⟨hmin, hmax⟩ := h
  change Min.min (Max.max 0 min) maxUclampValue = min
  omega

theorem inLimits_nextMin (hordered : p.UclampOrdered) {desc : AppHintDesc} {output next : Int}
    (h : desc.nextMin p output = some next) : p.InLimits next := by
  unfold nextMin at h
  dsimp only at h
  split_ifs at h
  cases h
  exact ⟨le_max_left _ _, clamp_le_high hordered (toInt32 output)⟩

end Session

/-- The clamp is off or between the limits, and off while the session is paused. -/
structure PowerHintSession.Clamped (p : Platform) (session : PowerHintSession) : Prop where
  limits : session.desc.currentMin = 0 ∨ p.InLimits session.desc.currentMin
  inactive : session.desc.isActive = false → session.desc.currentMin = 0

structure Uclamped (p : Platform) (s : PowerHal) : Prop where
  clamped : ∀ id, (s.session id).Clamped p
  requested : ∀ id < s.created, s.binder.constructs ≠ some id → (s.session id).Requested
  pausing : ∀ id, s.binder = .pauseStore id → (s.session id).desc.currentMin = 0
  boosting : ∀ id, s.binder.boosts = some id → (s.session id).desc.isActive = true
  next : ∀ id min, s.binder = .reportBoost id min → p.InLimits min

variable {p : Platform} {s s' : PowerHal}

theorem clamped_reset (session : PowerHintSession) :
    (session.setUclamp 0 maxUclampValue).Clamped p :=
  ⟨.inl rfl, fun _ => rfl⟩

section Begin

theorem session_begin (call : Call) (id : SessionId) :
    (((s.begin p call).session id).desc.currentMin = (s.session id).desc.currentMin ∧
        ((s.begin p call).session id).schedAttrs = (s.session id).schedAttrs ∧
        ((s.begin p call).session id).desc.threadIds = (s.session id).desc.threadIds ∧
        ((s.session id).desc.isActive = true →
          ((s.begin p call).session id).desc.isActive = true)) ∨
      (s.begin p call).session id = (s.session id).setUclamp 0 maxUclampValue ∨
      (id = s.created ∧ (s.begin p call).binder.constructs = some id ∧
        ((s.begin p call).session id).desc.currentMin = 0) := by
  cases call with
  | createHintSession threadIds durationNanos =>
    by_cases hid : id = s.created
    · refine .inr (.inr ⟨hid, by rw [hid]; rfl, ?_⟩)
      simp [begin, create, binderAt, hid, PowerHintSession.new, AppHintDesc.new]
    · have heq : (s.begin p (.createHintSession threadIds durationNanos)).session id =
          s.session id := if_neg hid
      rw [heq]
      exact .inl ⟨rfl, rfl, rfl, fun hactive => hactive⟩
  | pause target =>
    by_cases htarget : id = target
    · exact .inr (.inl (if_pos htarget))
    · have heq : (s.begin p (.pause target)).session id = s.session id := if_neg htarget
      rw [heq]
      exact .inl ⟨rfl, rfl, rfl, fun hactive => hactive⟩
  | resume | close | updateTargetWorkDuration | reportActualWorkDuration =>
    refine .inl ?_
    grind [begin, AppHintDesc.restartIntegral, AppHintDesc.updateTargetWorkDuration]

theorem clamped_begin (h : Uclamped p s) (call : Call) (id : SessionId) :
    ((s.begin p call).session id).Clamped p := by
  obtain ⟨hmin, _, _, hactive⟩ | heq | ⟨_, _, hzero⟩ := session_begin (p := p) (s := s) call id
  · constructor
    · rw [hmin]
      exact (h.clamped id).limits
    · intro hinactive
      rw [hmin]
      apply (h.clamped id).inactive
      by_contra hnot
      rw [hactive (by simpa using hnot)] at hinactive
      cases hinactive
  · rw [heq]
    exact clamped_reset _
  · exact ⟨.inl hzero, fun _ => hzero⟩

theorem requested_begin (hidle : s.binder = .idle) (h : Uclamped p s) {call : Call}
    {id : SessionId} (hid : id < (s.begin p call).created)
    (hconstructs : (s.begin p call).binder.constructs ≠ some id) :
    ((s.begin p call).session id).Requested := by
  obtain ⟨hmin, hattrs, hthreads, _⟩ | heq | ⟨_, hconstructed, _⟩ :=
    session_begin (p := p) (s := s) call id
  · have hbefore : (s.session id).Requested := by
      apply h.requested id
      · cases call with
        | createHintSession =>
          have hne : id ≠ s.created := fun heq => hconstructs (congrArg some heq.symm)
          exact Nat.lt_of_le_of_ne (Nat.le_of_lt_succ hid) hne
        | _ => exact hid
      · rw [hidle]
        nofun
    unfold PowerHintSession.Requested PowerHintSession.lastRequested
    rw [hmin, hattrs, hthreads]
    exact hbefore
  · rw [heq]
    exact requested_setUclamp 0
  · exact absurd hconstructed hconstructs

theorem uclamped_begin (hidle : s.binder = .idle) (h : Uclamped p s) {call : Call}
    (haccepted : s.refusal p call = none) : Uclamped p (s.begin p call) := by
  refine ⟨clamped_begin h call, fun id => requested_begin hidle h, ?_, ?_, ?_⟩
  · intro id hpc
    cases call <;> grind [begin, maxUclampValue]
  · intro id hboosts
    cases call with
    | createHintSession threadIds durationNanos =>
      cases hboosts
      simp [begin, create, binderAt, PowerHintSession.new, AppHintDesc.new]
    | resume target =>
      cases hboosts
      simp [begin, updateDesc, binderAt, AppHintDesc.restartIntegral]
    | reportActualWorkDuration target actualDurations =>
      cases hboosts
      have hactive : (s.session id).desc.isActive = true := by
        simp only [refusal, reportRefusal] at haccepted
        split_ifs at haccepted
        simp_all
      simpa [begin, updateDesc, binderAt] using hactive
    | updateTargetWorkDuration target new =>
      change s.binder.boosts = some id at hboosts
      rw [hidle] at hboosts
      cases hboosts
    | pause | close => cases hboosts
  · intro id min hpc
    cases call with
    | updateTargetWorkDuration target new =>
      change s.binder = _ at hpc
      rw [hidle] at hpc
      cases hpc
    | _ => cases hpc

end Begin

theorem sets_cases (hordered : p.UclampOrdered) (h : Uclamped p s) {id : SessionId} {min : Int}
    (hsets : s.binder.sets p = some (id, min)) :
    min = 0 ∨ p.InLimits min ∧ (s.session id).desc.isActive = true := by
  cases hpc : s.binder with rw [hpc] at hsets
  | createBoost target | resumeBoost target =>
    cases hsets
    exact .inr ⟨⟨hordered.low_le_high, le_rfl⟩, h.boosting id (by rw [hpc]; rfl)⟩
  | closeReset target =>
    cases hsets
    exact .inl rfl
  | reportBoost target next =>
    cases hsets
    exact .inr ⟨h.next id min hpc, h.boosting id (by rw [hpc]; rfl)⟩
  | _ => cases hsets

theorem clamped_setUclamp (hordered : p.UclampOrdered) {session : PowerHintSession} {min : Int}
    (h : min = 0 ∨ p.InLimits min ∧ session.desc.isActive = true) :
    (session.setUclamp min maxUclampValue).Clamped p := by
  obtain rfl | ⟨hlimits, hactive⟩ := h
  · exact clamped_reset session
  · constructor
    · rw [currentMin_of_inLimits hordered hlimits]
      exact .inr hlimits
    · intro hinactive
      change session.desc.isActive = false at hinactive
      rw [hactive] at hinactive
      cases hinactive

theorem constructs_binderStep (hstep : BinderStep p s s') {id : SessionId}
    (h : s.binder.constructs = some id) :
    s'.binder.constructs = some id ∨ s.binder.sets p = some (id, p.uclampMinHighLimit) := by
  cases hstep with
  | createAdd hpc =>
    rw [hpc] at h
    exact .inl h
  | createBoost hpc =>
    rw [hpc] at h ⊢
    cases h
    exact .inr rfl
  | pauseStore hpc | resumeBoost hpc | closeRemoveMessages hpc | closeReset hpc
  | closeUnregister hpc | reportTimer hpc | reportBoosts hpc | reportKeeps hpc | reportBoost hpc
  | post hpc =>
    rw [hpc] at h
    cases h

theorem boosts_binderStep (hstep : BinderStep p s s') {id : SessionId}
    (h : s'.binder.boosts = some id) :
    s.binder.boosts = some id := by
  cases hstep with
  | createAdd hpc | reportTimer hpc | reportBoosts hpc =>
    rw [hpc]
    exact h
  | createBoost | pauseStore | resumeBoost | closeRemoveMessages | closeReset | closeUnregister
  | reportKeeps | reportBoost | post => cases h

theorem requested_binderStep (h : Uclamped p s) (hstep : BinderStep p s s') {id : SessionId}
    (hid : id < s'.created) (hconstructs : s'.binder.constructs ≠ some id) :
    (s'.session id).Requested := by
  have hbefore (hnot : s.binder.sets p ≠ some (id, p.uclampMinHighLimit)) :
      (s.session id).Requested := by
    refine h.requested id (created_binderStep hstep ▸ hid) ?_
    intro hconstructed
    obtain hstill | hsets := constructs_binderStep hstep hconstructed
    · exact hconstructs hstill
    · exact hnot hsets
  obtain ⟨htouches, heq⟩ | ⟨_, _, heq⟩ | ⟨hpc, heq⟩ | ⟨_, hpc, _, heq⟩ :=
    session_binderStep hstep id
  · rw [heq]
    apply hbefore
    intro hsets
    cases hpc : s.binder <;> simp_all [BinderPc.sets, BinderPc.touches]
  · rw [heq]
    exact requested_setUclamp _
  · rw [heq]
    exact hbefore (by rw [hpc]; nofun)
  · rw [heq]
    exact hbefore (by rw [hpc]; nofun)

theorem uclamped_binderStep (hordered : p.UclampOrdered) (h : Uclamped p s)
    (hstep : BinderStep p s s') : Uclamped p s' := by
  refine ⟨?_, fun id => requested_binderStep h hstep, ?_, ?_, ?_⟩
  · intro id
    obtain ⟨_, heq⟩ | ⟨_, hsets, heq⟩ | ⟨hpc, heq⟩ | ⟨_, _, _, heq⟩ := session_binderStep hstep id
    · rw [heq]
      exact h.clamped id
    · rw [heq]
      exact clamped_setUclamp hordered (sets_cases hordered h hsets)
    · rw [heq]
      exact ⟨.inl (h.pausing id hpc), fun _ => h.pausing id hpc⟩
    · rw [heq]
      exact ⟨(h.clamped id).limits, (h.clamped id).inactive⟩
  · intro id hpc
    have hlater := isFirst_binderStep hstep
    rw [hpc] at hlater
    cases hlater
  · intro id hboosts
    have hbefore := boosts_binderStep hstep hboosts
    have hactive := h.boosting id hbefore
    obtain ⟨_, heq⟩ | ⟨_, _, heq⟩ | ⟨hpc, _⟩ | ⟨_, _, _, heq⟩ := session_binderStep hstep id
    · rw [heq]
      exact hactive
    · rw [heq]
      exact hactive
    · rw [hpc] at hbefore
      cases hbefore
    · rw [heq]
      exact hactive
  · intro id min hpc
    cases hstep with
    | reportBoosts _ hnext =>
      cases hpc
      exact inLimits_nextMin hordered hnext
    | _ => cases hpc

theorem uclamped_looperStep (h : Uclamped p s) (hstep : LooperStep p s s') : Uclamped p s' := by
  obtain ⟨_, _, hbinder⟩ := looperStep_frame hstep
  have hcreated := created_looperStep hstep
  -- The handler takes the clamp off or leaves it.
  have hsession (id : SessionId) :
      s'.session id = (s.session id).setUclamp 0 maxUclampValue ∨
        (s'.session id).desc = (s.session id).desc ∧
          (s'.session id).schedAttrs = (s.session id).schedAttrs := by
    obtain ⟨_, heq⟩ | ⟨_, heq⟩ | ⟨_, heq⟩ := session_looperStep hstep id
    · exact .inr ⟨congrArg (·.desc) heq, congrArg (·.schedAttrs) heq⟩
    · exact .inl heq
    · exact .inr ⟨congrArg (·.desc) heq, congrArg (·.schedAttrs) heq⟩
  refine ⟨?_, ?_, ?_, ?_, ?_⟩
  · intro id
    obtain heq | ⟨hdesc, _⟩ := hsession id
    · rw [heq]
      exact clamped_reset _
    · exact ⟨hdesc ▸ (h.clamped id).limits, hdesc ▸ (h.clamped id).inactive⟩
  · intro id hid hconstructs
    rw [hcreated] at hid
    rw [hbinder] at hconstructs
    obtain heq | ⟨hdesc, hattrs⟩ := hsession id
    · rw [heq]
      exact requested_setUclamp 0
    · unfold PowerHintSession.Requested PowerHintSession.lastRequested
      rw [hdesc, hattrs]
      exact h.requested id hid hconstructs
  · intro id hpc
    obtain heq | ⟨hdesc, _⟩ := hsession id
    · rw [heq]
      rfl
    · rw [hdesc]
      exact h.pausing id (hbinder ▸ hpc)
  · intro id hboosts
    have hactive := h.boosting id (hbinder ▸ hboosts)
    obtain heq | ⟨hdesc, _⟩ := hsession id
    · rw [heq]
      exact hactive
    · rw [hdesc]
      exact hactive
  · exact fun id min hpc => h.next id min (hbinder ▸ hpc)

theorem uclamped_step (hordered : p.UclampOrdered) {event : Event} (h : Uclamped p s)
    (hstep : s.step p event = some s') : Uclamped p s' := by
  refine step_preserves (Uclamped p) hstep h ?_ ?_ ?_ ?_ ?_
  · exact fun _ => ⟨h.clamped, h.requested, h.pausing, h.boosting, h.next⟩
  · exact fun call _ hidle _ haccepted => uclamped_begin hidle h haccepted
  · exact fun _ hbinder => uclamped_binderStep hordered h hbinder
  · exact fun _ _ _ _ _ _ => ⟨h.clamped, h.requested, h.pausing, h.boosting, h.next⟩
  · exact fun _ hlooper => uclamped_looperStep h hlooper

/-- **The clamp of a session.**  In every state of every run, between the statements of a
call too, the current minimum of a constructed session is off or between the limits, it is
what every thread of the session was last asked for, and it is off while the session is
paused. -/
theorem uclamp_follows_session (p : Platform) (hordered : p.UclampOrdered) (s : PowerHal)
    (hrun : Reach (step p) Free PowerHal.init s) (id : SessionId) (hcreated : id < s.created)
    (hconstructed : s.binder.constructs ≠ some id) :
    ((s.session id).desc.currentMin = 0 ∨ p.InLimits (s.session id).desc.currentMin) ∧
      (∀ tid ∈ (s.session id).desc.threadIds,
        (s.session id).lastRequested tid = some (s.session id).desc.currentMin) ∧
      ((s.session id).desc.isActive = false → (s.session id).desc.currentMin = 0) := by
  have hclamped : Uclamped p s := by
    refine hrun.invariant (Uclamped p) ?_ fun _ _ _ h _ hstep => uclamped_step hordered h hstep
    exact ⟨fun _ => ⟨.inl rfl, fun _ => rfl⟩, nofun, nofun, nofun, nofun⟩
  exact ⟨(hclamped.clamped id).limits, hclamped.requested id hcreated hconstructed,
    (hclamped.clamped id).inactive⟩

/-- A session of two threads between the two statements of a `resume` that comes after a
report and a `pause`. -/
theorem uclamp_follows_session_resuming :
    ∃ s, exec (step .default) Free PowerHal.init
        [.call (.createHintSession [7, 8] 16000000), .binder, .binder,
          .call (.reportActualWorkDuration 0 [20000000]), .binder, .binder, .binder,
          .call (.pause 0), .binder, .binder, .call (.resume 0)] = some s ∧
      (s.session 0).desc.isActive = true ∧
      ((s.session 0).desc.currentMin = 0 ∨
        Platform.default.InLimits (s.session 0).desc.currentMin) ∧
      (∀ tid ∈ (s.session 0).desc.threadIds,
        (s.session 0).lastRequested tid = some (s.session 0).desc.currentMin) ∧
      ((s.session 0).desc.isActive = false → (s.session 0).desc.currentMin = 0) := by
  refine ⟨_, rfl, rfl, uclamp_follows_session .default default_uclampOrdered _ (reach_of_exec
    [.call (.createHintSession [7, 8] 16000000), .binder, .binder,
      .call (.reportActualWorkDuration 0 [20000000]), .binder, .binder, .binder,
      .call (.pause 0), .binder, .binder, .call (.resume 0)] rfl) 0 (by decide) nofun⟩

end Exynos9810.Power
