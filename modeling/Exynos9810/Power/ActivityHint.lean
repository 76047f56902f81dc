import Exynos9810.Power.Activity

/-!
# The hint that follows the activity

When nothing is outstanding and no call is in progress, the hint is on exactly if
some registered session is active and not stale, provided that every active session
has reported.  A session that has only been created is not accounted for.
-/
namespace Exynos9810.Power

open Transition PowerHal

variable {p : Platform} {s s' : PowerHal}

structure HintShown (s : PowerHal) : Prop where
  deciding : ∀ active, s.looper = .managerHint active → active = s.mActive
  shown : (∀ active, s.looper ≠ .managerHint active) → s.hintOn = s.mActive

theorem hintShown_dequeue {messages : List Message} {message : Message} {looper : LooperPc}
    (h : HintShown s) (hidle : s.looper = .idle)
    (hdeliver : message.deliver s.now = some looper) :
    HintShown ({ s with messages }.looperAt looper) := by
  constructor
  · intro active hpc
    cases message <;> grind [Message.deliver]
  · intro _
    apply h.shown
    intro active hpc
    cases hidle.symm.trans hpc

theorem hintShown_looperStep (h : HintShown s) (hstep : LooperStep p s s') :
    HintShown s' := by
  have hshown := h.shown
  cases hstep with
  | expired hpc | again hpc | staleReset hpc | stalePost hpc | staleClear hpc | unchanged hpc =>
    rw [hpc] at hshown
    exact ⟨nofun, fun _ => hshown nofun⟩
  | changed =>
    refine ⟨fun active hpc => ?_, fun hnot => absurd rfl (hnot _)⟩
    cases hpc
    rfl
  | managerHint hpc => exact ⟨nofun, fun _ => h.deciding _ hpc⟩

theorem hintShown_step {event : Event} (h : HintShown s) (hstep : s.step p event = some s') :
    HintShown s' := by
  refine step_preserves HintShown hstep h (fun _ => ⟨h.deciding, h.shown⟩) ?_ ?_ ?_ ?_
  · intro call _ _ _ _
    obtain ⟨_, hmActive, hhintOn, _, hlooper⟩ := begin_frame (p := p) (s := s) call
    constructor
    · rw [hlooper, hmActive]
      exact h.deciding
    · rw [hlooper, hhintOn, hmActive]
      exact h.shown
  · intro _ hbinder
    obtain ⟨_, hmActive, hhintOn, hlooper⟩ := binderStep_frame hbinder
    constructor
    · rw [hlooper, hmActive]
      exact h.deciding
    · rw [hlooper, hhintOn, hmActive]
      exact h.shown
  · exact fun _ _ _ hidle _ hdeliver => hintShown_dequeue h hidle hdeliver
  · exact fun _ hlooper => hintShown_looperStep h hlooper

/-- The session whose `close` has not unregistered it yet. -/
def BinderPc.unregisters : BinderPc → Option SessionId
  | .closeRemoveMessages id => some id
  | .closeReset id => some id
  | .closeUnregister id => some id
  | _ => none

structure RegisteredOpen (s : PowerHal) : Prop where
  closing : ∀ id ∈ s.manager.sessions, (s.session id).sessionClosed = true →
    s.binder.unregisters = some id
  adding : ∀ id, s.binder = .createAdd id → (s.session id).sessionClosed = false

theorem registeredOpen_begin (h : RegisteredOpen s) {call : Call} (hidle : s.binder = .idle) :
    RegisteredOpen (s.begin p call) := by
  have hopen : ∀ id ∈ s.manager.sessions, (s.session id).sessionClosed = false := by
    intro id hid
    by_contra hclosed
    have hpc := h.closing id hid (by simpa using hclosed)
    rw [hidle] at hpc
    cases hpc
  constructor
  · rw [(begin_frame call).1]
    intro id hid hclosed
    have hbefore := hopen id hid
    cases call <;> grind [begin, PowerHintSession.new, BinderPc.unregisters]
  · intro id hpc
    cases call <;> grind [begin, PowerHintSession.new]

theorem registeredOpen_binderStep (h : RegisteredOpen s) (hstep : BinderStep p s s') :
    RegisteredOpen s' := by
  constructor
  · intro id hid hclosed
    rw [sessionClosed_binderStep hstep] at hclosed
    have hbefore := h.closing id
    cases hstep with
    | createAdd hpc =>
      change id ∈ (PowerSessionManager.addPowerSession _ _ _ _).sessions at hid
      rw [PowerSessionManager.sessions_addPowerSession] at hid
      rw [hpc] at hbefore
      obtain rfl | hid := Finset.mem_insert.mp hid
      · rw [h.adding id hpc] at hclosed
        cases hclosed
      · exact nomatch hbefore hid hclosed
    | closeUnregister hpc =>
      change id ∈ (PowerSessionManager.removePowerSession _ _ _).sessions at hid
      rw [PowerSessionManager.sessions_removePowerSession] at hid
      rw [hpc] at hbefore
      obtain ⟨hne, hid⟩ := Finset.mem_erase.mp hid
      exact absurd (Option.some.inj (hbefore hid hclosed)).symm hne
    | closeRemoveMessages hpc | closeReset hpc =>
      rw [hpc] at hbefore
      exact hbefore hid hclosed
    | createBoost hpc | pauseStore hpc | resumeBoost hpc | reportTimer hpc | reportBoosts hpc
    | reportKeeps hpc | reportBoost hpc | post hpc =>
      rw [hpc] at hbefore
      exact nomatch hbefore hid hclosed
  · intro id hpc
    have hlater := isFirst_binderStep hstep
    rw [hpc] at hlater
    cases hlater

theorem registeredOpen_step {event : Event} (h : RegisteredOpen s)
    (hstep : s.step p event = some s') : RegisteredOpen s' := by
  refine step_preserves RegisteredOpen hstep h (fun _ => ⟨h.closing, h.adding⟩) ?_ ?_ ?_ ?_
  · exact fun _ _ hidle _ _ => registeredOpen_begin h hidle
  · exact fun _ hbinder => registeredOpen_binderStep h hbinder
  · exact fun _ _ _ _ _ _ => ⟨h.closing, h.adding⟩
  · intro _ hlooper
    obtain ⟨_, hmanager, hbinder⟩ := looperStep_frame hlooper
    constructor
    · intro id hid hclosed
      rw [sessionClosed_looperStep hlooper] at hclosed
      rw [hbinder]
      exact h.closing id (hmanager ▸ hid) hclosed
    · intro id hpc
      rw [sessionClosed_looperStep hlooper]
      exact h.adding id (hbinder ▸ hpc)

/-- What holds in every state that the service reaches. -/
structure Coherent (p : Platform) (s : PowerHal) : Prop where
  monitored : Monitored s
  overdue : Overdue p s
  followed : Followed s
  hintShown : HintShown s
  registeredOpen : RegisteredOpen s

theorem coherent_init : Coherent p PowerHal.init where
  monitored := ⟨nofun, nofun⟩
  overdue := fun _ hreported => absurd hreported (Nat.lt_irrefl 0)
  followed := ⟨nofun, nofun⟩
  hintShown := ⟨nofun, fun _ => rfl⟩
  registeredOpen := ⟨nofun, nofun⟩

theorem coherent_of_reach (hreach : Reach (step p) Free PowerHal.init s) : Coherent p s := by
  refine hreach.invariant (Coherent p) coherent_init ?_
  intro s event s' h _ hstep
  exact ⟨monitored_step h.monitored hstep, overdue_step h.overdue hstep,
    followed_step h.overdue h.followed hstep, hintShown_step h.hintShown hstep,
    registeredOpen_step h.registeredOpen hstep⟩

structure Settled (s : PowerHal) : Prop where
  messages : s.messages = []
  looper : s.looper = .idle
  binder : s.binder = .idle

def AllReported (s : PowerHal) : Prop :=
  ∀ id ∈ s.manager.sessions, (s.session id).desc.isActive = true →
    0 < (s.session id).desc.updateCount

theorem unmonitored_of_settled (h : Coherent p s) (hsettled : Settled s) {id : SessionId}
    (hid : id ∈ s.manager.sessions) : (s.session id).isMonitoringStale = false := by
  have hopen : (s.session id).sessionClosed = false := by
    by_contra hclosed
    have hpc := h.registeredOpen.closing id hid (by simpa using hclosed)
    rw [hsettled.binder] at hpc
    cases hpc
  by_contra hmonitoring
  obtain ⟨message, hmem, _⟩ | hhandles :=
    h.monitored.outstanding id hopen (by simpa using hmonitoring)
  · rw [hsettled.messages] at hmem
    cases hmem
  · rw [hsettled.looper] at hhandles
    cases hhandles

theorem not_reporting_of_settled (hsettled : Settled s) (id : SessionId) : ¬Reporting s id := by
  rintro ⟨output, hpc⟩
  rw [hsettled.binder] at hpc
  cases hpc

theorem not_pending_of_settled (hsettled : Settled s) : ¬Pending s := by
  unfold Pending
  rw [hsettled.messages, hsettled.looper, hsettled.binder]
  simp

/-- In every settled state the hint is on exactly if some registered session is active
and not stale, provided that every active one has reported. -/
theorem hint_follows_activity (p : Platform) (s : PowerHal)
    (hreach : Reach (step p) Free PowerHal.init s) (hsettled : Settled s)
    (hreported : AllReported s) :
    s.hintOn = true ↔ ∃ id ∈ s.manager.sessions,
      (s.session id).desc.isActive = true ∧ (s.session id).isStale p s.now = false := by
  have h := coherent_of_reach hreach
  constructor
  · intro hhint
    have hshown : s.hintOn = s.mActive := by
      apply h.hintShown.shown
      rw [hsettled.looper]
      nofun
    obtain hpending | ⟨id, hid, hactive, hmonitoring | hcount | hreporting⟩ :=
      h.followed.active (hshown ▸ hhint)
    · exact absurd hpending (not_pending_of_settled hsettled)
    · rw [unmonitored_of_settled h hsettled hid] at hmonitoring
      cases hmonitoring
    · exact absurd hcount (hreported id hid hactive).ne'
    · exact absurd hreporting (not_reporting_of_settled hsettled id)
  · rintro ⟨id, hid, hactive, hfresh⟩
    have hstale : (s.session id).getStaleTime p < s.now :=
      h.overdue id (hreported id hid hactive) (.inl (unmonitored_of_settled h hsettled hid))
        (not_reporting_of_settled hsettled id)
    simp [PowerHintSession.isStale, hstale.le] at hfresh

/-- A session reports late, turns the hint on, reports no more and is found stale. -/
theorem hint_follows_activity_stale :
    ∃ s, exec (step .default) Free PowerHal.init
        [.call (.createHintSession [7] 16000000), .binder, .binder, .tick 400000000,
          .call (.reportActualWorkDuration 0 [20000000]), .binder, .binder,
          .dequeue 0, .looper, .looper, .tick 400000000,
          .dequeue 0, .looper, .looper, .looper, .looper,
          .dequeue 0, .looper, .looper] = some s ∧
      Settled s ∧ AllReported s ∧
      (s.hintOn = true ↔ ∃ id ∈ s.manager.sessions, (s.session id).desc.isActive = true ∧
        (s.session id).isStale .default s.now = false) := by
  refine ⟨_, rfl, ⟨rfl, rfl, rfl⟩, ?_, ?_⟩
  · unfold AllReported
    decide
  · refine hint_follows_activity .default _ (reach_of_exec
      [.call (.createHintSession [7] 16000000), .binder, .binder, .tick 400000000,
        .call (.reportActualWorkDuration 0 [20000000]), .binder, .binder,
        .dequeue 0, .looper, .looper, .tick 400000000,
        .dequeue 0, .looper, .looper, .looper, .looper,
        .dequeue 0, .looper, .looper] rfl) ⟨rfl, rfl, rfl⟩ ?_
    unfold AllReported
    decide

/-- Nobody tells the manager about a session that has just been created. -/
theorem hint_misses_creation :
    ∃ s, exec (step .default) Free PowerHal.init
        [.call (.createHintSession [7] 16000000), .binder, .binder] = some s ∧
      Settled s ∧ s.hintOn = false ∧ 0 ∈ s.manager.sessions ∧
      (s.session 0).desc.isActive = true ∧ (s.session 0).isStale .default s.now = false := by
  exact ⟨_, rfl, ⟨rfl, rfl, rfl⟩, rfl, by decide, rfl, by decide⟩

end Exynos9810.Power
