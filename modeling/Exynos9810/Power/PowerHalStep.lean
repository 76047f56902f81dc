import Exynos9810.Power.PowerHal
import Mathlib.Data.List.Perm.Basic

/-!
# What one step of the power service can do

The transition function read backwards, once for all the invariants: every statement
of a thread with its guard and its effect, and the rule by which a property survives
a step.
-/
namespace Exynos9810.Power

/-- The session and the minimum that a statement of the binder thread passes to `setUclamp`. -/
def BinderPc.sets (p : Platform) : BinderPc → Option (SessionId × Int)
  | .createBoost id => some (id, p.uclampMinHighLimit)
  | .resumeBoost id => some (id, p.uclampMinHighLimit)
  | .closeReset id => some (id, 0)
  | .reportBoost id nextMin => some (id, nextMin)
  | _ => none

def BinderPc.touches : BinderPc → Option SessionId
  | .createBoost id => some id
  | .resumeBoost id => some id
  | .closeReset id => some id
  | .reportBoost id _ => some id
  | .pauseStore id => some id
  | .reportTimer id _ => some id
  | _ => none

def BinderPc.isFirst : BinderPc → Bool
  | .createAdd _ => true
  | .pauseStore _ => true
  | .resumeBoost _ => true
  | .closeRemoveMessages _ => true
  | .reportTimer _ _ => true
  | _ => false

def LooperPc.touches : LooperPc → Option SessionId
  | .staleReset id => some id
  | .staleClear id => some id
  | _ => none

namespace PowerHal

variable {p : Platform} {s s' : PowerHal}

@[simp] theorem session_update (id i : SessionId) (f : PowerHintSession → PowerHintSession) :
    (s.update id f).session i = if i = id then f (s.session i) else s.session i :=
  rfl

attribute [grind =] binderAt looperAt create update updateDesc setUclamp sendMessage
  updateUniveralBoostMode removePowerSession addPowerSession PowerHintSession.setUclamp

theorem currentMin_setUclamp (id : SessionId) (min : Int) :
    ((s.setUclamp id min).session id).desc.currentMin = Min.min (Max.max 0 min) maxUclampValue := by
  rw [setUclamp, session_update, if_pos rfl]
  rfl

/-- A call only starts on the idle binder thread; it is refused or takes its first step. -/
theorem makeCall_cases {call : Call} (h : s.makeCall p call = some s') :
    s.binder = .idle ∧ (∀ id ∈ call.session, id < s.created) ∧
      (s' = s ∨ s.refusal p call = none ∧ s' = s.begin p call) := by
  unfold makeCall at h
  split at h
  · rename_i hready
    refine ⟨hready.1, hready.2, ?_⟩
    split at h
    · exact .inl (Option.some.inj h).symm
    · rename_i haccepted
      exact .inr ⟨haccepted, (Option.some.inj h).symm⟩
  · cases h

theorem begin_frame (call : Call) :
    (s.begin p call).manager = s.manager ∧ (s.begin p call).mActive = s.mActive ∧
      (s.begin p call).hintOn = s.hintOn ∧ (s.begin p call).messages = s.messages ∧
      (s.begin p call).looper = s.looper := by
  cases call <;> exact ⟨rfl, rfl, rfl, rfl, rfl⟩

theorem created_le_begin (call : Call) : s.created ≤ (s.begin p call).created := by
  cases call with
  | createHintSession => exact Nat.le_succ _
  | _ => exact le_rfl

/-- The state after `updateStaleTimer`, but for the messages it sends. -/
def timerRestarted (s : PowerHal) (id : SessionId) : PowerHal :=
  s.update id fun session => { session with lastUpdatedTime := s.now, isMonitoringStale := true }

/-- The messages that `updateStaleTimer` sends. -/
def timerMessages (p : Platform) (s : PowerHal) (id : SessionId) : List Message :=
  (if (s.session id).getStaleTime p < s.now then [.manager] else []) ++
    if (s.session id).isMonitoringStale then []
    else [.stale id ({ s.session id with lastUpdatedTime := s.now }.getStaleTime p)]

theorem exists_stale_mem_timerMessages {id : SessionId}
    (hmonitoring : (s.session id).isMonitoringStale = false) :
    ∃ uptime, .stale id uptime ∈ s.timerMessages p id := by
  unfold timerMessages
  rw [hmonitoring, if_neg Bool.false_ne_true]
  exact ⟨_, List.mem_append_right _ (List.mem_singleton_self _)⟩

theorem update_lastUpdatedTime {id : SessionId} (hmonitored : (s.session id).isMonitoringStale) :
    (s.update id fun session => { session with lastUpdatedTime := s.now }) =
      s.timerRestarted id := by
  unfold timerRestarted update
  congr 1
  funext i
  split
  · rename_i hi
    rw [hi, ← hmonitored]
  · rfl

theorem update_isMonitoringStale (id : SessionId) (sent : List Message) :
    { s.update id (fun session => { session with lastUpdatedTime := s.now }) with
      messages := s.messages ++ sent }.update id
        (fun session => { session with isMonitoringStale := true }) =
      { s.timerRestarted id with messages := s.messages ++ sent } := by
  unfold timerRestarted update
  congr 1
  funext i
  dsimp only
  split <;> rfl

theorem updateStaleTimer_eq (id : SessionId) :
    s.updateStaleTimer p id =
      { s.timerRestarted id with messages := s.messages ++ s.timerMessages p id } := by
  unfold updateStaleTimer timerMessages
  generalize { s.session id with lastUpdatedTime := s.now }.getStaleTime p = next
  dsimp only
  cases hmonitoring : (s.session id).isMonitoringStale with
  | true =>
    rw [if_pos rfl, if_pos rfl, ← update_lastUpdatedTime hmonitoring, List.append_nil]
    split
    · rfl
    · rw [List.append_nil]
      rfl
  | false =>
    rw [if_neg Bool.false_ne_true, if_neg Bool.false_ne_true, ← update_isMonitoringStale]
    split
    · rw [← List.append_assoc]
      rfl
    · rfl

inductive BinderStep (p : Platform) (s : PowerHal) : PowerHal → Prop
  | createAdd {id : SessionId} (hpc : s.binder = .createAdd id) :
      BinderStep p s ((s.addPowerSession p id).binderAt (.createBoost id))
  | createBoost {id : SessionId} (hpc : s.binder = .createBoost id) :
      BinderStep p s ((s.setUclamp id p.uclampMinHighLimit).binderAt .idle)
  | pauseStore {id : SessionId} (hpc : s.binder = .pauseStore id) :
      BinderStep p s
        ((s.updateDesc id fun desc => { desc with isActive := false }).binderAt .post)
  | resumeBoost {id : SessionId} (hpc : s.binder = .resumeBoost id) :
      BinderStep p s ((s.setUclamp id p.uclampMinHighLimit).binderAt .post)
  | closeRemoveMessages {id : SessionId} (hpc : s.binder = .closeRemoveMessages id) :
      BinderStep p s ((s.removeMessages id).binderAt (.closeReset id))
  | closeReset {id : SessionId} (hpc : s.binder = .closeReset id) :
      BinderStep p s ((s.setUclamp id 0).binderAt (.closeUnregister id))
  | closeUnregister {id : SessionId} (hpc : s.binder = .closeUnregister id) :
      BinderStep p s ((s.removePowerSession id).binderAt .post)
  | reportTimer {id : SessionId} {output : Int} (hpc : s.binder = .reportTimer id output)
      (hunlocked : s.looper.locks ≠ some id) :
      BinderStep p s
        ({ s.timerRestarted id with messages := s.messages ++ s.timerMessages p id }.binderAt
          (.reportApply id output))
  | reportBoosts {id : SessionId} {output nextMin : Int} (hpc : s.binder = .reportApply id output)
      (hnext : (s.session id).desc.nextMin p output = some nextMin) :
      BinderStep p s (s.binderAt (.reportBoost id nextMin))
  | reportKeeps {id : SessionId} {output : Int} (hpc : s.binder = .reportApply id output)
      (hnext : (s.session id).desc.nextMin p output = none) : BinderStep p s (s.binderAt .idle)
  | reportBoost {id : SessionId} {nextMin : Int} (hpc : s.binder = .reportBoost id nextMin) :
      BinderStep p s ((s.setUclamp id nextMin).binderAt .idle)
  | post (hpc : s.binder = .post) : BinderStep p s (s.updateUniveralBoostMode.binderAt .idle)

theorem binderStep_cases (h : s.binderStep p s.binder = some s') : BinderStep p s s' := by
  cases hpc : s.binder with rw [hpc] at h
  | idle => cases h
  | reportTimer id output =>
    change (if _ then none else some _) = _ at h
    split at h
    · cases h
    · rename_i hunlocked
      rw [updateStaleTimer_eq] at h
      cases h
      exact .reportTimer hpc hunlocked
  | reportApply id output =>
    rw [binderStep] at h
    split at h
    · rename_i hnext
      cases h
      exact .reportBoosts hpc hnext
    · rename_i hnext
      cases h
      exact .reportKeeps hpc hnext
  | createAdd => cases h; exact .createAdd hpc
  | createBoost => cases h; exact .createBoost hpc
  | pauseStore => cases h; exact .pauseStore hpc
  | resumeBoost => cases h; exact .resumeBoost hpc
  | closeRemoveMessages => cases h; exact .closeRemoveMessages hpc
  | closeReset => cases h; exact .closeReset hpc
  | closeUnregister => cases h; exact .closeUnregister hpc
  | reportBoost => cases h; exact .reportBoost hpc
  | post => cases h; exact .post hpc

inductive LooperStep (p : Platform) (s : PowerHal) : PowerHal → Prop
  | expired {id : SessionId} (hpc : s.looper = .staleCheck id)
      (hexpired : (s.session id).getStaleTime p < s.now) :
      LooperStep p s (s.looperAt (.staleReset id))
  | again {id : SessionId} (hpc : s.looper = .staleCheck id)
      (hfresh : s.now ≤ (s.session id).getStaleTime p) :
      LooperStep p s
        ((s.sendMessage (.stale id ((s.session id).getStaleTime p))).looperAt .idle)
  | staleReset {id : SessionId} (hpc : s.looper = .staleReset id) :
      LooperStep p s ((s.setUclamp id 0).looperAt (.stalePost id))
  | stalePost {id : SessionId} (hpc : s.looper = .stalePost id) :
      LooperStep p s (s.updateUniveralBoostMode.looperAt (.staleClear id))
  | staleClear {id : SessionId} (hpc : s.looper = .staleClear id) :
      LooperStep p s
        ((s.update id fun session => { session with isMonitoringStale := false }).looperAt .idle)
  | unchanged (hpc : s.looper = .managerCheck) (hsame : s.isAnyActive p = s.mActive) :
      LooperStep p s (s.looperAt .idle)
  | changed (hpc : s.looper = .managerCheck) (hdiffers : s.isAnyActive p ≠ s.mActive) :
      LooperStep p s
        ({ s with mActive := s.isAnyActive p }.looperAt (.managerHint (s.isAnyActive p)))
  | managerHint {active : Bool} (hpc : s.looper = .managerHint active) :
      LooperStep p s ({ s with hintOn := active }.looperAt .idle)

theorem looperStep_cases (h : s.looperStep p s.looper = some s') : LooperStep p s s' := by
  cases hpc : s.looper with rw [hpc] at h
  | idle => cases h
  | staleCheck id =>
    change (if _ then some _ else some _) = _ at h
    split at h
    · rename_i hexpired
      cases h
      exact .expired hpc hexpired
    · rename_i hfresh
      cases h
      exact .again hpc (not_lt.mp hfresh)
  | managerCheck =>
    change (if _ then some _ else some _) = _ at h
    split at h
    · rename_i hsame
      cases h
      exact .unchanged hpc hsame
    · rename_i hdiffers
      cases h
      exact .changed hpc hdiffers
  | staleReset => cases h; exact .staleReset hpc
  | stalePost => cases h; exact .stalePost hpc
  | staleClear => cases h; exact .staleClear hpc
  | managerHint => cases h; exact .managerHint hpc

theorem dequeue_cases {i : Nat} (h : s.dequeue i = some s') :
    s.looper = .idle ∧ ∃ message looper, s.messages[i]? = some message ∧
      message.deliver s.now = some looper ∧
      s' = { s with messages := s.messages.eraseIdx i }.looperAt looper := by
  unfold dequeue at h
  split at h
  · rename_i hidle
    split at h
    · rename_i looper hlooper
      obtain ⟨message, hmessage, hdeliver⟩ := Option.bind_eq_some_iff.mp hlooper
      exact ⟨hidle, message, looper, hmessage, hdeliver, (Option.some.inj h).symm⟩
    · cases h
  · cases h

theorem eq_or_mem_eraseIdx {i : Nat} {message other : Message} {messages : List Message}
    (hmessage : messages[i]? = some message) (hmem : other ∈ messages) :
    other = message ∨ other ∈ messages.eraseIdx i := by
  obtain ⟨hlength, hget⟩ := List.getElem?_eq_some_iff.mp hmessage
  rw [← hget]
  exact List.mem_cons.mp ((List.getElem_cons_eraseIdx_perm hlength).mem_iff.mpr hmem)

theorem step_preserves (holds : PowerHal → Prop) {event : Event}
    (h : s.step p event = some s') (hs : holds s)
    (htick : ∀ nanos : Nat, holds { s with now := s.now + nanos })
    (hcall : ∀ call, event = .call call → s.binder = .idle →
      (∀ id ∈ call.session, id < s.created) → s.refusal p call = none → holds (s.begin p call))
    (hbinder : event = .binder → BinderStep p s s' → holds s')
    (hdequeue : ∀ i message looper, s.looper = .idle → s.messages[i]? = some message →
      message.deliver s.now = some looper →
      holds ({ s with messages := s.messages.eraseIdx i }.looperAt looper))
    (hlooper : event = .looper → LooperStep p s s' → holds s') :
    holds s' := by
  cases event with
  | tick nanos =>
    cases h
    exact htick nanos
  | call call =>
    obtain ⟨hidle, hknown, rfl | ⟨haccepted, rfl⟩⟩ := makeCall_cases h
    · exact hs
    · exact hcall call rfl hidle hknown haccepted
  | binder => exact hbinder rfl (binderStep_cases h)
  | dequeue i =>
    obtain ⟨hidle, message, looper, hmessage, hdeliver, rfl⟩ := dequeue_cases h
    exact hdequeue i message looper hidle hmessage hdeliver
  | looper => exact hlooper rfl (looperStep_cases h)

theorem binderStep_frame (h : BinderStep p s s') :
    s'.now = s.now ∧ s'.mActive = s.mActive ∧ s'.hintOn = s.hintOn ∧ s'.looper = s.looper := by
  cases h <;> exact ⟨rfl, rfl, rfl, rfl⟩

theorem created_binderStep (h : BinderStep p s s') : s'.created = s.created := by
  cases h <;> rfl

theorem isFirst_binderStep (h : BinderStep p s s') : s'.binder.isFirst = false := by
  cases h <;> rfl

theorem session_binderStep (h : BinderStep p s s') (id : SessionId) :
    (s.binder.touches ≠ some id ∧ s'.session id = s.session id) ∨
    (∃ min, s.binder.sets p = some (id, min) ∧
      s'.session id = (s.session id).setUclamp min maxUclampValue) ∨
    (s.binder = .pauseStore id ∧ s'.session id =
      { s.session id with desc := { (s.session id).desc with isActive := false } }) ∨
    (∃ output, s.binder = .reportTimer id output ∧ s.looper.locks ≠ some id ∧ s'.session id =
      { s.session id with lastUpdatedTime := s.now, isMonitoringStale := true }) := by
  cases h with
  | createAdd hpc | closeRemoveMessages hpc | closeUnregister hpc | reportBoosts hpc
  | reportKeeps hpc | post hpc =>
    rw [hpc]
    exact .inl ⟨nofun, rfl⟩
  | @createBoost target hpc | @resumeBoost target hpc | @closeReset target hpc
  | @reportBoost target _ hpc =>
    rw [hpc]
    by_cases hid : id = target
    · exact .inr (.inl ⟨_, by rw [hid]; rfl, if_pos hid⟩)
    · exact .inl ⟨fun heq => hid (Option.some.inj heq).symm, if_neg hid⟩
  | @pauseStore target hpc =>
    rw [hpc]
    by_cases hid : id = target
    · exact .inr (.inr (.inl ⟨by rw [hid], if_pos hid⟩))
    · exact .inl ⟨fun heq => hid (Option.some.inj heq).symm, if_neg hid⟩
  | @reportTimer target output hpc hunlocked =>
    rw [hpc]
    by_cases hid : id = target
    · exact .inr (.inr (.inr ⟨output, by rw [hid], hid ▸ hunlocked, if_pos hid⟩))
    · exact .inl ⟨fun heq => hid (Option.some.inj heq).symm, if_neg hid⟩

theorem sessionClosed_binderStep (h : BinderStep p s s') (id : SessionId) :
    (s'.session id).sessionClosed = (s.session id).sessionClosed := by
  obtain ⟨_, heq⟩ | ⟨_, _, heq⟩ | ⟨_, heq⟩ | ⟨_, _, _, heq⟩ := session_binderStep h id <;>
    exact congrArg (·.sessionClosed) heq

theorem messages_binderStep (h : BinderStep p s s') :
    (∃ sent, s'.messages = s.messages ++ sent) ∨
      ∃ target, s.binder = .closeRemoveMessages target ∧
        s'.messages = (s.removeMessages target).messages := by
  cases h with
  | closeRemoveMessages hpc => exact .inr ⟨_, hpc, rfl⟩
  | reportTimer => exact .inl ⟨_, rfl⟩
  | post => exact .inl ⟨[.manager], rfl⟩
  | _ => exact .inl ⟨[], (List.append_nil _).symm⟩

/-- The sessions stay registered until their `close` unregisters them; the statement
after that posts a manager message. -/
theorem sessions_binderStep (h : BinderStep p s s') :
    s.manager.sessions ⊆ s'.manager.sessions ∨ s'.binder = .post := by
  cases h with
  | createAdd =>
    refine .inl ?_
    change _ ⊆ (PowerSessionManager.addPowerSession _ _ _ _).sessions
    rw [PowerSessionManager.sessions_addPowerSession]
    exact Finset.subset_insert _ _
  | closeUnregister => exact .inr rfl
  | _ => exact .inl (Finset.Subset.refl _)

theorem looperStep_frame (h : LooperStep p s s') :
    s'.now = s.now ∧ s'.manager = s.manager ∧ s'.binder = s.binder := by
  cases h <;> exact ⟨rfl, rfl, rfl⟩

theorem created_looperStep (h : LooperStep p s s') : s'.created = s.created := by
  cases h <;> rfl

theorem session_looperStep (h : LooperStep p s s') (id : SessionId) :
    (s.looper.touches ≠ some id ∧ s'.session id = s.session id) ∨
    (s.looper = .staleReset id ∧ s'.session id = (s.session id).setUclamp 0 maxUclampValue) ∨
    (s.looper = .staleClear id ∧
      s'.session id = { s.session id with isMonitoringStale := false }) := by
  cases h with
  | expired hpc | again hpc | stalePost hpc | unchanged hpc | changed hpc | managerHint hpc =>
    rw [hpc]
    exact .inl ⟨nofun, rfl⟩
  | @staleReset target hpc =>
    rw [hpc]
    by_cases hid : id = target
    · exact .inr (.inl ⟨by rw [hid], if_pos hid⟩)
    · exact .inl ⟨fun heq => hid (Option.some.inj heq).symm, if_neg hid⟩
  | @staleClear target hpc =>
    rw [hpc]
    by_cases hid : id = target
    · exact .inr (.inr ⟨by rw [hid], if_pos hid⟩)
    · exact .inl ⟨fun heq => hid (Option.some.inj heq).symm, if_neg hid⟩

theorem sessionClosed_looperStep (h : LooperStep p s s') (id : SessionId) :
    (s'.session id).sessionClosed = (s.session id).sessionClosed := by
  obtain ⟨_, heq⟩ | ⟨_, heq⟩ | ⟨_, heq⟩ := session_looperStep h id <;>
    exact congrArg (·.sessionClosed) heq

theorem messages_looperStep (h : LooperStep p s s') :
    ∃ sent, s'.messages = s.messages ++ sent := by
  cases h with
  | again => exact ⟨[_], rfl⟩
  | stalePost => exact ⟨[.manager], rfl⟩
  | _ => exact ⟨[], (List.append_nil _).symm⟩

theorem mActive_looperStep (h : LooperStep p s s') :
    s'.mActive = if s.looper = .managerCheck then s.isAnyActive p else s.mActive := by
  cases h with
  | unchanged hpc hsame => rw [if_pos hpc, hsame]; rfl
  | changed hpc => rw [if_pos hpc]; rfl
  | expired hpc | again hpc | staleReset hpc | stalePost hpc | staleClear hpc | managerHint hpc =>
    rw [hpc]
    rfl

end PowerHal

end Exynos9810.Power
