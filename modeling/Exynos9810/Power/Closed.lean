import Exynos9810.Library.Transition
import Exynos9810.Power.PowerHalStep

namespace Exynos9810.Power

open Transition PowerHal

def BinderPc.boosts : BinderPc → Option SessionId
  | .createAdd id => some id
  | .createBoost id => some id
  | .resumeBoost id => some id
  | .reportTimer id _ => some id
  | .reportApply id _ => some id
  | .reportBoost id _ => some id
  | _ => none

/-- The session whose `close` has not yet reset the threads. -/
def BinderPc.closes : BinderPc → Option SessionId
  | .closeRemoveMessages id => some id
  | .closeReset id => some id
  | _ => none

def LeavesClosedAlone (p : Platform) (s : PowerHal) : Event → Prop
  | .call (.resume id) =>
    (s.session id).sessionClosed → (s.refusal p (.resume id)).isSome
  | .call (.reportActualWorkDuration id actualDurations) =>
    (s.session id).sessionClosed →
      (s.refusal p (.reportActualWorkDuration id actualDurations)).isSome
  | _ => True

instance (p : Platform) (s : PowerHal) (event : Event) :
    Decidable (LeavesClosedAlone p s event) := by
  unfold LeavesClosedAlone
  split <;> infer_instance

/-- A closed session is at the default and nothing is about to boost it, unless
its `close` is still on the way there. -/
def ClosedQuiet (s : PowerHal) : Prop :=
  ∀ id, (s.session id).sessionClosed → s.binder.closes = some id ∨
    (s.session id).desc.currentMin = 0 ∧ s.binder.boosts ≠ some id

variable {p : Platform} {s s' : PowerHal}

theorem ne_of_accepted {call : Call} {id target : SessionId}
    (hallowed : (s.session target).sessionClosed → (s.refusal p call).isSome)
    (haccepted : s.refusal p call = none) (hclosed : (s.session id).sessionClosed) :
    id ≠ target := by
  rintro rfl
  have hrefused := hallowed hclosed
  rw [haccepted] at hrefused
  cases hrefused

theorem closedQuiet_begin (h : ClosedQuiet s) {call : Call} (hidle : s.binder = .idle)
    (hallowed : LeavesClosedAlone p s (.call call)) (haccepted : s.refusal p call = none) :
    ClosedQuiet (s.begin p call) := by
  intro id hclosed
  have hid : (s.session id).sessionClosed → (s.session id).desc.currentMin = 0 := by
    intro hbefore
    have hquiet := h id hbefore
    rw [hidle] at hquiet
    simpa [BinderPc.closes, BinderPc.boosts] using hquiet
  cases call with
  | createHintSession threadIds durationNanos =>
    have hne : id ≠ s.created := by
      intro heq
      simp [begin, create, binderAt, heq, PowerHintSession.new] at hclosed
    refine .inr ⟨?_, fun hboosts => hne (Option.some.inj hboosts).symm⟩
    grind [begin]
  | pause target => grind [begin, BinderPc.boosts, maxUclampValue]
  | resume target =>
    have hne : id ≠ target :=
      ne_of_accepted hallowed haccepted (by grind [begin])
    refine .inr ⟨?_, fun hboosts => hne (Option.some.inj hboosts).symm⟩
    grind [begin]
  | close target =>
    by_cases heq : id = target
    · rw [heq]
      exact .inl rfl
    · exact .inr (by grind [begin, BinderPc.boosts])
  | updateTargetWorkDuration target =>
    grind [begin, BinderPc.boosts, AppHintDesc.updateTargetWorkDuration]
  | reportActualWorkDuration target actualDurations =>
    have hne : id ≠ target :=
      ne_of_accepted hallowed haccepted (by grind [begin])
    refine .inr ⟨?_, fun hboosts => hne (Option.some.inj hboosts).symm⟩
    grind [begin]

theorem closedQuiet_binderStep (h : ClosedQuiet s) (hstep : BinderStep p s s') :
    ClosedQuiet s' := by
  intro id hclosed
  have hid := h id
  cases hstep with
  | createAdd hpc | createBoost hpc | resumeBoost hpc | reportBoost hpc =>
    rw [hpc] at hid
    grind [BinderPc.boosts, BinderPc.closes]
  | @closeReset target hpc =>
    rw [hpc] at hid
    have hzero := currentMin_setUclamp (s := s) target 0
    grind [BinderPc.boosts, BinderPc.closes, maxUclampValue]
  | pauseStore hpc | closeRemoveMessages hpc | closeUnregister hpc | post hpc =>
    rw [hpc] at hid
    grind [BinderPc.boosts, BinderPc.closes, removeMessages]
  | reportTimer hpc =>
    rw [hpc] at hid
    grind [BinderPc.boosts, BinderPc.closes, timerRestarted]
  | reportBoosts hpc | reportKeeps hpc =>
    rw [hpc] at hid
    grind [BinderPc.boosts, BinderPc.closes]

theorem closedQuiet_looperStep (h : ClosedQuiet s) (hstep : LooperStep p s s') :
    ClosedQuiet s' := by
  intro id hclosed
  have hid := h id
  cases hstep with
  | staleReset => grind [maxUclampValue]
  | staleClear => grind
  | _ => exact hid hclosed

theorem closedQuiet_step {event : Event} (h : ClosedQuiet s)
    (hallowed : LeavesClosedAlone p s event) (hstep : s.step p event = some s') :
    ClosedQuiet s' := by
  refine step_preserves ClosedQuiet hstep h (fun _ => h) ?_ ?_ (fun _ _ _ _ _ _ => h) ?_
  · rintro call rfl hidle _ haccepted
    exact closedQuiet_begin h hidle hallowed haccepted
  · exact fun _ hbinder => closedQuiet_binderStep h hbinder
  · exact fun _ hlooper => closedQuiet_looperStep h hlooper

/-- The threads of a closed session stay at the default in every run in which no
`resume` or report is accepted on a closed session. -/
theorem closed_session_unboosted (p : Platform) (s : PowerHal)
    (hrun : Reach (step p) (LeavesClosedAlone p) PowerHal.init s) (id : SessionId)
    (hclosed : (s.session id).sessionClosed) (hreturned : s.binder.closes ≠ some id) :
    (s.session id).desc.currentMin = 0 := by
  have hquiet : ClosedQuiet s := hrun.invariant ClosedQuiet nofun
    fun _ _ _ h hallowed hstep => closedQuiet_step h hallowed hstep
  obtain hcloses | ⟨hzero, _⟩ := hquiet id hclosed
  · exact absurd hcloses hreturned
  · exact hzero

/-- A closed session that is paused refuses the report that comes afterwards. -/
theorem closed_session_unboosted_paused :
    ∃ s, exec (step .default) (LeavesClosedAlone .default) PowerHal.init
        [.call (.createHintSession [7] 16000000), .binder, .binder,
          .call (.close 0), .binder, .binder, .binder, .binder,
          .call (.pause 0), .binder, .binder,
          .call (.reportActualWorkDuration 0 [20000000])] = some s ∧
      (s.session 0).sessionClosed ∧ s.binder.closes ≠ some 0 ∧
      (s.session 0).desc.currentMin = 0 := by
  refine ⟨_, rfl, rfl, nofun, closed_session_unboosted .default _ (reach_of_exec
    [.call (.createHintSession [7] 16000000), .binder, .binder,
      .call (.close 0), .binder, .binder, .binder, .binder,
      .call (.pause 0), .binder, .binder,
      .call (.reportActualWorkDuration 0 [20000000])] rfl) 0 rfl nofun⟩

/-- A session that is paused, closed and resumed is boosted again. -/
theorem closed_session_boosted :
    ∃ s, exec (step .default) Free PowerHal.init
        [.call (.createHintSession [7] 16000000), .binder, .binder,
          .call (.pause 0), .binder, .binder,
          .call (.close 0), .binder, .binder, .binder, .binder,
          .call (.resume 0), .binder, .binder] = some s ∧
      (s.session 0).sessionClosed ∧ s.binder = .idle ∧
      (s.session 0).desc.currentMin = 384 ∧
      (s.session 0).schedAttrs.getLast? = some { tid := 7, utilMin := 384, utilMax := 1024 } := by
  exact ⟨_, rfl, rfl, rfl, rfl, rfl⟩

end Exynos9810.Power
