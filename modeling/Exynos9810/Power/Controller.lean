import Exynos9810.Power.PowerHalStep

namespace Exynos9810.Power

open PowerHal

structure Carried where
  duration : Int
  integralError : Int
  previousError : Int
  deriving DecidableEq, Repr

def AppHintDesc.carried (desc : AppHintDesc) : Carried :=
  { duration := desc.duration, integralError := desc.integralError
    previousError := desc.previousError }

variable {p : Platform} {s s' : PowerHal}

theorem carried_binderStep (h : BinderStep p s s') (id : SessionId) :
    (s'.session id).desc.carried = (s.session id).desc.carried := by
  obtain ⟨_, heq⟩ | ⟨_, _, heq⟩ | ⟨_, heq⟩ | ⟨_, _, _, heq⟩ := session_binderStep h id <;>
    exact congrArg (·.desc.carried) heq

theorem carried_looperStep (h : LooperStep p s s') (id : SessionId) :
    (s'.session id).desc.carried = (s.session id).desc.carried := by
  obtain ⟨_, heq⟩ | ⟨_, heq⟩ | ⟨_, heq⟩ := session_looperStep h id <;>
    exact congrArg (·.desc.carried) heq

/-- A property of what the controllers carry survives a step if it survives the calls
that change it. -/
theorem step_keeps_carried (holds : Carried → Prop) {event : Event}
    (hstep : s.step p event = some s') (h : ∀ id, holds (s.session id).desc.carried)
    (hcreate : ∀ threadIds durationNanos,
      event = .call (.createHintSession threadIds durationNanos) →
      holds (AppHintDesc.new threadIds durationNanos).carried)
    (hresume : ∀ id, event = .call (.resume id) →
      holds ((s.session id).desc.restartIntegral p).carried)
    (hupdate : ∀ id targetDurationNanos,
      event = .call (.updateTargetWorkDuration id targetDurationNanos) → 0 < targetDurationNanos →
      holds ((s.session id).desc.updateTargetWorkDuration p targetDurationNanos).carried)
    (hreport : ∀ id actualDurations,
      event = .call (.reportActualWorkDuration id actualDurations) →
      (s.session id).desc.reportRefusal actualDurations = none → ∀ stale,
      holds ((s.session id).desc.reportPid p stale actualDurations).1.carried) (id : SessionId) :
    holds (s'.session id).desc.carried := by
  refine step_preserves (fun s' => ∀ id, holds (s'.session id).desc.carried) hstep h
    (fun _ => h) ?_ ?_ (fun _ _ _ _ _ _ => h) ?_ id
  · intro call hevent _ _ haccepted id
    cases call with
    | createHintSession threadIds durationNanos =>
      simp only [begin, create, binderAt]
      split
      · exact hcreate threadIds durationNanos hevent
      · exact h id
    | pause target =>
      simp only [begin, setUclamp, binderAt, session_update]
      split <;> exact h id
    | resume target =>
      simp only [begin, updateDesc, binderAt, session_update]
      split
      · rename_i hid
        exact hid ▸ hresume target hevent
      · exact h id
    | close target =>
      simp only [begin, binderAt, session_update]
      split <;> exact h id
    | updateTargetWorkDuration target targetDurationNanos =>
      have hpositive : 0 < targetDurationNanos := by
        by_contra hnot
        rw [refusal, if_pos (not_lt.mp hnot)] at haccepted
        cases haccepted
      simp only [begin, updateDesc, session_update]
      split
      · rename_i hid
        exact hid ▸ hupdate target targetDurationNanos hevent hpositive
      · exact h id
    | reportActualWorkDuration target actualDurations =>
      simp only [begin, updateDesc, binderAt, session_update]
      split
      · rename_i hid
        subst hid
        exact hreport id actualDurations hevent haccepted _
      · exact h id
  · intro _ hbinder id
    rw [carried_binderStep hbinder id]
    exact h id
  · intro _ hlooper id
    rw [carried_looperStep hlooper id]
    exact h id

end Exynos9810.Power
