import Exynos9810.Library.Transition
import Exynos9810.Power.Controller

namespace Exynos9810.Power

open Transition PowerHal

/-- The order of the limits that the default properties have. -/
structure Tunables.Ordered (t : Tunables) : Prop where
  low_nonpos : t.pidILowLimit ≤ 0
  init_nonneg : 0 ≤ t.pidIInit
  init_le_high : t.pidIInit ≤ t.pidIHighLimit

def AppHintDesc.Bounded (t : Tunables) (desc : AppHintDesc) : Prop :=
  t.pidILowLimit ≤ desc.integralError ∧ desc.integralError ≤ t.pidIHighLimit

def AllBounded (p : Platform) (s : PowerHal) : Prop :=
  ∀ id, (s.session id).desc.Bounded p.toTunables

/-- A change of the target that is accepted leaves the rescaled error within
`int64_t` and within the upper limit. -/
def RescalesWithin (p : Platform) (s : PowerHal) : Event → Prop
  | .call (.updateTargetWorkDuration id targetDurationNanos) =>
    0 < targetDurationNanos →
      InInt64 ((s.session id).desc.rescaled targetDurationNanos) ∧
        (s.session id).desc.rescaled targetDurationNanos ≤ p.pidIHighLimit
  | _ => True

instance (p : Platform) (s : PowerHal) (event : Event) : Decidable (RescalesWithin p s event) := by
  rcases event with _ | (_ | _ | _ | _ | _ | _) | _ | _ | _ <;> dsimp only [RescalesWithin] <;>
    infer_instance

section Descriptor

variable {p : Platform} {desc : AppHintDesc}

theorem bounded_new (hordered : p.Ordered) (threadIds : List Tid) (durationNanos : Int) :
    (AppHintDesc.new threadIds durationNanos).Bounded p.toTunables := by
  have hhigh : 0 ≤ p.pidIHighLimit := le_trans hordered.init_nonneg hordered.init_le_high
  exact ⟨hordered.low_nonpos, hhigh⟩

theorem bounded_restartIntegral (hordered : p.Ordered) (h : desc.Bounded p.toTunables) :
    (desc.restartIntegral p).Bounded p.toTunables := by
  refine ⟨?_, max_le hordered.init_le_high h.2⟩
  exact le_trans h.1 (le_max_right _ _)

theorem bounded_updateTargetWorkDuration (hordered : p.Ordered) {targetDurationNanos : Int}
    (hrange : InInt64 (desc.rescaled targetDurationNanos))
    (hhigh : desc.rescaled targetDurationNanos ≤ p.pidIHighLimit) :
    (desc.updateTargetWorkDuration p targetDurationNanos).Bounded p.toTunables := by
  have hinit : p.pidILowLimit ≤ p.pidIInit :=
    le_trans hordered.low_nonpos hordered.init_nonneg
  change p.pidILowLimit ≤ max _ (p.ofDouble _) ∧ max _ (p.ofDouble _) ≤ p.pidIHighLimit
  rw [p.ofDouble_eq _ hrange]
  exact ⟨le_trans hinit (le_max_left _ _), max_le hordered.init_le_high hhigh⟩

theorem pidTurn_bounded (hlimits : p.pidILowLimit ≤ p.pidIHighLimit) (target : Int)
    (length i : Nat) (actual : Int) {sums : AppHintDesc.PidSums}
    (h : p.pidILowLimit ≤ sums.integralError ∧ sums.integralError ≤ p.pidIHighLimit) :
    p.pidILowLimit ≤ (AppHintDesc.pidTurn p target length sums i actual).integralError ∧
      (AppHintDesc.pidTurn p target length sums i actual).integralError ≤ p.pidIHighLimit := by
  unfold AppHintDesc.pidTurn
  dsimp only
  split
  · exact ⟨le_max_left _ _, max_le hlimits (min_le_left _ _)⟩
  · exact h

theorem pidLoop_bounded (hlimits : p.pidILowLimit ≤ p.pidIHighLimit) (target : Int)
    (length : Nat) (actuals : List Int) : ∀ (i : Nat) (sums : AppHintDesc.PidSums),
    (p.pidILowLimit ≤ sums.integralError ∧ sums.integralError ≤ p.pidIHighLimit) →
    p.pidILowLimit ≤ (AppHintDesc.pidLoop p target length sums i actuals).integralError ∧
      (AppHintDesc.pidLoop p target length sums i actuals).integralError ≤ p.pidIHighLimit := by
  induction actuals with
  | nil =>
    intro i sums h
    exact h
  | cons actual rest ih =>
    intro i sums h
    exact ih (i + 1) _ (pidTurn_bounded hlimits target length i actual h)

theorem bounded_reportPid (hordered : p.Ordered) (h : desc.Bounded p.toTunables) (stale : Bool)
    (actualDurations : List Int) :
    (desc.reportPid p stale actualDurations).1.Bounded p.toTunables := by
  have hlimits : p.pidILowLimit ≤ p.pidIHighLimit := le_trans h.1 h.2
  have hstart : (if stale then desc.restartIntegral p else desc).Bounded p.toTunables := by
    split
    · exact bounded_restartIntegral hordered h
    · exact h
  exact pidLoop_bounded hlimits _ _ _ _ _ hstart

end Descriptor

variable {p : Platform} {s s' : PowerHal}

theorem allBounded_step (hordered : p.Ordered) {event : Event} (h : AllBounded p s)
    (hallowed : RescalesWithin p s event) (hstep : s.step p event = some s') :
    AllBounded p s' := by
  apply step_keeps_carried
    (fun carried => p.pidILowLimit ≤ carried.integralError ∧
      carried.integralError ≤ p.pidIHighLimit) hstep h
  · intro threadIds durationNanos _
    exact bounded_new hordered threadIds durationNanos
  · intro id _
    exact bounded_restartIntegral hordered (h id)
  · rintro id targetDurationNanos rfl hpositive
    obtain ⟨hrange, hhigh⟩ := hallowed hpositive
    exact bounded_updateTargetWorkDuration hordered hrange hhigh
  · intro id actualDurations _ _ stale
    exact bounded_reportPid hordered (h id) stale actualDurations

/-- The integral error of every session stays within its limits in every run in
which no change of the target rescales it beyond the upper one. -/
theorem integralError_bounded (p : Platform) (hordered : p.Ordered) (s : PowerHal)
    (hrun : Reach (step p) (RescalesWithin p) PowerHal.init s) (id : SessionId) :
    (s.session id).desc.Bounded p.toTunables := by
  have hall : AllBounded p s := hrun.invariant (AllBounded p)
    (fun _ => bounded_new hordered [] 0)
    fun _ _ _ h hallowed hstep => allBounded_step hordered h hallowed hstep
  exact hall id

theorem default_ordered : Platform.default.Ordered :=
  ⟨by decide, by decide, by decide⟩

theorem integralError_bounded_late :
    ∃ s, exec (step .default) (RescalesWithin .default) PowerHal.init
        [.call (.createHintSession [7] 16000000), .binder, .binder,
          .call (.updateTargetWorkDuration 0 8000000),
          .call (.reportActualWorkDuration 0 [9000000]), .binder, .binder, .binder,
          .call (.updateTargetWorkDuration 0 16000000)] = some s ∧
      (s.session 0).desc.Bounded Platform.default.toTunables := by
  refine ⟨_, rfl, integralError_bounded .default default_ordered _ (reach_of_exec
    [.call (.createHintSession [7] 16000000), .binder, .binder,
      .call (.updateTargetWorkDuration 0 8000000),
      .call (.reportActualWorkDuration 0 [9000000]), .binder, .binder, .binder,
      .call (.updateTargetWorkDuration 0 16000000)] rfl) 0⟩

/-- Two changes to a quarter of the target take the error from its initial value
to four times that, beyond the upper limit. -/
theorem integralError_exceeds :
    ∃ s, exec (step .default) Free PowerHal.init
        [.call (.createHintSession [7] 16000000), .binder, .binder,
          .call (.updateTargetWorkDuration 0 4000000),
          .call (.updateTargetWorkDuration 0 1000000)] = some s ∧
      (s.session 0).desc.integralError = 800000 ∧
      ¬(s.session 0).desc.Bounded Platform.default.toTunables := by
  refine ⟨_, rfl, by decide, ?_⟩
  unfold AppHintDesc.Bounded
  decide

end Exynos9810.Power
