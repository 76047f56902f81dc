import Exynos9810.Library.Transition
import Exynos9810.Power.PowerHalStep

/-!
# The apply step of a report

The controller's output has 64 bits, the value that is clamped and applied has 32.  What
a session is left with is within the granularity of the clamped output exactly as long as
the narrowing does not change the clamped value, which is a matter of the output's residue.
-/
namespace Exynos9810.Power

open AppHintDesc PowerHal Transition

/-- Limits that are in order and that `setUclamp` takes as they are. -/
structure Tunables.UclampOrdered (t : Tunables) : Prop where
  low_nonneg : 0 ≤ t.uclampMinLowLimit
  low_le_high : t.uclampMinLowLimit ≤ t.uclampMinHighLimit
  high_le_max : t.uclampMinHighLimit ≤ maxUclampValue

/-- A value brought between the limits. -/
def Tunables.clamp (t : Tunables) (x : Int) : Int :=
  max t.uclampMinLowLimit (min t.uclampMinHighLimit x)

/-- The outputs whose clamped value survives the narrowing, by what `int` keeps of those
that do not fit: high outputs have to stay at or above the high limit, low ones at or below
the low limit. -/
def Tunables.NarrowsAlike (t : Tunables) (output : Int) : Prop :=
  (-2 ^ 31 ≤ output ∧ output < 2 ^ 31) ∨
  t.uclampMinLowLimit = t.uclampMinHighLimit ∨
  (2 ^ 31 ≤ output ∧ t.uclampMinHighLimit ≤ output % 2 ^ 32 ∧ output % 2 ^ 32 < 2 ^ 31) ∨
  (output < -2 ^ 31 ∧ (output % 2 ^ 32 ≤ t.uclampMinLowLimit ∨ 2 ^ 31 ≤ output % 2 ^ 32))

instance (t : Tunables) (output : Int) : Decidable (t.NarrowsAlike output) :=
  inferInstanceAs (Decidable (_ ∨ _ ∨ _ ∨ _))

/-- A session after the apply step of a report. -/
def PowerHintSession.applied (p : Platform) (session : PowerHintSession) (output : Int) :
    PowerHintSession :=
  match session.desc.nextMin p output with
  | some nextMin => session.setUclamp nextMin maxUclampValue
  | none => session

theorem applied_exec {p : Platform} {s : PowerHal} {id : SessionId} {output : Int}
    (hpc : s.binder = .reportApply id output) :
    ∃ steps s', exec (step p) Free s (List.replicate steps .binder) = some s' ∧
      s'.binder = .idle ∧ s'.session id = (s.session id).applied p output := by
  cases hnext : (s.session id).desc.nextMin p output with
  | none =>
    refine ⟨1, s.binderAt .idle, ?_, rfl, ?_⟩
    · simp [exec, Free, step, hpc, binderStep, hnext]
    · simp [PowerHintSession.applied, hnext, binderAt]
  | some nextMin =>
    refine ⟨2, (s.setUclamp id nextMin).binderAt .idle, ?_, rfl, ?_⟩
    · simp [exec, Free, step, hpc, binderStep, hnext, binderAt, PowerHal.setUclamp, update]
    · simp [PowerHintSession.applied, hnext, binderAt, PowerHal.setUclamp]

section Clamp

variable {p : Platform} {output : Int}

theorem clamp_mono {smaller larger : Int} (h : smaller ≤ larger) :
    p.clamp smaller ≤ p.clamp larger := by
  unfold Tunables.clamp
  omega

theorem clamp_le_high (hordered : p.UclampOrdered) (x : Int) :
    p.clamp x ≤ p.uclampMinHighLimit := by
  have hlimits := hordered.low_le_high
  unfold Tunables.clamp
  omega

theorem toInt32_eq (h : -2 ^ 31 ≤ output ∧ output < 2 ^ 31) : toInt32 output = output := by
  unfold toInt32
  omega

theorem clamp_toInt32_eq_iff (hordered : p.UclampOrdered) (output : Int) :
    p.clamp (toInt32 output) = p.clamp output ↔ p.NarrowsAlike output := by
  have hlow := hordered.low_nonneg
  have hlimits := hordered.low_le_high
  have hhigh := hordered.high_le_max
  unfold Tunables.clamp Tunables.NarrowsAlike toInt32
  unfold maxUclampValue at hhigh
  omega

theorem currentMin_applied (hordered : p.UclampOrdered) (hne : output ≠ 0)
    (session : PowerHintSession) :
    (session.applied p output).desc.currentMin =
      if p.uclampMinGranularity < (session.desc.currentMin - p.clamp (toInt32 output)).natAbs then
        p.clamp (toInt32 output)
      else session.desc.currentMin := by
  have hhigh := clamp_le_high hordered (toInt32 output)
  have hmax := hordered.high_le_max
  have hlow : 0 ≤ p.clamp (toInt32 output) := le_trans hordered.low_nonneg (le_max_left _ _)
  have hnext : session.desc.nextMin p output =
      if p.uclampMinGranularity < (session.desc.currentMin - p.clamp (toInt32 output)).natAbs then
        some (p.clamp (toInt32 output)) else none := by
    rw [nextMin, if_neg hne]
    rfl
  unfold PowerHintSession.applied
  rw [hnext]
  split_ifs
  · change min (max 0 (p.clamp (toInt32 output))) maxUclampValue = _
    omega
  · rfl

/-- A session that is as far below or above the narrowed value as the hysteresis allows. -/
theorem exists_applied_far (hordered : p.UclampOrdered) (hne : output ≠ 0) {x : Int}
    (hx : p.clamp (toInt32 output) ≠ x) :
    ∃ session : PowerHintSession,
      p.uclampMinGranularity < ((session.applied p output).desc.currentMin - x).natAbs := by
  let far : Int := if x < p.clamp (toInt32 output) then
      p.clamp (toInt32 output) + p.uclampMinGranularity
    else p.clamp (toInt32 output) - p.uclampMinGranularity
  let start := PowerHintSession.new 0 0 [] 0
  refine ⟨{ start with desc := { start.desc with currentMin := far } }, ?_⟩
  rw [currentMin_applied hordered hne]
  dsimp only [far]
  split_ifs <;> omega

end Clamp

/-- **Apply step.**  The binder thread takes a session to `applied`.  From every
`current_min` that is within the granularity of the clamped 64-bit output exactly if the
narrowing to `int` leaves the clamped value alone, as it does in the ranges of
`NarrowsAlike`.  In the range of `int` a larger output never falls from the high limit. -/
theorem apply_follows_output_iff (p : Platform) (hordered : p.UclampOrdered) (output : Int)
    (hne : output ≠ 0) :
    (∀ (s : PowerHal) (id : SessionId), s.binder = .reportApply id output →
      ∃ steps s', exec (step p) Free s (List.replicate steps .binder) = some s' ∧
        s'.binder = .idle ∧ s'.session id = (s.session id).applied p output) ∧
    ((∀ session : PowerHintSession,
        ((session.applied p output).desc.currentMin - p.clamp output).natAbs ≤
          p.uclampMinGranularity) ↔
      p.clamp (toInt32 output) = p.clamp output) ∧
    (p.clamp (toInt32 output) = p.clamp output ↔ p.NarrowsAlike output) ∧
    (-2 ^ 31 ≤ output ∧ output < 2 ^ 31 →
      p.clamp (toInt32 output) = p.clamp output ∧
      ∀ smaller, -2 ^ 31 ≤ smaller → smaller ≤ output →
        p.clamp (toInt32 smaller) = p.uclampMinHighLimit →
        p.clamp (toInt32 output) = p.uclampMinHighLimit) := by
  refine ⟨fun s id hpc => applied_exec hpc, ⟨?_, ?_⟩, clamp_toInt32_eq_iff hordered output, ?_⟩
  · intro hclose
    by_contra hnarrow
    obtain ⟨session, hfar⟩ := exists_applied_far hordered hne hnarrow
    exact absurd (hclose session) (Nat.not_le.mpr hfar)
  · intro hnarrow session
    rw [currentMin_applied hordered hne, hnarrow]
    split_ifs <;> omega
  · intro hrange
    refine ⟨by rw [toInt32_eq hrange], ?_⟩
    intro smaller hlow hle hhigh
    rw [toInt32_eq ⟨hlow, hle.trans_lt hrange.2⟩] at hhigh
    rw [toInt32_eq hrange]
    exact le_antisymm (clamp_le_high hordered output) (hhigh ▸ clamp_mono hle)

theorem default_uclampOrdered : Platform.default.UclampOrdered :=
  ⟨by decide, by decide, by decide⟩

/-- An output of 700 is brought down to the high limit, and so is one that narrows to
700; one that narrows to 7 is not. -/
theorem apply_follows_output_700 :
    Platform.default.clamp (toInt32 700) = Platform.default.clamp 700 ∧
      Platform.default.clamp (toInt32 (2 ^ 32 + 700)) = Platform.default.clamp (2 ^ 32 + 700) ∧
      Platform.default.clamp (toInt32 (2 ^ 32 + 7)) ≠ Platform.default.clamp (2 ^ 32 + 7) ∧
      ((((PowerHintSession.new 0 0 [7] 16000000).applied .default 700).desc.currentMin -
        Platform.default.clamp 700).natAbs ≤ 5) := by
  have hfollows (output : Int) (hne : output ≠ 0) :=
    apply_follows_output_iff .default default_uclampOrdered output hne
  have hsame := ((hfollows 700 (by decide)).2.2.2 (by decide)).1
  exact ⟨hsame, (hfollows (2 ^ 32 + 700) (by decide)).2.2.1.mpr (by decide),
    (hfollows (2 ^ 32 + 7) (by decide)).2.2.1.not.mpr (by decide),
    (hfollows 700 (by decide)).2.1.mpr hsame (PowerHintSession.new 0 0 [7] 16000000)⟩

/-- A frame of fourteen hours: the output of the controller is beyond the range of `int`
and the boost drops to the low limit. -/
theorem apply_drops_to_low :
    ∃ reported applied,
      exec (step .default) Free PowerHal.init
        [.call (.createHintSession [7] 16000000), .binder, .binder,
          .call (.reportActualWorkDuration 0 [50000016000000])] = some reported ∧
      reported.binder = .reportTimer 0 2562500512 ∧
      exec (step .default) Free reported [.binder, .binder, .binder] = some applied ∧
      (applied.session 0).desc.currentMin = Platform.default.uclampMinLowLimit ∧
      Platform.default.clamp 2562500512 = Platform.default.uclampMinHighLimit ∧
      ¬((applied.session 0).desc.currentMin - Platform.default.clamp 2562500512).natAbs ≤
        Platform.default.uclampMinGranularity := by
  refine ⟨_, _, rfl, by decide, rfl, by decide, by decide, by decide⟩

end Exynos9810.Power
