import Exynos9810.Power.IntegralError
import Exynos9810.Power.PidLoop

/-!
# The arithmetic of a report

The guards of a report look at the target in nanoseconds; the divisor is the target in
units of 100 microseconds.  Neither the target nor the samples have an upper bound, and
the operations of the PID loop are on `int64_t`.
-/
namespace Exynos9810.Power

open AppHintDesc PowerHal Transition

section Divisors

/-- What a report divides by: `dt`, `length - p_start` and `length - d_start`. -/
def AppHintDesc.divisors (p : Platform) (desc : AppHintDesc) (actualDurations : List Int) :
    List Int :=
  let length := actualDurations.length
  [nsTo100us desc.duration, (length : Int) - windowStart p.pSamplingWindow length,
    (length : Int) - windowStart p.dSamplingWindow length]

theorem natAbs_nsTo100us (ns : Int) : (nsTo100us ns).natAbs = ns.natAbs / 100000 :=
  Int.natAbs_tdiv ns 100000

theorem nsTo100us_ne_zero_iff (ns : Int) : nsTo100us ns ≠ 0 ↔ 100000 ≤ ns.natAbs := by
  rw [← Int.natAbs_ne_zero, natAbs_nsTo100us]
  omega

theorem sub_windowStart_ne_zero (window : Nat) {actualDurations : List Int}
    (hne : actualDurations ≠ []) :
    (actualDurations.length : Int) - windowStart window actualDurations.length ≠ 0 := by
  have hbounds := windowLength_bounds window (List.length_pos_iff.mpr hne)
  rw [← sub_windowStart] at hbounds
  omega

theorem divisors_ne_zero_iff (p : Platform) (desc : AppHintDesc) {actualDurations : List Int}
    (hne : actualDurations ≠ []) :
    (∀ divisor ∈ desc.divisors p actualDurations, divisor ≠ 0) ↔
      100000 ≤ desc.duration.natAbs := by
  rw [← nsTo100us_ne_zero_iff]
  simp [divisors, sub_windowStart_ne_zero _ hne]

/-- Durations that are shorter than the unit of `dt` do not get into a session. -/
def LongTargets (_ : PowerHal) : Event → Prop
  | .call (.createHintSession _ durationNanos) =>
    durationNanos = 0 ∨ 100000 ≤ durationNanos.natAbs
  | .call (.updateTargetWorkDuration _ targetDurationNanos) =>
    0 < targetDurationNanos → 100000 ≤ targetDurationNanos
  | _ => True

instance (s : PowerHal) (event : Event) : Decidable (LongTargets s event) := by
  rcases event with _ | (_ | _ | _ | _ | _ | _) | _ | _ | _ <;> dsimp only [LongTargets] <;>
    infer_instance

variable {p : Platform} {s s' : PowerHal}

theorem longTargets_step {event : Event}
    (h : ∀ id, (s.session id).desc.duration = 0 ∨ 100000 ≤ (s.session id).desc.duration.natAbs)
    (hallowed : LongTargets s event) (hstep : s.step p event = some s') (id : SessionId) :
    (s'.session id).desc.duration = 0 ∨ 100000 ≤ (s'.session id).desc.duration.natAbs := by
  apply step_keeps_carried
    (fun carried => carried.duration = 0 ∨ 100000 ≤ carried.duration.natAbs) hstep h
  · rintro threadIds durationNanos rfl
    exact hallowed
  · intro id _
    exact h id
  · rintro id targetDurationNanos rfl hpositive
    have hlong := hallowed hpositive
    change targetDurationNanos = 0 ∨ 100000 ≤ targetDurationNanos.natAbs
    omega
  · intro id actualDurations _ _ stale
    cases stale <;> exact h id

/-- **Divisors.**  An accepted report divides by zero exactly if its target is shorter than
the unit of `dt`, and in a run that takes no such target none does. -/
theorem report_divisors_nonzero (p : Platform) (s : PowerHal) (id : SessionId)
    (actualDurations : List Int)
    (haccepted : s.refusal p (.reportActualWorkDuration id actualDurations) = none) :
    ((∀ divisor ∈ (s.session id).desc.divisors p actualDurations, divisor ≠ 0) ↔
      100000 ≤ (s.session id).desc.duration.natAbs) ∧
    (Reach (step p) LongTargets PowerHal.init s →
      ∀ divisor ∈ (s.session id).desc.divisors p actualDurations, divisor ≠ 0) := by
  have haccepted : (s.session id).desc.reportRefusal actualDurations = none := haccepted
  unfold reportRefusal at haccepted
  split_ifs at haccepted with hzero hempty hactive
  have hexact := divisors_ne_zero_iff p (s.session id).desc hempty
  refine ⟨hexact, fun hrun => hexact.mpr ?_⟩
  have hdurations : ∀ id, (s.session id).desc.duration = 0 ∨
      100000 ≤ (s.session id).desc.duration.natAbs :=
    hrun.invariant _ (fun _ => .inl rfl) fun _ _ _ h hallowed hstep =>
      longTargets_step h hallowed hstep
  exact (hdurations id).resolve_left hzero

theorem report_divisors_nonzero_shortest :
    ∃ s, exec (step .default) LongTargets PowerHal.init
        [.call (.createHintSession [7] 0), .binder, .binder,
          .call (.updateTargetWorkDuration 0 100000)] = some s ∧
      (s.session 0).desc.divisors .default [90000, 110000] = [1, 1, 1] ∧
      ∀ divisor ∈ (s.session 0).desc.divisors .default [90000, 110000], divisor ≠ 0 := by
  refine ⟨_, rfl, rfl, (report_divisors_nonzero .default _ 0 [90000, 110000] rfl).2
    (reach_of_exec [.call (.createHintSession [7] 0), .binder, .binder,
      .call (.updateTargetWorkDuration 0 100000)] rfl)⟩

/-- A target of 50 microseconds is accepted, and so is a report on it; `dt` is zero. -/
theorem report_divides_by_zero :
    ∃ s, exec (step .default) Free PowerHal.init
        [.call (.createHintSession [7] 16000000), .binder, .binder,
          .call (.updateTargetWorkDuration 0 50000)] = some s ∧
      s.refusal .default (.reportActualWorkDuration 0 [60000]) = none ∧
      0 ∈ (s.session 0).desc.divisors .default [60000] := by
  refine ⟨_, rfl, rfl, by decide⟩

end Divisors

section Overflow

/-- The exact values of the signed operations in one turn of the PID loop. -/
def turnValues (p : Platform) (target : Int) (length : Nat) (sums : PidSums) (i : Nat)
    (actual : Int) : List Int :=
  let dt := nsTo100us target
  let error := nsTo100us (p.int64 (actual - target))
  [(actual.natAbs : Int), target * 20, actual - target] ++
    (if windowStart p.dSamplingWindow length ≤ i then
      [error - sums.previousError,
        sums.derivativeSum + p.int64 (error - sums.previousError)] else []) ++
    (if windowStart p.pSamplingWindow length ≤ i then [sums.errSum + error] else []) ++
    (if windowStart p.iSamplingWindow length ≤ i then
      [error * dt, sums.integralError + p.int64 (error * dt)] else [])

def loopValues (p : Platform) (target : Int) (length : Nat) :
    PidSums → Nat → List Int → List Int
  | _, _, [] => []
  | sums, i, actual :: rest =>
    turnValues p target length sums i actual ++
      loopValues p target length (pidTurn p target length sums i actual) (i + 1) rest

def AppHintDesc.reportValues (p : Platform) (desc : AppHintDesc) (stale : Bool)
    (actualDurations : List Int) : List Int :=
  let desc := desc.started p stale
  let start := loopStart p actualDurations.length
  loopValues p desc.duration actualDurations.length
    { errSum := 0, derivativeSum := 0, integralError := desc.integralError
      previousError := desc.previousError } start (actualDurations.drop start)

/-- What the sums are bounded by after `turns` turns on durations of at most `10 ^ 14`
nanoseconds. -/
structure SumsBound (p : Platform) (turns : Nat) (sums : PidSums) : Prop where
  errSum : sums.errSum.natAbs ≤ turns * 2000000000
  derivativeSum : sums.derivativeSum.natAbs ≤ turns * 4000000000
  previousError : sums.previousError.natAbs ≤ 2000000000
  integralError : p.pidILowLimit ≤ sums.integralError ∧ sums.integralError ≤ p.pidIHighLimit

variable {p : Platform} {target actual : Int}

theorem sampleError_bound (htarget : target.natAbs ≤ 10 ^ 14) (hactual : actual.natAbs ≤ 10 ^ 14) :
    InInt64 (actual - target) ∧
      (nsTo100us (p.int64 (actual - target))).natAbs ≤ 2000000000 := by
  have hrange : InInt64 (actual - target) := by
    unfold InInt64
    omega
  rw [p.int64_eq _ hrange, natAbs_nsTo100us]
  exact ⟨hrange, by omega⟩

theorem inInt64_of_natAbs_le {x : Int} {bound : Nat} (hx : x.natAbs ≤ bound)
    (hbound : bound < 2 ^ 63) : InInt64 x := by
  unfold InInt64
  omega

theorem natAbs_add_le_of_le {x y : Int} {left right : Nat} (hx : x.natAbs ≤ left)
    (hy : y.natAbs ≤ right) : (x + y).natAbs ≤ left + right :=
  (Int.natAbs_add_le x y).trans (Nat.add_le_add hx hy)

theorem natAbs_sub_le_of_le {x y : Int} {left right : Nat} (hx : x.natAbs ≤ left)
    (hy : y.natAbs ≤ right) : (x - y).natAbs ≤ left + right :=
  (Int.natAbs_sub_le x y).trans (Nat.add_le_add hx hy)

theorem room_of_turns {turns : Nat} (hturns : turns < 2 ^ 31) :
    turns * 2000000000 + 2000000000 < 2 ^ 63 ∧
      turns * 4000000000 + (2000000000 + 2000000000) < 2 ^ 63 := by
  constructor <;> omega

theorem mul_dt_bound {error dt : Int} (herror : error.natAbs ≤ 2000000000)
    (hdt : dt.natAbs ≤ 1000000000) : (error * dt).natAbs ≤ 2000000000000000000 := by
  rw [Int.natAbs_mul]
  exact Nat.mul_le_mul herror hdt

structure Tunables.Moderate (t : Tunables) : Prop where
  low : -2 ^ 62 ≤ t.pidILowLimit
  high : t.pidIHighLimit ≤ 2 ^ 62

section Turn

variable {sums : PidSums} {turns : Nat} (hmoderate : p.Moderate) (hbound : SumsBound p turns sums)
  (hturns : turns < 2 ^ 31) (htarget : target.natAbs ≤ 10 ^ 14)
  (hactual : actual.natAbs ≤ 10 ^ 14) (length i : Nat)
include hmoderate hbound hturns htarget hactual

theorem turnValues_in_range :
    ∀ value ∈ turnValues p target length sums i actual, InInt64 value := by
  obtain ⟨herrRoom, hderivativeRoom⟩ := room_of_turns hturns
  obtain ⟨hrange, herror⟩ := sampleError_bound (p := p) htarget hactual
  have hdt : (nsTo100us target).natAbs ≤ 1000000000 := by
    rw [natAbs_nsTo100us]
    omega
  have hproduct := mul_dt_bound herror hdt
  have hmul : InInt64 (nsTo100us (p.int64 (actual - target)) * nsTo100us target) :=
    inInt64_of_natAbs_le hproduct (by decide)
  have hdifference := natAbs_sub_le_of_le herror hbound.previousError
  have hsub := inInt64_of_natAbs_le hdifference (by decide)
  intro value hvalue
  simp only [turnValues, p.int64_eq _ hsub, p.int64_eq _ hmul, List.mem_append, List.mem_cons,
    List.not_mem_nil, or_false, List.mem_ite_nil_right] at hvalue
  rcases hvalue with (((rfl | rfl | rfl) | ⟨-, rfl | rfl⟩) | ⟨-, rfl⟩) | ⟨-, rfl | rfl⟩
  · exact inInt64_of_natAbs_le hactual (by decide)
  · exact inInt64_of_natAbs_le (Int.natAbs_mul target 20 ▸ Nat.mul_le_mul_right 20 htarget)
      (by decide)
  · exact hrange
  · exact hsub
  · exact inInt64_of_natAbs_le (natAbs_add_le_of_le hbound.derivativeSum hdifference)
      hderivativeRoom
  · exact inInt64_of_natAbs_le (natAbs_add_le_of_le hbound.errSum herror) herrRoom
  · exact hmul
  · obtain ⟨hlow, hhigh⟩ := hbound.integralError
    have hlowest := hmoderate.low
    have hhighest := hmoderate.high
    generalize nsTo100us (p.int64 (actual - target)) * nsTo100us target = product at *
    clear hdifference hsub hdt herror hrange hmul
    unfold InInt64
    omega

omit hmoderate in
theorem sumsBound_pidTurn :
    SumsBound p (turns + 1) (pidTurn p target length sums i actual) := by
  obtain ⟨herrRoom, hderivativeRoom⟩ := room_of_turns hturns
  obtain ⟨hrange, herror⟩ := sampleError_bound (p := p) htarget hactual
  have hlimits : p.pidILowLimit ≤ p.pidIHighLimit :=
    le_trans hbound.integralError.1 hbound.integralError.2
  have herrSum := natAbs_add_le_of_le hbound.errSum herror
  have hdifference := natAbs_sub_le_of_le herror hbound.previousError
  have hderivative := natAbs_add_le_of_le hbound.derivativeSum hdifference
  refine ⟨?_, ?_, herror, pidTurn_bounded hlimits target length i actual hbound.integralError⟩
  · unfold pidTurn
    dsimp only
    rw [p.int64_eq _ (inInt64_of_natAbs_le herrSum herrRoom), Nat.succ_mul]
    split
    · exact herrSum
    · exact hbound.errSum.trans (Nat.le_add_right _ _)
  · unfold pidTurn
    dsimp only
    rw [p.int64_eq _ (inInt64_of_natAbs_le hdifference (by decide)),
      p.int64_eq _ (inInt64_of_natAbs_le hderivative hderivativeRoom), Nat.succ_mul]
    split
    · exact hderivative
    · exact hbound.derivativeSum.trans (Nat.le_add_right _ _)

end Turn

section Loop

variable (hmoderate : p.Moderate) (htarget : target.natAbs ≤ 10 ^ 14) (length : Nat)
include hmoderate htarget

theorem loop_in_range {actuals : List Int} (hactuals : ∀ actual ∈ actuals, actual.natAbs ≤ 10 ^ 14)
    {sums : PidSums} {turns : Nat} (hbound : SumsBound p turns sums)
    (hturns : turns + actuals.length ≤ 2 ^ 31) (i : Nat) :
    (∀ value ∈ loopValues p target length sums i actuals, InInt64 value) ∧
      SumsBound p (turns + actuals.length) (pidLoop p target length sums i actuals) := by
  induction actuals generalizing sums turns i with
  | nil => exact ⟨nofun, hbound⟩
  | cons actual rest ih =>
    rw [List.length_cons] at hturns
    have hactual := hactuals actual List.mem_cons_self
    have hlt : turns < 2 ^ 31 := by omega
    obtain ⟨hvalues, hlast⟩ := ih (fun actual h => hactuals actual (List.mem_cons_of_mem _ h))
      (sumsBound_pidTurn hbound hlt htarget hactual length i) (by omega) (i + 1)
    refine ⟨?_, ?_⟩
    · intro value hvalue
      rcases List.mem_append.mp hvalue with hvalue | hvalue
      · exact turnValues_in_range hmoderate hbound hlt htarget hactual length i value hvalue
      · exact hvalues value hvalue
    · rw [List.length_cons, Nat.add_comm rest.length, ← Nat.add_assoc]
      exact hlast

end Loop

structure Carried.Modest (t : Tunables) (carried : Carried) : Prop where
  duration : carried.duration.natAbs ≤ 10 ^ 14
  integralError :
    t.pidILowLimit ≤ carried.integralError ∧ carried.integralError ≤ t.pidIHighLimit
  previousError : carried.previousError.natAbs ≤ 2000000000

/-- Durations of at most `10 ^ 14` nanoseconds (27 hours), fewer than `2 ^ 31` samples in a
report, and no rescaling of the integral error beyond its limit. -/
def ModestCalls (p : Platform) (s : PowerHal) (event : Event) : Prop :=
  RescalesWithin p s event ∧
    match event with
    | .call (.createHintSession _ durationNanos) => durationNanos.natAbs ≤ 10 ^ 14
    | .call (.updateTargetWorkDuration _ targetDurationNanos) => targetDurationNanos ≤ 10 ^ 14
    | .call (.reportActualWorkDuration _ actualDurations) =>
      actualDurations.length < 2 ^ 31 ∧ ∀ actual ∈ actualDurations, actual.natAbs ≤ 10 ^ 14
    | _ => True

instance (p : Platform) (s : PowerHal) (event : Event) : Decidable (ModestCalls p s event) := by
  rcases event with _ | (_ | _ | _ | _ | _ | _) | _ | _ | _ <;> dsimp only [ModestCalls] <;>
    infer_instance

section Runs

variable {desc : AppHintDesc} (hordered : p.Ordered) (hmoderate : p.Moderate)
include hordered hmoderate

theorem report_in_range (h : desc.carried.Modest p.toTunables) (stale : Bool)
    {actualDurations : List Int} (hlength : actualDurations.length < 2 ^ 31)
    (hactuals : ∀ actual ∈ actualDurations, actual.natAbs ≤ 10 ^ 14) :
    (∀ value ∈ desc.reportValues p stale actualDurations, InInt64 value) ∧
      (desc.reportPid p stale actualDurations).1.carried.Modest p.toTunables := by
  let start := desc.started p stale
  have hstart : start.carried.Modest p.toTunables := by
    cases stale with
    | false => exact h
    | true =>
      exact ⟨h.duration, bounded_restartIntegral hordered h.integralError, h.previousError⟩
  have hdrop (actual : Int)
      (hactual : actual ∈ actualDurations.drop (loopStart p actualDurations.length)) :
      actual.natAbs ≤ 10 ^ 14 :=
    hactuals actual (List.mem_of_mem_drop hactual)
  have hfirst : SumsBound p 0
      { errSum := 0, derivativeSum := 0, integralError := start.integralError
        previousError := start.previousError } :=
    ⟨Nat.le_refl 0, Nat.le_refl 0, hstart.previousError, hstart.integralError⟩
  obtain ⟨hvalues, hlast⟩ := loop_in_range hmoderate hstart.duration actualDurations.length hdrop
    hfirst (by rw [List.length_drop]; omega) (loopStart p actualDurations.length)
  exact ⟨hvalues, hstart.duration, hlast.integralError, hlast.previousError⟩

theorem modest_step {s s' : PowerHal} {event : Event}
    (h : ∀ id, (s.session id).desc.carried.Modest p.toTunables)
    (hallowed : ModestCalls p s event) (hstep : s.step p event = some s') (id : SessionId) :
    (s'.session id).desc.carried.Modest p.toTunables := by
  apply step_keeps_carried (Carried.Modest p.toTunables) hstep h
  · rintro threadIds durationNanos rfl
    exact ⟨hallowed.2, bounded_new hordered threadIds durationNanos, Nat.zero_le _⟩
  · intro id _
    exact ⟨(h id).duration, bounded_restartIntegral hordered (h id).integralError,
      (h id).previousError⟩
  · rintro id targetDurationNanos rfl hpositive
    obtain ⟨hrescales, hle⟩ := hallowed
    obtain ⟨hrange, hhigh⟩ := hrescales hpositive
    refine ⟨?_, bounded_updateTargetWorkDuration hordered hrange hhigh, (h id).previousError⟩
    change targetDurationNanos.natAbs ≤ 10 ^ 14
    dsimp only at hle
    omega
  · rintro id actualDurations rfl - stale
    obtain ⟨-, hlength, hactuals⟩ := hallowed
    exact (report_in_range hordered hmoderate (h id) stale hlength hactuals).2

end Runs

/-- **No overflow.**  On durations of up to `10 ^ 14` nanoseconds every signed operation of
the PID loop stays within `int64_t`. -/
theorem report_never_overflows (p : Platform) (hordered : p.Ordered) (hmoderate : p.Moderate)
    (s : PowerHal) (hrun : Reach (step p) (ModestCalls p) PowerHal.init s) (id : SessionId)
    (actualDurations : List Int)
    (hmodest : ModestCalls p s (.call (.reportActualWorkDuration id actualDurations)))
    (stale : Bool) :
    ∀ value ∈ (s.session id).desc.reportValues p stale actualDurations, InInt64 value := by
  have hall : ∀ id, (s.session id).desc.carried.Modest p.toTunables :=
    hrun.invariant _ (fun _ => ⟨Nat.zero_le _, bounded_new hordered [] 0, Nat.zero_le _⟩)
      fun _ _ _ h hallowed hstep => modest_step hordered hmoderate h hallowed hstep
  exact (report_in_range hordered hmoderate (hall id) stale hmodest.2.1 hmodest.2.2).1

theorem default_moderate : Platform.default.Moderate :=
  ⟨by decide, by decide⟩

theorem report_never_overflows_longest :
    ∃ s, exec (step .default) (ModestCalls .default) PowerHal.init
        [.call (.createHintSession [7] 16000000), .binder, .binder,
          .call (.updateTargetWorkDuration 0 100000000000000)] = some s ∧
      -2000000000000000000 ∈
        (s.session 0).desc.reportValues .default false [-100000000000000] ∧
      ∀ value ∈ (s.session 0).desc.reportValues .default false [-100000000000000],
        InInt64 value := by
  refine ⟨_, rfl, by decide, report_never_overflows .default default_ordered default_moderate _
    (reach_of_exec [.call (.createHintSession [7] 16000000), .binder, .binder,
      .call (.updateTargetWorkDuration 0 100000000000000)] rfl) 0 [-100000000000000]
    (by decide) false⟩

/-- A target whose twentyfold does not fit is accepted, and so is a report on it. -/
theorem report_overflows :
    ∃ s, exec (step .default) Free PowerHal.init
        [.call (.createHintSession [7] 16000000), .binder, .binder,
          .call (.updateTargetWorkDuration 0 (2 ^ 62))] = some s ∧
      s.refusal .default (.reportActualWorkDuration 0 [16000000]) = none ∧
      2 ^ 62 * 20 ∈ (s.session 0).desc.reportValues .default false [16000000] ∧
      ¬InInt64 (2 ^ 62 * 20) := by
  refine ⟨_, rfl, rfl, by decide, by decide⟩

end Overflow

end Exynos9810.Power
