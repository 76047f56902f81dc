import Exynos9810.Power.ReportArithmetic
import Mathlib.Data.List.Forall2

namespace Exynos9810.Power

open AppHintDesc

/-- Every operation of the loop has its exact value, as it has as long as nothing overflows. -/
def AppHintDesc.ExactReport (p : Platform) (desc : AppHintDesc) (stale : Bool)
    (actualDurations : List Int) : Prop :=
  ∀ value ∈ desc.reportValues p stale actualDurations, p.int64 value = value

theorem nsTo100us_mono {ns ns' : Int} (h : ns ≤ ns') : nsTo100us ns ≤ nsTo100us ns' :=
  Int.tdiv_le_tdiv (by decide) h

theorem nsTo100us_nonneg {ns : Int} (h : 0 ≤ ns) : 0 ≤ nsTo100us ns :=
  nsTo100us_mono h

structure SumsLe (sums sums' : PidSums) : Prop where
  errSum : sums.errSum ≤ sums'.errSum
  integralError : sums.integralError ≤ sums'.integralError

section Loop

variable {p : Platform} {target : Int} {length : Nat}

theorem pidTurn_exact {sums : PidSums} {i : Nat} {actual : Int}
    (hexact : ∀ value ∈ turnValues p target length sums i actual, p.int64 value = value) :
    (pidTurn p target length sums i actual).errSum =
        (if windowStart p.pSamplingWindow length ≤ i then
          sums.errSum + nsTo100us (actual - target) else sums.errSum) ∧
      (pidTurn p target length sums i actual).integralError =
        if windowStart p.iSamplingWindow length ≤ i then
          max p.pidILowLimit (min p.pidIHighLimit
            (sums.integralError + nsTo100us (actual - target) * nsTo100us target))
        else sums.integralError := by
  have hdifference : p.int64 (actual - target) = actual - target :=
    hexact _ (by simp [turnValues])
  simp only [turnValues, hdifference] at hexact
  constructor
  · simp only [pidTurn, hdifference]
    split
    · rename_i hopen
      exact hexact _ (by simp [hopen])
    · rfl
  · simp only [pidTurn, hdifference]
    split
    · rename_i hopen
      have hproduct : p.int64 (nsTo100us (actual - target) * nsTo100us target) =
          nsTo100us (actual - target) * nsTo100us target := hexact _ (by simp [hopen])
      rw [hproduct] at hexact ⊢
      rw [hexact (sums.integralError + nsTo100us (actual - target) * nsTo100us target)
        (by simp [hopen])]
    · rfl

theorem pidTurn_mono (htarget : 0 < target) {sums sums' : PidSums} (h : SumsLe sums sums')
    {i : Nat} {actual actual' : Int} (hslower : actual ≤ actual')
    (hexact : ∀ value ∈ turnValues p target length sums i actual, p.int64 value = value)
    (hexact' : ∀ value ∈ turnValues p target length sums' i actual', p.int64 value = value) :
    SumsLe (pidTurn p target length sums i actual) (pidTurn p target length sums' i actual') := by
  obtain ⟨herrSum, hintegral⟩ := pidTurn_exact hexact
  obtain ⟨herrSum', hintegral'⟩ := pidTurn_exact hexact'
  have herror : nsTo100us (actual - target) ≤ nsTo100us (actual' - target) :=
    nsTo100us_mono (Int.sub_le_sub_right hslower target)
  have hproduct := Int.mul_le_mul_of_nonneg_right herror (nsTo100us_nonneg htarget.le)
  constructor
  · rw [herrSum, herrSum']
    split
    · exact Int.add_le_add h.errSum herror
    · exact h.errSum
  · rw [hintegral, hintegral']
    split
    · apply max_le_max le_rfl
      apply min_le_min le_rfl
      exact Int.add_le_add h.integralError hproduct
    · exact h.integralError

theorem pidLoop_mono (htarget : 0 < target) {actuals actuals' : List Int}
    (hslower : List.Forall₂ (· ≤ ·) actuals actuals') {sums sums' : PidSums}
    (h : SumsLe sums sums') {i : Nat}
    (hexact : ∀ value ∈ loopValues p target length sums i actuals, p.int64 value = value)
    (hexact' : ∀ value ∈ loopValues p target length sums' i actuals', p.int64 value = value) :
    SumsLe (pidLoop p target length sums i actuals) (pidLoop p target length sums' i actuals') := by
  induction hslower generalizing sums sums' i with
  | nil => exact h
  | cons hactual _ ih =>
    rw [loopValues, List.forall_mem_append] at hexact hexact'
    exact ih (pidTurn_mono htarget h hactual hexact.1 hexact'.1) hexact.2 hexact'.2

end Loop

section Reports

variable {p : Platform} {desc desc' : AppHintDesc} {actuals actuals' : List Int}

theorem pidSums_mono (htarget : 0 < desc.duration) (hsame : desc'.duration = desc.duration)
    (hintegral : desc.integralError ≤ desc'.integralError)
    (hslower : List.Forall₂ (· ≤ ·) actuals actuals') (hexact : desc.ExactReport p false actuals)
    (hexact' : desc'.ExactReport p false actuals') :
    SumsLe (desc.pidSums p actuals) (desc'.pidSums p actuals') := by
  simp only [ExactReport, reportValues, started, Bool.false_eq_true, if_false, hsame,
    ← hslower.length_eq] at hexact hexact'
  simp only [pidSums, hsame, ← hslower.length_eq]
  refine pidLoop_mono htarget (List.forall₂_drop _ hslower) ?_ hexact hexact'
  exact ⟨le_rfl, hintegral⟩

theorem exactReport_started {stale : Bool} (h : desc.ExactReport p stale actuals) :
    (desc.started p stale).ExactReport p false actuals := by
  cases stale <;> exact h

end Reports

/-- **Slower work never lowers the accumulated error.**  The windows are arbitrary, and so
is what the two sessions keep as their last error. -/
theorem slower_work_accumulates_more (p : Platform) (desc desc' : AppHintDesc)
    (htarget : 0 < desc.duration) (hsame : desc'.duration = desc.duration)
    (hintegral : desc.integralError ≤ desc'.integralError) (actuals actuals' : List Int)
    (hslower : List.Forall₂ (· ≤ ·) actuals actuals') (stale : Bool)
    (hexact : desc.ExactReport p stale actuals) (hexact' : desc'.ExactReport p stale actuals') :
    (desc.reportPid p stale actuals).1.integralError ≤
        (desc'.reportPid p stale actuals').1.integralError ∧
      ((desc.started p stale).pidSums p actuals).errSum ≤
        ((desc'.started p stale).pidSums p actuals').errSum := by
  have hsums : SumsLe ((desc.started p stale).pidSums p actuals)
      ((desc'.started p stale).pidSums p actuals') := by
    refine pidSums_mono ?_ ?_ ?_ hslower (exactReport_started hexact) (exactReport_started hexact')
    · cases stale <;> exact htarget
    · cases stale <;> exact hsame
    · cases stale with
      | false => exact hintegral
      | true => exact max_le_max le_rfl hintegral
  exact ⟨hsums.integralError, hsums.errSum⟩

/-- Three frames on a target of 10 ms; the last two are later in the second report. -/
theorem slower_work_accumulates_more_three :
    ((AppHintDesc.new [7] 10000000).reportPid .default false
        [9000000, 10300000, 9950000]).1.integralError ≤
      ((AppHintDesc.new [7] 10000000).reportPid .default false
        [9000000, 10900000, 10050000]).1.integralError ∧
    (((AppHintDesc.new [7] 10000000).started .default false).pidSums .default
        [9000000, 10300000, 9950000]).errSum ≤
      (((AppHintDesc.new [7] 10000000).started .default false).pidSums .default
        [9000000, 10900000, 10050000]).errSum := by
  apply slower_work_accumulates_more
  · decide
  · rfl
  · rfl
  · decide
  · unfold ExactReport
    decide
  · unfold ExactReport
    decide

end Exynos9810.Power
