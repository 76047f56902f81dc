import Exynos9810.Library.IndexedLoop
import Exynos9810.Power.PowerHintSession
import Mathlib.Algebra.BigOperators.Group.List.Basic
import Mathlib.Data.List.DropRight

/-!
# The PID loop in closed form

One loop starts at the earliest of three windows.  Each accumulator is a fold over
the samples of its own window; the differences of neighbouring errors telescope.
-/
namespace Exynos9810.Power

open AppHintDesc IndexedLoop

/-- The number of samples that a window takes of the last `length`. -/
def windowLength (window length : Nat) : Nat :=
  if window = 0 ∨ length < window then length else window

section Windows

theorem sub_windowStart (window length : Nat) :
    length - windowStart window length = windowLength window length := by
  unfold windowStart windowLength
  split <;> omega

theorem windowLength_bounds (window : Nat) {length : Nat} (h : 0 < length) :
    1 ≤ windowLength window length ∧ windowLength window length ≤ length := by
  unfold windowLength
  split <;> omega

theorem windowStart_le (window length : Nat) : windowStart window length ≤ length := by
  unfold windowStart
  split <;> omega

theorem drop_windowStart (window : Nat) (items : List Int) :
    items.drop (windowStart window items.length) =
      items.rtake (windowLength window items.length) := by
  have hstart := windowStart_le window items.length
  rw [List.rtake, ← sub_windowStart, Nat.sub_sub_self hstart]

end Windows

section Turns

variable (p : Platform) (target : Int)

def sampleError (actual : Int) : Int :=
  nsTo100us (p.int64 (actual - target))

def addError (errSum actual : Int) : Int :=
  p.int64 (errSum + sampleError p target actual)

def accumulate (integralError actual : Int) : Int :=
  max p.pidILowLimit (min p.pidIHighLimit
    (p.int64 (integralError + p.int64 (sampleError p target actual * nsTo100us target))))

variable (length : Nat) (sums : PidSums) (i : Nat) (actuals : List Int)

theorem errSum_pidLoop :
    (pidLoop p target length sums i actuals).errSum =
      gated (addError p target) (windowStart p.pSamplingWindow length) sums.errSum i actuals := by
  induction actuals generalizing sums i with
  | nil => rfl
  | cons actual rest ih =>
    rw [pidLoop, ih]
    rfl

theorem integralError_pidLoop :
    (pidLoop p target length sums i actuals).integralError =
      gated (accumulate p target) (windowStart p.iSamplingWindow length) sums.integralError i
        actuals := by
  induction actuals generalizing sums i with
  | nil => rfl
  | cons actual rest ih =>
    rw [pidLoop, ih]
    rfl

theorem previousError_pidLoop :
    (pidLoop p target length sums i actuals).previousError =
      (actuals.map (sampleError p target)).getLastD sums.previousError := by
  induction actuals generalizing sums i with
  | nil => rfl
  | cons actual rest ih =>
    rw [pidLoop, ih, List.map_cons, List.getLastD_cons]
    rfl

theorem derivativeSum_pidLoop (hexact : ∀ x, p.int64 x = x) :
    (pidLoop p target length sums i actuals).derivativeSum =
      differences (windowStart p.dSamplingWindow length) sums.derivativeSum sums.previousError i
        (actuals.map (sampleError p target)) := by
  induction actuals generalizing sums i with
  | nil => rfl
  | cons actual rest ih =>
    rw [pidLoop, ih, List.map_cons, differences, pidTurn]
    simp only [hexact, sampleError]

end Turns

section Sums

variable (p : Platform) (desc : AppHintDesc) (actualDurations : List Int)

theorem loopStart_le (length : Nat) :
    loopStart p length ≤ windowStart p.pSamplingWindow length ∧
      loopStart p length ≤ windowStart p.iSamplingWindow length ∧
      loopStart p length ≤ windowStart p.dSamplingWindow length := by
  unfold loopStart
  omega

/-- A window of the samples from the start of the loop on is a window of all of them. -/
theorem drop_loopStart {first start : Nat} (h : start ≤ first) (items : List Int) :
    (items.drop start).drop (first - start) = items.drop first := by
  rw [List.drop_drop, Nat.add_sub_cancel' h]

theorem errSum_pidSums :
    (desc.pidSums p actualDurations).errSum =
      (actualDurations.rtake (windowLength p.pSamplingWindow actualDurations.length)).foldl
        (addError p desc.duration) 0 := by
  have hstart := (loopStart_le p actualDurations.length).1
  rw [← drop_windowStart, ← drop_loopStart hstart, ← gated_eq_foldl]
  exact errSum_pidLoop p _ _ _ _ _

theorem integralError_pidSums :
    (desc.pidSums p actualDurations).integralError =
      (actualDurations.rtake (windowLength p.iSamplingWindow actualDurations.length)).foldl
        (accumulate p desc.duration) desc.integralError := by
  have hstart := (loopStart_le p actualDurations.length).2.1
  rw [← drop_windowStart, ← drop_loopStart hstart, ← gated_eq_foldl]
  exact integralError_pidLoop p _ _ _ _ _

theorem loopStart_lt (hne : actualDurations ≠ []) :
    loopStart p actualDurations.length < actualDurations.length := by
  have hpos := List.length_pos_iff.mpr hne
  have hwindow := (windowLength_bounds p.pSamplingWindow hpos).1
  have hstart := (loopStart_le p actualDurations.length).1
  rw [← sub_windowStart] at hwindow
  omega

theorem previousError_pidSums (hne : actualDurations ≠ []) :
    (actualDurations.map (sampleError p desc.duration)).getLast? =
      some (desc.pidSums p actualDurations).previousError := by
  have hstart := loopStart_lt p actualDurations hne
  have hlast : (desc.pidSums p actualDurations).previousError =
      ((actualDurations.drop (loopStart p actualDurations.length)).map
        (sampleError p desc.duration)).getLastD desc.previousError :=
    previousError_pidLoop p _ _ _ _ _
  have hmap : actualDurations.map (sampleError p desc.duration) ≠ [] := by
    simpa using hne
  rw [hlast, List.getLastD_eq_getLast?, List.map_drop, List.getLast?_drop, List.length_map,
    if_neg (by omega), List.getLast?_eq_some_getLast hmap, Option.getD_some]

end Sums

theorem map_rtake (f : Int → Int) (items : List Int) (n : Nat) :
    (items.rtake n).map f = (items.map f).rtake n := by
  rw [List.rtake, List.rtake, List.map_drop, List.length_map]

def exactErrors (desc : AppHintDesc) (actualDurations : List Int) : List Int :=
  actualDurations.map fun actual => nsTo100us (actual - desc.duration)

structure ClosedForm (p : Platform) (desc : AppHintDesc) (actualDurations : List Int)
    (sums : PidSums) : Prop where
  errSum : sums.errSum =
    ((exactErrors desc actualDurations).rtake
      (windowLength p.pSamplingWindow actualDurations.length)).sum
  integralError : sums.integralError =
    ((exactErrors desc actualDurations).rtake
      (windowLength p.iSamplingWindow actualDurations.length)).foldl
        (fun x error => max p.pidILowLimit
          (min p.pidIHighLimit (x + error * nsTo100us desc.duration))) desc.integralError
  previousError : (exactErrors desc actualDurations).getLast? = some sums.previousError
  derivativeSum : ∃ b, sums.derivativeSum = sums.previousError - b ∧
    let start := windowStart p.dSamplingWindow actualDurations.length
    if loopStart p actualDurations.length < start then
      (exactErrors desc actualDurations)[start - 1]? = some b
    else b = desc.previousError
  windows : ∀ window, actualDurations.length - windowStart window actualDurations.length =
      windowLength window actualDurations.length ∧
    1 ≤ windowLength window actualDurations.length ∧
    windowLength window actualDurations.length ≤ actualDurations.length

section Exact

variable {p : Platform} (hexact : ∀ x, p.int64 x = x) (desc : AppHintDesc)
  (actualDurations : List Int)
include hexact

theorem sampleError_exact (target : Int) :
    sampleError p target = fun actual => nsTo100us (actual - target) := by
  funext actual
  rw [sampleError, hexact]

theorem errSum_exact (samples : List Int) :
    samples.foldl (addError p desc.duration) 0 = (exactErrors desc samples).sum := by
  rw [List.sum_eq_foldl, exactErrors, List.foldl_map]
  congr 1
  funext errSum actual
  rw [addError, hexact, sampleError_exact hexact]

theorem integralError_exact (samples : List Int) (integralError : Int) :
    samples.foldl (accumulate p desc.duration) integralError =
      (exactErrors desc samples).foldl
        (fun x error => max p.pidILowLimit
          (min p.pidIHighLimit (x + error * nsTo100us desc.duration))) integralError := by
  rw [exactErrors, List.foldl_map]
  congr 1
  funext x actual
  rw [accumulate, hexact, hexact, sampleError_exact hexact]

/-- The item before the derivative window is an earlier sample, or the error that the
session kept from the report before. -/
theorem derivativeSum_exact :
    ∃ b, (desc.pidSums p actualDurations).derivativeSum =
        (desc.pidSums p actualDurations).previousError - b ∧
      let start := windowStart p.dSamplingWindow actualDurations.length
      if loopStart p actualDurations.length < start then
        (exactErrors desc actualDurations)[start - 1]? = some b
      else b = desc.previousError := by
  have hle := (loopStart_le p actualDurations.length).2.2
  have hend := windowStart_le p.dSamplingWindow actualDurations.length
  have hlast : (desc.pidSums p actualDurations).previousError =
      ((actualDurations.drop (loopStart p actualDurations.length)).map
        (sampleError p desc.duration)).getLastD desc.previousError :=
    previousError_pidLoop p _ _ _ _ _
  have hsum : (desc.pidSums p actualDurations).derivativeSum = _ :=
    derivativeSum_pidLoop p _ _ _ _ _ hexact
  rw [differences_eq _ _ _ _ _ (by simp; omega), Int.zero_add, ← hlast] at hsum
  refine ⟨_, hsum, ?_⟩
  dsimp only
  split
  · rename_i hlater
    have hindex : windowStart p.dSamplingWindow actualDurations.length -
        loopStart p actualDurations.length =
        windowStart p.dSamplingWindow actualDurations.length - 1 -
          loopStart p actualDurations.length + 1 := by omega
    have hposition : loopStart p actualDurations.length +
        (windowStart p.dSamplingWindow actualDurations.length - 1 -
          loopStart p actualDurations.length) =
        windowStart p.dSamplingWindow actualDurations.length - 1 := by omega
    have hbefore : windowStart p.dSamplingWindow actualDurations.length - 1 <
        (exactErrors desc actualDurations).length := by
      rw [exactErrors, List.length_map]
      omega
    rw [hindex, List.getD_cons_succ, List.getD_eq_getElem?_getD, List.map_drop,
      List.getElem?_drop, hposition, sampleError_exact hexact, ← exactErrors,
      List.getElem?_eq_getElem hbefore, Option.getD_some]
  · rename_i hfirst
    rw [Nat.sub_eq_zero_of_le (not_lt.mp hfirst), List.getD_cons_zero]

end Exact

/-- **Closed form of the PID loop.**  Each accumulator is what its own window makes of
the errors, whatever the order of the three windows is. -/
theorem pidSums_closed_form (p : Platform) (hexact : ∀ x, p.int64 x = x) (desc : AppHintDesc)
    (actualDurations : List Int) (hne : actualDurations ≠ []) :
    ClosedForm p desc actualDurations (desc.pidSums p actualDurations) where
  errSum := by
    rw [errSum_pidSums, errSum_exact hexact, exactErrors, exactErrors, map_rtake]
  integralError := by
    rw [integralError_pidSums, integralError_exact hexact, exactErrors, exactErrors, map_rtake]
  previousError := by
    rw [← previousError_pidSums p desc actualDurations hne, sampleError_exact hexact, exactErrors]
  derivativeSum := derivativeSum_exact hexact desc actualDurations
  windows := fun window => ⟨sub_windowStart window _,
    windowLength_bounds window (List.length_pos_iff.mpr hne)⟩

def exactPlatform (pSamplingWindow iSamplingWindow dSamplingWindow : Nat) : Platform :=
  { Platform.default with
    pSamplingWindow, iSamplingWindow, dSamplingWindow
    int64 := id
    int64_eq := fun _ _ => rfl }

/-- Two samples for the derivative, one for the proportional part, all for the integral. -/
theorem pidSums_closed_form_three :
    ClosedForm (exactPlatform 1 0 2) (AppHintDesc.new [7] 10000000)
      [10300000, 9500000, 10200000]
      { errSum := 2, derivativeSum := -1, integralError := 0, previousError := 2 } :=
  pidSums_closed_form (exactPlatform 1 0 2) (fun _ => rfl) (AppHintDesc.new [7] 10000000)
    [10300000, 9500000, 10200000] (by simp)

end Exynos9810.Power
