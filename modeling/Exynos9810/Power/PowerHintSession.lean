import Exynos9810.Library.Binary64
import Exynos9810.Power.PowerSessionManager

/-!
# `PowerHintSession.cpp`: the controller of one session

What the binder calls compute on the descriptor of a session, before any other
thread comes in.  The gains are doubles and enter as functions; so do the
values of integer expressions that leave the range of `int64_t`.
-/
namespace Exynos9810.Power

def InInt64 (x : Int) : Prop :=
  -2 ^ 63 ≤ x ∧ x < 2 ^ 63

instance (x : Int) : Decidable (InInt64 x) :=
  inferInstanceAs (Decidable (_ ∧ _))

/-- The value of an `int64_t` expression and of a conversion from `double`, given
the exact value.  Out of range C++ gives no meaning and anything may come out. -/
structure Arithmetic where
  int64 : Int → Int
  int64_eq : ∀ x, InInt64 x → int64 x = x
  ofDouble : Int → Int
  ofDouble_eq : ∀ x, InInt64 x → ofDouble x = x

/-- The constants read from system properties. -/
structure Tunables where
  pidIInit : Int
  pidIHighLimit : Int
  pidILowLimit : Int
  uclampMinHighLimit : Int
  uclampMinLowLimit : Int
  uclampMinGranularity : Nat
  staleTimeFactor : Nat
  pSamplingWindow : Nat
  iSamplingWindow : Nat
  dSamplingWindow : Nat
  /-- `pOut` of the error sum over so many samples. -/
  pOut : Int → Nat → Int
  /-- `iOut` of the integral error. -/
  iOut : Int → Int
  /-- `dOut` of the derivative sum, `dt` and the number of samples. -/
  dOut : Int → Int → Nat → Int

/-- What every session is run with. -/
structure Platform extends Tunables, Arithmetic where
  /-- `mAdpfRateNs` of the service. -/
  adpfRateNs : Int
  /-- Whether the `n`th call of `SetTaskProfiles` succeeds. -/
  setTaskProfiles : Nat → Bool

structure AppHintDesc where
  threadIds : List Tid
  duration : Int
  currentMin : Int
  isActive : Bool
  updateCount : Nat
  integralError : Int
  previousError : Int
  deriving DecidableEq, Repr

def AppHintDesc.new (threadIds : List Tid) (durationNanos : Int) : AppHintDesc :=
  { threadIds, duration := durationNanos, currentMin := 0, isActive := true, updateCount := 0
    integralError := 0, previousError := 0 }

inductive Status where
  | ok
  | unsupportedOperation
  | illegalState
  | illegalArgument
  deriving DecidableEq, Repr

def nsTo100us (ns : Int) : Int :=
  ns.tdiv 100000

namespace AppHintDesc

section Controller

variable (p : Platform)

/-- The integral error starts again from at least its initial value. -/
def restartIntegral (desc : AppHintDesc) : AppHintDesc :=
  { desc with integralError := max p.pidIInit desc.integralError }

/-- The product that is converted back to `int64_t`; the ratio of the durations
is an integer quotient. -/
def rescaled (desc : AppHintDesc) (targetDurationNanos : Int) : Int :=
  Binary64.product desc.integralError (desc.duration.tdiv targetDurationNanos)

def updateTargetWorkDuration (desc : AppHintDesc) (targetDurationNanos : Int) : AppHintDesc :=
  { desc with
    integralError := max p.pidIInit (p.ofDouble (desc.rescaled targetDurationNanos))
    duration := targetDurationNanos }

def windowStart (window length : Nat) : Nat :=
  if window = 0 ∨ length < window then 0 else length - window

structure PidSums where
  errSum : Int
  derivativeSum : Int
  integralError : Int
  previousError : Int
  deriving DecidableEq, Repr

def pidTurn (target : Int) (length : Nat) (sums : PidSums) (i : Nat) (actual : Int) : PidSums :=
  let dt := nsTo100us target
  let error := nsTo100us (p.int64 (actual - target))
  { derivativeSum :=
      if windowStart p.dSamplingWindow length ≤ i then
        p.int64 (sums.derivativeSum + p.int64 (error - sums.previousError))
      else sums.derivativeSum
    errSum :=
      if windowStart p.pSamplingWindow length ≤ i then p.int64 (sums.errSum + error)
      else sums.errSum
    integralError :=
      if windowStart p.iSamplingWindow length ≤ i then
        max p.pidILowLimit (min p.pidIHighLimit
          (p.int64 (sums.integralError + p.int64 (error * dt))))
      else sums.integralError
    previousError := error }

def pidLoop (target : Int) (length : Nat) : PidSums → Nat → List Int → PidSums
  | sums, _, [] => sums
  | sums, i, actual :: rest =>
    pidLoop target length (pidTurn p target length sums i actual) (i + 1) rest

def loopStart (length : Nat) : Nat :=
  min (windowStart p.pSamplingWindow length)
    (min (windowStart p.iSamplingWindow length) (windowStart p.dSamplingWindow length))

def pidSums (desc : AppHintDesc) (actualDurations : List Int) : PidSums :=
  let length := actualDurations.length
  let start := loopStart p length
  pidLoop p desc.duration length
    { errSum := 0, derivativeSum := 0, integralError := desc.integralError
      previousError := desc.previousError } start (actualDurations.drop start)

def reportRefusal (desc : AppHintDesc) (actualDurations : List Int) : Option Status :=
  if desc.duration = 0 then some .illegalState
  else if actualDurations = [] then some .illegalArgument
  else if !desc.isActive then some .illegalState
  else none

def started (desc : AppHintDesc) (stale : Bool) : AppHintDesc :=
  if stale then desc.restartIntegral p else desc

/-- `reportActualWorkDuration` from the staleness check to `update_count++`: the
new descriptor and the controller's output. -/
def reportPid (desc : AppHintDesc) (stale : Bool) (actualDurations : List Int) :
    AppHintDesc × Int :=
  let desc := desc.started p stale
  let length := actualDurations.length
  let sums := desc.pidSums p actualDurations
  let output := p.int64 (p.pOut sums.errSum (length - windowStart p.pSamplingWindow length) +
    p.iOut sums.integralError +
    p.dOut sums.derivativeSum (nsTo100us desc.duration)
      (length - windowStart p.dSamplingWindow length))
  ({ desc with
      integralError := sums.integralError
      previousError := sums.previousError
      updateCount := desc.updateCount + 1 }, output)

variable (desc : AppHintDesc) (stale : Bool) (actualDurations : List Int)

@[simp, grind =] theorem threadIds_reportPid :
    (desc.reportPid p stale actualDurations).1.threadIds = desc.threadIds := by
  cases stale <;> rfl

@[simp, grind =] theorem currentMin_reportPid :
    (desc.reportPid p stale actualDurations).1.currentMin = desc.currentMin := by
  cases stale <;> rfl

@[simp, grind =] theorem isActive_reportPid :
    (desc.reportPid p stale actualDurations).1.isActive = desc.isActive := by
  cases stale <;> rfl

/-- `static_cast<int>` of an `int64_t`. -/
def toInt32 (x : Int) : Int :=
  (x + 2 ^ 31) % 2 ^ 32 - 2 ^ 31

/-- The value that the apply step of a report passes to `setUclamp`, if it calls it. -/
def nextMin (desc : AppHintDesc) (output : Int) : Option Int :=
  if output = 0 then none
  else
    let next := max p.uclampMinLowLimit (min p.uclampMinHighLimit (toInt32 output))
    if p.uclampMinGranularity < (desc.currentMin - next).natAbs then some next else none

end Controller

end AppHintDesc

/-- The platform with the default properties, on two's complement integers and
with conversions that saturate. -/
def Platform.default : Platform where
  pidIInit := 200000
  pidIHighLimit := 512000
  pidILowLimit := -30000
  uclampMinHighLimit := 384
  uclampMinLowLimit := 2
  uclampMinGranularity := 5
  staleTimeFactor := 20
  pSamplingWindow := 1
  iSamplingWindow := 0
  dSamplingWindow := 1
  pOut := fun errSum n => ((if 0 < errSum then 2 else 1) * errSum).tdiv n
  iOut := fun integralError => integralError.tdiv 1000
  dOut := fun derivativeSum dt n =>
    ((if 0 < derivativeSum then 500 else 0) * derivativeSum).tdiv (dt * n)
  int64 := fun x => (x + 2 ^ 63) % 2 ^ 64 - 2 ^ 63
  int64_eq := by
    intro x hx
    unfold InInt64 at hx
    omega
  ofDouble := fun x => max (-2 ^ 63) (min (2 ^ 63 - 1) x)
  ofDouble_eq := by
    intro x hx
    unfold InInt64 at hx
    omega
  adpfRateNs := 16666666
  setTaskProfiles := fun _ => true

end Exynos9810.Power
