import Exynos9810.Library.Transition
import Mathlib.Tactic.Ring

/-!
# `InteractionHandler.cpp`: the interaction boost

Callers of `Acquire` and the `Routine` thread share `mState` under `mLock`.  A
body that runs under the lock is one step; `WaitForIdle` runs without the lock
and is cut at its system calls.
-/
namespace Exynos9810.Power

/-- The properties that are read when the library is loaded. -/
structure InteractionProps where
  kDisplayIdleSupport : Bool := true
  kMinDurationMs : UInt32 := 1400
  kMaxDurationMs : UInt32 := 5650
  kDurationOffsetMs : UInt32 := 650

structure Timespec where
  tvSec : Int
  tvNsec : Int
  deriving DecidableEq, Repr

/-- The two differences are added up in a `size_t`. -/
def calcTimespecDiffMs (start stop : Timespec) : UInt64 :=
  UInt64.ofInt ((stop.tvSec - start.tvSec) * 1000) +
    UInt64.ofInt ((stop.tvNsec - start.tvNsec).tdiv 1000000)

inductive InteractionState where
  | uninitialized
  | idle
  | interaction
  | waiting
  deriving DecidableEq, Repr

/-- Where the `Routine` thread is: before the lock or in `mCond.wait`, at one of
the three calls of `WaitForIdle`, before `Release`, or gone. -/
inductive RoutinePc where
  | atLoop
  | atPoll
  | atPread
  | atPollIdle
  | atRelease
  | returned
  deriving DecidableEq, Repr

/-- Where a call of `Exit` is: not made, in `mThread->join()`, or at its end. -/
inductive ExitPc where
  | none
  | join
  | done
  deriving DecidableEq, Repr

inductive Action where
  | doHint
  | doHintFor (durationMs : Int32)
  | endHint
  | toInteraction
  | toWaiting
  | waitReturned
  deriving DecidableEq, Repr

structure InteractionHandler where
  mState : InteractionState
  mDurationMs : Int32
  mLastTimespec : Timespec
  /-- The counter of `mEventFd`. -/
  eventFd : Nat
  routine : RoutinePc
  exit : ExitPc
  log : List Action
  deriving DecidableEq, Repr

/-- Why one of the calls in `WaitForIdle` returns. -/
inductive WaitResult where
  | aborted
  | error
  | timeout
  | idle
  | busy
  deriving DecidableEq, Repr

inductive InteractionEvent where
  | acquire (duration : Int32) (now : Timespec)
  | routineWake
  | waitForIdle (result : WaitResult)
  | release
  | exit
  | exitJoined
  deriving DecidableEq, Repr

/-- The sum is an `unsigned` that is kept in an `int`, and both comparisons are
made on unsigned values. -/
def finalDuration (k : InteractionProps) (duration : Int32) : Int32 :=
  let inputDuration : Int32 := (duration.toUInt32 + k.kDurationOffsetMs).toInt32
  if inputDuration.toUInt32 > k.kMaxDurationMs then k.kMaxDurationMs.toInt32
  else if inputDuration.toUInt32 > k.kMinDurationMs then inputDuration
  else k.kMinDurationMs.toInt32

namespace InteractionHandler

/-- The constructor leaves `mLastTimespec` as the memory was. -/
def new (mLastTimespec : Timespec) : InteractionHandler :=
  { mState := .uninitialized, mDurationMs := 0, mLastTimespec, eventFd := 0
    routine := .returned, exit := .none, log := [] }

/-- `Init`, given whether the idle node and the event fd can be opened. -/
def init (idleOpens eventOpens : Bool) (s : InteractionHandler) : InteractionHandler × Bool :=
  if s.mState ≠ .uninitialized then (s, true)
  else if !idleOpens || !eventOpens then (s, false)
  else ({ s with mState := .idle, eventFd := 0, routine := .atLoop }, true)

def initialised (mLastTimespec : Timespec) : InteractionHandler :=
  ((new mLastTimespec).init true true).1

def act (s : InteractionHandler) (action : Action) : InteractionHandler :=
  { s with log := s.log ++ [action] }

/-- A write that would take the counter to its maximum is refused. -/
def abortWaitLocked (s : InteractionHandler) : InteractionHandler :=
  if s.eventFd + 1 < 2 ^ 64 - 1 then { s with eventFd := s.eventFd + 1 } else s

def covers (s : InteractionHandler) (finalDuration : Int32) (now : Timespec) : Bool :=
  s.mState ≠ .idle && finalDuration ≤ s.mDurationMs &&
    calcTimespecDiffMs s.mLastTimespec now ≤ (s.mDurationMs - finalDuration).toInt64.toUInt64

def abortOrLock (s : InteractionHandler) : InteractionHandler :=
  if s.mState = .waiting then s.abortWaitLocked
  else if s.mState = .idle then s.act .doHint
  else s

/-- The tail of `Acquire`, from the assignment of `mLastTimespec` on. -/
def boost (s : InteractionHandler) (finalDuration : Int32) (now : Timespec) :
    InteractionHandler :=
  { abortOrLock { s with mLastTimespec := now, mDurationMs := finalDuration } with
    mState := .interaction }.act .toInteraction

def acquire (k : InteractionProps) (s : InteractionHandler) (duration : Int32) (now : Timespec) :
    InteractionHandler :=
  let finalDuration := finalDuration k duration
  if !k.kDisplayIdleSupport || s.mState = .uninitialized then s.act (.doHintFor finalDuration)
  else if s.covers finalDuration now then s
  else s.boost finalDuration now

/-- The locked part of the loop, once the predicate of `mCond.wait` holds. -/
def routineWake (s : InteractionHandler) : Option InteractionHandler :=
  if s.routine ≠ .atLoop ∨ s.mState = .idle then none
  else if s.mState = .uninitialized then some { s with routine := .returned }
  else some ({ s with mState := .waiting, routine := .atPoll }.act .toWaiting)

def waitReturns (s : InteractionHandler) : InteractionHandler :=
  { s with routine := .atRelease }.act .waitReturned

/-- Only a written event fd aborts a poll; the other results can come at any time. -/
def waitForIdle (s : InteractionHandler) (result : WaitResult) : Option InteractionHandler :=
  match s.routine, result with
  | .atPoll, .aborted => if s.eventFd = 0 then none else some s.waitReturns
  | .atPoll, .error => some s.waitReturns
  | .atPoll, .timeout => some { s with routine := .atPread }
  | .atPread, .error => some s.waitReturns
  | .atPread, .idle => some s.waitReturns
  | .atPread, .busy => some { s with routine := .atPollIdle }
  | .atPollIdle, .aborted => if s.eventFd = 0 then none else some s.waitReturns
  | .atPollIdle, .error => some s.waitReturns
  | .atPollIdle, .timeout => some s.waitReturns
  | .atPollIdle, .idle => some s.waitReturns
  | _, _ => none

def release (s : InteractionHandler) : Option InteractionHandler :=
  if s.routine ≠ .atRelease then none
  else if s.mState = .waiting then
    some ({ s with mState := .idle, routine := .atLoop }.act .endHint)
  else some { s with eventFd := 0, routine := .atLoop }

/-- `Exit` up to the join. -/
def exitLocked (s : InteractionHandler) : Option InteractionHandler :=
  if s.exit ≠ .none ∨ s.mState = .uninitialized then none
  else some { s.abortWaitLocked with mState := .uninitialized, exit := .join }

def exitJoined (s : InteractionHandler) : Option InteractionHandler :=
  if s.exit = .join ∧ s.routine = .returned then some { s with exit := .done } else none

def step (k : InteractionProps) (s : InteractionHandler) :
    InteractionEvent → Option InteractionHandler
  | .acquire duration now => some (s.acquire k duration now)
  | .routineWake => s.routineWake
  | .waitForIdle result => s.waitForIdle result
  | .release => s.release
  | .exit => s.exitLocked
  | .exitJoined => s.exitJoined

end InteractionHandler

/-- Between the unlock of the loop and `Release`. -/
def RoutinePc.inWait : RoutinePc → Bool
  | .atPoll | .atPread | .atPollIdle | .atRelease => true
  | .atLoop | .returned => false

/-- Everything a step can do. -/
inductive InteractionStep (k : InteractionProps) (s : InteractionHandler) :
    InteractionHandler → Prop
  | fallback (durationMs : Int32) : InteractionStep k s (s.act (.doHintFor durationMs))
  | covered : InteractionStep k s s
  | lock (finalDuration : Int32) (now : Timespec) (hstate : s.mState = .idle) :
      InteractionStep k s (s.boost finalDuration now)
  | extend (finalDuration : Int32) (now : Timespec) (hstate : s.mState = .interaction) :
      InteractionStep k s (s.boost finalDuration now)
  | interrupt (finalDuration : Int32) (now : Timespec) (hstate : s.mState = .waiting) :
      InteractionStep k s (s.boost finalDuration now)
  | wake (hpc : s.routine = .atLoop) (hidle : s.mState ≠ .idle)
      (hinit : s.mState ≠ .uninitialized) :
      InteractionStep k s ({ s with mState := .waiting, routine := .atPoll }.act .toWaiting)
  | leave (hpc : s.routine = .atLoop) (hstate : s.mState = .uninitialized) :
      InteractionStep k s { s with routine := .returned }
  | waitOn (pc : RoutinePc) (hpc : s.routine.inWait) (hpc' : pc.inWait)
      (hrelease : pc ≠ .atRelease) : InteractionStep k s { s with routine := pc }
  | waitReturns (hpc : s.routine.inWait) : InteractionStep k s s.waitReturns
  | releaseHint (hpc : s.routine = .atRelease) (hstate : s.mState = .waiting) :
      InteractionStep k s ({ s with mState := .idle, routine := .atLoop }.act .endHint)
  | releaseDrain (hpc : s.routine = .atRelease) (hstate : s.mState ≠ .waiting) :
      InteractionStep k s { s with eventFd := 0, routine := .atLoop }
  | exit (hexit : s.exit = .none) (hinit : s.mState ≠ .uninitialized) :
      InteractionStep k s { s.abortWaitLocked with mState := .uninitialized, exit := .join }
  | exitJoined (hexit : s.exit = .join) (hpc : s.routine = .returned) :
      InteractionStep k s { s with exit := .done }

namespace InteractionHandler

variable {k : InteractionProps} {s s' : InteractionHandler}

theorem acquire_cases (duration : Int32) (now : Timespec) :
    InteractionStep k s (s.acquire k duration now) := by
  unfold acquire
  dsimp only
  split
  · exact .fallback _
  · rename_i hinit
    split
    · exact .covered
    · cases hstate : s.mState with
      | uninitialized => simp [hstate] at hinit
      | idle => exact .lock _ _ hstate
      | interaction => exact .extend _ _ hstate
      | waiting => exact .interrupt _ _ hstate

theorem inWait_of_waitForIdle {result : WaitResult} (h : s.waitForIdle result = some s') :
    s.routine.inWait := by
  unfold waitForIdle at h
  split at h <;> simp_all [RoutinePc.inWait]

theorem waitForIdle_cases {result : WaitResult} (h : s.waitForIdle result = some s') :
    InteractionStep k s s' := by
  have hpc := inWait_of_waitForIdle h
  unfold waitForIdle at h
  split at h
  case h_1 | h_7 =>
    split at h
    · cases h
    · cases h
      exact .waitReturns hpc
  case h_3 | h_6 =>
    cases h
    exact .waitOn _ hpc rfl nofun
  all_goals cases h <;> exact .waitReturns hpc

theorem step_cases {event : InteractionEvent} (h : s.step k event = some s') :
    InteractionStep k s s' := by
  cases event with
  | acquire duration now =>
    cases h
    exact acquire_cases duration now
  | routineWake =>
    simp only [step, routineWake] at h
    split at h
    · cases h
    · rename_i hguard
      obtain ⟨hpc, hidle⟩ := not_or.mp hguard
      split at h <;> cases h
      · exact .leave (not_not.mp hpc) ‹_›
      · exact .wake (not_not.mp hpc) hidle ‹_›
  | waitForIdle result => exact waitForIdle_cases h
  | release =>
    simp only [step, release] at h
    split at h
    · cases h
    · rename_i hpc
      split at h <;> cases h
      · exact .releaseHint (not_not.mp hpc) ‹_›
      · exact .releaseDrain (not_not.mp hpc) ‹_›
  | exit =>
    simp only [step, exitLocked] at h
    split at h
    · cases h
    · rename_i hguard
      obtain ⟨hexit, hinit⟩ := not_or.mp hguard
      cases h
      exact .exit (not_not.mp hexit) hinit
  | exitJoined =>
    simp only [step, exitJoined] at h
    split at h
    · rename_i hguard
      cases h
      exact .exitJoined hguard.1 hguard.2
    · cases h

end InteractionHandler

end Exynos9810.Power
