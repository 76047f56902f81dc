import Exynos9810.Power.PowerHintSession

/-!
# The power service as a concurrent system

One binder thread makes the calls; the thread of `PowerHintMonitor` delivers the
messages of its looper.  A thread advances by one access to what both share at a
time: a body under a lock is one step unless it takes a second lock.  The monitor
is running and the manager has its hint manager from the start.
-/
namespace Exynos9810.Power

/-- What one call of `sched_setattr` asks for. -/
structure SchedAttr where
  tid : Tid
  utilMin : Int
  utilMax : Int
  deriving DecidableEq, Repr

def maxUclampValue : Int := 1024

structure PowerHintSession where
  kAdpfRate : Int
  desc : AppHintDesc
  isMonitoringStale : Bool
  lastUpdatedTime : Int
  sessionClosed : Bool
  /-- The calls of `sched_setattr` so far. -/
  schedAttrs : List SchedAttr
  deriving DecidableEq, Repr

namespace PowerHintSession

def new (kAdpfRate now : Int) (threadIds : List Tid) (durationNanos : Int) : PowerHintSession :=
  { kAdpfRate, desc := AppHintDesc.new threadIds durationNanos, isMonitoringStale := false
    lastUpdatedTime := now, sessionClosed := false, schedAttrs := [] }

def setUclamp (session : PowerHintSession) (min max : Int) : PowerHintSession :=
  let min := Min.min (Max.max 0 min) max
  let max := Max.max min (Max.max 0 max)
  { session with
    desc := { session.desc with currentMin := min }
    schedAttrs := session.schedAttrs ++
      session.desc.threadIds.map fun tid => { tid, utilMin := min, utilMax := max } }

def getStaleTime (p : Platform) (session : PowerHintSession) : Int :=
  session.lastUpdatedTime + session.kAdpfRate.tdiv 1000000 * p.staleTimeFactor * 1000000

def isStale (p : Platform) (now : Int) (session : PowerHintSession) : Bool :=
  session.getStaleTime p ≤ now

end PowerHintSession

/-- What the looper delivers: a stale check from its due time on, and the
message that lets the manager look at the sessions again. -/
inductive Message where
  | stale (session : SessionId) (uptime : Int)
  | manager
  deriving DecidableEq, Repr

inductive Call where
  | createHintSession (threadIds : List Tid) (durationNanos : Int)
  | pause (session : SessionId)
  | resume (session : SessionId)
  | close (session : SessionId)
  | updateTargetWorkDuration (session : SessionId) (targetDurationNanos : Int)
  | reportActualWorkDuration (session : SessionId) (actualDurations : List Int)
  deriving DecidableEq, Repr

def Call.session : Call → Option SessionId
  | .createHintSession _ _ => none
  | .pause session => some session
  | .resume session => some session
  | .close session => some session
  | .updateTargetWorkDuration session _ => some session
  | .reportActualWorkDuration session _ => some session

/-- Where the binder thread is: the next statement of the call it makes. -/
inductive BinderPc where
  | idle
  | createAdd (session : SessionId)
  | createBoost (session : SessionId)
  | pauseStore (session : SessionId)
  | resumeBoost (session : SessionId)
  | closeRemoveMessages (session : SessionId)
  | closeReset (session : SessionId)
  | closeUnregister (session : SessionId)
  | reportTimer (session : SessionId) (output : Int)
  | reportApply (session : SessionId) (output : Int)
  | reportBoost (session : SessionId) (nextMin : Int)
  /-- The `updateUniveralBoostMode` that ends `pause`, `resume` and `close`. -/
  | post
  deriving DecidableEq, Repr

/-- Where the looper thread is.  From `staleReset` on it holds `mStaleLock`. -/
inductive LooperPc where
  | idle
  | staleCheck (session : SessionId)
  | staleReset (session : SessionId)
  | stalePost (session : SessionId)
  | staleClear (session : SessionId)
  | managerCheck
  | managerHint (active : Bool)
  deriving DecidableEq, Repr

/-- Where the looper thread starts on a message, once it is due. -/
def Message.deliver (now : Int) : Message → Option LooperPc
  | .stale session uptime => if uptime ≤ now then some (.staleCheck session) else none
  | .manager => some .managerCheck

namespace LooperPc

/-- The session whose stale check is being delivered. -/
def handles : LooperPc → Option SessionId
  | .staleCheck session => some session
  | .staleReset session => some session
  | .stalePost session => some session
  | .staleClear session => some session
  | _ => none

/-- The session whose `mStaleLock` the looper thread holds between its steps. -/
def locks : LooperPc → Option SessionId
  | .staleReset session => some session
  | .stalePost session => some session
  | .staleClear session => some session
  | _ => none

end LooperPc

/-- The state of the service.  Sessions are numbered in the order of their
creation; the entries from `created` on are not in use. -/
structure PowerHal where
  now : Int
  created : Nat
  session : SessionId → PowerHintSession
  manager : PowerSessionManager
  mActive : Bool
  /-- The last `DoHint` has not been followed by `EndHint`. -/
  hintOn : Bool
  messages : List Message
  binder : BinderPc
  looper : LooperPc

namespace PowerHal

def init : PowerHal :=
  { now := 0, created := 0, session := fun _ => PowerHintSession.new 0 0 [] 0
    manager := PowerSessionManager.init, mActive := false, hintOn := false, messages := []
    binder := .idle, looper := .idle }

def binderAt (s : PowerHal) (binder : BinderPc) : PowerHal :=
  { s with binder }

def looperAt (s : PowerHal) (looper : LooperPc) : PowerHal :=
  { s with looper }

/-- A new session gets the next number. -/
def create (s : PowerHal) (session : PowerHintSession) : PowerHal :=
  { s with
    created := s.created + 1
    session := fun i => if i = s.created then session else s.session i }

def update (s : PowerHal) (id : SessionId) (f : PowerHintSession → PowerHintSession) : PowerHal :=
  { s with session := fun i => if i = id then f (s.session i) else s.session i }

def updateDesc (s : PowerHal) (id : SessionId) (f : AppHintDesc → AppHintDesc) : PowerHal :=
  s.update id fun session => { session with desc := f session.desc }

def setUclamp (s : PowerHal) (id : SessionId) (min : Int) : PowerHal :=
  s.update id (·.setUclamp min maxUclampValue)

def sendMessage (s : PowerHal) (message : Message) : PowerHal :=
  { s with messages := s.messages ++ [message] }

def updateUniveralBoostMode (s : PowerHal) : PowerHal :=
  s.sendMessage .manager

/-- `removeMessages` with the stale handler of a session. -/
def removeMessages (s : PowerHal) (id : SessionId) : PowerHal :=
  { s with messages := s.messages.filter fun
      | .stale session _ => session ≠ id
      | .manager => true }

def removePowerSession (s : PowerHal) (id : SessionId) : PowerHal :=
  { s with manager := s.manager.removePowerSession id (s.session id).desc.threadIds }

variable (p : Platform)

def addPowerSession (s : PowerHal) (id : SessionId) : PowerHal :=
  { s with
    manager := s.manager.addPowerSession p.setTaskProfiles id (s.session id).desc.threadIds }

def updateStaleTimer (s : PowerHal) (id : SessionId) : PowerHal :=
  let when := (s.session id).getStaleTime p
  let next := { s.session id with lastUpdatedTime := s.now }.getStaleTime p
  let restarted := s.update id fun session => { session with lastUpdatedTime := s.now }
  let notified := if when < s.now then restarted.updateUniveralBoostMode else restarted
  if (s.session id).isMonitoringStale then notified
  else
    (notified.sendMessage (.stale id next)).update id fun session =>
      { session with isMonitoringStale := true }

def isAnyActive (s : PowerHal) : Bool :=
  ∃ id ∈ s.manager.sessions, (s.session id).desc.isActive ∧ !(s.session id).isStale p s.now

/-- Why a call returns at once with an error, if it does. -/
def refusal (s : PowerHal) : Call → Option Status
  | .createHintSession threadIds _ =>
    if p.adpfRateNs ≤ 0 then some .unsupportedOperation
    else if threadIds = [] then some .illegalArgument
    else none
  | .pause id => if (s.session id).desc.isActive then none else some .illegalState
  | .resume id => if (s.session id).desc.isActive then some .illegalState else none
  | .close id => if (s.session id).sessionClosed then some .illegalState else none
  | .updateTargetWorkDuration _ targetDurationNanos =>
    if targetDurationNanos ≤ 0 then some .illegalArgument else none
  | .reportActualWorkDuration id actualDurations =>
    (s.session id).desc.reportRefusal actualDurations

def begin (s : PowerHal) : Call → PowerHal
  | .createHintSession threadIds durationNanos =>
    (s.create (.new p.adpfRateNs s.now threadIds durationNanos)).binderAt (.createAdd s.created)
  | .pause id => (s.setUclamp id 0).binderAt (.pauseStore id)
  | .resume id =>
    (s.updateDesc id fun desc => { desc with isActive := true }.restartIntegral p).binderAt
      (.resumeBoost id)
  | .close id =>
    (s.update id fun session => { session with sessionClosed := true }).binderAt
      (.closeRemoveMessages id)
  | .updateTargetWorkDuration id targetDurationNanos =>
    s.updateDesc id (·.updateTargetWorkDuration p targetDurationNanos)
  | .reportActualWorkDuration id actualDurations =>
    let stale := (s.session id).isStale p s.now
    let output := ((s.session id).desc.reportPid p stale actualDurations).2
    (s.updateDesc id fun desc => (desc.reportPid p stale actualDurations).1).binderAt
      (.reportTimer id output)

def makeCall (s : PowerHal) (call : Call) : Option PowerHal :=
  if s.binder = .idle ∧ ∀ id ∈ call.session, id < s.created then
    match s.refusal p call with
    | some _ => some s
    | none => some (s.begin p call)
  else none

def binderStep (s : PowerHal) : BinderPc → Option PowerHal
  | .idle => none
  | .createAdd id => some ((s.addPowerSession p id).binderAt (.createBoost id))
  | .createBoost id => some ((s.setUclamp id p.uclampMinHighLimit).binderAt .idle)
  | .pauseStore id =>
    some ((s.updateDesc id fun desc => { desc with isActive := false }).binderAt .post)
  | .resumeBoost id => some ((s.setUclamp id p.uclampMinHighLimit).binderAt .post)
  | .closeRemoveMessages id => some ((s.removeMessages id).binderAt (.closeReset id))
  | .closeReset id => some ((s.setUclamp id 0).binderAt (.closeUnregister id))
  | .closeUnregister id => some ((s.removePowerSession id).binderAt .post)
  | .reportTimer id output =>
    -- `updateStaleTimer` waits for the handler of the same session.
    if s.looper.locks = some id then none
    else some ((s.updateStaleTimer p id).binderAt (.reportApply id output))
  | .reportApply id output =>
    match (s.session id).desc.nextMin p output with
    | some nextMin => some (s.binderAt (.reportBoost id nextMin))
    | none => some (s.binderAt .idle)
  | .reportBoost id nextMin => some ((s.setUclamp id nextMin).binderAt .idle)
  | .post => some (s.updateUniveralBoostMode.binderAt .idle)

def dequeue (s : PowerHal) (i : Nat) : Option PowerHal :=
  if s.looper = .idle then
    match s.messages[i]?.bind (·.deliver s.now) with
    | some looper => some ({ s with messages := s.messages.eraseIdx i }.looperAt looper)
    | none => none
  else none

def looperStep (s : PowerHal) : LooperPc → Option PowerHal
  | .idle => none
  | .staleCheck id =>
    let when := (s.session id).getStaleTime p
    if when < s.now then some (s.looperAt (.staleReset id))
    else some ((s.sendMessage (.stale id when)).looperAt .idle)
  | .staleReset id => some ((s.setUclamp id 0).looperAt (.stalePost id))
  | .stalePost id => some (s.updateUniveralBoostMode.looperAt (.staleClear id))
  | .staleClear id =>
    some ((s.update id fun session => { session with isMonitoringStale := false }).looperAt .idle)
  | .managerCheck =>
    let active := s.isAnyActive p
    if active = s.mActive then some (s.looperAt .idle)
    else some ({ s with mActive := active }.looperAt (.managerHint active))
  | .managerHint active => some ({ s with hintOn := active }.looperAt .idle)

inductive Event where
  | tick (nanos : Nat)
  | call (call : Call)
  | binder
  | dequeue (i : Nat)
  | looper
  deriving DecidableEq, Repr

def step (s : PowerHal) : Event → Option PowerHal
  | .tick nanos => some { s with now := s.now + nanos }
  | .call call => s.makeCall p call
  | .binder => s.binderStep p s.binder
  | .dequeue i => s.dequeue i
  | .looper => s.looperStep p s.looper

end PowerHal

end Exynos9810.Power
