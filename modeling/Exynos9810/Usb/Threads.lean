import Exynos9810.Library.LockedThreads
import Exynos9810.Usb.Contaminant
import Exynos9810.Usb.SwitchMode

/-!
# `Usb.cpp`: the binder calls and the worker as threads

Any number of binder threads run calls of the interface beside the worker.  They share
`mCallback` and `mPartnerUp`, and three mutexes.  What sysfs, the properties and the
system calls answer comes with each step.
-/
namespace Exynos9810.Usb.Threads

open LockedThreads

inductive Mutex where
  | mRoleSwitchLock
  | mPartnerLock
  | mLock
  deriving DecidableEq, Repr

inductive Tid where
  | worker
  | binder (n : Nat)
  deriving DecidableEq, Repr

structure RoleRequest where
  portName : Text
  role : PortRole
  transactionId : Int64
  deriving DecidableEq, Repr

/-- What a thread can be made to run.  The other arguments of the interface are ignored
by the code. -/
inductive Call where
  | work
  | setCallback (inCallback : Option Nat)
  | switchRole (request : RoleRequest)
  | queryPortStatus (transactionId : Int64)
  | enableUsbData (portName : Text) (enable : Bool) (transactionId : Int64)
  | enableUsbDataWhileDocked (portName : Text) (transactionId : Int64)
  | resetUsbPort (portName : Text) (transactionId : Int64)
  | limitPowerTransfer (portName : Text) (transactionId : Int64)
  | enableContaminantPresenceDetection (portName : Text) (transactionId : Int64)
  deriving DecidableEq, Repr

/-- A call of `IUsbCallback`.  Docking, resetting and limiting are answered with
`NOT_SUPPORTED`, the other ones without a status here with `SUCCESS`. -/
inductive Notification where
  | portStatusChange (ports : List (PortStatus × Option Contaminant)) (status : Status)
  | roleSwitch (request : RoleRequest) (status : Status)
  | queryPortStatus (transactionId : Int64)
  | enableUsbData (portName : Text) (enable : Bool) (status : Status) (transactionId : Int64)
  | enableUsbDataWhileDocked (portName : Text) (transactionId : Int64)
  | resetUsbPort (portName : Text) (transactionId : Int64)
  | limitPowerTransfer (portName : Text) (transactionId : Int64)
  | contaminantEnabled (portName : Text) (transactionId : Int64)
  deriving DecidableEq, Repr

/-- The second half of `mCallback != NULL && in_transactionId >= 0`. -/
def Notification.wanted : Notification → Bool
  | .limitPowerTransfer _ transactionId => 0 ≤ transactionId
  | _ => true

/-- The steps between two statements that lock or unlock. -/
inductive Act where
  | setCallback (inCallback : Option Nat)
  | kill
  | join
  | create
  | openSocket
  | test
  | enter
  | epollWait
  | recv
  | scan (segments : List (List Char))
  | partnerUp
  | exit
  | queryVersionHelper (byWorker : Bool)
  | drpLoop (portNames : List Text)
  | openRole (request : RoleRequest)
  | fputsRole (request : RoleRequest)
  | readRole (request : RoleRequest)
  | fputsMode (request : RoleRequest)
  | timedwait (request : RoleRequest)
  | wake (request : RoleRequest)
  | decide (request : RoleRequest) (err : WaitErr)
  | switchToDrp (portName : Text)
  | writeUsbData (portName : Text) (enable : Bool) (transactionId : Int64)
  | ifCallback (n : Notification)
  | notify (n : Notification)
  deriving DecidableEq, Repr

abbrev Block := List (Stmt Mutex Act)

/-- What the environment answers in a step. -/
structure Outcome where
  /-- Opening, creating, killing or waiting succeeds. -/
  ok : Bool := true
  put : PutResult := .flushed
  err : WaitErr := .awake
  fs : Sysfs := { typec := none, file := fun _ => none }
  order : PortNames → PortNames := id
  property : Text := []
  water : Nat → Option Text := fun _ => none
  /-- The directory of a partner can be opened. -/
  partnerDir : Bool := false

inductive Action where
  | called (n : Nat) (call : Call)
  | registered (callback : Option Nat)
  | notified (callback : Nat) (t : Tid) (n : Notification)
  | skipped (t : Tid) (n : Notification)
  /-- A role node has been written. -/
  | put (t : Tid) (node text : Text)
  | putUsbData (t : Tid) (enable : Bool)
  deriving DecidableEq, Repr

inductive End where
  | fault (fault : Fault)
  /-- `mCallback` is null where it is used. -/
  | nullCallback
  deriving DecidableEq, Repr

/-- What the threads share, and whether they are there. -/
structure Process where
  mCallback : Option Nat
  mPartnerUp : Bool
  destroyThread : Bool
  /-- `SIGUSR1` is pending for the worker. -/
  signalled : Bool
  /-- The worker is in `epoll_wait`, and whether the signal has come there. -/
  polling : Bool
  interrupted : Bool
  socket : List Uevent
  /-- `pthread_create` has made a worker that has not begun yet. -/
  spawned : Bool
  /-- The worker exists and has not ended. -/
  workerUp : Bool
  ended : Option End
  log : List Action
  deriving DecidableEq, Repr

def Process.init : Process :=
  { mCallback := none, mPartnerUp := false, destroyThread := false, signalled := false
    polling := false, interrupted := false, socket := [], spawned := false, workerUp := false
    ended := none, log := [] }

def Process.record (s : Process) (action : Action) : Process :=
  { s with log := s.log ++ [action] }

/-- `NULL`-checked notification under `mLock`. -/
def notifies (n : Notification) : Block :=
  [.lock .mLock, .act (.ifCallback n), .unlock .mLock]

def answerRole (request : RoleRequest) (roleSwitch : Bool) : Block :=
  notifies (.roleSwitch request (if roleSwitch then .success else .error))

def failedMode (request : RoleRequest) : Block :=
  .act (.switchToDrp request.portName) :: answerRole request false

def queryVersionHelper (byWorker : Bool) : Block :=
  [.lock .mLock, .act (.queryVersionHelper byWorker)]

def body : Call → Block
  | .work => [.act .openSocket]
  | .setCallback inCallback => [.lock .mLock, .act (.setCallback inCallback), .unlock .mLock]
  | .switchRole request =>
    [.lock .mRoleSwitchLock, .act (.openRole request), .unlock .mRoleSwitchLock]
  | .queryPortStatus transactionId =>
    queryVersionHelper false ++ notifies (.queryPortStatus transactionId)
  | .enableUsbData portName enable transactionId =>
    [.lock .mLock, .act (.writeUsbData portName enable transactionId), .unlock .mLock] ++
      queryVersionHelper false
  | .enableUsbDataWhileDocked portName transactionId =>
    notifies (.enableUsbDataWhileDocked portName transactionId)
  | .resetUsbPort portName transactionId => notifies (.resetUsbPort portName transactionId)
  | .limitPowerTransfer portName transactionId =>
    notifies (.limitPowerTransfer portName transactionId)
  | .enableContaminantPresenceDetection portName transactionId =>
    notifies (.contaminantEnabled portName transactionId) ++ queryVersionHelper false

namespace Process

variable (s : Process) (o : Outcome)

/-- The statements of `setCallback` behind the lock. -/
def setCallback (inCallback : Option Nat) : Process × Block :=
  ({ s with mCallback := inCallback }.record (.registered inCallback),
    if s.mCallback.isSome = inCallback.isSome then []
    else if inCallback.isNone then [.act .kill]
    else [.act .create])

/-- `pthread_kill` fails only for a thread that has ended. -/
def kill : Option (Process × Block) :=
  if o.ok then some ({ s with signalled := true }, [.act .join])
  else if s.workerUp then none
  else some (s, [])

def create : Process × Block :=
  if o.ok then
    ({ s with destroyThread := false, signalled := false, spawned := true, workerUp := true }, [])
  else ({ s with destroyThread := false, mCallback := none }.record (.registered none), [])

/-- `epoll_wait` is not restarted after a signal. -/
def epollWait : Option (Process × Block) :=
  if s.interrupted then
    some ({ s with polling := false, interrupted := false }, [.act .test])
  else if !o.ok then some ({ s with polling := false }, [.act .exit])
  else if s.socket = [] then none
  else some ({ s with polling := false }, [.act .recv])

def recv : Process × Block :=
  match s.socket with
  | [] => (s, [.act .test])
  | msg :: rest => ({ s with socket := rest }, [.act (.scan (segments msg))])

def scan : List (List Char) → Block
  | [] => [.act .test]
  | segment :: rest =>
    if isPartnerAdded segment then
      [.lock .mPartnerLock, .act .partnerUp, .unlock .mPartnerLock, .act (.scan rest)]
    else if isPortChange segment then queryVersionHelper true
    else [.act (.scan rest)]

/-- The rest of `queryVersionHelper`, and of the worker that has called it. -/
def queried (byWorker : Bool) (ports : List PortStatus) (n : Notification) : Block :=
  [.act (.ifCallback n), .unlock .mLock] ++
    if byWorker then
      [.tryLock .mRoleSwitchLock (.drpLoop (ports.map PortStatus.portName)), .act .test]
    else []

def queryVersionHelper (byWorker : Bool) : Process × Block :=
  match getPortStatusHelper o.fs o.order with
  | .error fault => ({ s with ended := some (.fault fault) }, [.unlock .mLock])
  | .ok (status, ports) =>
    let contaminants :=
      (queryMoistureDetectionStatus o.property ((List.range ports.length).map o.water)).2
    (s, queried byWorker ports (.portStatusChange (ports.zip contaminants) status))

/-- One port: without a partner it is switched back to both roles. -/
def drpLoop (t : Tid) : List Text → Process × Block
  | [] => (s, [.unlock .mRoleSwitchLock])
  | portName :: rest =>
    (if o.partnerDir || !o.ok then s else s.record (.put t (drpNode portName) "dual".toList),
      [.act (.drpLoop rest)])

/-- `fopen` in `switchMode` or in `switchRole`. -/
def openRole (request : RoleRequest) : Block :=
  match request.role.getTag with
  | .mode =>
    if o.ok then [.lock .mPartnerLock, .act (.fputsMode request)] else failedMode request
  | .powerRole | .dataRole => if o.ok then [.act (.fputsRole request)] else answerRole request false

/-- The text leaves the buffer in `fclose`, whose result is not looked at. -/
def putRole (t : Tid) (request : RoleRequest) : Process :=
  if o.put = .flushed then
    s.record (.put t (appendRoleNodeHelper (cStr request.portName) request.role.getTag)
      (convertRoletoString request.role))
  else s

def fputsRole (t : Tid) (request : RoleRequest) : Process × Block :=
  (s.putRole o t request,
    if o.put = .eof then answerRole request false else [.act (.readRole request)])

def readRole (request : RoleRequest) : Block :=
  match o.fs.file (appendRoleNodeHelper (cStr request.portName) request.role.getTag) with
  | none => answerRole request false
  | some written =>
    answerRole request (extractRole (trim written) = convertRoletoString request.role)

def fputsMode (t : Tid) (request : RoleRequest) : Process × Block :=
  ({ s with mPartnerUp := false }.putRole o t request,
    if o.put = .eof then .unlock .mPartnerLock :: failedMode request
    else [.act (.timedwait request)])

/-- The return code is looked at first, `mPartnerUp` second. -/
def decide (request : RoleRequest) : WaitErr → Block
  | .timedOut => .unlock .mPartnerLock :: failedMode request
  | .awake =>
    if s.mPartnerUp then .unlock .mPartnerLock :: answerRole request true
    else [.act (.timedwait request)]

def writeUsbData (t : Tid) (portName : Text) (enable : Bool) (transactionId : Int64) :
    Process × Block :=
  (if o.ok then s.record (.putUsbData t enable) else s,
    [.act (.ifCallback (.enableUsbData portName enable (if o.ok then .success else .error)
      transactionId))])

def ifCallback (t : Tid) (n : Notification) : Process × Block :=
  if s.mCallback.isSome && n.wanted then (s, [.act (.notify n)])
  else (s.record (.skipped t n), [])

def notify (t : Tid) (n : Notification) : Process :=
  match s.mCallback with
  | some callback => s.record (.notified callback t n)
  | none => { s with ended := some .nullCallback }

def perform (t : Tid) (a : Act) (o : Outcome) (s : Process) : Option (Process × Block) :=
  match a with
  | .setCallback inCallback => some (s.setCallback inCallback)
  | .kill => s.kill o
  | .join => if s.workerUp then none else some (s, [])
  | .create => some (s.create o)
  | .openSocket => some (s, if o.ok then [.act .test] else [.act .exit])
  | .test => some (s, if s.destroyThread then [.act .exit] else [.act .enter])
  | .enter => some ({ s with polling := true }, [.act .epollWait])
  | .epollWait => s.epollWait o
  | .recv => some s.recv
  | .scan segments => some (s, scan segments)
  | .partnerUp => some ({ s with mPartnerUp := true }, [])
  | .exit => some ({ s with workerUp := false }, [])
  | .queryVersionHelper byWorker => some (s.queryVersionHelper o byWorker)
  | .drpLoop portNames => some (s.drpLoop o t portNames)
  | .openRole request => some (s, openRole o request)
  | .fputsRole request => some (s.fputsRole o t request)
  | .readRole request => some (s, readRole o request)
  | .fputsMode request => some (s.fputsMode o t request)
  | .timedwait request => some (s, [.unlock .mPartnerLock, .act (.wake request)])
  | .wake request => some (s, [.lock .mPartnerLock, .act (.decide request o.err)])
  | .decide request err => some (s, s.decide request err)
  | .switchToDrp portName =>
    some (if o.ok then s.record (.put t (drpNode portName) "dual".toList) else s, [])
  | .writeUsbData portName enable transactionId =>
    some (s.writeUsbData o t portName enable transactionId)
  | .ifCallback n => some (s.ifCallback t n)
  | .notify n => some (s.notify t n, [])

def call (t : Tid) (c : Call) (s : Process) : Option (Process × Block) :=
  match t, c with
  | .worker, .work => if s.spawned then some ({ s with spawned := false }, body .work) else none
  | .worker, _ => none
  | .binder _, .work => none
  | .binder n, c => some (s.record (.called n c), body c)

end Process

inductive Environment where
  | uevent (msg : Uevent)
  | signal
  deriving DecidableEq, Repr

/-- `sighandler` runs in the worker. -/
def Process.environment (e : Environment) (s : Process) : Option Process :=
  match e with
  | .uevent msg => some { s with socket := s.socket ++ [msg] }
  | .signal =>
    if s.signalled && s.workerUp then
      some { s with signalled := false, destroyThread := true, interrupted := s.polling }
    else none

def machine : Machine Tid Mutex Act Outcome Call Environment Process where
  alive s := s.ended.isNone
  call := Process.call
  perform := Process.perform
  environment := Process.environment

def Act.owes : Act → List Mutex
  | .fputsMode _ | .timedwait _ | .decide _ _ => [.mPartnerLock]
  | .queryVersionHelper _ => [.mLock]
  | .drpLoop _ => [.mRoleSwitchLock]
  | _ => []

def Act.site : Act → List Mutex → Prop
  | .setCallback _ | .kill | .join | .create | .writeUsbData _ _ _ | .queryVersionHelper _ =>
    fun held => held = [.mLock]
  | .openSocket | .test | .enter | .epollWait | .recv | .scan _ | .exit => fun held => held = []
  | .partnerUp => fun held => held = [.mPartnerLock]
  | .openRole _ | .fputsRole _ | .readRole _ | .wake _ | .switchToDrp _ | .drpLoop _ =>
    fun held => held = [.mRoleSwitchLock]
  | .fputsMode _ | .timedwait _ | .decide _ _ =>
    fun held => held = [.mPartnerLock, .mRoleSwitchLock]
  | .ifCallback _ | .notify _ => fun held => held = [.mLock] ∨ held = [.mLock, .mRoleSwitchLock]

def Mutex.rank : Mutex → Nat
  | .mRoleSwitchLock => 0
  | .mPartnerLock => 1
  | .mLock => 2

def discipline : Discipline Mutex Act where
  rank := Mutex.rank
  owes := Act.owes
  site := Act.site

section Discipline

/-- A block that is run with the mutexes `before` and leaves `base`. -/
def Fits (before base : List Mutex) (block : Block) : Prop :=
  discipline.Locked base block ∧ discipline.held base block = before

theorem fits_body (c : Call) : Fits [] [] (body c) := by
  cases c <;> simp [Fits, body, notifies, queryVersionHelper, Discipline.Locked, Discipline.held,
    discipline, Act.owes, Act.site]

theorem fits_answerRole (request : RoleRequest) (roleSwitch : Bool) :
    Fits [.mRoleSwitchLock] [.mRoleSwitchLock] (answerRole request roleSwitch) := by
  simp [Fits, answerRole, notifies, Discipline.Locked, Discipline.held, discipline, Act.owes,
    Act.site, Mutex.rank]

theorem fits_failedMode (request : RoleRequest) :
    Fits [.mRoleSwitchLock] [.mRoleSwitchLock] (failedMode request) := by
  have h := fits_answerRole request false
  exact ⟨⟨h.2, h.1⟩, h.2⟩

theorem fits_unlock {l : Mutex} {before base : List Mutex} {block : Block}
    (h : Fits before base block) : Fits (l :: before) base (.unlock l :: block) :=
  ⟨h.1, congrArg (l :: ·) h.2⟩

theorem fits_act {a : Act} {base : List Mutex} (h : a.site (a.owes ++ base)) :
    Fits (a.owes ++ base) base [.act a] :=
  ⟨⟨h, trivial⟩, rfl⟩

theorem fits_scan (segments : List (List Char)) : Fits [] [] (Process.scan segments) := by
  cases segments with
  | nil => exact fits_act rfl
  | cons segment rest =>
    rw [Process.scan]
    split_ifs
    · simp [Fits, Discipline.Locked, Discipline.held, discipline, Act.owes, Act.site]
    · simp [Fits, queryVersionHelper, Discipline.Locked, Discipline.held, discipline, Act.owes,
        Act.site]
    · exact fits_act rfl

theorem fits_queryVersionHelper (s : Process) (o : Outcome) (byWorker : Bool) :
    Fits [.mLock] [] (s.queryVersionHelper o byWorker).2 := by
  unfold Process.queryVersionHelper
  split
  · exact fits_unlock ⟨trivial, rfl⟩
  · cases byWorker <;> simp [Fits, Process.queried, Discipline.Locked, Discipline.held,
      discipline, Act.owes, Act.site]

theorem fits_drpLoop (s : Process) (o : Outcome) (t : Tid) (portNames : List Text) :
    Fits [.mRoleSwitchLock] [] (s.drpLoop o t portNames).2 := by
  cases portNames with
  | nil => exact fits_unlock ⟨trivial, rfl⟩
  | cons portName rest => exact fits_act (a := .drpLoop rest) rfl

theorem fits_openRole (o : Outcome) (request : RoleRequest) :
    Fits [.mRoleSwitchLock] [.mRoleSwitchLock] (Process.openRole o request) := by
  have hmode : Fits [.mRoleSwitchLock] [.mRoleSwitchLock]
      [.lock .mPartnerLock, .act (.fputsMode request)] := by
    simp [Fits, Discipline.Locked, Discipline.held, discipline, Act.owes, Act.site, Mutex.rank]
  unfold Process.openRole
  split
  · split
    · exact hmode
    · exact fits_failedMode request
  all_goals
    split
    · exact fits_act (a := .fputsRole request) rfl
    · exact fits_answerRole request false

theorem fits_readRole (o : Outcome) (request : RoleRequest) :
    Fits [.mRoleSwitchLock] [.mRoleSwitchLock] (Process.readRole o request) := by
  unfold Process.readRole
  split
  · exact fits_answerRole request false
  · exact fits_answerRole request _

theorem fits_decide (s : Process) (request : RoleRequest) (err : WaitErr) :
    Fits [.mPartnerLock, .mRoleSwitchLock] [.mRoleSwitchLock] (s.decide request err) := by
  cases err with
  | timedOut => exact fits_unlock (fits_failedMode request)
  | awake =>
    rw [Process.decide]
    split
    · exact fits_unlock (fits_answerRole request true)
    · exact fits_act (a := .timedwait request) rfl

theorem fits_perform {t : Tid} {a : Act} {o : Outcome} {s : Process} {next : Process × Block}
    {base : List Mutex} (h : Process.perform t a o s = some next)
    (hsite : a.site (a.owes ++ base)) : Fits (a.owes ++ base) base next.2 := by
  cases a with
  | setCallback inCallback =>
    cases h
    cases hsite
    simp only [Process.setCallback]
    split_ifs
    · exact ⟨trivial, rfl⟩
    · exact fits_act (a := .kill) rfl
    · exact fits_act (a := .create) rfl
  | kill =>
    cases hsite
    simp only [Process.perform, Process.kill] at h
    split_ifs at h <;> cases h
    · exact fits_act (a := .join) rfl
    · exact ⟨trivial, rfl⟩
  | join =>
    simp only [Process.perform] at h
    split at h <;> cases h
    exact ⟨trivial, rfl⟩
  | create =>
    cases h
    rw [Process.create]
    split <;> exact ⟨trivial, rfl⟩
  | openSocket | test =>
    cases h
    cases hsite
    dsimp only
    split <;> exact fits_act rfl
  | enter =>
    cases h
    cases hsite
    exact fits_act rfl
  | epollWait =>
    cases hsite
    simp only [Process.perform, Process.epollWait] at h
    split_ifs at h <;> cases h <;> exact fits_act rfl
  | recv =>
    cases h
    cases hsite
    rw [Process.recv]
    split <;> exact fits_act rfl
  | scan segments =>
    cases h
    cases hsite
    exact fits_scan segments
  | queryVersionHelper byWorker =>
    cases h
    cases hsite
    exact fits_queryVersionHelper s o byWorker
  | drpLoop portNames =>
    cases h
    cases hsite
    exact fits_drpLoop s o t portNames
  | openRole request =>
    cases h
    cases hsite
    exact fits_openRole o request
  | fputsRole request =>
    cases h
    cases hsite
    simp only [Process.fputsRole]
    split
    · exact fits_answerRole request false
    · exact fits_act (a := .readRole request) rfl
  | readRole request =>
    cases h
    cases hsite
    exact fits_readRole o request
  | fputsMode request =>
    cases h
    cases hsite
    simp only [Process.fputsMode]
    split
    · exact fits_unlock (fits_failedMode request)
    · exact fits_act (a := .timedwait request) rfl
  | timedwait request =>
    cases h
    cases hsite
    exact fits_unlock (fits_act (a := .wake request) rfl)
  | wake request =>
    cases h
    cases hsite
    simp [Fits, Discipline.Locked, Discipline.held, discipline, Act.owes, Act.site, Mutex.rank]
  | decide request err =>
    cases h
    cases hsite
    exact fits_decide s request err
  | writeUsbData portName enable transactionId =>
    cases h
    cases hsite
    exact fits_act (a := .ifCallback _) (.inl rfl)
  | ifCallback n =>
    cases h
    rw [Process.ifCallback]
    split
    · exact fits_act (a := .notify n) hsite
    · exact ⟨trivial, rfl⟩
  | partnerUp | exit | switchToDrp | notify =>
    cases h
    exact ⟨trivial, rfl⟩

theorem call_cases {t : Tid} {c : Call} {s : Process} {next : Process × Block}
    (h : Process.call t c s = some next) :
    (t = .worker ∧ c = .work ∧ s.spawned = true ∧
      next = ({ s with spawned := false }, body .work)) ∨
    ∃ n, t = .binder n ∧ c ≠ .work ∧ next = (s.record (.called n c), body c) := by
  unfold Process.call at h
  split at h
  · split at h <;> cases h
    rename_i hspawned
    exact .inl ⟨rfl, rfl, hspawned, rfl⟩
  · cases h
  · cases h
  · rename_i hc
    cases h
    exact .inr ⟨_, rfl, fun heq => hc heq, rfl⟩

/-- The code keeps to the order of the mutexes and releases what it takes. -/
theorem sound : Sound discipline machine where
  call := by
    intro t c shared next h
    rcases call_cases h with ⟨-, -, -, rfl⟩ | ⟨n, -, -, rfl⟩
    · exact fits_body .work
    · exact fits_body c
  perform := fun h hsite => fits_perform h hsite

end Discipline

end Exynos9810.Usb.Threads
