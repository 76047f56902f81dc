import Exynos9810.Usb.ThreadsSafety

/-!
# The threads run `setCallback` as `UsbHal` does

`UsbHal` has one call of `setCallback`, the worker, and others that hold `mLock` for some
time.  Seen that way every run of the threads is a run of `UsbHal`.  `mLock` counts as
released as soon as its holder has nothing left to do but to release it.
-/
namespace Exynos9810.Usb.Threads

open LockedThreads Transition

/-- The acts that run under `mLock`. -/
def Act.underLock : Act → Bool
  | .setCallback _ | .kill | .join | .create | .writeUsbData _ _ _ | .queryVersionHelper _
  | .ifCallback _ | .notify _ => true
  | _ => false

/-- Those that come first when `mLock` has been taken. -/
def Act.enters : Act → Bool
  | .setCallback _ | .writeUsbData _ _ _ | .queryVersionHelper _ | .ifCallback _ => true
  | _ => false

def Act.ofWorker : Act → Bool
  | .openSocket | .test | .enter | .epollWait | .recv | .scan _ | .partnerUp | .exit
  | .drpLoop _ | .queryVersionHelper true => true
  | _ => false

def Act.callerPc : Act → CallerPc
  | .setCallback inCallback => .entered inCallback
  | .kill => .kill
  | .join => .join
  | .create => .create
  | _ => .idle

def Act.holder (t : Tid) : Act → Holder
  | .setCallback _ | .kill | .join | .create => .caller
  | _ => if t = .worker then .worker else .other

/-- The act under `mLock` that a thread is at. -/
def critical : Block → Option Act
  | .act a :: _ => if a.underLock then some a else none
  | _ => none

section Blocks

/-- What a binder thread may have in front of it: acts under `mLock` only where the mutex
has just been taken, which `fresh` says of the front. -/
def Clean (fresh : Bool) : Block → Prop
  | [] => fresh = false
  | .act a :: k =>
    (if fresh then a.enters = true else a.underLock = false) ∧ a.ofWorker = false ∧ Clean false k
  | .lock l :: k => fresh = false ∧ Clean (l = .mLock) k
  | .unlock _ :: k => fresh = false ∧ Clean false k
  | .tryLock _ _ :: _ => False

/-- The thread is at an act under `mLock`. -/
def Inside (block : Block) : Prop :=
  ∃ a k, block = .act a :: k ∧ a.underLock = true ∧ a.ofWorker = false ∧ Clean false k

def Guarded (block : Block) : Prop :=
  Clean false block ∨ Inside block

theorem underLock_of_enters {a : Act} (h : a.enters = true) : a.underLock = true := by
  cases a <;> first | rfl | cases h

theorem critical_of_underLock {a : Act} {k : Block} (h : a.underLock = true) :
    critical (.act a :: k) = some a := by
  rw [critical, h]
  rfl

theorem Clean.append {fresh : Bool} {block k : Block} (hblock : Clean fresh block)
    (hk : Clean false k) : Clean fresh (block ++ k) := by
  induction block generalizing fresh with
  | nil =>
    cases hblock
    exact hk
  | cons stmt block ih =>
    cases stmt with
    | act a => exact ⟨hblock.1, hblock.2.1, ih hblock.2.2⟩
    | lock l => exact ⟨hblock.1, ih hblock.2⟩
    | unlock l => exact ⟨hblock.1, ih hblock.2⟩
    | tryLock l taken => exact hblock.elim

theorem critical_of_clean {block : Block} (h : Clean false block) : critical block = none := by
  cases block with
  | nil => rfl
  | cons stmt k =>
    cases stmt with
    | act a =>
      have hlock : a.underLock = false := h.1
      rw [critical, hlock]
      rfl
    | _ => rfl

/-- Behind the statement that takes `mLock` stands an act that may come first there. -/
theorem exists_of_clean_true {block : Block} (h : Clean true block) :
    ∃ a k, block = .act a :: k ∧ a.enters = true ∧ a.ofWorker = false ∧ Clean false k := by
  cases block with
  | nil => cases h
  | cons stmt k =>
    cases stmt with
    | act a => exact ⟨a, k, rfl, h.1, h.2.1, h.2.2⟩
    | lock l => cases h.1
    | unlock l => cases h.1
    | tryLock l taken => exact h.elim

theorem guarded_act {a : Act} {k : Block} (h : Guarded (.act a :: k)) :
    a.ofWorker = false ∧ Clean false k := by
  rcases h with h | ⟨a, k, heq, -, hworker, hk⟩
  · exact h.2
  · cases heq
    exact ⟨hworker, hk⟩

theorem clean_answerRole (request : RoleRequest) (roleSwitch : Bool) :
    Clean false (answerRole request roleSwitch) := by
  simp [answerRole, notifies, Clean, Act.enters, Act.ofWorker]

theorem clean_failedMode (request : RoleRequest) : Clean false (failedMode request) :=
  ⟨rfl, rfl, clean_answerRole request false⟩

theorem clean_body {c : Call} (hc : c ≠ .work) : Clean false (body c) := by
  cases c with
  | work => exact absurd rfl hc
  | _ =>
    simp [body, notifies, queryVersionHelper, Clean, Act.enters, Act.ofWorker, Act.underLock]

variable {t : Tid} {a : Act} {o : Outcome} {p : Process} {next : Process × Block}

/-- An act of a binder thread outside `mLock` writes nodes and may clear `mPartnerUp`. -/
theorem perform_quiet (h : Process.perform t a o p = some next) (hlock : a.underLock = false)
    (hworker : a.ofWorker = false) :
    Clean false next.2 ∧
      next.1 = { p with mPartnerUp := next.1.mPartnerUp, log := next.1.log } := by
  cases a with
  | openRole request =>
    cases h
    refine ⟨?_, rfl⟩
    unfold Process.openRole
    split
    · split
      · simp [Clean, Act.underLock, Act.ofWorker]
      · exact clean_failedMode request
    all_goals
      split
      · simp [Clean, Act.underLock, Act.ofWorker]
      · exact clean_answerRole request false
  | fputsRole request =>
    cases h
    refine ⟨?_, ?_⟩
    · dsimp only [Process.fputsRole]
      split
      · exact clean_answerRole request false
      · simp [Clean, Act.underLock, Act.ofWorker]
    · dsimp only [Process.fputsRole, Process.putRole]
      split <;> rfl
  | readRole request =>
    cases h
    refine ⟨?_, rfl⟩
    unfold Process.readRole
    split <;> exact clean_answerRole request _
  | fputsMode request =>
    cases h
    refine ⟨?_, ?_⟩
    · dsimp only [Process.fputsMode]
      split
      · exact ⟨rfl, clean_failedMode request⟩
      · simp [Clean, Act.underLock, Act.ofWorker]
    · dsimp only [Process.fputsMode, Process.putRole]
      split <;> rfl
  | timedwait request | wake request =>
    cases h
    exact ⟨by simp [Clean, Act.underLock, Act.ofWorker], rfl⟩
  | decide request err =>
    cases h
    refine ⟨?_, rfl⟩
    cases err with
    | timedOut => exact ⟨rfl, clean_failedMode request⟩
    | awake =>
      rw [Process.decide]
      split
      · exact ⟨rfl, clean_answerRole request true⟩
      · simp [Clean, Act.underLock, Act.ofWorker]
  | switchToDrp portName =>
    cases h
    refine ⟨rfl, ?_⟩
    dsimp only
    split <;> rfl
  | _ => first | (cases hlock; done) | cases hworker

end Blocks

/-- Whether the worker is there, and what it does in `epoll_wait`. -/
def Process.flags (p : Process) : Bool × Bool × Bool × Bool :=
  (p.workerUp, p.spawned, p.polling, p.interrupted)

/-- The rest of the worker's turn behind `queryVersionHelper`. -/
def queryEnd (portNames : List Text) : Block :=
  [.unlock .mLock, .tryLock .mRoleSwitchLock (.drpLoop portNames), .act .test]

/-- What a worker that is not in `epoll_wait` has in front of it, and where `UsbHal` has it. -/
inductive Running (destroyThread : Bool) : Block → WorkerPc → Prop
  | opening : Running destroyThread [.act .openSocket] .opening
  | test : Running destroyThread [.act .test] .test
  | enter : Running destroyThread [.act .enter] .enter
  | recv : Running destroyThread [.act .recv] .recv
  | scan (segments : List (List Char)) :
      Running destroyThread [.act (.scan segments)] (.scan segments)
  | partnerLock {segment : List Char} (rest : List (List Char)) (h : isPartnerAdded segment) :
      Running destroyThread
        [.lock .mPartnerLock, .act .partnerUp, .unlock .mPartnerLock, .act (.scan rest)]
        (.scan (segment :: rest))
  | partnerUp {segment : List Char} (rest : List (List Char)) (h : isPartnerAdded segment) :
      Running destroyThread [.act .partnerUp, .unlock .mPartnerLock, .act (.scan rest)]
        (.scan (segment :: rest))
  | partnerUnlock (rest : List (List Char)) :
      Running destroyThread [.unlock .mPartnerLock, .act (.scan rest)] (.scan rest)
  | queryLock : Running destroyThread (queryVersionHelper true) .queryLock
  | querying : Running destroyThread [.act (.queryVersionHelper true)] .querying
  | ifCallback (n : Notification) (portNames : List Text) :
      Running destroyThread (.act (.ifCallback n) :: queryEnd portNames) .querying
  | notify (n : Notification) (portNames : List Text) :
      Running destroyThread (.act (.notify n) :: queryEnd portNames) .querying
  | queried (portNames : List Text) : Running destroyThread (queryEnd portNames) .roleSwitch
  | tryLock (portNames : List Text) :
      Running destroyThread (queryEnd portNames).tail .roleSwitch
  | drpLoop (portNames : List Text) :
      Running destroyThread [.act (.drpLoop portNames), .act .test] .roleSwitch
  | drpDone : Running destroyThread [.unlock .mRoleSwitchLock, .act .test] .roleSwitch
  /-- `UsbHal` has the worker where it found out that it has to stop. -/
  | exitUnopened : Running destroyThread [.act .exit] .opening
  | exitFailed : Running destroyThread [.act .exit] .epollWait
  | exitTold (h : destroyThread = true) : Running destroyThread [.act .exit] .test

inductive WorkerAt (p : Process) : Block → WorkerPc → Prop
  | absent (h : p.flags = (false, false, false, false)) : WorkerAt p [] .absent
  | exited (h : p.flags = (false, false, false, false)) : WorkerAt p [] .exited
  | spawned (h : p.flags = (true, true, false, false)) : WorkerAt p [] .opening
  | epollWait (h : p.flags = (true, false, true, false)) : WorkerAt p [.act .epollWait] .epollWait
  /-- The signal has ended the system call. -/
  | woken (h : p.flags = (true, false, true, true)) : WorkerAt p [.act .epollWait] .test
  /-- The process has ended in `queryVersionHelper`. -/
  | faulted (h : p.flags = (true, false, false, false)) (hended : p.ended ≠ none) :
      WorkerAt p [.unlock .mLock] .roleSwitch
  | running {block : Block} {pc : WorkerPc} (h : p.flags = (true, false, false, false))
      (hrunning : Running p.destroyThread block pc) : WorkerAt p block pc

/-- `mLock` and the place of `setCallback`, as far as the acts under `mLock` show them. -/
def LockAt (rest : Tid → Block) (hal : UsbHal) : Prop :=
  (∃ t a, critical (rest t) = some a ∧ hal.mLock = some (a.holder t) ∧ hal.caller = a.callerPc) ∨
    (∀ t, critical (rest t) = none) ∧ hal.mLock = none ∧ hal.caller = .idle

def Shares (p : Process) (hal : UsbHal) : Prop :=
  (hal.mCallback, hal.destroyThread, hal.signalled, hal.socket) =
    (p.mCallback, p.destroyThread, p.signalled, p.socket)

/-- There is a worker while there is a callback, or `setCallback` is about to end it. -/
structure Registered (workerUp : Bool) (worker : WorkerPc) (caller : CallerPc)
    (mCallback : Option Nat) : Prop where
  absent : worker = .absent → caller ≠ .kill ∧ caller ≠ .join ∧
    (mCallback = none ∨ caller = .create)
  up : workerUp = true → caller ≠ .create ∧
    (mCallback ≠ none ∨ caller = .kill ∨ caller = .join)
  creating : caller = .create → mCallback ≠ none
  ending : caller = .kill ∨ caller = .join → mCallback = none

/-- The threads are where `UsbHal` has them; `mPartnerUp` is left out. -/
structure Refines (s : Service) (hal : UsbHal) : Prop where
  shares : Shares s.shared hal
  lock : LockAt s.rest hal
  worker : WorkerAt s.shared (s.rest .worker) hal.worker
  binder : ∀ n, Guarded (s.rest (.binder n))
  registered : Registered s.shared.workerUp hal.worker hal.caller hal.mCallback

/-- The steps of `UsbHal` that may stand for an event.  It is the thread in `setCallback`
that makes those of the caller. -/
def Makes (s : Service) (hal : UsbHal) :
    Event Tid Outcome Call Environment → UsbEvent → Prop
  | .run (.binder n) _, .caller _ =>
    ∃ a k, s.rest (.binder n) = .act a :: k ∧ hal.caller = a.callerPc
  | .run (.binder _) _, .setCallback _ | .run (.binder _) _, .otherLocks
  | .run (.binder _) _, .otherUnlocks | .run .worker _, .worker _
  | .environment .signal, .signal | .environment (.uevent _), .uevent _ => True
  | _, _ => False

/-- `UsbHal` follows the threads to `s'` with a step or without one; `partner` says whether
the step reports a partner. -/
abbrev Follows (s : Service) (event : Event Tid Outcome Call Environment) (partner : Bool)
    (hal : UsbHal) (s' : Service) : Prop :=
  ∃ hal', (partner = false ∧ hal' = hal ∨
      ∃ e, hal.step e = some hal' ∧ addsPartner hal e = partner ∧ Makes s hal event e) ∧
    Refines s' hal'

section Shares

variable {p : Process} {hal : UsbHal}

theorem Shares.mk (hcallback : hal.mCallback = p.mCallback)
    (hdestroy : hal.destroyThread = p.destroyThread) (hsignalled : hal.signalled = p.signalled)
    (hsocket : hal.socket = p.socket) : Shares p hal := by
  rw [Shares, hcallback, hdestroy, hsignalled, hsocket]

variable (h : Shares p hal)
include h

theorem Shares.mCallback : hal.mCallback = p.mCallback :=
  congrArg Prod.fst h

theorem Shares.destroyThread : hal.destroyThread = p.destroyThread :=
  congrArg (·.2.1) h

theorem Shares.signalled : hal.signalled = p.signalled :=
  congrArg (·.2.2.1) h

theorem Shares.socket : hal.socket = p.socket :=
  congrArg (·.2.2.2) h

end Shares

section Lock

variable {rest : Tid → Block} {hal : UsbHal} {t : Tid} {block : Block}

theorem LockAt.keep (h : LockAt rest hal) (hbefore : critical (rest t) = none)
    (hafter : critical block = none) : LockAt (Function.update rest t block) hal := by
  rcases h with ⟨t', a, hcritical, hlock⟩ | ⟨hfree, hlock⟩
  · have hne : t' ≠ t := by
      rintro rfl
      rw [hbefore] at hcritical
      cases hcritical
    exact .inl ⟨t', a, by rw [Function.update_of_ne hne]; exact hcritical, hlock⟩
  · refine .inr ⟨fun t' => ?_, hlock⟩
    rcases eq_or_ne t' t with rfl | hne
    · rw [Function.update_self]
      exact hafter
    · rw [Function.update_of_ne hne]
      exact hfree t'

theorem lockAt_taken {a : Act} (hafter : critical block = some a)
    (hlock : hal.mLock = some (a.holder t)) (hcaller : hal.caller = a.callerPc) :
    LockAt (Function.update rest t block) hal :=
  .inl ⟨t, a, by rw [Function.update_self]; exact hafter, hlock, hcaller⟩

theorem lockAt_released (hothers : ∀ t', t' ≠ t → critical (rest t') = none)
    (hafter : critical block = none) (hlock : hal.mLock = none) (hcaller : hal.caller = .idle) :
    LockAt (Function.update rest t block) hal := by
  refine .inr ⟨fun t' => ?_, hlock, hcaller⟩
  rcases eq_or_ne t' t with rfl | hne
  · rw [Function.update_self]
    exact hafter
  · rw [Function.update_of_ne hne]
    exact hothers t' hne

theorem LockAt.congr (h : LockAt rest hal) {hal' : UsbHal} (hlock : hal'.mLock = hal.mLock)
    (hcaller : hal'.caller = hal.caller) : LockAt rest hal' := by
  unfold LockAt
  rw [hlock, hcaller]
  exact h

theorem held_of_underLock {a : Act} {k : Block} (h : a.underLock = true)
    (hlocked : discipline.Locked [] (.act a :: k)) :
    discipline.held [] (.act a :: k) = [.mLock] ∨
      discipline.held [] (.act a :: k) = [.mLock, .mRoleSwitchLock] := by
  have hsite := hlocked.1
  cases a with
  | ifCallback n | notify n => exact hsite
  | _ => first | (cases h; done) | exact .inl hsite

variable {s : Service}

/-- The thread at an act under `mLock` has it. -/
theorem owner_of_critical (hown : Owned discipline s) {a : Act}
    (h : critical (s.rest t) = some a) : s.owner .mLock = some t := by
  rw [hown.owner]
  have hlocked := hown.locked t
  unfold critical at h
  split at h
  · rename_i a' k hrest
    split at h
    · rename_i hunder
      rw [hrest] at hlocked ⊢
      rcases held_of_underLock hunder hlocked with hheld | hheld <;> simp [hheld]
    · cases h
  · cases h

theorem critical_of_owner_none (hown : Owned discipline s) (h : s.owner .mLock = none)
    (t : Tid) : critical (s.rest t) = none := by
  cases hcritical : critical (s.rest t) with
  | none => rfl
  | some a =>
    rw [owner_of_critical hown hcritical] at h
    cases h

/-- The lock fields of `UsbHal` are those of the thread at an act under `mLock`, and no
other thread is at one. -/
theorem Refines.inside (h : Refines s hal) (hown : Owned discipline s) {a : Act} {k : Block}
    (hrest : s.rest t = .act a :: k) (ha : a.underLock = true) :
    hal.mLock = some (a.holder t) ∧ hal.caller = a.callerPc ∧
      ∀ t', t' ≠ t → critical (s.rest t') = none := by
  have hcritical : critical (s.rest t) = some a := by
    rw [hrest]
    exact critical_of_underLock ha
  have howner := owner_of_critical hown hcritical
  have hothers (t' : Tid) (hne : t' ≠ t) : critical (s.rest t') = none := by
    cases hcritical' : critical (s.rest t') with
    | none => rfl
    | some a' =>
      rw [owner_of_critical hown hcritical'] at howner
      cases howner
      exact absurd rfl hne
  rcases h.lock with ⟨t', a', hcritical', hlock, hcaller⟩ | ⟨hfree, -, -⟩
  · have ht : t' = t := by
      by_contra hne
      rw [hothers t' hne] at hcritical'
      cases hcritical'
    subst ht
    rw [hcritical] at hcritical'
    cases hcritical'
    exact ⟨hlock, hcaller, hothers⟩
  · rw [hfree t] at hcritical
    cases hcritical

theorem Refines.outside (h : Refines s hal) (hown : Owned discipline s)
    (hfree : s.owner .mLock = none) : hal.mLock = none ∧ hal.caller = .idle := by
  rcases h.lock with ⟨t, a, hcritical, -⟩ | ⟨-, hlock⟩
  · rw [critical_of_owner_none hown hfree t] at hcritical
    cases hcritical
  · exact hlock

end Lock

section Steps

variable {s : Service} {hal hal' : UsbHal} {p : Process} {block k : Block} {n : Nat} {a : Act}
  {o : Outcome} {owner : Mutex → Option Tid} {trace : List (Tid × Stmt Mutex Act)}

theorem WorkerAt.congr {pc : WorkerPc} {p' : Process} (h : WorkerAt p block pc)
    (hflags : p'.flags = p.flags) (hdestroy : p'.destroyThread = p.destroyThread)
    (hended : p.ended ≠ none → p'.ended ≠ none) : WorkerAt p' block pc := by
  cases h with
  | absent h => exact .absent (hflags.trans h)
  | exited h => exact .exited (hflags.trans h)
  | spawned h => exact .spawned (hflags.trans h)
  | epollWait h => exact .epollWait (hflags.trans h)
  | woken h => exact .woken (hflags.trans h)
  | faulted h hended' => exact .faulted (hflags.trans h) (hended hended')
  | running h hrunning => exact .running (hflags.trans h) (hdestroy ▸ hrunning)

theorem Refines.binderMoves (h : Refines s hal) (hshares : Shares p hal')
    (hlock : LockAt (Function.update s.rest (.binder n) block) hal')
    (hworker : WorkerAt p (s.rest .worker) hal'.worker) (hblock : Guarded block)
    (hregistered : Registered p.workerUp hal'.worker hal'.caller hal'.mCallback) :
    Refines { shared := p, owner, rest := Function.update s.rest (.binder n) block, trace }
      hal' := by
  refine ⟨hshares, hlock, ?_, ?_, hregistered⟩
  · dsimp only
    rw [Function.update_of_ne (by simp)]
    exact hworker
  · intro m
    dsimp only
    rcases eq_or_ne m n with rfl | hne
    · rw [Function.update_self]
      exact hblock
    · rw [Function.update_of_ne (by simpa using hne)]
      exact h.binder m

/-- A binder thread goes on outside `mLock`. -/
theorem Refines.quiet (h : Refines s hal) (hbefore : critical (s.rest (.binder n)) = none)
    (hblock : Clean false block) (mPartnerUp : Bool) (log : List Action) :
    Refines
      { shared := { s.shared with mPartnerUp, log }
        owner, rest := Function.update s.rest (.binder n) block, trace } hal :=
  h.binderMoves h.shares (h.lock.keep hbefore (critical_of_clean hblock))
    (h.worker.congr rfl rfl id) (.inl hblock) h.registered

/-- A binder thread that is not in `setCallback` goes on under `mLock`. -/
theorem Refines.stays (h : Refines s hal) (hown : Owned discipline s)
    (hrest : s.rest (.binder n) = .act a :: k) (ha : a.underLock = true) (a' : Act) {k' : Block}
    (hholder : a'.holder (.binder n) = a.holder (.binder n)) (hcaller : a'.callerPc = a.callerPc)
    (ha' : a'.underLock = true) (hworker : a'.ofWorker = false) (hk' : Clean false k')
    (log : List Action) :
    Refines
      { shared := { s.shared with log }
        owner, rest := Function.update s.rest (.binder n) (.act a' :: k'), trace } hal := by
  obtain ⟨hlock, hpc, -⟩ := h.inside hown hrest ha
  refine h.binderMoves h.shares (lockAt_taken (critical_of_underLock ha') ?_ ?_)
    (h.worker.congr rfl rfl id) ?_ h.registered
  · rw [hlock, hholder]
  · rw [hpc, hcaller]
  · exact .inr ⟨a', k', rfl, ha', hworker, hk'⟩

/-- A binder thread that is not in `setCallback` is done with `mLock`. -/
theorem Refines.unlocks (h : Refines s hal) (hown : Owned discipline s)
    (halive : s.shared.ended = none) (hrest : s.rest (.binder n) = .act a :: k)
    (ha : a.underLock = true) (hholder : a.holder (.binder n) = .other)
    (hcaller : a.callerPc = .idle) (hblock : Clean false block) (ended : Option End)
    (log : List Action) :
    Follows s (.run (.binder n) o) false hal
      { shared := { s.shared with ended, log }
        owner, rest := Function.update s.rest (.binder n) block, trace } := by
  obtain ⟨hlock, hpc, hothers⟩ := h.inside hown hrest ha
  rw [hholder] at hlock
  rw [hcaller] at hpc
  refine ⟨{ hal with mLock := none }, .inr ⟨.otherUnlocks, ?_, rfl, trivial⟩, ?_⟩
  · rw [UsbHal.step, if_pos hlock]
  · exact h.binderMoves h.shares (lockAt_released hothers (critical_of_clean hblock) rfl hpc)
      (h.worker.congr rfl rfl fun hended => absurd halive hended) (.inl hblock) h.registered

section SetCallback

/-- The thread that runs `setCallback` goes on there as `UsbHal` does. -/
theorem Refines.goesOn (h : Refines s hal) (hown : Owned discipline s)
    (hrest : s.rest (.binder n) = .act a :: k) (ha : a.underLock = true) (a' : Act) (ok : Bool)
    (hal' : UsbHal) (ha' : a'.underLock = true) (hofWorker : a'.ofWorker = false)
    (hk : Clean false k) (hstep : hal.callerStep ok = some hal') (hshares : Shares p hal')
    (hlock : hal'.mLock = some (a'.holder (.binder n))) (hcaller : hal'.caller = a'.callerPc)
    (hworker : WorkerAt p (s.rest .worker) hal'.worker)
    (hregistered : Registered p.workerUp hal'.worker hal'.caller hal'.mCallback) :
    Follows s (.run (.binder n) o) false hal
      { shared := p, owner, rest := Function.update s.rest (.binder n) (.act a' :: k), trace } :=
  ⟨hal', .inr ⟨.caller ok, hstep, rfl, a, k, hrest, (h.inside hown hrest ha).2.1⟩,
    h.binderMoves hshares (lockAt_taken (critical_of_underLock ha') hlock hcaller) hworker
      (.inr ⟨a', k, rfl, ha', hofWorker, hk⟩) hregistered⟩

/-- The thread that runs `setCallback` is done with it. -/
theorem Refines.returns (h : Refines s hal) (hown : Owned discipline s)
    (hrest : s.rest (.binder n) = .act a :: k) (ha : a.underLock = true) (hk : Clean false k)
    (ok : Bool) (hal' : UsbHal) (hstep : hal.callerStep ok = some hal'.unlock)
    (hshares : Shares p hal') (hworker : WorkerAt p (s.rest .worker) hal'.worker)
    (hregistered : Registered p.workerUp hal'.worker .idle hal'.mCallback) :
    Follows s (.run (.binder n) o) false hal
      { shared := p, owner, rest := Function.update s.rest (.binder n) k, trace } := by
  obtain ⟨-, hcaller, hothers⟩ := h.inside hown hrest ha
  exact ⟨hal'.unlock, .inr ⟨.caller ok, hstep, rfl, a, k, hrest, hcaller⟩,
    h.binderMoves hshares (lockAt_released hothers (critical_of_clean hk) rfl rfl) hworker
      (.inl hk) hregistered⟩

theorem follows_setCallback (h : Refines s hal) (hown : Owned discipline s)
    {inCallback : Option Nat} (hrest : s.rest (.binder n) = .act (.setCallback inCallback) :: k)
    (hk : Clean false k) :
    Follows s (.run (.binder n) o) false hal
      { shared := (s.shared.setCallback inCallback).1, owner
        rest := Function.update s.rest (.binder n) ((s.shared.setCallback inCallback).2 ++ k)
        trace } := by
  obtain ⟨hlock, hcaller, -⟩ := h.inside hown hrest rfl
  replace hcaller : hal.caller = .entered inCallback := hcaller
  obtain ⟨habsent, hup, -, -⟩ := h.registered
  have hworker : WorkerAt (s.shared.setCallback inCallback).1 (s.rest .worker) hal.worker :=
    h.worker.congr rfl rfl id
  rw [Process.setCallback, ← h.shares.mCallback]
  dsimp only
  rw [hcaller] at habsent hup
  split_ifs with hsame hnone
  · refine h.returns hown hrest rfl hk true { hal with mCallback := inCallback }
      ?_ (.mk rfl h.shares.destroyThread h.shares.signalled h.shares.socket) hworker ?_
    · simp [UsbHal.callerStep, hcaller, hsame]
    · cases hmCallback : hal.mCallback <;> cases inCallback <;>
        constructor <;> simp_all [Process.record]
  · refine h.goesOn hown hrest rfl .kill true
      { hal with mCallback := inCallback, caller := .kill } rfl rfl hk
      ?_ (.mk rfl h.shares.destroyThread h.shares.signalled h.shares.socket) hlock rfl hworker ?_
    · simp [UsbHal.callerStep, hcaller, hsame, hnone]
    · cases hmCallback : hal.mCallback <;> cases inCallback <;> constructor <;> simp_all
  · refine h.goesOn hown hrest rfl .create true
      { hal with mCallback := inCallback, caller := .create } rfl rfl hk
      ?_ (.mk rfl h.shares.destroyThread h.shares.signalled h.shares.socket) hlock rfl hworker ?_
    · simp [UsbHal.callerStep, hcaller, hsame, hnone]
    · cases hmCallback : hal.mCallback <;> cases inCallback <;> constructor <;>
        simp_all [Process.record]

/-- A worker that is not up has exited, or there is none. -/
theorem WorkerAt.of_down {pc : WorkerPc} (h : WorkerAt p block pc) (hdown : p.workerUp = false) :
    block = [] ∧ p.flags = (false, false, false, false) ∧ (pc = .absent ∨ pc = .exited) := by
  have hfalse {flags : Bool × Bool × Bool} (hflags : p.flags = (true, flags)) : False := by
    have hup : p.workerUp = true := congrArg Prod.fst hflags
    rw [hdown] at hup
    cases hup
  cases h with
  | absent h => exact ⟨rfl, h, .inl rfl⟩
  | exited h => exact ⟨rfl, h, .inr rfl⟩
  | spawned h => exact (hfalse h).elim
  | epollWait h => exact (hfalse h).elim
  | woken h => exact (hfalse h).elim
  | faulted h => exact (hfalse h).elim
  | running h => exact (hfalse h).elim

theorem WorkerAt.of_up {pc : WorkerPc} (h : WorkerAt p block pc) (hup : p.workerUp = true) :
    pc ≠ .absent ∧ pc ≠ .exited := by
  have hfalse (hflags : p.flags = (false, false, false, false)) : False := by
    have hdown : p.workerUp = false := congrArg Prod.fst hflags
    rw [hup] at hdown
    cases hdown
  cases h with
  | absent h => exact (hfalse h).elim
  | exited h => exact (hfalse h).elim
  | running h hrunning => cases hrunning <;> simp
  | _ => simp

theorem follows_kill (h : Refines s hal) (hown : Owned discipline s)
    (hrest : s.rest (.binder n) = .act .kill :: k) (hk : Clean false k)
    {next : Process × Block} (hnext : s.shared.kill o = some next) :
    Follows s (.run (.binder n) o) false hal
      { shared := next.1, owner
        rest := Function.update s.rest (.binder n) (next.2 ++ k), trace } := by
  obtain ⟨hlock, hcaller, -⟩ := h.inside hown hrest rfl
  replace hcaller : hal.caller = .kill := hcaller
  have hregistered := h.registered
  unfold Process.kill at hnext
  split_ifs at hnext with hok hup <;> cases hnext
  · refine h.goesOn hown hrest rfl .join true
      { hal with signalled := true, caller := .join } rfl rfl hk
      ?_ (.mk h.shares.mCallback h.shares.destroyThread rfl h.shares.socket) hlock rfl
      (h.worker.congr rfl rfl id) ?_
    · simp [UsbHal.callerStep, hcaller]
    · obtain ⟨habsent, -, -, hending⟩ := hregistered
      constructor <;> simp_all
  · obtain ⟨-, -, hpc⟩ := h.worker.of_down (by simpa using hup)
    have hexited : hal.worker = .exited := by
      refine hpc.resolve_left fun habsent => ?_
      exact (hregistered.absent habsent).1 hcaller
    refine h.returns hown hrest rfl hk false hal ?_ h.shares h.worker ?_
    · simp [UsbHal.callerStep, hcaller, hexited]
    · constructor <;> simp_all

theorem follows_join (h : Refines s hal) (hown : Owned discipline s)
    (hrest : s.rest (.binder n) = .act .join :: k) (hk : Clean false k)
    (hdown : s.shared.workerUp = false) :
    Follows s (.run (.binder n) o) false hal
      { shared := s.shared, owner, rest := Function.update s.rest (.binder n) k, trace } := by
  obtain ⟨-, hcaller, -⟩ := h.inside hown hrest rfl
  replace hcaller : hal.caller = .join := hcaller
  have hregistered := h.registered
  obtain ⟨hblock, hflags, hpc⟩ := h.worker.of_down hdown
  have hexited : hal.worker = .exited := by
    refine hpc.resolve_left fun habsent => ?_
    exact (hregistered.absent habsent).2.1 hcaller
  refine h.returns hown hrest rfl hk true { hal with worker := .absent } ?_
    h.shares ?_ ?_
  · simp [UsbHal.callerStep, hcaller, hexited]
  · rw [hblock]
    exact .absent hflags
  · obtain ⟨-, -, -, hending⟩ := hregistered
    constructor <;> simp_all

theorem follows_create (h : Refines s hal) (hown : Owned discipline s)
    (hrest : s.rest (.binder n) = .act .create :: k) (hk : Clean false k) :
    Follows s (.run (.binder n) o) false hal
      { shared := (s.shared.create o).1, owner
        rest := Function.update s.rest (.binder n) ((s.shared.create o).2 ++ k), trace } := by
  obtain ⟨-, hcaller, -⟩ := h.inside hown hrest rfl
  replace hcaller : hal.caller = .create := hcaller
  have hregistered := h.registered
  have hdown : s.shared.workerUp = false := by
    by_contra hup
    exact (hregistered.up (by simpa using hup)).1 hcaller
  obtain ⟨hblock, hflags, hpc⟩ := h.worker.of_down hdown
  rw [Process.create]
  split
  · refine h.returns hown hrest rfl hk true
      { hal with destroyThread := false, signalled := false, worker := .opening } ?_
      (.mk h.shares.mCallback rfl rfl h.shares.socket) ?_ ?_
    · simp [UsbHal.callerStep, hcaller]
    · rw [hblock]
      refine .spawned ?_
      simp only [Process.flags, Prod.mk.injEq] at hflags ⊢
      exact ⟨trivial, trivial, hflags.2.2⟩
    · obtain ⟨-, -, hcreating, -⟩ := hregistered
      constructor <;> simp_all
  · refine h.returns hown hrest rfl hk false
      { hal with destroyThread := false, mCallback := none } ?_
      (.mk rfl rfl h.shares.signalled h.shares.socket) ?_ ?_
    · simp [UsbHal.callerStep, hcaller]
    · rw [hblock]
      rcases hpc with hpc | hpc
      · rw [hpc]
        exact .absent hflags
      · rw [hpc]
        exact .exited hflags
    · constructor <;> simp_all [Process.record]

end SetCallback

section Binder

theorem critical_of_not_underLock (ha : a.underLock = false) : critical (.act a :: k) = none := by
  rw [critical, ha]
  rfl

/-- `mLock` is taken by `setCallback` or by another call. -/
theorem enters_cases (ha : a.enters = true) :
    (∃ inCallback, a = .setCallback inCallback) ∨
      a.holder (.binder n) = .other ∧ a.callerPc = .idle := by
  cases a with
  | setCallback inCallback => exact .inl ⟨inCallback, rfl⟩
  | _ => first | (cases ha; done) | exact .inr ⟨rfl, rfl⟩

theorem follows_binder_lock (h : Refines s hal) (hown : Owned discipline s) {l : Mutex}
    (hrest : s.rest (.binder n) = .lock l :: k) (hfree : s.owner l = none) :
    Follows s (.run (.binder n) o) false hal
      { shared := s.shared, owner, rest := Function.update s.rest (.binder n) k, trace } := by
  have hclean : Clean (l = .mLock) k := by
    have hguarded := h.binder n
    rw [hrest] at hguarded
    rcases hguarded with hclean | ⟨_, _, heq, -⟩
    · exact hclean.2
    · cases heq
  have hbefore : critical (s.rest (.binder n)) = none := by
    rw [hrest]
    rfl
  by_cases hl : l = .mLock
  · rw [decide_eq_true hl] at hclean
    obtain ⟨a, k', rfl, henters, hofWorker, hk'⟩ := exists_of_clean_true hclean
    have hunder := underLock_of_enters henters
    obtain ⟨hlock, hcaller⟩ := h.outside hown (hl ▸ hfree)
    have hshares := h.shares
    have hregistered := h.registered
    rcases enters_cases (n := n) henters with ⟨inCallback, rfl⟩ | ⟨hholder, hpc⟩
    · refine ⟨{ hal with mLock := some .caller, caller := .entered inCallback },
        .inr ⟨.setCallback inCallback, by rw [UsbHal.step, if_pos hlock], rfl, trivial⟩,
        h.binderMoves hshares (lockAt_taken (critical_of_underLock hunder) rfl rfl) h.worker
          (.inr ⟨_, k', rfl, hunder, hofWorker, hk'⟩) ?_⟩
      obtain ⟨habsent, hup, -, -⟩ := hregistered
      rw [hcaller] at habsent hup
      constructor <;> simp_all
    · refine ⟨{ hal with mLock := some .other },
        .inr ⟨.otherLocks, by rw [UsbHal.step, if_pos hlock], rfl, trivial⟩,
        h.binderMoves hshares
          (lockAt_taken (critical_of_underLock hunder) (by rw [hholder]) (by rw [hpc, ← hcaller]))
          h.worker (.inr ⟨a, k', rfl, hunder, hofWorker, hk'⟩) hregistered⟩
  · rw [decide_eq_false hl] at hclean
    exact ⟨hal, .inl ⟨rfl, rfl⟩, h.quiet hbefore hclean _ _⟩

theorem follows_binder_act (h : Refines s hal) (hown : Owned discipline s)
    (halive : s.shared.ended = none) (hrest : s.rest (.binder n) = .act a :: k)
    {next : Process × Block} (hperform : Process.perform (.binder n) a o s.shared = some next) :
    Follows s (.run (.binder n) o) false hal
      { shared := next.1, owner
        rest := Function.update s.rest (.binder n) (next.2 ++ k), trace } := by
  obtain ⟨hofWorker, hk⟩ : a.ofWorker = false ∧ Clean false k := by
    have hguarded := h.binder n
    rw [hrest] at hguarded
    exact guarded_act hguarded
  cases hunder : a.underLock with
  | false =>
    obtain ⟨hclean, heq⟩ := perform_quiet hperform hunder hofWorker
    rw [heq]
    exact ⟨hal, .inl ⟨rfl, rfl⟩,
      h.quiet (hrest ▸ critical_of_not_underLock hunder) (hclean.append hk) _ _⟩
  | true =>
    cases a with
    | setCallback inCallback =>
      cases hperform
      exact follows_setCallback h hown hrest hk
    | kill => exact follows_kill h hown hrest hk hperform
    | join =>
      simp only [Process.perform] at hperform
      split at hperform <;> cases hperform
      rename_i hdown
      exact follows_join h hown hrest hk (by simpa using hdown)
    | create =>
      cases hperform
      exact follows_create h hown hrest hk
    | writeUsbData portName enable transactionId =>
      cases hperform
      rw [Process.writeUsbData]
      refine ⟨hal, .inl ⟨rfl, rfl⟩, ?_⟩
      split
      · exact h.stays hown hrest rfl (.ifCallback _) rfl rfl rfl rfl hk _
      · exact h.stays hown hrest rfl (.ifCallback _) rfl rfl rfl rfl hk _
    | queryVersionHelper byWorker =>
      cases byWorker with
      | true => cases hofWorker
      | false =>
        have hunlock : Clean false (.unlock .mLock :: k) := ⟨rfl, hk⟩
        cases hperform
        unfold Process.queryVersionHelper
        split
        · exact h.unlocks hown halive hrest rfl rfl rfl hunlock _ _
        · exact ⟨hal, .inl ⟨rfl, rfl⟩,
            h.stays hown hrest rfl (.ifCallback _) rfl rfl rfl rfl hunlock _⟩
    | ifCallback notification =>
      cases hperform
      rw [Process.ifCallback]
      split
      · exact ⟨hal, .inl ⟨rfl, rfl⟩,
          h.stays hown hrest rfl (.notify notification) rfl rfl rfl rfl hk _⟩
      · exact h.unlocks hown halive hrest rfl rfl rfl hk _ _
    | notify notification =>
      cases hperform
      unfold Process.notify
      split
      · exact h.unlocks hown halive hrest rfl rfl rfl hk _ _
      · exact h.unlocks hown halive hrest rfl rfl rfl hk _ _
    | _ => cases hunder

theorem follows_binder_run (h : Refines s hal) (hown : Owned discipline s)
    (halive : s.shared.ended = none) {s' : Service}
    (hrun : machine.run s (.binder n) o = some s') :
    Follows s (.run (.binder n) o) false hal s' := by
  have hguarded := h.binder n
  unfold Machine.run at hrun
  split at hrun
  · cases hrun
  · rename_i l k hrest
    split at hrun <;> cases hrun
    rename_i hfree
    exact follows_binder_lock h hown hrest (Option.isNone_iff_eq_none.mp hfree)
  · rename_i l k hrest
    cases hrun
    rw [hrest] at hguarded
    rcases hguarded with hclean | ⟨_, _, heq, -⟩
    · exact ⟨hal, .inl ⟨rfl, rfl⟩, h.quiet (by rw [hrest]; rfl) hclean.2 _ _⟩
    · cases heq
  · rename_i l taken k hrest
    rw [hrest] at hguarded
    rcases hguarded with hclean | ⟨_, _, heq, -⟩
    · exact hclean.elim
    · cases heq
  · rename_i a k hrest
    obtain ⟨next, hperform, rfl⟩ := Option.map_eq_some_iff.mp hrun
    exact follows_binder_act h hown halive hrest hperform

end Binder

end Steps

end Exynos9810.Usb.Threads
