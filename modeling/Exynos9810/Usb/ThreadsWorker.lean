import Exynos9810.Usb.ThreadsRefinement

/-!
# The worker runs as `UsbHal` has it

With the binder threads this makes every run of the threads one of `UsbHal`.
-/
namespace Exynos9810.Usb.Threads

open LockedThreads Transition

section Steps

variable {s : Service} {hal hal' : UsbHal} {p : Process} {front block k : Block} {a : Act}
  {o : Outcome} {owner : Mutex → Option Tid} {trace : List (Tid × Stmt Mutex Act)}

section Worker

theorem Refines.workerMoves (h : Refines s hal)
    (hlock : LockAt (Function.update s.rest .worker block) hal')
    (hcaller : hal'.caller = hal.caller) (hcallback : hal'.mCallback = hal.mCallback)
    (hshares : Shares p hal') (hworker : WorkerAt p block hal'.worker)
    (hpc : hal'.worker ≠ .absent) (hup : s.shared.workerUp = true) :
    Refines { shared := p, owner, rest := Function.update s.rest .worker block, trace } hal' := by
  have hregistered := h.registered
  refine ⟨hshares, hlock, ?_, ?_, fun habsent => absurd habsent hpc, ?_, ?_, ?_⟩
  · dsimp only
    rw [Function.update_self]
    exact hworker
  · intro m
    dsimp only
    rw [Function.update_of_ne (by simp)]
    exact h.binder m
  · intro _
    rw [hcaller, hcallback]
    exact hregistered.up hup
  · rw [hcaller, hcallback]
    exact hregistered.creating
  · rw [hcaller, hcallback]
    exact hregistered.ending

variable {others : Bool × Bool × Bool} (hflags : s.shared.flags = (true, others))
include hflags

/-- The worker goes on, and `UsbHal` has it where it was. -/
theorem Refines.workerStays {event : Event Tid Outcome Call Environment} (h : Refines s hal)
    (hrest : s.rest .worker = front) (hfront : critical front = none)
    (hblock : critical block = none) (hshares : Shares p hal)
    (hworker : WorkerAt p block hal.worker) :
    Follows s event false hal
      { shared := p, owner, rest := Function.update s.rest .worker block, trace } := by
  have hup : s.shared.workerUp = true := congrArg Prod.fst hflags
  exact ⟨hal, .inl ⟨rfl, rfl⟩, h.workerMoves (h.lock.keep (hrest ▸ hfront) hblock) rfl rfl
    hshares hworker (h.worker.of_up hup).1 hup⟩

/-- The worker goes on, in `UsbHal` too. -/
theorem Refines.workerSteps (h : Refines s hal) (hrest : s.rest .worker = front)
    (hfront : critical front = none) (hblock : critical block = none) (ok : Bool)
    (pc : WorkerPc) (mPartnerUp : Bool)
    (hstep : hal.workerStep ok =
      some { hal with worker := pc, mPartnerUp, socket := p.socket })
    {partner : Bool} (hpartner : addsPartner hal (.worker ok) = partner) (hpc : pc ≠ .absent)
    (hshares : Shares { p with socket := s.shared.socket } hal)
    (hworker : WorkerAt p block pc) :
    Follows s (.run .worker o) partner hal
      { shared := p, owner, rest := Function.update s.rest .worker block, trace } :=
  ⟨_, .inr ⟨.worker ok, hstep, hpartner, trivial⟩, h.workerMoves
    ((h.lock.keep (hrest ▸ hfront) hblock).congr rfl rfl) rfl rfl
    (.mk hshares.mCallback hshares.destroyThread hshares.signalled rfl) hworker hpc
    (congrArg Prod.fst hflags)⟩

/-- The worker goes on under `mLock`. -/
theorem Refines.workerKeeps (h : Refines s hal) (hown : Owned discipline s)
    (hrest : s.rest .worker = .act a :: k) (ha : a.underLock = true) (a' : Act) {k' : Block}
    (hholder : a'.holder .worker = a.holder .worker) (hcaller : a'.callerPc = a.callerPc)
    (ha' : a'.underLock = true) (hworker : WorkerAt s.shared (.act a' :: k') hal.worker) :
    Follows s (.run .worker o) false hal
      { shared := s.shared, owner
        rest := Function.update s.rest .worker (.act a' :: k'), trace } := by
  have hup : s.shared.workerUp = true := congrArg Prod.fst hflags
  obtain ⟨hlock, hpc, -⟩ := h.inside hown hrest ha
  refine ⟨hal, .inl ⟨rfl, rfl⟩, h.workerMoves (lockAt_taken (critical_of_underLock ha') ?_ ?_)
    rfl rfl h.shares hworker (h.worker.of_up hup).1 hup⟩
  · rw [hlock, hholder]
  · rw [hpc, hcaller]

/-- The worker is done with `mLock`. -/
theorem Refines.workerUnlocks (h : Refines s hal) (hown : Owned discipline s)
    (hrest : s.rest .worker = .act a :: k) (ha : a.underLock = true)
    (hpc : hal.worker = .querying) (hblock : critical block = none) (hcaller : a.callerPc = .idle)
    (hshares : Shares p hal) (hworker : WorkerAt p block .roleSwitch) :
    Follows s (.run .worker o) false hal
      { shared := p, owner, rest := Function.update s.rest .worker block, trace } := by
  obtain ⟨-, hidle, hothers⟩ := h.inside hown hrest ha
  refine ⟨{ hal with mLock := none, worker := .roleSwitch }, .inr ⟨.worker true, ?_, ?_, trivial⟩,
    h.workerMoves (lockAt_released hothers hblock rfl ?_) rfl rfl hshares hworker (by simp)
      (congrArg Prod.fst hflags)⟩
  · simp [UsbHal.step, UsbHal.workerStep, hpc]
  · simp [addsPartner, hpc]
  · rw [← hcaller]
    exact hidle

end Worker

section WorkerRun

/-- The worker is about to set `mPartnerUp`. -/
def atPartnerUp : Block → Bool
  | .act .partnerUp :: _ => true
  | _ => false

variable {s' : Service} (h : Refines s hal) (hown : Owned discipline s)
  (hflags : s.shared.flags = (true, false, false, false))
  (hrun : machine.run s .worker o = some s')
include h hflags hrun

theorem follows_opening (hrest : s.rest .worker = [.act .openSocket])
    (hpc : hal.worker = .opening) : Follows s (.run .worker o) false hal s' := by
  obtain ⟨next, hperform, rfl⟩ := Machine.run_act hrest hrun
  cases hperform
  dsimp only
  split
  · refine h.workerSteps hflags hrest rfl rfl true .test hal.mPartnerUp ?_ ?_ (by simp) h.shares
      (.running hflags .test)
    · simp [UsbHal.workerStep, hpc, ← h.shares.socket]
    · simp [addsPartner, hpc]
  · refine h.workerStays hflags hrest rfl rfl h.shares ?_
    rw [hpc]
    exact .running hflags .exitUnopened

theorem follows_test (hrest : s.rest .worker = [.act .test]) (hpc : hal.worker = .test) :
    Follows s (.run .worker o) false hal s' := by
  obtain ⟨next, hperform, rfl⟩ := Machine.run_act hrest hrun
  cases hperform
  dsimp only
  split
  · rename_i hdestroy
    refine h.workerStays hflags hrest rfl rfl h.shares ?_
    rw [hpc]
    exact .running hflags (.exitTold hdestroy)
  · rename_i hdestroy
    refine h.workerSteps hflags hrest rfl rfl true .enter hal.mPartnerUp ?_ ?_ (by simp) h.shares
      (.running hflags .enter)
    · simp [UsbHal.workerStep, hpc, h.shares.destroyThread, hdestroy, ← h.shares.socket]
    · simp [addsPartner, hpc]

theorem follows_enter (hrest : s.rest .worker = [.act .enter]) (hpc : hal.worker = .enter) :
    Follows s (.run .worker o) false hal s' := by
  obtain ⟨next, hperform, rfl⟩ := Machine.run_act hrest hrun
  cases hperform
  refine h.workerSteps hflags hrest rfl rfl true .epollWait hal.mPartnerUp ?_ ?_ (by simp)
    h.shares (.epollWait ?_)
  · simp [UsbHal.workerStep, hpc, ← h.shares.socket]
  · simp [addsPartner, hpc]
  · simp only [Process.flags, Prod.mk.injEq] at hflags ⊢
    exact ⟨hflags.1, hflags.2.1, trivial, hflags.2.2.2⟩

theorem follows_recv (hrest : s.rest .worker = [.act .recv]) (hpc : hal.worker = .recv) :
    Follows s (.run .worker o) false hal s' := by
  have hpartner : addsPartner hal (.worker true) = false := by simp [addsPartner, hpc]
  have hsocket := h.shares.socket
  obtain ⟨next, hperform, rfl⟩ := Machine.run_act hrest hrun
  cases hperform
  unfold Process.recv
  split
  · rename_i hnil
    refine h.workerSteps hflags hrest rfl rfl true .test hal.mPartnerUp ?_ hpartner (by simp)
      h.shares (.running hflags .test)
    simp [UsbHal.workerStep, hpc, hsocket, hnil]
  · rename_i msg rest hcons
    refine h.workerSteps hflags hrest rfl rfl true (.scan (segments msg)) hal.mPartnerUp ?_
      hpartner (by simp) h.shares (.running hflags (.scan _))
    simp [UsbHal.workerStep, hpc, hsocket, hcons]

theorem follows_scan {segments : List (List Char)}
    (hrest : s.rest .worker = [.act (.scan segments)])
    (hpc : hal.worker = .scan segments) : Follows s (.run .worker o) false hal s' := by
  have hsocket := h.shares.socket
  obtain ⟨next, hperform, rfl⟩ := Machine.run_act hrest hrun
  cases hperform
  cases segments with
  | nil =>
    refine h.workerSteps hflags hrest rfl rfl true .test hal.mPartnerUp ?_ ?_ (by simp) h.shares
      (.running hflags .test)
    · simp [UsbHal.workerStep, hpc, ← hsocket]
    · simp [addsPartner, hpc]
  | cons segment rest =>
    unfold Process.scan
    dsimp only
    split_ifs with hpartner hchange
    · refine h.workerStays hflags hrest rfl rfl h.shares ?_
      rw [hpc]
      exact .running hflags (.partnerLock rest hpartner)
    · refine h.workerSteps hflags hrest rfl rfl true .queryLock hal.mPartnerUp ?_ ?_ (by simp)
        h.shares (.running hflags .queryLock)
      · simp [UsbHal.workerStep, hpc, hpartner, hchange, ← hsocket]
      · simp [addsPartner, hpc, hpartner]
    · refine h.workerSteps hflags hrest rfl rfl true (.scan rest) hal.mPartnerUp ?_ ?_ (by simp)
        h.shares (.running hflags (.scan rest))
      · simp [UsbHal.workerStep, hpc, hpartner, hchange, ← hsocket]
      · simp [addsPartner, hpc, hpartner]

/-- The statements around `mPartnerUp = true` are one step of `UsbHal`. -/
theorem follows_partnerUp {segment : List Char} {rest : List (List Char)}
    (hrest : s.rest .worker = [.act .partnerUp, .unlock .mPartnerLock, .act (.scan rest)])
    (hpc : hal.worker = .scan (segment :: rest)) (hpartner : isPartnerAdded segment) :
    Follows s (.run .worker o) true hal s' := by
  obtain ⟨next, hperform, rfl⟩ := Machine.run_act hrest hrun
  cases hperform
  refine h.workerSteps hflags hrest rfl rfl true (.scan rest) true ?_ ?_ (by simp) h.shares
    (.running hflags (.partnerUnlock rest))
  · simp [UsbHal.workerStep, hpc, hpartner, ← h.shares.socket]
  · simp [addsPartner, hpc, hpartner]

include hown

theorem follows_queryLock (hrest : s.rest .worker = queryVersionHelper true)
    (hpc : hal.worker = .queryLock) : Follows s (.run .worker o) false hal s' := by
  obtain ⟨hfree, rfl⟩ := Machine.run_lock hrest hrun
  obtain ⟨hlock, hcaller⟩ := h.outside hown hfree
  refine ⟨{ hal with mLock := some .worker, worker := .querying },
    .inr ⟨.worker true, ?_, ?_, trivial⟩,
    h.workerMoves (lockAt_taken rfl rfl hcaller) rfl rfl h.shares (.running hflags .querying)
      (by simp) (congrArg Prod.fst hflags)⟩
  · simp [UsbHal.step, UsbHal.workerStep, hpc, hlock]
  · simp [addsPartner, hpc]

theorem follows_querying (hrest : s.rest .worker = [.act (.queryVersionHelper true)])
    (hpc : hal.worker = .querying) : Follows s (.run .worker o) false hal s' := by
  obtain ⟨next, hperform, rfl⟩ := Machine.run_act hrest hrun
  cases hperform
  unfold Process.queryVersionHelper
  split
  · exact h.workerUnlocks hflags hown hrest rfl hpc rfl rfl h.shares
      (.faulted hflags (by simp))
  · refine h.workerKeeps hflags hown hrest rfl (.ifCallback _) rfl rfl rfl ?_
    rw [hpc]
    exact .running hflags (.ifCallback _ _)

theorem follows_ifCallback {notification : Notification} {portNames : List Text}
    (hrest : s.rest .worker = .act (.ifCallback notification) :: queryEnd portNames)
    (hpc : hal.worker = .querying) : Follows s (.run .worker o) false hal s' := by
  obtain ⟨next, hperform, rfl⟩ := Machine.run_act hrest hrun
  cases hperform
  rw [Process.ifCallback]
  split
  · refine h.workerKeeps hflags hown hrest rfl (.notify notification) rfl rfl rfl ?_
    rw [hpc]
    exact .running hflags (.notify notification portNames)
  · exact h.workerUnlocks hflags hown hrest rfl hpc rfl rfl h.shares
      (.running hflags (.queried portNames))

theorem follows_notify {notification : Notification} {portNames : List Text}
    (hrest : s.rest .worker = .act (.notify notification) :: queryEnd portNames)
    (hpc : hal.worker = .querying) : Follows s (.run .worker o) false hal s' := by
  obtain ⟨next, hperform, rfl⟩ := Machine.run_act hrest hrun
  cases hperform
  unfold Process.notify
  split <;>
    exact h.workerUnlocks hflags hown hrest rfl hpc rfl rfl h.shares
      (.running hflags (.queried portNames))

omit hown

omit hrun in
theorem follows_roleSwitch_test (hpc : hal.worker = .roleSwitch)
    (hrest : s.rest .worker = front) (hfront : critical front = none)
    {owner : Mutex → Option Tid} {trace : List (Tid × Stmt Mutex Act)} :
    Follows s (.run .worker o) false hal
      { shared := s.shared, owner
        rest := Function.update s.rest .worker [.act .test], trace } := by
  refine h.workerSteps hflags hrest hfront rfl true .test hal.mPartnerUp ?_ ?_ (by simp) h.shares
    (.running hflags .test)
  · simp [UsbHal.workerStep, hpc, ← h.shares.socket]
  · simp [addsPartner, hpc]

theorem follows_drpLoop {portNames : List Text}
    (hrest : s.rest .worker = [.act (.drpLoop portNames), .act .test])
    (hpc : hal.worker = .roleSwitch) : Follows s (.run .worker o) false hal s' := by
  obtain ⟨next, hperform, rfl⟩ := Machine.run_act hrest hrun
  cases hperform
  cases portNames with
  | nil =>
    refine h.workerStays hflags hrest rfl rfl h.shares ?_
    rw [hpc]
    exact .running hflags .drpDone
  | cons portName rest =>
    rw [Process.drpLoop]
    dsimp only
    split
    · refine h.workerStays hflags hrest rfl rfl h.shares ?_
      rw [hpc]
      exact .running hflags (.drpLoop rest)
    · refine h.workerStays hflags hrest rfl rfl h.shares ?_
      rw [hpc]
      exact .running hflags (.drpLoop rest)

/-- The worker ends where `UsbHal` has it, with a failure or at the test. -/
theorem follows_exit (hrest : s.rest .worker = [.act .exit]) (ok : Bool)
    (hstep : hal.workerStep ok = some { hal with worker := .exited })
    (hpartner : addsPartner hal (.worker ok) = false) :
    Follows s (.run .worker o) false hal s' := by
  obtain ⟨next, hperform, rfl⟩ := Machine.run_act hrest hrun
  cases hperform
  refine h.workerSteps hflags hrest rfl rfl ok .exited hal.mPartnerUp ?_ hpartner (by simp)
    h.shares (.exited ?_)
  · rw [hstep, ← h.shares.socket]
  · simp only [Process.flags, Prod.mk.injEq] at hflags ⊢
    exact ⟨trivial, hflags.2⟩

include hown

theorem follows_running (hrunning : Running s.shared.destroyThread (s.rest .worker) hal.worker) :
    Follows s (.run .worker o) (atPartnerUp (s.rest .worker)) hal s' := by
  generalize hrest : s.rest .worker = block at hrunning
  generalize hpc : hal.worker = pc at hrunning
  -- A statement about a mutex other than `mLock`, or one that `UsbHal` does not have.
  have hstays {front block : Block} {owner : Mutex → Option Tid}
      {trace : List (Tid × Stmt Mutex Act)} (hrest : s.rest .worker = front)
      (hfront : critical front = none) (hblock : critical block = none)
      (hrunning : Running s.shared.destroyThread block pc) :
      Follows s (.run .worker o) false hal
        { shared := s.shared, owner, rest := Function.update s.rest .worker block, trace } :=
    h.workerStays hflags hrest hfront hblock h.shares (hpc ▸ .running hflags hrunning)
  cases hrunning with
  | opening => exact follows_opening h hflags hrun hrest hpc
  | test => exact follows_test h hflags hrun hrest hpc
  | enter => exact follows_enter h hflags hrun hrest hpc
  | recv => exact follows_recv h hflags hrun hrest hpc
  | scan segments => exact follows_scan h hflags hrun hrest hpc
  | partnerLock rest hpartner =>
    obtain ⟨-, rfl⟩ := Machine.run_lock hrest hrun
    exact hstays hrest rfl rfl (.partnerUp rest hpartner)
  | partnerUp rest hpartner => exact follows_partnerUp h hflags hrun hrest hpc hpartner
  | partnerUnlock rest =>
    rw [Machine.run_unlock hrest hrun]
    exact hstays hrest rfl rfl (.scan rest)
  | queryLock => exact follows_queryLock h hown hflags hrun hrest hpc
  | querying => exact follows_querying h hown hflags hrun hrest hpc
  | ifCallback => exact follows_ifCallback h hown hflags hrun hrest hpc
  | notify => exact follows_notify h hown hflags hrun hrest hpc
  | queried portNames =>
    rw [Machine.run_unlock hrest hrun]
    exact hstays hrest rfl rfl (.tryLock portNames)
  | tryLock portNames =>
    rcases Machine.run_tryLock hrest hrun with rfl | rfl
    · exact hstays hrest rfl rfl (.drpLoop portNames)
    · exact follows_roleSwitch_test h hflags hpc hrest rfl
  | drpLoop portNames => exact follows_drpLoop h hflags hrun hrest hpc
  | drpDone =>
    rw [Machine.run_unlock hrest hrun]
    exact follows_roleSwitch_test h hflags hpc hrest rfl
  | exitUnopened =>
    exact follows_exit h hflags hrun hrest false (by simp [UsbHal.workerStep, hpc])
      (by simp [addsPartner, hpc])
  | exitFailed =>
    exact follows_exit h hflags hrun hrest false (by simp [UsbHal.workerStep, hpc])
      (by simp [addsPartner, hpc])
  | exitTold hdestroy =>
    exact follows_exit h hflags hrun hrest true
      (by simp [UsbHal.workerStep, hpc, h.shares.destroyThread, hdestroy])
      (by simp [addsPartner, hpc])

end WorkerRun

theorem follows_worker_run (h : Refines s hal) (hown : Owned discipline s)
    (halive : s.shared.ended = none) {s' : Service} (hrun : machine.run s .worker o = some s') :
    Follows s (.run .worker o) (atPartnerUp (s.rest .worker)) hal s' := by
  have hworker := h.worker
  have hsocket := h.shares.socket
  generalize hrest : s.rest .worker = block at hworker
  generalize hpc : hal.worker = pc at hworker
  cases hworker with
  | absent | exited | spawned =>
    rw [Machine.run, hrest] at hrun
    cases hrun
  | epollWait hflags =>
    obtain ⟨next, hperform, rfl⟩ := Machine.run_act hrest hrun
    have hup := hflags
    simp only [Process.flags, Prod.mk.injEq] at hup
    simp only [machine, Process.perform, Process.epollWait, hup.2.2.2, Bool.false_eq_true,
      if_false] at hperform
    split_ifs at hperform with hok hnil <;> cases hperform
    · refine h.workerStays hflags hrest rfl rfl h.shares ?_
      rw [hpc]
      exact .running (by simp [Process.flags, hup]) .exitFailed
    · refine h.workerSteps hflags hrest rfl rfl true .recv hal.mPartnerUp ?_ ?_ (by simp)
        h.shares (.running (by simp [Process.flags, hup]) .recv)
      · simp [UsbHal.workerStep, hpc, hsocket, hnil]
      · simp [addsPartner, hpc, atPartnerUp]
  | woken hflags =>
    obtain ⟨next, hperform, rfl⟩ := Machine.run_act hrest hrun
    have hup := hflags
    simp only [Process.flags, Prod.mk.injEq] at hup
    simp only [machine, Process.perform, Process.epollWait, hup.2.2.2, if_true] at hperform
    cases hperform
    refine h.workerStays hflags hrest rfl rfl h.shares ?_
    rw [hpc]
    exact .running (by simp [Process.flags, hup]) .test
  | faulted _ hended => exact absurd halive hended
  | running hflags hrunning =>
    rw [← hrest]
    rw [← hrest, ← hpc] at hrunning
    exact follows_running h hown hflags hrun hrunning

section Environment

theorem workerAt_signal {pc : WorkerPc} (h : WorkerAt p block pc) (hup : p.workerUp = true) :
    WorkerAt { p with signalled := false, destroyThread := true, interrupted := p.polling } block
      (if pc = .epollWait then .test else pc) := by
  have hdown := h.of_up hup
  cases h with
  | absent => exact absurd rfl hdown.1
  | exited => exact absurd rfl hdown.2
  | spawned hflags =>
    simp only [Process.flags, Prod.mk.injEq] at hflags
    exact .spawned (by simp [Process.flags, hflags])
  | epollWait hflags =>
    simp only [Process.flags, Prod.mk.injEq] at hflags
    exact .woken (by simp [Process.flags, hflags])
  | woken hflags =>
    simp only [Process.flags, Prod.mk.injEq] at hflags
    exact .woken (by simp [Process.flags, hflags])
  | faulted hflags hended =>
    simp only [Process.flags, Prod.mk.injEq] at hflags
    exact .faulted (by simp [Process.flags, hflags]) hended
  | running hflags hrunning =>
    simp only [Process.flags, Prod.mk.injEq] at hflags
    refine .running (by simp [Process.flags, hflags]) ?_
    cases hrunning with
    | exitFailed => exact .exitTold rfl
    | exitTold => exact .exitTold rfl
    | _ => constructor <;> assumption

theorem follows_environment (h : Refines s hal) {e : Environment}
    (henvironment : Process.environment e s.shared = some p) :
    Follows s (.environment e) false hal { s with shared := p } := by
  have hregistered := h.registered
  cases e with
  | uevent msg =>
    cases henvironment
    refine ⟨{ hal with socket := hal.socket ++ [msg] }, .inr ⟨.uevent msg, rfl, rfl, trivial⟩,
      (.mk h.shares.mCallback h.shares.destroyThread h.shares.signalled ?_), h.lock,
      h.worker.congr rfl rfl id, h.binder, hregistered⟩
    rw [h.shares.socket]
  | signal =>
    simp only [Process.environment] at henvironment
    split at henvironment <;> cases henvironment
    rename_i hsignal
    obtain ⟨hsignalled, hup⟩ := Bool.and_eq_true_iff.mp hsignal
    obtain ⟨habsent, hexited⟩ := h.worker.of_up hup
    have hpc : (if hal.worker = .epollWait then WorkerPc.test else hal.worker) ≠ .absent := by
      split
      · simp
      · exact habsent
    refine ⟨{ hal with
        signalled := false, destroyThread := true
        worker := if hal.worker = .epollWait then .test else hal.worker },
      .inr ⟨.signal, ?_, rfl, trivial⟩, (.mk h.shares.mCallback rfl rfl h.shares.socket), h.lock,
      workerAt_signal h.worker hup, h.binder,
      ⟨fun heq => absurd heq hpc, hregistered.up, hregistered.creating, hregistered.ending⟩⟩
    simp only [UsbHal.step, UsbHal.deliver]
    rw [if_neg (by simp [h.shares.signalled, hsignalled, habsent, hexited])]

theorem follows_call (h : Refines s hal) {t : Tid} {c : Call} (hidle : s.rest t = [])
    {next : Process × Block} (hcall : Process.call t c s.shared = some next) :
    Follows s (.call t c) false hal
      { s with shared := next.1, rest := Function.update s.rest t next.2 } := by
  rcases call_cases hcall with ⟨rfl, -, hspawned, rfl⟩ | ⟨n, rfl, hc, rfl⟩
  · have hworker := h.worker
    generalize hrest : s.rest .worker = block at hworker
    generalize hpc : hal.worker = pc at hworker
    rw [hidle] at hrest
    subst hrest
    obtain ⟨hflags, rfl⟩ : s.shared.flags = (true, true, false, false) ∧ pc = .opening := by
      cases hworker with
      | absent hflags | exited hflags => simp_all [Process.flags]
      | spawned hflags => exact ⟨hflags, rfl⟩
      | running _ hrunning => cases hrunning
    refine h.workerStays hflags hidle rfl rfl h.shares ?_
    simp only [Process.flags, Prod.mk.injEq] at hflags
    rw [hpc]
    exact .running (by simp [Process.flags, hflags]) .opening
  · exact ⟨hal, .inl ⟨rfl, rfl⟩, h.quiet (by rw [hidle]; rfl) (clean_body hc) _ _⟩

end Environment

/-- The step sets `mPartnerUp`. -/
def setsPartnerUp (s : Service) : Event Tid Outcome Call Environment → Bool
  | .run .worker _ => atPartnerUp (s.rest .worker)
  | _ => false

theorem follows_step (h : Refines s hal) (hown : Owned discipline s) {s' : Service}
    {event : Event Tid Outcome Call Environment} (hstep : machine.step s event = some s') :
    Follows s event (setsPartnerUp s event) hal s' := by
  cases event with
  | run t o =>
    simp only [Machine.step] at hstep
    split at hstep
    · rename_i halive
      have halive' : s.shared.ended = none := Option.isNone_iff_eq_none.mp halive
      cases t with
      | worker => exact follows_worker_run h hown halive' hstep
      | binder n => exact follows_binder_run h hown halive' hstep
    · cases hstep
  | call t c =>
    simp only [Machine.step] at hstep
    split at hstep
    · rename_i hidle
      have hrest : s.rest t = [] := by simp_all
      obtain ⟨next, hcall, rfl⟩ := Option.map_eq_some_iff.mp hstep
      exact follows_call h hrest hcall
    · cases hstep
  | environment e =>
    obtain ⟨shared, henvironment, rfl⟩ := Option.map_eq_some_iff.mp hstep
    exact follows_environment h henvironment

theorem refines_init : Refines Service.init UsbHal.init where
  shares := rfl
  lock := .inr ⟨fun _ => rfl, rfl, rfl⟩
  worker := .absent rfl
  binder := fun _ => .inl rfl
  registered := by constructor <;> simp [UsbHal.init, Service.init, State.start, Process.init]

theorem refined_of_reach {allowed : Service → Event Tid Outcome Call Environment → Prop}
    {allowed' : UsbHal → UsbEvent → Prop}
    (hallowed : ∀ s hal event e, Refines s hal → Owned discipline s → allowed s event →
      Makes s hal event e → allowed' hal e)
    (hreach : Reach machine.step allowed Service.init s) :
    ∃ hal, Reach UsbHal.step allowed' UsbHal.init hal ∧ Owned discipline s ∧ Refines s hal := by
  refine hreach.simulated (fun s hal => Owned discipline s ∧ Refines s hal)
    ⟨owned_start _, refines_init⟩ ?_
  intro s event s' hal ⟨hown, h⟩ hevent hstep
  obtain ⟨hal', hmoves, h'⟩ := follows_step h hown hstep
  refine ⟨hal', ?_, owned_step sound hown hstep, h'⟩
  rcases hmoves with ⟨-, rfl⟩ | ⟨e, he, -, hmakes⟩
  · exact .start
  · exact .single e (hallowed s hal event e h hown hevent hmakes) he

end Steps

/-- **Refinement.**  Whatever the threads do, `UsbHal` can do too. -/
theorem threads_refine_usbHal (s : Service) (hreach : Reach machine.step Free Service.init s) :
    ∃ hal, Reach UsbHal.step Free UsbHal.init hal ∧ Refines s hal := by
  obtain ⟨hal, hrun, -, h⟩ :=
    refined_of_reach (fun _ _ _ _ _ _ _ _ => trivial) hreach
  exact ⟨hal, hrun, h⟩

/-- The worker has `mLock` while a call of `setCallback` waits for it. -/
theorem threads_refine_usbHal_querying :
    ∃ s, exec machine.step Free Service.init
        [.call (.binder 0) (.setCallback (some 5)), .run (.binder 0) {}, .run (.binder 0) {},
          .run (.binder 0) {}, .run (.binder 0) {}, .call .worker .work, .run .worker {},
          .run .worker {}, .run .worker {}, .environment (.uevent "CCIC=DRY".toList),
          .run .worker {}, .run .worker {}, .run .worker {}, .run .worker {},
          .call (.binder 1) (.setCallback none)] = some s ∧
      s.rest .worker = [.act (.queryVersionHelper true)] ∧
      (s.rest (.binder 1)).head? = some (.lock .mLock) ∧
      ∃ hal, Reach UsbHal.step Free UsbHal.init hal ∧ Refines s hal := by
  refine ⟨_, rfl, rfl, rfl, ?_⟩
  exact threads_refine_usbHal _ (reach_of_exec
    [.call (.binder 0) (.setCallback (some 5)), .run (.binder 0) {}, .run (.binder 0) {},
      .run (.binder 0) {}, .run (.binder 0) {}, .call .worker .work, .run .worker {},
      .run .worker {}, .run .worker {}, .environment (.uevent "CCIC=DRY".toList),
      .run .worker {}, .run .worker {}, .run .worker {}, .run .worker {},
      .call (.binder 1) (.setCallback none)] rfl)

end Exynos9810.Usb.Threads
