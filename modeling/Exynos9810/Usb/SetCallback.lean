import Exynos9810.Library.Transition
import Exynos9810.Usb.Uevent

/-!
# `Usb.cpp`: registering a callback and the worker thread

`setCallback` runs under `mLock` from its first to its last statement, and joins
the worker there.  The worker takes the same lock to query the ports.
-/
namespace Exynos9810.Usb

open Transition

/-- Where the worker is. -/
inductive WorkerPc where
  | absent
  | opening
  /-- At the test of `destroyThread`. -/
  | test
  /-- Behind the test, not yet in the system call. -/
  | enter
  | epollWait
  | recv
  | scan (segments : List (List Char))
  /-- At `pthread_mutex_lock` in `queryVersionHelper`. -/
  | queryLock
  | querying
  | roleSwitch
  | exited
  deriving DecidableEq, Repr

/-- Where the call of `setCallback` is that holds `mLock`. -/
inductive CallerPc where
  | idle
  | entered (inCallback : Option Nat)
  | kill
  | join
  | create
  deriving DecidableEq, Repr

/-- Who holds `mLock`; `other` is any other binder call. -/
inductive Holder where
  | caller
  | worker
  | other
  deriving DecidableEq, Repr

structure UsbHal where
  mCallback : Option Nat
  mLock : Option Holder
  mPartnerUp : Bool
  destroyThread : Bool
  /-- `SIGUSR1` is pending for the worker. -/
  signalled : Bool
  /-- Messages in the uevent socket. -/
  socket : List Uevent
  caller : CallerPc
  worker : WorkerPc
  deriving DecidableEq, Repr

/-- `ok` says whether the system call of a statement succeeds. -/
inductive UsbEvent where
  | setCallback (inCallback : Option Nat)
  | caller (ok : Bool)
  | worker (ok : Bool)
  | signal
  | uevent (msg : Uevent)
  | otherLocks
  | otherUnlocks
  deriving DecidableEq, Repr

namespace UsbHal

def init : UsbHal :=
  { mCallback := none, mLock := none, mPartnerUp := false, destroyThread := false
    signalled := false, socket := [], caller := .idle, worker := .absent }

def unlock (s : UsbHal) : UsbHal :=
  { s with mLock := none, caller := .idle }

/-- The statements of `setCallback` behind the lock.  `pthread_kill` fails only for
a thread that has ended. -/
def callerStep (s : UsbHal) (ok : Bool) : Option UsbHal :=
  match s.caller with
  | .idle => none
  | .entered inCallback =>
    if s.mCallback.isSome = inCallback.isSome then
      some { s with mCallback := inCallback }.unlock
    else
      some { s with
        mCallback := inCallback
        caller := if inCallback.isNone then .kill else .create }
  | .kill =>
    if ok then some { s with signalled := true, caller := .join }
    else if s.worker = .exited then some s.unlock
    else none
  | .join => if s.worker = .exited then some { s with worker := .absent }.unlock else none
  | .create =>
    if ok then
      some { s with destroyThread := false, signalled := false, worker := .opening }.unlock
    else some { s with destroyThread := false, mCallback := none }.unlock

/-- The statements of `work`, `uevent_event` and `queryVersionHelper`. -/
def workerStep (s : UsbHal) (ok : Bool) : Option UsbHal :=
  match s.worker with
  | .absent => none
  | .opening => some { s with worker := if ok then .test else .exited }
  | .test => some { s with worker := if s.destroyThread then .exited else .enter }
  | .enter => some { s with worker := .epollWait }
  | .epollWait =>
    if !ok then some { s with worker := .exited }
    else if s.socket = [] then none
    else some { s with worker := .recv }
  | .recv =>
    match s.socket with
    | [] => some { s with worker := .test }
    | msg :: rest => some { s with socket := rest, worker := .scan (segments msg) }
  | .scan [] => some { s with worker := .test }
  | .scan (segment :: rest) =>
    if isPartnerAdded segment then some { s with mPartnerUp := true, worker := .scan rest }
    else if isPortChange segment then some { s with worker := .queryLock }
    else some { s with worker := .scan rest }
  | .queryLock =>
    if s.mLock = none then some { s with mLock := some .worker, worker := .querying } else none
  | .querying => some { s with mLock := none, worker := .roleSwitch }
  | .roleSwitch => some { s with worker := .test }
  | .exited => none

/-- `sighandler` runs in the worker; `epoll_wait` is not restarted after it. -/
def deliver (s : UsbHal) : Option UsbHal :=
  if !s.signalled || s.worker = .absent || s.worker = .exited then none
  else some { s with
    signalled := false
    destroyThread := true
    worker := if s.worker = .epollWait then .test else s.worker }

def step (s : UsbHal) : UsbEvent → Option UsbHal
  | .setCallback inCallback =>
    if s.mLock = none then
      some { s with mLock := some .caller, caller := .entered inCallback }
    else none
  | .caller ok => s.callerStep ok
  | .worker ok => s.workerStep ok
  | .signal => s.deliver
  | .uevent msg => some { s with socket := s.socket ++ [msg] }
  | .otherLocks => if s.mLock = none then some { s with mLock := some .other } else none
  | .otherUnlocks => if s.mLock = some .other then some { s with mLock := none } else none

end UsbHal

end Exynos9810.Usb
