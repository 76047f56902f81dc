import Mathlib.Data.List.Induction

/-!
# `BiometricsFingerprint.cpp`: the fingerprint service in front of `libbauthserver.so`

The service calls the vendor library through pointers that `openHal` fills in, and the
library reports back through `notify`, which tells the client or types keys.  What the
library, the kernel and the file system answer are parameters.  `setNotify` and `notify`
hold one mutex from start to end, so that they are steps of their own.
-/
namespace Exynos9810.Fingerprint

/-- The flags of `Android.mk`. -/
structure Flags where
  callNotifyOnCancel : Bool
  usesPercentageSamples : Bool
  callCancelOnEnrollCompletion : Bool
  hasFingerprintGestures : Bool
  requestForceCalibrate : Bool
  deriving DecidableEq, Repr

/-- The flags of `BoardConfigCommon.mk`. -/
def boardFlags : Flags :=
  { callNotifyOnCancel := false
    usesPercentageSamples := false
    callCancelOnEnrollCompletion := false
    hasFingerprintGestures := true
    requestForceCalibrate := false }

section Filters

inductive RequestStatus where
  | sysUnknown
  | sysOk
  | sysEnoent
  | sysEintr
  | sysEio
  | sysEagain
  | sysEnomem
  | sysEacces
  | sysEfault
  | sysEbusy
  | sysEinval
  | sysEnospc
  | sysEtimedout
  deriving DecidableEq, Repr

def errorFilter (error : Int) : RequestStatus :=
  match error with
  | 0 => .sysOk
  | -2 => .sysEnoent
  | -4 => .sysEintr
  | -5 => .sysEio
  | -11 => .sysEagain
  | -12 => .sysEnomem
  | -13 => .sysEacces
  | -14 => .sysEfault
  | -16 => .sysEbusy
  | -22 => .sysEinval
  | -28 => .sysEnospc
  | -110 => .sysEtimedout
  | _ => .sysUnknown

inductive FingerprintError where
  | errorHwUnavailable
  | errorUnableToProcess
  | errorTimeout
  | errorNoSpace
  | errorCanceled
  | errorUnableToRemove
  | errorLockout
  | errorVendor
  deriving DecidableEq, Repr

def fingerprintErrorCanceled : Int := 5
def fingerprintErrorVendorBase : Int := 1000

def vendorErrorFilter (error : Int) : FingerprintError × Int :=
  match error with
  | 1 => (.errorHwUnavailable, 0)
  | 2 => (.errorUnableToProcess, 0)
  | 3 => (.errorTimeout, 0)
  | 4 => (.errorNoSpace, 0)
  | 5 => (.errorCanceled, 0)
  | 6 => (.errorUnableToRemove, 0)
  | 7 => (.errorLockout, 0)
  | _ =>
    if fingerprintErrorVendorBase ≤ error then
      (.errorVendor, error - fingerprintErrorVendorBase)
    else (.errorUnableToProcess, 0)

inductive FingerprintAcquiredInfo where
  | acquiredGood
  | acquiredPartial
  | acquiredInsufficient
  | acquiredImagerDirty
  | acquiredTooSlow
  | acquiredTooFast
  | acquiredVendor
  deriving DecidableEq, Repr

def fingerprintAcquiredVendorBase : Int := 1000

def vendorAcquiredFilter (info : Int) : FingerprintAcquiredInfo × Int :=
  match info with
  | 0 => (.acquiredGood, 0)
  | 1 => (.acquiredPartial, 0)
  | 2 => (.acquiredInsufficient, 0)
  | 3 => (.acquiredImagerDirty, 0)
  | 4 => (.acquiredTooSlow, 0)
  | 5 => (.acquiredTooFast, 0)
  | _ =>
    if fingerprintAcquiredVendorBase ≤ info then
      (.acquiredVendor, info - fingerprintAcquiredVendorBase)
    else (.acquiredInsufficient, 0)

end Filters

section Messages

structure FingerId where
  gid : UInt32
  fid : UInt32
  deriving DecidableEq, Repr

/-- The bytes of a `hw_auth_token_t`. -/
structure AuthToken where
  bytes : List UInt8
  size : bytes.length = 69

/-- `fingerprint_msg_t`.  The codes of `acquired` are an enumeration that is promoted to
`int` where it is compared or passed on.  `other` is a type that no case names. -/
inductive Message where
  | error (error : Int)
  | acquired (acquiredInfo : Int)
  | enrolling (finger : FingerId) (samplesRemaining : UInt32)
  | removed (finger : FingerId) (remainingTemplates : UInt32)
  | authenticated (finger : FingerId) (hat : AuthToken)
  | enumerating (finger : FingerId) (remainingTemplates : UInt32)
  | other (type : Int)

/-- The calls of `IBiometricsFingerprintClientCallback`. -/
inductive Report where
  | onError (devId : Nat) (error : FingerprintError) (vendorCode : Int)
  | onAcquired (devId : Nat) (info : FingerprintAcquiredInfo) (vendorCode : Int)
  | onEnrollResult (devId : Nat) (finger : FingerId) (remaining : UInt32)
  | onRemoved (devId : Nat) (finger : FingerId) (remaining : UInt32)
  | onAuthenticated (devId : Nat) (finger : FingerId) (token : List UInt8)
  | onEnumerate (devId : Nat) (finger : FingerId) (remaining : UInt32)
  deriving DecidableEq, Repr

def devId : Nat := 1

def semFingerprintEventBase : Int := 10000
def semFingerprintEventGestureSwipeUp : Int := 20001
def semFingerprintEventGestureSwipeDown : Int := 20002

def samplesRemaining (flags : Flags) (samples : UInt32) : UInt32 :=
  if flags.usesPercentageSamples then 100 - samples else samples

/-- What the switch of `notify` tells the client. -/
def report (flags : Flags) (msg : Message) : Option Report :=
  match msg with
  | .error error => some (.onError devId (vendorErrorFilter error).1 (vendorErrorFilter error).2)
  | .acquired info =>
    if semFingerprintEventBase < info then none
    else some (.onAcquired devId (vendorAcquiredFilter info).1 (vendorAcquiredFilter info).2)
  | .enrolling finger samples =>
    some (.onEnrollResult devId finger (samplesRemaining flags samples))
  | .removed finger remaining => some (.onRemoved devId finger remaining)
  | .authenticated finger hat =>
    some (.onAuthenticated devId finger (if finger.fid ≠ 0 then hat.bytes else []))
  | .enumerating finger remaining => some (.onEnumerate devId finger remaining)
  | .other _ => none

end Messages

section Library

/-- The functions that `openHal` looks up. -/
inductive Symbol where
  | ssFingerprintClose
  | ssFingerprintOpen
  | ssSetNotifyCallback
  | ssFingerprintPreEnroll
  | ssFingerprintEnroll
  | ssFingerprintPostEnroll
  | ssFingerprintGetAuthId
  | ssFingerprintCancel
  | ssFingerprintEnumerate
  | ssFingerprintRemove
  | ssFingerprintSetActiveGroup
  | ssFingerprintAuthenticate
  | ssFingerprintRequest
  deriving DecidableEq, Repr

/-- A function pointer of the service.  The constructor initialises none of them. -/
inductive Pointer where
  | indeterminate
  | null
  | function
  deriving DecidableEq, Repr

/-- A call of the library with its arguments. -/
inductive VendorCall where
  | openLibrary
  | setNotifyCallback
  | preEnroll
  | enroll (hat : List UInt8) (gid timeoutSec : UInt32)
  | postEnroll
  | getAuthId
  | cancel
  | enumerate
  | remove (gid fid : UInt32)
  | setActiveGroup (gid : UInt32) (storePath : List UInt8)
  | authenticate (operationId : UInt64) (gid : UInt32)
  | request (cmd param : Int)
  deriving DecidableEq, Repr

def VendorCall.symbol : VendorCall → Symbol
  | .openLibrary => .ssFingerprintOpen
  | .setNotifyCallback => .ssSetNotifyCallback
  | .preEnroll => .ssFingerprintPreEnroll
  | .enroll .. => .ssFingerprintEnroll
  | .postEnroll => .ssFingerprintPostEnroll
  | .getAuthId => .ssFingerprintGetAuthId
  | .cancel => .ssFingerprintCancel
  | .enumerate => .ssFingerprintEnumerate
  | .remove .. => .ssFingerprintRemove
  | .setActiveGroup .. => .ssFingerprintSetActiveGroup
  | .authenticate .. => .ssFingerprintAuthenticate
  | .request .. => .ssFingerprintRequest

def fingerprintRequestNavigationModeStart : Int := 15
def semRequestForceCbge : Int := 21

/-- What the constructor meets: the exports of `libbauthserver.so` if it can be loaded,
the results of the calls, and whether the file `position` is there. -/
structure Boot where
  libbauthserver : Option (Symbol → Bool)
  openResult : Int
  setNotifyResult : Int
  position : Bool
  uinputFd : Int
  setEvbit : Int32
  setKeybitUp : Int32
  setKeybitDown : Int32
  writeResult : Int
  createResult : Int

/-- An event as it is written to `/dev/uinput`. -/
inductive InputEvent where
  | key (code value : Nat)
  | synReport
  deriving DecidableEq, Repr

/-- The service.  `created` tells whether the kernel has made the input device; `called`,
`told` and `written` record what the library, the clients and the device have got. -/
structure BiometricsFingerprint where
  mClientCallback : Option Nat := none
  mIsUdfps : Bool := false
  pointers : Symbol → Pointer := fun _ => .indeterminate
  created : Bool := false
  called : List VendorCall := []
  told : List (Nat × Report) := []
  written : List InputEvent := []

inductive Fault where
  | nullCall (symbol : Symbol)
  | indeterminate (symbol : Symbol)
  deriving DecidableEq, Repr

end Library

namespace BiometricsFingerprint

section Constructor

def call (s : BiometricsFingerprint) (c : VendorCall) : Except Fault BiometricsFingerprint :=
  match s.pointers c.symbol with
  | .indeterminate => .error (.indeterminate c.symbol)
  | .null => .error (.nullCall c.symbol)
  | .function => .ok { s with called := s.called ++ [c] }

def openHal (boot : Boot) (s : BiometricsFingerprint) :
    Except Fault (BiometricsFingerprint × Bool) :=
  match boot.libbauthserver with
  | none => .ok (s, false)
  | some exported => do
    let s := { s with pointers := fun symbol => if exported symbol then .function else .null }
    let s ← s.call .openLibrary
    if boot.openResult ≠ 0 then
      return (s, false)
    let s ← s.call .setNotifyCallback
    return (s, boot.setNotifyResult == 0)

/-- From `open("/dev/uinput")` on: each step that fails ends the constructor. -/
def createsDevice (boot : Boot) : Bool :=
  0 ≤ boot.uinputFd && (boot.setEvbit ||| boot.setKeybitUp ||| boot.setKeybitDown) == 0 &&
    0 ≤ boot.writeResult && 0 ≤ boot.createResult

/-- The constructor.  It goes on when `openHal` fails. -/
def construct (flags : Flags) (boot : Boot) : Except Fault BiometricsFingerprint := do
  let (s, _) ← openHal boot {}
  let s := { s with mIsUdfps := boot.position }
  if flags.hasFingerprintGestures then
    let s ← s.call (.request fingerprintRequestNavigationModeStart 1)
    return { s with created := createsDevice boot }
  else return s

end Constructor

section Notify

def keyUp : Nat := 103
def keyDown : Nat := 108

/-- The cases of `handleEvent`. -/
def gestureKey (flags : Flags) (eventCode : Int) : Option Nat :=
  if flags.hasFingerprintGestures then
    if eventCode = semFingerprintEventGestureSwipeUp then some keyUp
    else if eventCode = semFingerprintEventGestureSwipeDown then some keyDown
    else none
  else none

/-- What is written before the first write that fails. -/
def writeEvents : List InputEvent → List Bool → List InputEvent
  | event :: events, true :: results => event :: writeEvents events results
  | _, _ => []

def swipe (keycode : Nat) : List InputEvent :=
  [.key keycode 1, .synReport, .key keycode 0, .synReport]

/-- Writes to a device that was not created fail. -/
def handleEvent (flags : Flags) (s : BiometricsFingerprint) (eventCode : Int)
    (results : List Bool) : BiometricsFingerprint :=
  match gestureKey flags eventCode with
  | some keycode =>
    if s.created then { s with written := s.written ++ writeEvents (swipe keycode) results }
    else s
  | none => s

def tell (s : BiometricsFingerprint) (client : Nat) (r : Option Report) :
    BiometricsFingerprint :=
  { s with told := s.told ++ r.toList.map (Prod.mk client) }

def notify (flags : Flags) (s : BiometricsFingerprint) (msg : Message) (results : List Bool) :
    Except Fault BiometricsFingerprint :=
  match s.mClientCallback with
  | none => .ok s
  | some client =>
    match msg with
    | .acquired info =>
      if semFingerprintEventBase < info then .ok (s.handleEvent flags info results)
      else .ok (s.tell client (report flags msg))
    | .enrolling _ samples =>
      if flags.callCancelOnEnrollCompletion && samplesRemaining flags samples == 0 then do
        let s ← s.call .cancel
        return s.tell client (report flags msg)
      else .ok (s.tell client (report flags msg))
    | _ => .ok (s.tell client (report flags msg))

end Notify

section Requests

inductive Request where
  | setNotify (clientCallback : Option Nat)
  | preEnroll
  | enroll (hat : AuthToken) (gid timeoutSec : UInt32)
  | postEnroll
  | getAuthenticatorId
  | cancel
  | enumerate
  | remove (gid fid : UInt32)
  | setActiveGroup (gid : UInt32) (storePath : List UInt8)
  | authenticate (operationId : UInt64) (gid : UInt32)
  | isUdfps
  | onFingerDown
  | onFingerUp
  | notify (msg : Message)

/-- What the library returns, whether `access` finds the path writable, and which of the
writes to the device succeed. -/
structure Outcome where
  ret : Int := 0
  id : UInt64 := 0
  writable : Bool := true
  results : List Bool := []
  deriving DecidableEq, Repr

inductive Answer where
  | void
  | status (status : RequestStatus)
  | number (value : UInt64)
  | flag (value : Bool)
  deriving DecidableEq, Repr

def pathMax : Nat := 4096

/-- A call whose result goes through `ErrorFilter`. -/
def filtered (s : BiometricsFingerprint) (c : VendorCall) (o : Outcome) :
    Except Fault (BiometricsFingerprint × Answer) := do
  let s ← s.call c
  return (s, .status (errorFilter o.ret))

def step (flags : Flags) (self : UInt64) (s : BiometricsFingerprint) (request : Request)
    (o : Outcome) : Except Fault (BiometricsFingerprint × Answer) :=
  match request with
  | .setNotify clientCallback => .ok ({ s with mClientCallback := clientCallback }, .number self)
  | .preEnroll => do
    let s ← s.call .preEnroll
    return (s, .number o.id)
  | .enroll hat gid timeoutSec =>
    if flags.requestForceCalibrate then do
      let s ← s.call (.request semRequestForceCbge 1)
      s.filtered (.enroll hat.bytes gid timeoutSec) o
    else s.filtered (.enroll hat.bytes gid timeoutSec) o
  | .postEnroll => s.filtered .postEnroll o
  | .getAuthenticatorId => do
    let s ← s.call .getAuthId
    return (s, .number o.id)
  | .cancel => do
    let s ← s.call .cancel
    let s ← if flags.callNotifyOnCancel && o.ret == 0 then
        s.notify flags (.error fingerprintErrorCanceled) o.results
      else .ok s
    return (s, .status (errorFilter o.ret))
  | .enumerate =>
    match s.pointers .ssFingerprintEnumerate with
    | .indeterminate => .error (.indeterminate .ssFingerprintEnumerate)
    | .null => .ok (s, .status .sysUnknown)
    | .function => s.filtered .enumerate o
  | .remove gid fid => s.filtered (.remove gid fid) o
  | .setActiveGroup gid storePath =>
    if pathMax ≤ storePath.length || storePath.length == 0 then .ok (s, .status .sysEinval)
    else if o.writable then s.filtered (.setActiveGroup gid storePath) o
    else .ok (s, .status .sysEinval)
  | .authenticate operationId gid => s.filtered (.authenticate operationId gid) o
  | .isUdfps => .ok (s, .flag s.mIsUdfps)
  | .onFingerDown => .ok (s, .void)
  | .onFingerUp => .ok (s, .void)
  | .notify msg => do
    let s ← s.notify flags msg o.results
    return (s, .void)

def run (flags : Flags) (boot : Boot) (self : UInt64) (events : List (Request × Outcome)) :
    Except Fault BiometricsFingerprint := do
  let s ← construct flags boot
  events.foldlM (fun s event => Prod.fst <$> s.step flags self event.1 event.2) s

end Requests

end BiometricsFingerprint

end Exynos9810.Fingerprint
