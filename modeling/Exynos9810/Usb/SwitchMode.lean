import Exynos9810.Usb.PortRole
import Exynos9810.Usb.SetCallback
import Mathlib.Data.List.TakeWhile

/-!
# `Usb.cpp`: switching the mode of a port

`switchMode` waits for the partner with `mPartnerLock` released.  The worker takes that
lock around the statements that set `mPartnerUp` and signal, so they are one step.
-/
namespace Exynos9810.Usb

open Transition

/-- What `pthread_cond_timedwait` returns.  A wake can be spurious, and the time can be
over although the condition was signalled. -/
inductive WaitErr where
  | awake
  | timedOut
  deriving DecidableEq, Repr

/-- How `fputs` and the `fclose` behind it end.  The text leaves the buffer in `fclose`,
whose result is not looked at. -/
inductive PutResult where
  | eof
  | flushFailed
  | flushed
  deriving DecidableEq, Repr

inductive SwitchPc where
  | fopen
  | lock
  | fputs
  | timedwait
  | waiting
  | relock (err : WaitErr)
  | decide (err : WaitErr)
  | unlock (roleSwitch : Bool)
  | switchToDrp
  | returned (roleSwitch : Bool)
  deriving DecidableEq, Repr

/-- What has been done, by `switchMode` or by the worker in its partner branch. -/
inductive SwitchAction where
  | cleared
  | partnerUp
  | put (node text : Text)
  | flushFailed
  | timedOut
  /-- The `pthread_mutex_unlock` behind the waits. -/
  | unlocked
  | drpFailed
  deriving DecidableEq, Repr

structure ModeSwitch where
  hal : UsbHal
  /-- `switchMode` holds `mPartnerLock`. -/
  mPartnerLock : Bool
  pc : SwitchPc
  log : List SwitchAction
  deriving DecidableEq, Repr

inductive SwitchEvent where
  | usb (event : UsbEvent)
  | fopen (ok : Bool)
  | lock
  | fputs (result : PutResult)
  | timedwait
  | wake (err : WaitErr)
  | relock
  | decide
  | unlock
  | switchToDrp (ok : Bool)
  deriving DecidableEq, Repr

/-- The worker is at a segment that says a partner was added. -/
def addsPartner (hal : UsbHal) : UsbEvent → Bool
  | .worker _ =>
    match hal.worker with
    | .scan (segment :: _) => isPartnerAdded segment
    | _ => false
  | _ => false

def drpNode (portName : Text) : Text :=
  appendRoleNodeHelper (cStr portName) .mode

namespace ModeSwitch

/-- A call that begins while the other threads are anywhere. -/
def start (hal : UsbHal) : ModeSwitch :=
  { hal, mPartnerLock := false, pc := .fopen, log := [] }

/-- A step of the other threads. -/
def usb (s : ModeSwitch) (event : UsbEvent) : Option ModeSwitch :=
  if addsPartner s.hal event then
    if s.mPartnerLock then none
    else (s.hal.step event).map fun hal => { s with hal, log := s.log ++ [.partnerUp] }
  else (s.hal.step event).map fun hal => { s with hal }

def fopen (s : ModeSwitch) (ok : Bool) : Option ModeSwitch :=
  if s.pc = .fopen then some { s with pc := if ok then .lock else .switchToDrp } else none

def lock (s : ModeSwitch) : Option ModeSwitch :=
  if s.pc = .lock ∧ s.mPartnerLock = false then
    some { s with
      hal := { s.hal with mPartnerUp := false }
      mPartnerLock := true, pc := .fputs, log := s.log ++ [.cleared] }
  else none

def fputs (portName : Text) (role : PortRole) (s : ModeSwitch) (result : PutResult) :
    Option ModeSwitch :=
  if s.pc = .fputs then
    match result with
    | .eof => some { s with pc := .unlock false }
    | .flushFailed => some { s with pc := .timedwait, log := s.log ++ [.flushFailed] }
    | .flushed =>
      some { s with
        pc := .timedwait
        log := s.log ++
          [.put (appendRoleNodeHelper (cStr portName) role.getTag) (convertRoletoString role)] }
  else none

/-- The wait begins with the lock released. -/
def timedwait (s : ModeSwitch) : Option ModeSwitch :=
  if s.pc = .timedwait then some { s with mPartnerLock := false, pc := .waiting } else none

def wake (s : ModeSwitch) (err : WaitErr) : Option ModeSwitch :=
  if s.pc = .waiting then
    match err with
    | .awake => some { s with pc := .relock .awake }
    | .timedOut => some { s with pc := .relock .timedOut, log := s.log ++ [.timedOut] }
  else none

/-- The wait returns with the lock. -/
def relock (s : ModeSwitch) : Option ModeSwitch :=
  match s.pc with
  | .relock err =>
    if s.mPartnerLock then none else some { s with mPartnerLock := true, pc := .decide err }
  | _ => none

/-- The return code is looked at first, `mPartnerUp` second. -/
def decide (s : ModeSwitch) : Option ModeSwitch :=
  match s.pc with
  | .decide .timedOut => some { s with pc := .unlock false }
  | .decide .awake =>
    some { s with pc := if !s.hal.mPartnerUp then .timedwait else .unlock true }
  | _ => none

def unlock (s : ModeSwitch) : Option ModeSwitch :=
  match s.pc with
  | .unlock roleSwitch =>
    some { s with
      mPartnerLock := false
      pc := if roleSwitch then .returned true else .switchToDrp
      log := s.log ++ [.unlocked] }
  | _ => none

def switchToDrp (portName : Text) (s : ModeSwitch) (ok : Bool) : Option ModeSwitch :=
  if s.pc = .switchToDrp then
    some { s with
      pc := .returned false
      log := s.log ++ [if ok then .put (drpNode portName) "dual".toList else .drpFailed] }
  else none

def step (portName : Text) (role : PortRole) (s : ModeSwitch) :
    SwitchEvent → Option ModeSwitch
  | .usb event => s.usb event
  | .fopen ok => s.fopen ok
  | .lock => s.lock
  | .fputs result => s.fputs portName role result
  | .timedwait => s.timedwait
  | .wake err => s.wake err
  | .relock => s.relock
  | .decide => s.decide
  | .unlock => s.unlock
  | .switchToDrp ok => s.switchToDrp portName ok

end ModeSwitch

/-- From the clearing of `mPartnerUp` to the last unlock of `mPartnerLock`. -/
def window (log : List SwitchAction) : List SwitchAction :=
  (log.dropWhile (· ≠ .cleared)).takeWhile (· ≠ .unlocked)

def CameUp (log : List SwitchAction) : Prop :=
  .partnerUp ∈ window log

/-- The role text has reached its node. -/
def Written (portName : Text) (role : PortRole) (log : List SwitchAction) : Prop :=
  .put (appendRoleNodeHelper (cStr portName) role.getTag) (convertRoletoString role) ∈ log

instance (log : List SwitchAction) : Decidable (CameUp log) :=
  inferInstanceAs (Decidable (_ ∈ _))

instance (portName : Text) (role : PortRole) (log : List SwitchAction) :
    Decidable (Written portName role log) :=
  inferInstanceAs (Decidable (_ ∈ _))

/-- `mPartnerUp` has been cleared and the lock is not given up for good. -/
def WindowOpen (log : List SwitchAction) : Prop :=
  .cleared ∈ log ∧ .unlocked ∉ log

def WindowOver (log : List SwitchAction) : Prop :=
  .cleared ∉ log ∨ .unlocked ∈ log.dropWhile (· ≠ .cleared)

section Window

variable {log : List SwitchAction} {action : SwitchAction}

theorem dropWhile_cleared (h : .cleared ∈ log) (action : SwitchAction) :
    (log ++ [action]).dropWhile (· ≠ .cleared) = log.dropWhile (· ≠ .cleared) ++ [action] := by
  rw [List.dropWhile_append, if_neg]
  rw [List.isEmpty_iff, List.dropWhile_eq_nil_iff]
  intro hall
  simpa using hall _ h

theorem ne_cleared (h : .cleared ∉ log) : ∀ kept ∈ log, decide (kept ≠ .cleared) = true :=
  fun _ hkept => decide_eq_true (ne_of_mem_of_not_mem hkept h)

theorem cleared_mem_of_unlocked (h : .unlocked ∈ log.dropWhile (· ≠ .cleared)) :
    .cleared ∈ log := by
  by_contra hcleared
  rw [List.dropWhile_eq_nil_iff.mpr (ne_cleared hcleared)] at h
  cases h

theorem cameUp_open (h : WindowOpen log) (action : SwitchAction) :
    CameUp (log ++ [action]) ↔ CameUp log ∨ action = .partnerUp := by
  have hkeep : ∀ kept ∈ log.dropWhile (· ≠ .cleared), decide (kept ≠ .unlocked) = true := by
    intro kept hkept
    exact decide_eq_true (ne_of_mem_of_not_mem (List.dropWhile_subset _ hkept) h.2)
  simp only [CameUp, window]
  rw [dropWhile_cleared h.1, List.takeWhile_append_of_pos hkeep,
    List.takeWhile_eq_self_iff.mpr hkeep]
  by_cases haction : action = .unlocked <;> simp [haction, eq_comm]

theorem cameUp_over (h : WindowOver log) (haction : action ≠ .cleared) :
    CameUp (log ++ [action]) ↔ CameUp log := by
  simp only [CameUp, window]
  obtain hcleared | hunlocked := h
  · rw [List.dropWhile_append_of_pos (ne_cleared hcleared),
      List.dropWhile_eq_nil_iff.mpr (ne_cleared hcleared)]
    simp [haction]
  · rw [dropWhile_cleared (cleared_mem_of_unlocked hunlocked), List.takeWhile_append, if_neg]
    intro hlength
    have hall := List.takeWhile_eq_self_iff.mp
      (List.takeWhile_sublist _ |>.eq_of_length hlength)
    simpa using hall _ hunlocked

theorem not_cameUp_cleared (h : .cleared ∉ log) : ¬CameUp (log ++ [.cleared]) := by
  rw [CameUp, window, List.dropWhile_append_of_pos (ne_cleared h)]
  decide

theorem windowOver_concat (h : WindowOver log) (haction : action ≠ .cleared) :
    WindowOver (log ++ [action]) := by
  obtain hcleared | hunlocked := h
  · exact .inl (by simp [hcleared, haction.symm])
  · refine .inr ?_
    rw [dropWhile_cleared (cleared_mem_of_unlocked hunlocked)]
    exact List.mem_append_left _ hunlocked

theorem windowOpen_concat (h : WindowOpen log) (haction : action ≠ .unlocked) :
    WindowOpen (log ++ [action]) :=
  ⟨List.mem_append_left _ h.1, by simp [h.2, haction.symm]⟩

theorem not_windowOpen (h : WindowOver log) : ¬WindowOpen log := by
  rintro ⟨hcleared, hunlocked⟩
  exact h.elim (· hcleared) fun hmem => hunlocked (List.dropWhile_subset _ hmem)

theorem windowOver_unlocked (h : WindowOpen log) : WindowOver (log ++ [.unlocked]) := by
  refine .inr ?_
  rw [dropWhile_cleared h.1]
  exact List.mem_append_right _ (.head _)

end Window

section Tracked

variable {portName : Text} {role : PortRole} {log : List SwitchAction} {action : SwitchAction}
  {s s' : ModeSwitch}

def Sent (portName : Text) (role : PortRole) (log : List SwitchAction) : Prop :=
  Written portName role log ∨ .flushFailed ∈ log

/-- What has led to the value of `roleSwitch`. -/
def Outcome (portName : Text) (role : PortRole) (log : List SwitchAction) : Bool → Prop
  | true => Sent portName role log ∧ CameUp log ∧ .timedOut ∉ log
  | false => ¬Sent portName role log ∨ .timedOut ∈ log

def Expected (portName : Text) (role : PortRole) (log : List SwitchAction) : SwitchPc → Prop
  | .fopen | .lock =>
    (.cleared ∉ log ∧ .unlocked ∉ log) ∧ ¬Sent portName role log ∧ .timedOut ∉ log
  | .fputs => WindowOpen log ∧ ¬Sent portName role log ∧ .timedOut ∉ log
  | .timedwait | .waiting | .relock .awake | .decide .awake =>
    WindowOpen log ∧ Sent portName role log ∧ .timedOut ∉ log
  | .relock .timedOut | .decide .timedOut => WindowOpen log ∧ .timedOut ∈ log
  | .unlock roleSwitch => WindowOpen log ∧ Outcome portName role log roleSwitch
  | .switchToDrp => WindowOver log ∧ Outcome portName role log false
  | .returned roleSwitch =>
    WindowOver log ∧ Outcome portName role log roleSwitch ∧ (roleSwitch = false →
      .put (drpNode portName) "dual".toList ∈ log ∨ .drpFailed ∈ log)

/-- The log fits the place of the call, and inside the window `mPartnerUp` says whether
the partner came up in it. -/
structure Tracked (portName : Text) (role : PortRole) (s : ModeSwitch) : Prop where
  expected : Expected portName role s.log s.pc
  up : WindowOpen s.log → (s.hal.mPartnerUp = true ↔ CameUp s.log)

theorem sent_concat (log : List SwitchAction) (action : SwitchAction) :
    Sent portName role (log ++ [action]) ↔
      Sent portName role log ∨ Sent portName role [action] := by
  simp only [Sent, Written, List.mem_append]
  tauto

theorem not_sent_drp : ¬Sent portName role [.put (drpNode portName) "dual".toList] := by
  rintro (h | h)
  · have htext := (SwitchAction.put.inj (List.mem_singleton.mp h)).2
    exact convertRoletoString_ne_dual role htext
  · cases List.mem_singleton.mp h

theorem outcome_concat {roleSwitch : Bool} (hsent : ¬Sent portName role [action])
    (htime : action ≠ .timedOut) (hup : CameUp log → CameUp (log ++ [action]))
    (h : Outcome portName role log roleSwitch) :
    Outcome portName role (log ++ [action]) roleSwitch := by
  cases roleSwitch with
  | true =>
    obtain ⟨hsent', hup', htime'⟩ := h
    exact ⟨(sent_concat log action).mpr (.inl hsent'), hup hup', by simp [htime', htime.symm]⟩
  | false =>
    rw [Outcome, sent_concat]
    exact h.imp (fun hnot => not_or.mpr ⟨hnot, hsent⟩) (List.mem_append_left _)

theorem mPartnerUp_callerStep {hal hal' : UsbHal} {ok : Bool}
    (h : hal.callerStep ok = some hal') : hal'.mPartnerUp = hal.mPartnerUp := by
  unfold UsbHal.callerStep at h
  split at h <;> try split_ifs at h
  all_goals cases h <;> rfl

theorem mPartnerUp_workerStep {hal hal' : UsbHal} {ok : Bool}
    (h : hal.workerStep ok = some hal') :
    hal'.mPartnerUp = (hal.mPartnerUp || addsPartner hal (.worker ok)) := by
  cases hpc : hal.worker with
  | scan segments =>
    cases segments with
    | nil =>
      simp only [UsbHal.workerStep, hpc] at h
      cases h
      simp [addsPartner, hpc]
    | cons segment rest =>
      simp only [UsbHal.workerStep, hpc] at h
      split_ifs at h with hpartner <;> cases h <;> simp [addsPartner, hpc, hpartner]
  | recv =>
    simp only [UsbHal.workerStep, hpc] at h
    split at h <;> cases h <;> simp [addsPartner, hpc]
  | _ =>
    simp only [UsbHal.workerStep, hpc] at h
    try split_ifs at h
    all_goals cases h <;> simp [addsPartner, hpc]

theorem mPartnerUp_step {hal hal' : UsbHal} {event : UsbEvent} (h : hal.step event = some hal') :
    hal'.mPartnerUp = (hal.mPartnerUp || addsPartner hal event) := by
  cases event with
  | worker ok => exact mPartnerUp_workerStep h
  | caller ok => simp [mPartnerUp_callerStep h, addsPartner]
  | signal =>
    simp only [UsbHal.step, UsbHal.deliver] at h
    split_ifs at h
    all_goals
      cases h
      simp [addsPartner]
  | _ =>
    simp only [UsbHal.step] at h
    try split_ifs at h
    all_goals
      cases h
      simp [addsPartner]

theorem expected_partnerUp {pc : SwitchPc} (h : Expected portName role log pc) :
    Expected portName role (log ++ [.partnerUp]) pc := by
  have hsent : ¬Sent portName role [.partnerUp] := by simp [Sent, Written]
  have hopen (h : WindowOpen log) {roleSwitch : Bool}
      (hout : Outcome portName role log roleSwitch) :
      Outcome portName role (log ++ [.partnerUp]) roleSwitch :=
    outcome_concat hsent nofun (fun hup => (cameUp_open h _).mpr (.inl hup)) hout
  have hover (h : WindowOver log) {roleSwitch : Bool}
      (hout : Outcome portName role log roleSwitch) :
      Outcome portName role (log ++ [.partnerUp]) roleSwitch :=
    outcome_concat hsent nofun (cameUp_over h (by nofun)).mpr hout
  have hkept : Sent portName role (log ++ [.partnerUp]) ↔ Sent portName role log := by
    rw [sent_concat, or_iff_left hsent]
  have htime : .timedOut ∈ log ++ [.partnerUp] ↔ .timedOut ∈ log := by simp
  unfold Expected at h ⊢
  cases pc with
  | fopen | lock =>
    rw [hkept, htime]
    exact ⟨by simpa using h.1, h.2⟩
  | fputs | timedwait | waiting =>
    rw [hkept, htime]
    exact ⟨windowOpen_concat h.1 nofun, h.2⟩
  | relock err | decide err =>
    cases err <;> simp only [hkept, htime] <;> exact ⟨windowOpen_concat h.1 nofun, h.2⟩
  | unlock roleSwitch => exact ⟨windowOpen_concat h.1 nofun, hopen h.1 h.2⟩
  | switchToDrp => exact ⟨windowOver_concat h.1 nofun, hover h.1 h.2⟩
  | returned roleSwitch =>
    exact ⟨windowOver_concat h.1 nofun, hover h.1 h.2.1,
      fun hfailed => (h.2.2 hfailed).imp (List.mem_append_left _) (List.mem_append_left _)⟩

theorem tracked_usb (h : Tracked portName role s) {event : UsbEvent}
    (hstep : s.usb event = some s') : Tracked portName role s' := by
  unfold ModeSwitch.usb at hstep
  split_ifs at hstep with hadds hlocked
  · obtain ⟨hal, hhal, rfl⟩ := Option.map_eq_some_iff.mp hstep
    refine ⟨expected_partnerUp h.expected, fun hopen => ?_⟩
    have hopen' : WindowOpen s.log := by simpa [WindowOpen] using hopen
    rw [cameUp_open hopen', mPartnerUp_step hhal, hadds]
    simp
  · obtain ⟨hal, hhal, rfl⟩ := Option.map_eq_some_iff.mp hstep
    refine ⟨h.expected, fun hopen => ?_⟩
    rw [← h.up hopen, mPartnerUp_step hhal]
    simp [hadds]

theorem tracked_fopen (h : Tracked portName role s) {ok : Bool} (hstep : s.fopen ok = some s') :
    Tracked portName role s' := by
  obtain ⟨hexpected, hup⟩ := h
  simp only [ModeSwitch.fopen] at hstep
  split_ifs at hstep with hpc hok <;> cases hstep <;> rw [hpc] at hexpected
  · exact ⟨hexpected, hup⟩
  · exact ⟨⟨.inl hexpected.1.1, .inl hexpected.2.1⟩, hup⟩

theorem tracked_lock (h : Tracked portName role s) (hstep : s.lock = some s') :
    Tracked portName role s' := by
  obtain ⟨hexpected, -⟩ := h
  simp only [ModeSwitch.lock] at hstep
  split_ifs at hstep with hpc
  cases hstep
  rw [hpc.1] at hexpected
  obtain ⟨⟨hcleared, hunlocked⟩, hsent, htime⟩ := hexpected
  refine ⟨⟨⟨by simp, by simp [hunlocked]⟩, ?_, by simp [htime]⟩, fun _ => ?_⟩
  · rw [sent_concat, not_or]
    exact ⟨hsent, by simp [Sent, Written]⟩
  · simp [not_cameUp_cleared hcleared]

theorem tracked_fputs (h : Tracked portName role s) {result : PutResult}
    (hstep : s.fputs portName role result = some s') : Tracked portName role s' := by
  obtain ⟨hexpected, hup⟩ := h
  simp only [ModeSwitch.fputs] at hstep
  split_ifs at hstep with hpc
  rw [hpc] at hexpected
  obtain ⟨hopen, hsent, htime⟩ := hexpected
  have hup' (action : SwitchAction) (haction : action ≠ .partnerUp) :
      s.hal.mPartnerUp = true ↔ CameUp (s.log ++ [action]) := by
    rw [cameUp_open hopen, or_iff_left haction]
    exact hup hopen
  cases result with
  | eof =>
    cases hstep
    exact ⟨⟨hopen, .inl hsent⟩, hup⟩
  | flushFailed =>
    cases hstep
    refine ⟨⟨windowOpen_concat hopen nofun, .inr (by simp), by simp [htime]⟩, fun _ => ?_⟩
    exact hup' _ nofun
  | flushed =>
    cases hstep
    refine ⟨⟨windowOpen_concat hopen nofun, .inl ?_, by simp [htime]⟩, fun _ => ?_⟩
    · exact List.mem_append_right _ (.head _)
    · exact hup' _ nofun

theorem tracked_wake (h : Tracked portName role s) {err : WaitErr}
    (hstep : s.wake err = some s') : Tracked portName role s' := by
  obtain ⟨hexpected, hup⟩ := h
  simp only [ModeSwitch.wake] at hstep
  split_ifs at hstep with hpc
  rw [hpc] at hexpected
  cases err with
  | awake =>
    cases hstep
    exact ⟨hexpected, hup⟩
  | timedOut =>
    cases hstep
    refine ⟨⟨windowOpen_concat hexpected.1 nofun, by simp⟩, fun _ => ?_⟩
    rw [cameUp_open hexpected.1, or_iff_left nofun]
    exact hup hexpected.1

theorem tracked_decide (h : Tracked portName role s) (hstep : s.decide = some s') :
    Tracked portName role s' := by
  obtain ⟨hexpected, hup⟩ := h
  unfold ModeSwitch.decide at hstep
  split at hstep
  · rename_i hpc
    cases hstep
    rw [hpc] at hexpected
    exact ⟨⟨hexpected.1, .inr hexpected.2⟩, hup⟩
  · rename_i hpc
    cases hstep
    rw [hpc] at hexpected
    obtain ⟨hopen, hsent, htime⟩ := hexpected
    refine ⟨?_, hup⟩
    dsimp only
    split_ifs with hdown
    · exact ⟨hopen, hsent, htime⟩
    · exact ⟨hopen, hsent, (hup hopen).mp (by simpa using hdown), htime⟩
  · cases hstep

theorem tracked_unlock (h : Tracked portName role s) (hstep : s.unlock = some s') :
    Tracked portName role s' := by
  obtain ⟨hexpected, -⟩ := h
  unfold ModeSwitch.unlock at hstep
  split at hstep
  · rename_i roleSwitch hpc
    cases hstep
    rw [hpc] at hexpected
    obtain ⟨hopen, hout⟩ := hexpected
    have hout' : Outcome portName role (s.log ++ [.unlocked]) roleSwitch :=
      outcome_concat (by simp [Sent, Written]) nofun
        (fun hup => (cameUp_open hopen _).mpr (.inl hup)) hout
    refine ⟨?_, fun hopen' => absurd (List.mem_append_right _ (.head _)) hopen'.2⟩
    cases roleSwitch with
    | true => exact ⟨windowOver_unlocked hopen, hout', nofun⟩
    | false => exact ⟨windowOver_unlocked hopen, hout'⟩
  · cases hstep

theorem tracked_returned (hover : WindowOver s.log) (hout : Outcome portName role s.log false)
    (hsent : ¬Sent portName role [action])
    (haction : action = .put (drpNode portName) "dual".toList ∨ action = .drpFailed) :
    Tracked portName role { s with pc := .returned false, log := s.log ++ [action] } := by
  have hcleared : action ≠ .cleared := by
    rintro rfl
    simp at haction
  have htime : action ≠ .timedOut := by
    rintro rfl
    simp at haction
  have hover' := windowOver_concat hover hcleared
  refine ⟨⟨hover', outcome_concat hsent htime (cameUp_over hover hcleared).mpr hout, fun _ => ?_⟩,
    fun hopen => absurd hopen (not_windowOpen hover')⟩
  rcases haction with rfl | rfl
  · exact .inl (List.mem_append_right _ (.head _))
  · exact .inr (List.mem_append_right _ (.head _))

theorem tracked_switchToDrp (h : Tracked portName role s) {ok : Bool}
    (hstep : s.switchToDrp portName ok = some s') : Tracked portName role s' := by
  obtain ⟨hexpected, -⟩ := h
  simp only [ModeSwitch.switchToDrp] at hstep
  split_ifs at hstep with hpc hok <;> cases hstep <;> rw [hpc] at hexpected
  · exact tracked_returned hexpected.1 hexpected.2 not_sent_drp (.inl rfl)
  · exact tracked_returned hexpected.1 hexpected.2 (by simp [Sent, Written]) (.inr rfl)

theorem tracked_timedwait (h : Tracked portName role s) (hstep : s.timedwait = some s') :
    Tracked portName role s' := by
  obtain ⟨hexpected, hup⟩ := h
  simp only [ModeSwitch.timedwait] at hstep
  split_ifs at hstep with hpc
  cases hstep
  rw [hpc] at hexpected
  exact ⟨hexpected, hup⟩

theorem tracked_relock (h : Tracked portName role s) (hstep : s.relock = some s') :
    Tracked portName role s' := by
  obtain ⟨hexpected, hup⟩ := h
  unfold ModeSwitch.relock at hstep
  split at hstep
  · rename_i err hpc
    split_ifs at hstep
    cases hstep
    rw [hpc] at hexpected
    cases err <;> exact ⟨hexpected, hup⟩
  · cases hstep

theorem tracked_step (h : Tracked portName role s) {event : SwitchEvent}
    (hstep : s.step portName role event = some s') : Tracked portName role s' := by
  cases event with
  | usb => exact tracked_usb h hstep
  | fopen => exact tracked_fopen h hstep
  | lock => exact tracked_lock h hstep
  | fputs => exact tracked_fputs h hstep
  | timedwait => exact tracked_timedwait h hstep
  | wake => exact tracked_wake h hstep
  | relock => exact tracked_relock h hstep
  | decide => exact tracked_decide h hstep
  | unlock => exact tracked_unlock h hstep
  | switchToDrp => exact tracked_switchToDrp h hstep

theorem tracked_start (hal : UsbHal) : Tracked portName role (.start hal) := by
  refine ⟨⟨⟨nofun, nofun⟩, ?_, nofun⟩, ?_⟩
  · rintro (h | h) <;> cases h
  · rintro ⟨h, -⟩
    cases h

end Tracked

section Writes

variable {portName : Text} {role : PortRole} {s s' : ModeSwitch}

/-- What the call does to the nodes, or fails to do. -/
def SwitchAction.isWrite : SwitchAction → Bool
  | .put _ _ | .flushFailed | .drpFailed => true
  | _ => false

def writes (log : List SwitchAction) : List SwitchAction :=
  log.filter SwitchAction.isWrite

def RoleWrites (portName : Text) (role : PortRole) (actions : List SwitchAction) : Prop :=
  actions ∈ [[], [.flushFailed],
    [.put (appendRoleNodeHelper (cStr portName) role.getTag) (convertRoletoString role)]]

/-- The role text is written at most once, and the way back to dual role comes last. -/
def WritesAt (portName : Text) (role : PortRole) (actions : List SwitchAction) :
    SwitchPc → Prop
  | .fopen | .lock | .fputs => actions = []
  | .returned false => ∃ before, RoleWrites portName role before ∧
      (actions = before ++ [.put (drpNode portName) "dual".toList] ∨
        actions = before ++ [.drpFailed])
  | _ => RoleWrites portName role actions

theorem mem_log_iff {log : List SwitchAction} (action : SwitchAction)
    (h : action.isWrite = true) : action ∈ log ↔ action ∈ writes log := by
  rw [writes, List.mem_filter, and_iff_left h]

theorem writes_concat (log : List SwitchAction) (action : SwitchAction) :
    writes (log ++ [action]) = writes log ++ if action.isWrite then [action] else [] := by
  cases h : action.isWrite <;> simp [writes, h]

theorem roleWrites_nil : RoleWrites portName role [] :=
  .head _

theorem writesAt_step (h : WritesAt portName role (writes s.log) s.pc) {event : SwitchEvent}
    (hstep : s.step portName role event = some s') :
    WritesAt portName role (writes s'.log) s'.pc := by
  cases event with
  | usb event =>
    simp only [ModeSwitch.step, ModeSwitch.usb] at hstep
    split_ifs at hstep <;> obtain ⟨hal, -, rfl⟩ := Option.map_eq_some_iff.mp hstep
    · simpa [writes_concat, SwitchAction.isWrite] using h
    · exact h
  | fopen ok =>
    simp only [ModeSwitch.step, ModeSwitch.fopen] at hstep
    split_ifs at hstep with hpc hok <;> cases hstep <;> rw [hpc] at h
    · exact h
    · exact h ▸ roleWrites_nil
  | lock =>
    simp only [ModeSwitch.step, ModeSwitch.lock] at hstep
    split_ifs at hstep with hpc
    cases hstep
    rw [hpc.1] at h
    simpa [writes_concat, SwitchAction.isWrite, WritesAt] using h
  | fputs result =>
    simp only [ModeSwitch.step, ModeSwitch.fputs] at hstep
    split_ifs at hstep with hpc
    rw [hpc, WritesAt] at h
    cases result <;> cases hstep <;>
      simp [WritesAt, RoleWrites, writes_concat, SwitchAction.isWrite, h]
  | timedwait =>
    simp only [ModeSwitch.step, ModeSwitch.timedwait] at hstep
    split_ifs at hstep with hpc
    cases hstep
    rwa [hpc] at h
  | wake err =>
    simp only [ModeSwitch.step, ModeSwitch.wake] at hstep
    split_ifs at hstep with hpc
    rw [hpc] at h
    cases err <;> cases hstep
    · exact h
    · simpa [writes_concat, SwitchAction.isWrite, WritesAt] using h
  | relock =>
    simp only [ModeSwitch.step, ModeSwitch.relock] at hstep
    split at hstep
    · rename_i err hpc
      split_ifs at hstep
      cases hstep
      rwa [hpc] at h
    · cases hstep
  | decide =>
    simp only [ModeSwitch.step, ModeSwitch.decide] at hstep
    split at hstep
    · rename_i hpc
      cases hstep
      rwa [hpc] at h
    · rename_i hpc
      cases hstep
      rw [hpc] at h
      dsimp only
      split_ifs <;> exact h
    · cases hstep
  | unlock =>
    simp only [ModeSwitch.step, ModeSwitch.unlock] at hstep
    split at hstep
    · rename_i roleSwitch hpc
      cases hstep
      rw [hpc] at h
      cases roleSwitch <;> simpa [writes_concat, SwitchAction.isWrite, WritesAt] using h
    · cases hstep
  | switchToDrp ok =>
    simp only [ModeSwitch.step, ModeSwitch.switchToDrp] at hstep
    split_ifs at hstep with hpc hok <;> cases hstep <;> rw [hpc] at h
    · exact ⟨_, h, .inl (by simp [writes_concat, SwitchAction.isWrite])⟩
    · exact ⟨_, h, .inr (by simp [writes_concat, SwitchAction.isWrite])⟩

theorem roleText_ne_dual (portName : Text) (role : PortRole) :
    SwitchAction.put (drpNode portName) "dual".toList ≠
      .put (appendRoleNodeHelper (cStr portName) role.getTag) (convertRoletoString role) :=
  fun h => convertRoletoString_ne_dual role (SwitchAction.put.inj h).2.symm

theorem not_written_of_flushFailed {roleSwitch : Bool}
    (h : WritesAt portName role (writes s.log) (.returned roleSwitch))
    (hfailed : .flushFailed ∈ s.log) : ¬Written portName role s.log := by
  have hdual := roleText_ne_dual portName role
  rw [Written, mem_log_iff _ rfl]
  rw [mem_log_iff _ rfl] at hfailed
  cases roleSwitch with
  | true =>
    simp only [WritesAt, RoleWrites, List.mem_cons, List.not_mem_nil, or_false] at h
    rcases h with h | h | h <;> rw [h] at hfailed ⊢ <;> simp at hfailed ⊢
  | false =>
    obtain ⟨before, h, hback⟩ := h
    simp only [RoleWrites, List.mem_cons, List.not_mem_nil, or_false] at h
    rcases h with rfl | rfl | rfl <;> rcases hback with hback | hback <;>
      simp only [hback, List.nil_append, List.cons_append, List.mem_cons, List.not_mem_nil,
        hdual.symm, reduceCtorEq, or_false, or_self, not_false_eq_true] at hfailed ⊢

/-- A call that fails has the port back in dual role unless that write failed too. -/
theorem drp_mem_iff (h : WritesAt portName role (writes s.log) (.returned false)) :
    .put (drpNode portName) "dual".toList ∈ s.log ↔ .drpFailed ∉ s.log := by
  have hdual := roleText_ne_dual portName role
  rw [mem_log_iff (.put _ _) rfl, mem_log_iff .drpFailed rfl]
  obtain ⟨before, h, hback⟩ := h
  simp only [RoleWrites, List.mem_cons, List.not_mem_nil, or_false] at h
  rcases h with rfl | rfl | rfl <;> rcases hback with hback | hback <;>
    simp only [hback, List.nil_append, List.cons_append, List.mem_cons, List.not_mem_nil, hdual,
      reduceCtorEq, or_false, or_true, or_self, not_false_eq_true, not_true_eq_false]

theorem drpFailed_not_mem (h : WritesAt portName role (writes s.log) (.returned true)) :
    .drpFailed ∉ s.log := by
  rw [mem_log_iff _ rfl]
  simp only [WritesAt, RoleWrites, List.mem_cons, List.not_mem_nil, or_false] at h
  rcases h with h | h | h <;> rw [h] <;> simp

end Writes

/-- `switchMode` returns true just when `fputs` took the role text, the partner came up
between the clearing of `mPartnerUp` and the last unlock, and no wait timed out.  So its
answer says that the text was written and the partner came up, and a failed call leaves
dual role, exactly when no partner that came up was too late for the wait, no text was lost
behind a partner that came up, and the way back did not fail. -/
theorem switch_mode_true_iff (portName : Text) (role : PortRole) (hal : UsbHal)
    (s : ModeSwitch) (hrun : Reach (ModeSwitch.step portName role) Free (.start hal) s)
    (roleSwitch : Bool) (hreturned : s.pc = .returned roleSwitch) :
    (roleSwitch = true ↔ (Written portName role s.log ∨ .flushFailed ∈ s.log) ∧
      CameUp s.log ∧ .timedOut ∉ s.log) ∧
    (roleSwitch = false →
      .put (drpNode portName) "dual".toList ∈ s.log ∨ .drpFailed ∈ s.log) ∧
    (((roleSwitch = true ↔ Written portName role s.log ∧ CameUp s.log) ∧
        (roleSwitch = false → .put (drpNode portName) "dual".toList ∈ s.log)) ↔
      (CameUp s.log → (Written portName role s.log → .timedOut ∉ s.log) ∧
        (.flushFailed ∈ s.log → .timedOut ∈ s.log)) ∧ .drpFailed ∉ s.log) := by
  have htracked := hrun.invariant (Tracked portName role) (tracked_start hal)
    fun _ _ _ h _ hstep => tracked_step h hstep
  have hwrites := hrun.invariant (fun s => WritesAt portName role (writes s.log) s.pc) rfl
    fun _ _ _ h _ hstep => writesAt_step h hstep
  have hexpected := htracked.expected
  rw [hreturned] at hexpected hwrites
  obtain ⟨-, hout, hdrp⟩ := hexpected
  have hlost := not_written_of_flushFailed hwrites
  cases roleSwitch with
  | true =>
    refine ⟨⟨fun _ => hout, fun _ => rfl⟩, hdrp, ?_⟩
    obtain ⟨hsent, hup, htime⟩ := hout
    have hback := drpFailed_not_mem hwrites
    simp only [true_iff, hup, htime, hback, and_true, not_false_eq_true, implies_true, imp_false,
      true_and, forall_const, reduceCtorEq, false_implies]
    exact ⟨fun hwritten hfailed => hlost hfailed hwritten, hsent.resolve_right⟩
  | false =>
    have hnot : ¬(Sent portName role s.log ∧ CameUp s.log ∧ .timedOut ∉ s.log) := by
      rintro ⟨hsent, -, htime⟩
      exact hout.elim (absurd hsent) fun hmem => absurd hmem htime
    refine ⟨⟨nofun, fun h => absurd h hnot⟩, hdrp, ?_⟩
    rw [drp_mem_iff hwrites]
    constructor
    · rintro ⟨hiff, hback⟩
      refine ⟨fun hup => ⟨fun hwritten => absurd (hiff.mpr ⟨hwritten, hup⟩) nofun, ?_⟩, hback rfl⟩
      exact fun hfailed => hout.resolve_left (not_not_intro (.inr hfailed))
    · rintro ⟨hup, hback⟩
      refine ⟨⟨nofun, fun ⟨hwritten, hcame⟩ => ?_⟩, fun _ => hback⟩
      exact absurd ⟨.inl hwritten, hcame, (hup hcame).1 hwritten⟩ hnot

def partnerHal : UsbHal :=
  { UsbHal.init with worker := .scan ["add@/port0-partner".toList] }

/-- The partner comes up during the wait, and a spurious wake comes before it. -/
theorem switch_mode_true_iff_woken :
    ∃ s, exec (ModeSwitch.step "port0".toList (.mode .dfp)) Free (.start partnerHal)
        [.fopen true, .lock, .fputs .flushed, .timedwait, .wake .awake, .relock, .decide,
          .timedwait, .usb (.worker true), .wake .awake, .relock, .decide, .unlock] = some s ∧
      s.pc = .returned true ∧ Written "port0".toList (.mode .dfp) s.log ∧ CameUp s.log := by
  obtain ⟨-, -, hiff⟩ := switch_mode_true_iff "port0".toList (.mode .dfp) partnerHal _
    (reach_of_exec
      [.fopen true, .lock, .fputs .flushed, .timedwait, .wake .awake, .relock, .decide,
        .timedwait, .usb (.worker true), .wake .awake, .relock, .decide, .unlock] rfl) true rfl
  exact ⟨_, rfl, rfl, (hiff.mpr (by decide)).1.mp rfl⟩

/-- The partner is up before a wait that timed out has the lock again, and the completed
switch is undone.  In the second run the text never reaches its node, and the call succeeds. -/
theorem switch_mode_undone :
    (∃ s, exec (ModeSwitch.step "port0".toList (.mode .dfp)) Free (.start partnerHal)
        [.fopen true, .lock, .fputs .flushed, .timedwait, .wake .timedOut, .usb (.worker true),
          .relock, .decide, .unlock, .switchToDrp true] = some s ∧
      s.pc = .returned false ∧ Written "port0".toList (.mode .dfp) s.log ∧ CameUp s.log ∧
      s.hal.mPartnerUp = true ∧ .put (drpNode "port0".toList) "dual".toList ∈ s.log) ∧
    ∃ s, exec (ModeSwitch.step "port0".toList (.mode .dfp)) Free (.start partnerHal)
        [.fopen true, .lock, .fputs .flushFailed, .timedwait, .usb (.worker true),
          .wake .awake, .relock, .decide, .unlock] = some s ∧
      s.pc = .returned true ∧ ¬Written "port0".toList (.mode .dfp) s.log := by
  exact ⟨⟨_, rfl, rfl, by decide, by decide, rfl, by decide⟩, _, rfl, rfl, by decide⟩

end Exynos9810.Usb
