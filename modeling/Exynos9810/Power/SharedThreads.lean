import Exynos9810.Library.History
import Exynos9810.Power.PowerHalStep
import Exynos9810.Library.Transition

/-!
# Threads that sessions share

Task profiles are counted for each thread, clamps are not: `setUclamp` of any session that
lists a thread asks for the clamp of the thread, and the kernel has what it was last asked for,
whichever session asked.  That it refuses, and that `vendor.powerhal.adpf.uclamp` turns the
calls off, is left out.
-/
namespace Exynos9810.Power

open PowerHal Transition

/-- The service and all its calls of `sched_setattr`, in order. -/
structure Kernel where
  hal : PowerHal
  schedAttrs : List SchedAttr

namespace Kernel

def init : Kernel :=
  { hal := .init, schedAttrs := [] }

def issued (s s' : PowerHal) : List SchedAttr :=
  (List.range s'.created).flatMap fun id =>
    (s'.session id).schedAttrs.drop (s.session id).schedAttrs.length

def step (p : Platform) (k : Kernel) (event : PowerHal.Event) : Option Kernel :=
  (k.hal.step p event).map fun hal =>
    { hal, schedAttrs := k.schedAttrs ++ issued k.hal hal }

/-- The `sched_util_min` that was last requested for a thread. -/
def utilMin (k : Kernel) (tid : Tid) : Option Int :=
  History.lastSet (k.schedAttrs.map fun attr => (attr.tid, attr.utilMin)) tid

end Kernel

def PowerHintSession.Clamps (session : PowerHintSession) (tid : Tid) : Prop :=
  tid ∈ session.desc.threadIds ∧ session.schedAttrs ≠ []

section Step

structure Alike (session session' : PowerHintSession) : Prop where
  threadIds : session'.desc.threadIds = session.desc.threadIds
  currentMin : session'.desc.currentMin = session.desc.currentMin
  schedAttrs : session'.schedAttrs = session.schedAttrs

inductive ClampStep (s s' : PowerHal) : Prop
  | kept (hcreated : s'.created = s.created) (hother : ∀ id, Alike (s.session id) (s'.session id))
  | sets (target : SessionId) (min : Int) (hcreated : s'.created = s.created)
      (htarget : s'.session target = (s.session target).setUclamp min maxUclampValue)
      (hother : ∀ id, id ≠ target → Alike (s.session id) (s'.session id))
  | creates (hcreated : s'.created = s.created + 1)
      (hnew : (s'.session s.created).schedAttrs = [])
      (hother : ∀ id, id ≠ s.created → Alike (s.session id) (s'.session id))

variable {p : Platform} {s s' : PowerHal}

theorem alike_refl (session : PowerHintSession) : Alike session session :=
  ⟨rfl, rfl, rfl⟩

theorem alike_ite {session changed : PowerHintSession} {c : Prop} [Decidable c]
    (h : Alike session changed) : Alike session (if c then changed else session) := by
  split
  · exact h
  · exact alike_refl session

theorem clampStep_setUclamp {target : SessionId} {min : Int} (hcreated : s'.created = s.created)
    (hsession : ∀ id, s'.session id =
      if id = target then (s.session id).setUclamp min maxUclampValue else s.session id) :
    ClampStep s s' := by
  refine .sets target min hcreated ?_ fun id hid => ?_
  · rw [hsession target, if_pos rfl]
  · rw [hsession id, if_neg hid]
    exact alike_refl _

theorem clampStep_begin (call : Call) : ClampStep s (s.begin p call) := by
  cases call with
  | createHintSession threadIds durationNanos =>
    refine .creates rfl ?_ fun id hid => ?_
    · simp [begin, create, binderAt, PowerHintSession.new]
    · have heq : (s.begin p (.createHintSession threadIds durationNanos)).session id =
          s.session id := if_neg hid
      rw [heq]
      exact alike_refl _
  | pause target => exact clampStep_setUclamp rfl fun id => rfl
  | resume target => exact .kept rfl fun id => alike_ite ⟨rfl, rfl, rfl⟩
  | close target => exact .kept rfl fun id => alike_ite ⟨rfl, rfl, rfl⟩
  | updateTargetWorkDuration target targetDurationNanos =>
    exact .kept rfl fun id => alike_ite ⟨rfl, rfl, rfl⟩
  | reportActualWorkDuration target actualDurations =>
    exact .kept rfl fun id =>
      alike_ite ⟨AppHintDesc.threadIds_reportPid .., AppHintDesc.currentMin_reportPid .., rfl⟩

theorem clampStep_step {event : PowerHal.Event} (hstep : s.step p event = some s') :
    ClampStep s s' := by
  have hsame {s'' : PowerHal} (hcreated : s''.created = s.created)
      (hsession : s''.session = s.session) : ClampStep s s'' :=
    .kept hcreated fun id => hsession ▸ alike_refl _
  refine step_preserves (ClampStep s) hstep (hsame rfl rfl) ?_ ?_ ?_ ?_ ?_
  · exact fun _ => hsame rfl rfl
  · exact fun call _ _ _ _ => clampStep_begin call
  · intro _ hbinder
    cases hbinder with
    | createBoost | resumeBoost | closeReset | reportBoost =>
      exact clampStep_setUclamp rfl fun id => rfl
    | pauseStore | reportTimer =>
      exact .kept rfl fun id => alike_ite ⟨rfl, rfl, rfl⟩
    | _ => exact hsame rfl rfl
  · exact fun _ _ _ _ _ _ => hsame rfl rfl
  · intro _ hlooper
    cases hlooper with
    | staleReset => exact clampStep_setUclamp rfl fun id => rfl
    | staleClear => exact .kept rfl fun id => alike_ite ⟨rfl, rfl, rfl⟩
    | _ => exact hsame rfl rfl

end Step

structure ClampsFollowed (k : Kernel) : Prop where
  unused : ∀ id, k.hal.created ≤ id → (k.hal.session id).desc.threadIds = []
  follows : ∀ tid id, (k.hal.session id).Clamps tid →
    ∃ id', (k.hal.session id').Clamps tid ∧
      k.utilMin tid = some (k.hal.session id').desc.currentMin

section Kernel

open Kernel

variable {k : Kernel} {s s' : PowerHal}

theorem issued_eq_nil
    (h : ∀ id, (s'.session id).schedAttrs = (s.session id).schedAttrs ∨
      (s'.session id).schedAttrs = []) : issued s s' = [] := by
  rw [issued, List.flatMap_eq_nil_iff]
  intro id _
  rcases h id with heq | heq <;> simp [heq]

theorem flatMap_range_ite (attrs : List SchedAttr) (target n : Nat) :
    ((List.range n).flatMap fun id => if id = target then attrs else []) =
      if target < n then attrs else [] := by
  induction n with
  | zero => rfl
  | succ n ih =>
    rw [List.range_succ, List.flatMap_append, ih, List.flatMap_singleton]
    by_cases hlt : target < n
    · rw [if_pos hlt, if_neg (by omega), if_pos (by omega), List.append_nil]
    · by_cases heq : n = target
      · rw [if_neg hlt, if_pos heq, if_pos (by omega), List.nil_append]
      · rw [if_neg hlt, if_neg heq, if_neg (by omega), List.nil_append]

theorem issued_of_target {target : SessionId} {attrs : List SchedAttr}
    (hcreated : s'.created ≤ target → attrs = [])
    (htarget : (s'.session target).schedAttrs = (s.session target).schedAttrs ++ attrs)
    (hother : ∀ id, id ≠ target → (s'.session id).schedAttrs = (s.session id).schedAttrs) :
    issued s s' = attrs := by
  have hterm : ∀ id, (s'.session id).schedAttrs.drop (s.session id).schedAttrs.length =
      if id = target then attrs else [] := by
    intro id
    split
    · rename_i hid
      rw [hid, htarget, List.drop_left]
    · rename_i hid
      rw [hother id hid, List.drop_length]
  simp only [issued, hterm, flatMap_range_ite]
  split
  · rfl
  · rename_i hnot
    exact (hcreated (by omega)).symm

theorem clamps_of_alike {session session' : PowerHintSession} (h : Alike session session')
    (tid : Tid) : session'.Clamps tid ↔ session.Clamps tid := by
  rw [PowerHintSession.Clamps, PowerHintSession.Clamps, h.threadIds, h.schedAttrs]

theorem utilMin_append_map (k : Kernel) (hal : PowerHal) (tids : List Tid) (min max : Int)
    (tid : Tid) :
    Kernel.utilMin ⟨hal, k.schedAttrs ++ tids.map fun tid => ⟨tid, min, max⟩⟩ tid =
      if tid ∈ tids then some min else k.utilMin tid := by
  simp only [Kernel.utilMin, List.map_append, List.map_map]
  exact History.lastSet_append_map _ tids min tid

theorem clampsFollowed_kept (h : ClampsFollowed k) (hcreated : s'.created = k.hal.created)
    (hother : ∀ id, Alike (k.hal.session id) (s'.session id)) :
    ClampsFollowed ⟨s', k.schedAttrs ++ issued k.hal s'⟩ := by
  rw [issued_eq_nil fun id => .inl (hother id).schedAttrs, List.append_nil]
  refine ⟨?_, ?_⟩
  · intro id hid
    exact (hother id).threadIds.trans (h.unused id (hcreated ▸ hid))
  · intro tid id hid
    obtain ⟨id', hid', hmin⟩ := h.follows tid id ((clamps_of_alike (hother id) tid).mp hid)
    refine ⟨id', (clamps_of_alike (hother id') tid).mpr hid', ?_⟩
    rw [(hother id').currentMin]
    exact hmin

theorem clampsFollowed_creates (h : ClampsFollowed k) (hcreated : s'.created = k.hal.created + 1)
    (hnew : (s'.session k.hal.created).schedAttrs = [])
    (hother : ∀ id, id ≠ k.hal.created → Alike (k.hal.session id) (s'.session id)) :
    ClampsFollowed ⟨s', k.schedAttrs ++ issued k.hal s'⟩ := by
  have hissued : issued k.hal s' = [] := by
    refine issued_eq_nil fun id => ?_
    by_cases hid : id = k.hal.created
    · exact .inr (hid ▸ hnew)
    · exact .inl (hother id hid).schedAttrs
  rw [hissued, List.append_nil]
  refine ⟨?_, ?_⟩
  · intro id (hid : s'.created ≤ id)
    exact (hother id (by omega)).threadIds.trans (h.unused id (by omega))
  · intro tid id (hid : (s'.session id).Clamps tid)
    have hne : id ≠ k.hal.created := by
      rintro rfl
      exact hid.2 hnew
    obtain ⟨id', hid', hmin⟩ := h.follows tid id ((clamps_of_alike (hother id hne) tid).mp hid)
    -- The entry of the new session listed no thread before.
    have hne' : id' ≠ k.hal.created := by
      rintro rfl
      exact absurd hid'.1 (by simp [h.unused _ le_rfl])
    refine ⟨id', (clamps_of_alike (hother id' hne') tid).mpr hid', ?_⟩
    rw [(hother id' hne').currentMin]
    exact hmin

theorem clampsFollowed_sets (h : ClampsFollowed k) {target : SessionId} {min : Int}
    (hcreated : s'.created = k.hal.created)
    (htarget : s'.session target = (k.hal.session target).setUclamp min maxUclampValue)
    (hother : ∀ id, id ≠ target → Alike (k.hal.session id) (s'.session id)) :
    ClampsFollowed ⟨s', k.schedAttrs ++ issued k.hal s'⟩ := by
  have hthreads : (s'.session target).desc.threadIds = (k.hal.session target).desc.threadIds := by
    rw [htarget]
    rfl
  have hattrs : (s'.session target).schedAttrs = (k.hal.session target).schedAttrs ++
      (k.hal.session target).desc.threadIds.map fun tid =>
        ⟨tid, (s'.session target).desc.currentMin, max (s'.session target).desc.currentMin
          (max 0 maxUclampValue)⟩ := by
    rw [htarget]
    rfl
  have hissued := issued_of_target (fun hid => by rw [h.unused target (hcreated ▸ hid)]; rfl)
    hattrs fun id hid => (hother id hid).schedAttrs
  rw [hissued]
  refine ⟨?_, ?_⟩
  · intro id (hid : s'.created ≤ id)
    rw [hcreated] at hid
    by_cases hne : id = target
    · rw [hne] at hid ⊢
      exact hthreads.trans (h.unused target hid)
    · exact (hother id hne).threadIds.trans (h.unused id hid)
  · intro tid id (hid : (s'.session id).Clamps tid)
    rw [utilMin_append_map]
    split
    · -- The target has set the thread just now.
      rename_i hmem
      refine ⟨target, ⟨hthreads.symm ▸ hmem, ?_⟩, rfl⟩
      intro hnil
      have hempty := (List.append_eq_nil_iff.mp (hattrs.symm.trans hnil)).2
      rw [List.map_eq_nil_iff] at hempty
      rw [hempty] at hmem
      cases hmem
    · rename_i hmem
      have hne (id' : SessionId) (hlisted : tid ∈ (s'.session id').desc.threadIds) :
          id' ≠ target := by
        rintro rfl
        exact hmem (hthreads ▸ hlisted)
      obtain ⟨id', hid', hmin⟩ :=
        h.follows tid id ((clamps_of_alike (hother id (hne id hid.1)) tid).mp hid)
      have hne' : id' ≠ target := by
        rintro rfl
        exact hmem hid'.1
      refine ⟨id', (clamps_of_alike (hother id' hne') tid).mpr hid', ?_⟩
      rw [(hother id' hne').currentMin]
      exact hmin

theorem clampsFollowed_step {p : Platform} {k' : Kernel} {event : PowerHal.Event}
    (h : ClampsFollowed k) (hstep : k.step p event = some k') : ClampsFollowed k' := by
  obtain ⟨hal, hhal, rfl⟩ := Option.map_eq_some_iff.mp hstep
  cases clampStep_step hhal with
  | kept hcreated hother => exact clampsFollowed_kept h hcreated hother
  | sets target min hcreated htarget hother => exact clampsFollowed_sets h hcreated htarget hother
  | creates hcreated hnew hother => exact clampsFollowed_creates h hcreated hnew hother

end Kernel

/-- **Shared threads.**  In every state of every run, the clamp last requested for a thread is
the minimum of one of the sessions that list it, and that of all of them exactly if their
minimums are the same.  So a thread of one session follows that session; of two sessions with
different minimums one has its boost overwritten. -/
theorem shared_thread_clamp_iff (p : Platform) (k : Kernel)
    (hrun : Reach (Kernel.step p) Free Kernel.init k) (tid : Tid) :
    ((∃ id, (k.hal.session id).Clamps tid) → ∃ id, (k.hal.session id).Clamps tid ∧
        k.utilMin tid = some (k.hal.session id).desc.currentMin) ∧
    ((∀ id, (k.hal.session id).Clamps tid →
        k.utilMin tid = some (k.hal.session id).desc.currentMin) ↔
      ∀ id id', (k.hal.session id).Clamps tid → (k.hal.session id').Clamps tid →
        (k.hal.session id).desc.currentMin = (k.hal.session id').desc.currentMin) := by
  have h : ClampsFollowed k := by
    refine hrun.invariant ClampsFollowed ?_ ?_
    · exact ⟨fun _ _ => rfl, fun tid id hid => by cases hid.1⟩
    · exact fun _ _ _ hbefore _ hstep => clampsFollowed_step hbefore hstep
  refine ⟨fun ⟨id, hid⟩ => h.follows tid id hid, ?_, ?_⟩
  · intro happlied id id' hid hid'
    exact Option.some.inj ((happlied id hid).symm.trans (happlied id' hid'))
  · intro hagree id hid
    obtain ⟨id', hid', hmin⟩ := h.follows tid id hid
    rw [hmin, hagree id id' hid hid']

/-- Two sessions list a thread and the second one is paused: the thread has no clamp, while
the first session is active with the highest minimum. -/
theorem shared_thread_clamp_iff_paused :
    ∃ k, exec (Kernel.step .default) Free Kernel.init
        [.call (.createHintSession [7] 16000000), .binder, .binder,
          .call (.createHintSession [7, 8] 16000000), .binder, .binder, .call (.pause 1)] =
        some k ∧
      (k.hal.session 0).desc.isActive = true ∧ (k.hal.session 0).desc.currentMin = 384 ∧
      k.utilMin 7 = some 0 ∧
      ¬∀ id, (k.hal.session id).Clamps 7 →
        k.utilMin 7 = some (k.hal.session id).desc.currentMin := by
  refine ⟨_, rfl, rfl, rfl, rfl, ?_⟩
  rw [(shared_thread_clamp_iff .default _ (reach_of_exec
    [.call (.createHintSession [7] 16000000), .binder, .binder,
      .call (.createHintSession [7, 8] 16000000), .binder, .binder, .call (.pause 1)] rfl) 7).2]
  intro hagree
  have hsame := hagree 0 1 ⟨by decide, by decide⟩ ⟨by decide, by decide⟩
  revert hsame
  decide

end Exynos9810.Power
