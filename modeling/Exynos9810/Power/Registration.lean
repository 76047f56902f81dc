import Exynos9810.Power.ActivityHint
import Exynos9810.Power.RefCount

/-!
# The service registers like the registry

Seen from the session manager, a session comes into being when it is added and is
closed when it is removed.  With that view every run of the service is a run of the
registry, and what holds of the reference counts there holds for the service.
-/
namespace Exynos9810.Power

open Transition PowerHal

def BinderPc.adds : BinderPc → Bool
  | .createAdd _ => true
  | _ => false

namespace PowerHal

def sessionObject (s : PowerHal) (id : SessionId) : SessionObject :=
  { threadIds := (s.session id).desc.threadIds
    sessionClosed := (s.session id).sessionClosed && s.binder.unregisters != some id
    alive := true }

def registry (s : PowerHal) : Registry :=
  { manager := s.manager
    objects := (List.range (s.created - s.binder.adds.toNat)).map s.sessionObject }

end PowerHal

/-- Where the binder thread is fits the sessions. -/
structure Registering (s : PowerHal) : Prop where
  adding : ∀ id, s.binder = .createAdd id →
    s.created = id + 1 ∧ (s.session id).sessionClosed = false
  closing : ∀ id, s.binder.unregisters = some id →
    id < s.created ∧ (s.session id).sessionClosed = true

variable {p : Platform} {s s' : PowerHal}

theorem registering_begin {call : Call} (hknown : ∀ id ∈ call.session, id < s.created)
    (hidle : s.binder = .idle) : Registering (s.begin p call) := by
  constructor
  · intro id hpc
    cases call <;> grind [begin, PowerHintSession.new]
  · intro id hpc
    cases call with
    | close target =>
      have hid : target = id := Option.some.inj hpc
      rw [← hid]
      refine ⟨hknown target rfl, ?_⟩
      simp only [begin, binderAt, session_update, if_true]
    | updateTargetWorkDuration =>
      change s.binder.unregisters = some id at hpc
      rw [hidle] at hpc
      cases hpc
    | _ => cases hpc

theorem registering_binderStep (h : Registering s) (hstep : BinderStep p s s') :
    Registering s' := by
  constructor
  · intro id hpc
    have hlater := isFirst_binderStep hstep
    rw [hpc] at hlater
    cases hlater
  · intro id hpc
    rw [sessionClosed_binderStep hstep]
    have hbefore := h.closing id
    cases hstep with
    | closeRemoveMessages hpc' | closeReset hpc' =>
      rw [hpc'] at hbefore
      exact hbefore hpc
    | _ => cases hpc

theorem threadIds_binderStep (hstep : BinderStep p s s') (id : SessionId) :
    (s'.session id).desc.threadIds = (s.session id).desc.threadIds := by
  obtain ⟨_, heq⟩ | ⟨_, _, heq⟩ | ⟨_, heq⟩ | ⟨_, _, _, heq⟩ := session_binderStep hstep id <;>
    exact congrArg (·.desc.threadIds) heq

theorem threadIds_looperStep (hstep : LooperStep p s s') (id : SessionId) :
    (s'.session id).desc.threadIds = (s.session id).desc.threadIds := by
  obtain ⟨_, heq⟩ | ⟨_, heq⟩ | ⟨_, heq⟩ := session_looperStep hstep id <;>
    exact congrArg (·.desc.threadIds) heq

/-- The registry does not change if neither the manager nor its view of the sessions
does. -/
theorem registry_congr (hmanager : s'.manager = s.manager)
    (hcount : s'.created - s'.binder.adds.toNat = s.created - s.binder.adds.toNat)
    (hobjects : ∀ id < s.created - s.binder.adds.toNat, s'.sessionObject id = s.sessionObject id) :
    s'.registry = s.registry := by
  unfold registry
  rw [hmanager, hcount, List.map_congr_left fun id hid => hobjects id (List.mem_range.mp hid)]

theorem sessionClosed_of_not_unregisters {id : SessionId} (h : s.binder.unregisters ≠ some id) :
    (s.sessionObject id).sessionClosed = (s.session id).sessionClosed := by
  unfold sessionObject
  rw [bne_iff_ne.mpr h, Bool.and_true]

theorem sessionClosed_of_unregisters {id : SessionId} (h : s.binder.unregisters = some id) :
    (s.sessionObject id).sessionClosed = false := by
  unfold sessionObject
  rw [h, bne_self_eq_false, Bool.and_false]

theorem sessionObject_congr {id : SessionId}
    (hthreadIds : (s'.session id).desc.threadIds = (s.session id).desc.threadIds)
    (hclosed : (s'.sessionObject id).sessionClosed = (s.sessionObject id).sessionClosed) :
    s'.sessionObject id = s.sessionObject id := by
  unfold sessionObject at hclosed ⊢
  dsimp only at hclosed
  rw [hthreadIds, hclosed]

theorem sessionClosed_begin {call : Call} (hidle : s.binder = .idle)
    (haccepted : s.refusal p call = none) {id : SessionId} (hid : id < s.created) :
    ((s.begin p call).sessionObject id).sessionClosed = (s.sessionObject id).sessionClosed := by
  have hbefore : (s.sessionObject id).sessionClosed = (s.session id).sessionClosed := by
    apply sessionClosed_of_not_unregisters
    rw [hidle]
    nofun
  rw [hbefore]
  cases call with
  | close target =>
    have hpc : (s.begin p (.close target)).binder.unregisters = some target := rfl
    by_cases heq : id = target
    · rw [heq, sessionClosed_of_unregisters hpc]
      rw [refusal] at haccepted
      split at haccepted
      · cases haccepted
      · rename_i hopen
        exact (Bool.eq_false_iff.mpr hopen).symm
    · have hother : (s.begin p (.close target)).binder.unregisters ≠ some id := by
        rw [hpc]
        exact fun hsome => heq (Option.some.inj hsome).symm
      rw [sessionClosed_of_not_unregisters hother]
      simp only [begin, binderAt, session_update, if_neg heq]
  | _ =>
    rw [sessionClosed_of_not_unregisters (by grind [begin, BinderPc.unregisters])]
    grind [begin]

theorem registry_begin {call : Call} (hidle : s.binder = .idle)
    (haccepted : s.refusal p call = none) : (s.begin p call).registry = s.registry := by
  have hcount : (s.begin p call).created - (s.begin p call).binder.adds.toNat =
      s.created - s.binder.adds.toNat := by
    rw [hidle]
    cases call <;> grind [begin, BinderPc.adds]
  refine registry_congr (begin_frame call).1 hcount ?_
  intro id hid
  have hid' : id < s.created := Nat.lt_of_lt_of_le hid (Nat.sub_le _ _)
  refine sessionObject_congr ?_ (sessionClosed_begin hidle haccepted hid')
  cases call <;> grind [begin, AppHintDesc.restartIntegral,
    AppHintDesc.updateTargetWorkDuration]

theorem registry_looperStep (hstep : LooperStep p s s') : s'.registry = s.registry := by
  obtain ⟨_, hmanager, hbinder⟩ := looperStep_frame hstep
  have hcreated := created_looperStep hstep
  refine registry_congr hmanager (by rw [hcreated, hbinder]) ?_
  intro id _
  unfold sessionObject
  rw [threadIds_looperStep hstep, sessionClosed_looperStep hstep, hbinder]

theorem registry_createAdd {id : SessionId} (h : Registering s) (hpc : s.binder = .createAdd id) :
    registryStep p.setTaskProfiles s.registry (.create (s.session id).desc.threadIds) =
      some ((s.addPowerSession p id).binderAt (.createBoost id)).registry := by
  obtain ⟨hcreated, hopen⟩ := h.adding id hpc
  have hbefore : s.registry.objects = (List.range id).map s.sessionObject := by
    unfold registry
    rw [hpc, hcreated]
    rfl
  have hobject : ((s.addPowerSession p id).binderAt (.createBoost id)).sessionObject =
      s.sessionObject := by
    funext i
    unfold sessionObject
    rw [hpc]
    rfl
  have hlast : s.sessionObject id =
      { threadIds := (s.session id).desc.threadIds, sessionClosed := false, alive := true } := by
    unfold sessionObject
    rw [hopen, Bool.false_and]
  have hafter : ((s.addPowerSession p id).binderAt (.createBoost id)).registry.objects =
      (List.range id).map s.sessionObject ++ [s.sessionObject id] := by
    unfold registry
    rw [hobject, show ((s.addPowerSession p id).binderAt (.createBoost id)).created = id + 1
      from hcreated]
    change (List.range (id + 1)).map _ = _
    rw [List.range_succ, List.map_append]
    rfl
  have hlength : s.registry.objects.length = id := by
    rw [hbefore, List.length_map, List.length_range]
  rw [registryStep, hlength, hbefore, ← hlast, ← hafter]
  rfl

theorem map_range_set {f f' : Nat → SessionObject} {count id : Nat}
    (hother : ∀ i, i ≠ id → f' i = f i) :
    (List.range count).map f' = ((List.range count).map f).set id (f' id) := by
  apply List.ext_getElem?
  intro i
  by_cases heq : id = i
  · subst heq
    by_cases hlt : id < count
    · simp [hlt]
    · simp [hlt]
  · rw [List.getElem?_set_ne heq, List.getElem?_map, List.getElem?_map]
    by_cases hlt : i < count
    · rw [List.getElem?_range hlt, Option.map_some, Option.map_some, hother i (Ne.symm heq)]
    · simp [hlt]

theorem registry_closeUnregister {id : SessionId} (h : Registering s)
    (hpc : s.binder = .closeUnregister id) :
    registryStep p.setTaskProfiles s.registry (.close id) =
      some ((s.removePowerSession id).binderAt .post).registry := by
  have hunregisters : s.binder.unregisters = some id := by
    rw [hpc]
    rfl
  obtain ⟨hid, hclosed⟩ := h.closing id hunregisters
  have hbefore : s.registry.objects = (List.range s.created).map s.sessionObject := by
    unfold registry
    rw [hpc]
    rfl
  have hlive : s.registry.live id = some (s.sessionObject id) := by
    unfold Registry.live
    rw [hbefore, List.getElem?_map, List.getElem?_range hid]
    rfl
  have hobject : ((s.removePowerSession id).binderAt .post).sessionObject id =
      { s.sessionObject id with sessionClosed := true } := by
    have hpost : (((s.removePowerSession id).binderAt .post).sessionObject id).sessionClosed =
        (s.session id).sessionClosed := sessionClosed_of_not_unregisters nofun
    rw [hclosed] at hpost
    rw [← hpost]
    rfl
  have hother : ∀ i, i ≠ id →
      ((s.removePowerSession id).binderAt .post).sessionObject i = s.sessionObject i := by
    intro i hi
    refine sessionObject_congr rfl ?_
    have hnot : s.binder.unregisters ≠ some i := by
      rw [hunregisters]
      exact fun heq => hi (Option.some.inj heq).symm
    rw [sessionClosed_of_not_unregisters hnot]
    exact sessionClosed_of_not_unregisters nofun
  change (s.registry.live id).map (s.registry.close id) = _
  rw [hlive, Option.map_some, close_of_open (sessionClosed_of_unregisters hunregisters), hbefore,
    ← hobject, ← map_range_set hother]
  rfl

/-- Every statement of the binder thread is matched by a call of the registry or by
none. -/
theorem registry_binderStep (h : Registering s) (hstep : BinderStep p s s') :
    s'.registry = s.registry ∨
      ∃ call, registryStep p.setTaskProfiles s.registry call = some s'.registry := by
  have hkeep (hmanager : s'.manager = s.manager) (hadds : s'.binder.adds = s.binder.adds)
      (hunregisters : s'.binder.unregisters = s.binder.unregisters) :
      s'.registry = s.registry := by
    refine registry_congr hmanager (by rw [created_binderStep hstep, hadds]) ?_
    intro id _
    unfold sessionObject
    rw [threadIds_binderStep hstep, sessionClosed_binderStep hstep, hunregisters]
  cases hstep with
  | createAdd hpc => exact .inr ⟨_, registry_createAdd h hpc⟩
  | closeUnregister hpc => exact .inr ⟨_, registry_closeUnregister h hpc⟩
  | createBoost hpc | pauseStore hpc | resumeBoost hpc | closeRemoveMessages hpc | closeReset hpc
  | reportTimer hpc | reportBoosts hpc | reportKeeps hpc | reportBoost hpc | post hpc =>
    rw [hpc] at hkeep
    exact .inl (hkeep rfl rfl rfl)

theorem registering_step {event : Event} (h : Registering s) (hstep : s.step p event = some s') :
    Registering s' := by
  refine step_preserves Registering hstep h (fun _ => ⟨h.adding, h.closing⟩) ?_ ?_ ?_ ?_
  · exact fun _ _ hidle hknown _ => registering_begin hknown hidle
  · exact fun _ hbinder => registering_binderStep h hbinder
  · exact fun _ _ _ _ _ _ => ⟨h.adding, h.closing⟩
  · intro _ hlooper
    obtain ⟨_, _, hbinder⟩ := looperStep_frame hlooper
    have hcreated := created_looperStep hlooper
    constructor
    · intro id hpc
      rw [hcreated, sessionClosed_looperStep hlooper]
      exact h.adding id (hbinder ▸ hpc)
    · intro id hpc
      rw [hcreated, sessionClosed_looperStep hlooper]
      exact h.closing id (hbinder ▸ hpc)

theorem registry_step {event : Event} (h : Registering s) (hstep : s.step p event = some s') :
    s'.registry = s.registry ∨
      ∃ call, registryStep p.setTaskProfiles s.registry call = some s'.registry := by
  refine step_preserves (fun s' => s'.registry = s.registry ∨
    ∃ call, registryStep p.setTaskProfiles s.registry call = some s'.registry) hstep
    (.inl rfl) (fun _ => .inl rfl) ?_ ?_ (fun _ _ _ _ _ _ => .inl rfl) ?_
  · exact fun _ _ hidle _ haccepted => .inl (registry_begin hidle haccepted)
  · exact fun _ hbinder => registry_binderStep h hbinder
  · exact fun _ hlooper => .inl (registry_looperStep hlooper)

/-- The registrations of every run of the service are a run of the registry. -/
theorem registry_reachable (hreach : Reach (step p) Free PowerHal.init s) :
    Reach (registryStep p.setTaskProfiles) Free Registry.init s.registry := by
  have hsimulated : ∃ r, Reach (registryStep p.setTaskProfiles) Free Registry.init r ∧
      Registering s ∧ r = s.registry := by
    refine hreach.simulated (fun s r => Registering s ∧ r = s.registry)
      ⟨⟨nofun, nofun⟩, rfl⟩ ?_
    rintro s event s' _ ⟨h, rfl⟩ - hstep
    refine ⟨s'.registry, ?_, registering_step h hstep, rfl⟩
    obtain heq | ⟨call, hcall⟩ := registry_step h hstep
    · rw [heq]
      exact .start
    · exact .next .start trivial hcall
  obtain ⟨_, hregistry, -, rfl⟩ := hsimulated
  exact hregistry

theorem tidRefCountMap_of_exact (h : Exact s.registry) (t : Tid) :
    s.manager.tidRefCountMap t =
      counted (∑ id ∈ s.manager.sessions, (s.session id).desc.threadIds.count t) := by
  rw [show s.manager.tidRefCountMap t = s.registry.manager.tidRefCountMap t from rfl,
    h.tidRefCountMap_eq t]
  congr 1
  apply Finset.sum_congr rfl
  intro id hid
  obtain ⟨object, hobject, _⟩ := (h.consistent.registered id).mp hid
  have hlt : id < s.created - s.binder.adds.toNat := by
    have hlength := (List.getElem?_eq_some_iff.mp hobject).1
    rw [registry, List.length_map, List.length_range] at hlength
    exact hlength
  rw [Registry.threadIds, registry, List.getElem?_map, List.getElem?_range hlt]
  rfl

/-- Between calls the registered sessions are the ones that are not closed. -/
theorem mem_sessions_iff_of_idle (h : Consistent s.registry) (hidle : s.binder = .idle)
    (id : SessionId) :
    id ∈ s.manager.sessions ↔ id < s.created ∧ (s.session id).sessionClosed = false := by
  have hopen : s.binder.unregisters ≠ some id := by
    rw [hidle]
    nofun
  rw [show s.manager = s.registry.manager from rfl, h.registered,
    ← sessionClosed_of_not_unregisters hopen]
  by_cases hid : id < s.created <;> simp [registry, hidle, BinderPc.adds, hid]

/-- **Reference counts of the service.**  With profile calls that succeed, whatever the binder
and the looper thread do: the count of a tid is how often the registered sessions list it,
no turn takes an error branch, and between calls the registered sessions are the open ones. -/
theorem service_counts_references (p : Platform)
    (hprofiles : ∀ call, p.setTaskProfiles call = true) (s : PowerHal)
    (hreach : Reach (step p) Free PowerHal.init s) :
    (∀ t, s.manager.tidRefCountMap t =
      counted (∑ id ∈ s.manager.sessions, (s.session id).desc.threadIds.count t)) ∧
    (∀ turn ∈ s.manager.turns, turn.Ordinary) ∧
    (s.binder = .idle → ∀ id, id ∈ s.manager.sessions ↔
      id < s.created ∧ (s.session id).sessionClosed = false) := by
  have h := exact_of_reach hprofiles (registry_reachable hreach)
  exact ⟨tidRefCountMap_of_exact h, h.ordinary, mem_sessions_iff_of_idle h.consistent⟩

/-- Two sessions share tid 7, and the one that lists it twice is closed. -/
theorem service_counts_references_shared :
    ∃ s, exec (step .default) Free PowerHal.init
        [.call (.createHintSession [7, 8, 7] 16000000), .binder, .binder,
          .call (.createHintSession [7] 16000000), .binder, .binder,
          .call (.close 0), .binder, .binder, .binder, .binder] = some s ∧
      s.binder = .idle ∧ s.manager.tidRefCountMap 7 = some 1 ∧
      s.manager.tidRefCountMap 8 = none ∧ 1 ∈ s.manager.sessions ∧ 0 ∉ s.manager.sessions := by
  refine ⟨_, rfl, rfl, rfl, rfl, ?_⟩
  have hcounts := service_counts_references .default (fun _ => rfl) _ (reach_of_exec
    [.call (.createHintSession [7, 8, 7] 16000000), .binder, .binder,
      .call (.createHintSession [7] 16000000), .binder, .binder,
      .call (.close 0), .binder, .binder, .binder, .binder] rfl)
  exact ⟨(hcounts.2.2 rfl 1).mpr (by decide), (hcounts.2.2 rfl 0).not.mpr (by decide)⟩

end Exynos9810.Power
