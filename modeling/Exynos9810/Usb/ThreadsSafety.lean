import Exynos9810.Usb.Threads

/-!
# What the mutexes protect

`mRoleSwitchLock` makes the writers of the role nodes take turns, and `mLock` keeps
`mCallback` between the test for null and the notification.
-/
namespace Exynos9810.Usb.Threads

open LockedThreads Transition

abbrev Service := State Tid Mutex Act Process

def Service.init : Service :=
  State.start Process.init

def Act.writesRole : Act → Bool
  | .fputsRole _ | .fputsMode _ | .switchToDrp _ | .drpLoop _ => true
  | _ => false

def Act.assignsCallback : Act → Bool
  | .setCallback _ | .create => true
  | _ => false

def Notification.request : Notification → Option Call
  | .portStatusChange _ _ => none
  | .roleSwitch request _ => some (.switchRole request)
  | .queryPortStatus transactionId => some (.queryPortStatus transactionId)
  | .enableUsbData portName enable _ transactionId =>
    some (.enableUsbData portName enable transactionId)
  | .enableUsbDataWhileDocked portName transactionId =>
    some (.enableUsbDataWhileDocked portName transactionId)
  | .resetUsbPort portName transactionId => some (.resetUsbPort portName transactionId)
  | .limitPowerTransfer portName transactionId =>
    some (.limitPowerTransfer portName transactionId)
  | .contaminantEnabled portName transactionId =>
    some (.enableContaminantPresenceDetection portName transactionId)

def Act.due : Act → Option Call
  | .openRole request | .fputsRole request | .readRole request | .fputsMode request
  | .timedwait request | .wake request | .decide request _ => some (.switchRole request)
  | .writeUsbData portName enable transactionId =>
    some (.enableUsbData portName enable transactionId)
  | .ifCallback n | .notify n => n.request
  | _ => none

def dues (block : Block) : List Call :=
  block.filterMap fun
    | .act a => a.due
    | _ => none

/-- A block does not come to use `mCallback` without testing it, and answers nothing
that depends on a `tryLock`. -/
def Tests (block : Block) : Prop :=
  (∀ n, .act (.notify n) ∉ block) ∧ ∀ l taken, .tryLock l taken ∈ block → taken.due = none

/-- What an act does to the callback and to the log, and what is left to answer. -/
inductive Effect (t : Tid) (a : Act) (s : Process) : Process × Block → Prop
  | other {s' : Process} {block : Block} (suffix : List Action) (hlog : s'.log = s.log ++ suffix)
      (hsuffix : suffix = [] ∨
        (a.writesRole = true ∧ ∃ node text, suffix = [.put t node text]) ∨
        ∃ enable, suffix = [.putUsbData t enable])
      (hcallback : s'.mCallback = s.mCallback)
      (hended : s'.ended = s.ended ∨ ∃ fault, s'.ended = some (.fault fault))
      (hdues : dues block = a.due.toList) (htests : Tests block) : Effect t a s (s', block)
  | registered {s' : Process} {block : Block} (hassigns : a.assignsCallback = true)
      (hlog : s'.log = s.log ++ [.registered s'.mCallback]) (hended : s'.ended = s.ended)
      (hdues : dues block = []) (htests : Tests block) : Effect t a s (s', block)
  | found {n : Notification} (ha : a = .ifCallback n) (hcallback : s.mCallback.isSome) :
      Effect t a s (s, [.act (.notify n)])
  | skipped {n : Notification} (ha : a = .ifCallback n) :
      Effect t a s (s.record (.skipped t n), [])
  | notified {n : Notification} {callback : Nat} (ha : a = .notify n)
      (hcallback : s.mCallback = some callback) :
      Effect t a s (s.record (.notified callback t n), [])
  | crashed {n : Notification} (ha : a = .notify n) (hcallback : s.mCallback = none) :
      Effect t a s ({ s with ended := some .nullCallback }, [])

section Effects

theorem tests_answerRole (request : RoleRequest) (roleSwitch : Bool) :
    Tests (answerRole request roleSwitch) := by
  simp [Tests, answerRole, notifies]

theorem tests_failedMode (request : RoleRequest) : Tests (failedMode request) := by
  simp [Tests, failedMode, answerRole, notifies]

theorem tests_body (c : Call) : Tests (body c) := by
  cases c <;> simp [Tests, body, notifies, queryVersionHelper]

theorem tests_scan (segments : List (List Char)) : Tests (Process.scan segments) := by
  cases segments with
  | nil => simp [Tests, Process.scan]
  | cons segment rest =>
    rw [Process.scan]
    split_ifs <;> simp [Tests, queryVersionHelper]

theorem dues_scan (segments : List (List Char)) : dues (Process.scan segments) = [] := by
  cases segments with
  | nil => rfl
  | cons segment rest =>
    rw [Process.scan]
    split_ifs <;> rfl

variable {t : Tid} {a : Act} {s : Process}

theorem Effect.silent {s' : Process} {block : Block} (hlog : s'.log = s.log)
    (hcallback : s'.mCallback = s.mCallback) (hended : s'.ended = s.ended)
    (hdues : dues block = a.due.toList) (htests : Tests block) : Effect t a s (s', block) :=
  .other [] (by rw [hlog, List.append_nil]) (.inl rfl) hcallback (.inl hended) hdues htests

theorem Effect.wrote (ha : a.writesRole = true) {s' : Process} {block : Block}
    (hs' : s'.log = s.log ∨ ∃ node text, s'.log = s.log ++ [.put t node text])
    (hcallback : s'.mCallback = s.mCallback) (hended : s'.ended = s.ended)
    (hdues : dues block = a.due.toList) (htests : Tests block) : Effect t a s (s', block) := by
  rcases hs' with hlog | ⟨node, text, hlog⟩
  · exact .silent hlog hcallback hended hdues htests
  · exact .other [.put t node text] hlog (.inr (.inl ⟨ha, node, text, rfl⟩)) hcallback
      (.inl hended) hdues htests

theorem effect_setCallback (t : Tid) (s : Process) (inCallback : Option Nat) :
    Effect t (.setCallback inCallback) s (s.setCallback inCallback) := by
  refine .registered rfl rfl rfl ?_ ?_
  · split_ifs <;> rfl
  · split_ifs <;> simp [Tests]

theorem effect_create (t : Tid) (s : Process) (o : Outcome) :
    Effect t .create s (s.create o) := by
  rw [Process.create]
  split
  · exact .silent rfl rfl rfl rfl (by simp [Tests])
  · exact .registered rfl rfl rfl rfl (by simp [Tests])

theorem effect_queryVersionHelper (t : Tid) (s : Process) (o : Outcome) (byWorker : Bool) :
    Effect t (.queryVersionHelper byWorker) s (s.queryVersionHelper o byWorker) := by
  unfold Process.queryVersionHelper
  split
  · rename_i fault _
    exact .other [] (List.append_nil _).symm (.inl rfl) rfl (.inr ⟨fault, rfl⟩) rfl
      (by simp [Tests])
  · cases byWorker
    · exact .silent rfl rfl rfl rfl (by simp [Tests, Process.queried, Act.due])
    · exact .silent rfl rfl rfl rfl (by simp [Tests, Process.queried, Act.due])

theorem effect_drpLoop (t : Tid) (s : Process) (o : Outcome) (portNames : List Text) :
    Effect t (.drpLoop portNames) s (s.drpLoop o t portNames) := by
  cases portNames with
  | nil => exact .silent rfl rfl rfl rfl (by simp [Tests])
  | cons portName rest =>
    rw [Process.drpLoop]
    refine .wrote rfl ?_ ?_ ?_ rfl (by simp [Tests]) <;> split
    · exact .inl rfl
    · exact .inr ⟨_, _, rfl⟩
    all_goals rfl

theorem effect_putRole (ha : a.writesRole = true) (o : Outcome) (request : RoleRequest)
    {block : Block} (hdues : dues block = a.due.toList) (htests : Tests block) {s' : Process}
    (hs' : s'.log = s.log ∧ s'.mCallback = s.mCallback ∧ s'.ended = s.ended) :
    Effect t a s (s'.putRole o t request, block) := by
  rw [Process.putRole]
  split
  · exact .wrote ha (.inr ⟨_, _, by rw [← hs'.1]; rfl⟩) hs'.2.1 hs'.2.2 hdues htests
  · exact .silent hs'.1 hs'.2.1 hs'.2.2 hdues htests

theorem effect_perform {o : Outcome} {next : Process × Block}
    (h : Process.perform t a o s = some next) : Effect t a s next := by
  cases a with
  | setCallback inCallback =>
    cases h
    exact effect_setCallback t s inCallback
  | kill =>
    simp only [Process.perform, Process.kill] at h
    split_ifs at h <;> cases h <;> exact .silent rfl rfl rfl rfl (by simp [Tests])
  | join =>
    simp only [Process.perform] at h
    split at h <;> cases h
    exact .silent rfl rfl rfl rfl (by simp [Tests])
  | create =>
    cases h
    exact effect_create t s o
  | openSocket | test =>
    cases h
    split <;> exact .silent rfl rfl rfl rfl (by simp [Tests])
  | epollWait =>
    simp only [Process.perform, Process.epollWait] at h
    split_ifs at h <;> cases h <;> exact .silent rfl rfl rfl rfl (by simp [Tests])
  | recv =>
    cases h
    rw [Process.recv]
    split <;> exact .silent rfl rfl rfl rfl (by simp [Tests])
  | scan segments =>
    cases h
    exact .silent rfl rfl rfl (dues_scan segments) (tests_scan segments)
  | queryVersionHelper byWorker =>
    cases h
    exact effect_queryVersionHelper t s o byWorker
  | drpLoop portNames =>
    cases h
    exact effect_drpLoop t s o portNames
  | openRole request =>
    cases h
    unfold Process.openRole
    split
    · split
      · exact .silent rfl rfl rfl rfl (by simp [Tests])
      · exact .silent rfl rfl rfl rfl (tests_failedMode request)
    all_goals
      split
      · exact .silent rfl rfl rfl rfl (by simp [Tests])
      · exact .silent rfl rfl rfl rfl (tests_answerRole request false)
  | fputsRole request =>
    cases h
    refine effect_putRole rfl o request ?_ ?_ ⟨rfl, rfl, rfl⟩
    · split <;> rfl
    · split
      · exact tests_answerRole request false
      · simp [Tests]
  | readRole request =>
    cases h
    unfold Process.readRole
    split <;> exact .silent rfl rfl rfl rfl (tests_answerRole request _)
  | fputsMode request =>
    cases h
    refine effect_putRole rfl o request ?_ ?_ ⟨rfl, rfl, rfl⟩
    · split <;> rfl
    · split
      · simp [Tests, failedMode, answerRole, notifies]
      · simp [Tests]
  | decide request err =>
    cases h
    cases err with
    | timedOut =>
      exact .silent rfl rfl rfl rfl (by
        simp [Tests, Process.decide, failedMode, answerRole, notifies])
    | awake =>
      rw [Process.decide]
      split
      · exact .silent rfl rfl rfl rfl (by simp [Tests, answerRole, notifies])
      · exact .silent rfl rfl rfl rfl (by simp [Tests])
  | switchToDrp portName =>
    cases h
    refine .wrote rfl ?_ ?_ ?_ rfl (by simp [Tests]) <;> split
    · exact .inr ⟨_, _, rfl⟩
    · exact .inl rfl
    all_goals rfl
  | writeUsbData portName enable transactionId =>
    cases h
    rw [Process.writeUsbData]
    cases o.ok with
    | false => exact .silent rfl rfl rfl rfl (by simp [Tests])
    | true =>
      exact .other [.putUsbData t enable] rfl (.inr (.inr ⟨enable, rfl⟩)) rfl (.inl rfl) rfl
        (by simp [Tests])
  | ifCallback n =>
    cases h
    rw [Process.ifCallback]
    split
    · rename_i hfound
      exact .found rfl (Bool.and_eq_true_iff.mp hfound).1
    · exact .skipped rfl
  | notify n =>
    cases h
    unfold Process.notify
    split
    · rename_i callback hcallback
      exact .notified rfl hcallback
    · rename_i hcallback
      exact .crashed rfl hcallback
  | enter | partnerUp | exit | timedwait | wake =>
    cases h
    exact .silent rfl rfl rfl rfl (by simp [Tests])

theorem environment_keeps {e : Environment} {s' : Process}
    (h : Process.environment e s = some s') :
    s'.log = s.log ∧ s'.mCallback = s.mCallback ∧ s'.ended = s.ended := by
  cases e with
  | uevent msg =>
    cases h
    exact ⟨rfl, rfl, rfl⟩
  | signal =>
    simp only [Process.environment] at h
    split at h <;> cases h
    exact ⟨rfl, rfl, rfl⟩

end Effects

section Exclusion

theorem mem_held_of_writesRole {a : Act} {held : List Mutex} (h : a.writesRole = true)
    (hsite : a.site held) : Mutex.mRoleSwitchLock ∈ held := by
  cases a <;> cases h <;> cases hsite <;> simp

theorem mem_held_of_assignsCallback {a : Act} {held : List Mutex} (h : a.assignsCallback = true)
    (hsite : a.site held) : Mutex.mLock ∈ held := by
  cases a <;> cases h <;> cases hsite <;> simp

end Exclusion

/-- **Role nodes.**  Whatever the threads do, and in whatever order: when a thread
writes a role node, the last thing that has happened to `mRoleSwitchLock` is that this
thread has taken it. -/
theorem role_nodes_exclusive (s s' : Service)
    (hreach : Reach machine.step Free Service.init s) (event : Event Tid Outcome Call Environment)
    (hstep : machine.step s event = some s') (t : Tid) (node text : Text)
    (hput : s'.shared.log = s.shared.log ++ [.put t node text]) :
    (∃ o, event = .run t o) ∧ TookLast .mRoleSwitchLock t s.trace := by
  have hown := owned_of_reach sound hreach
  have htraced := traced_of_reach hreach
  cases event with
  | run t' o =>
    simp only [Machine.step] at hstep
    split at hstep
    · rcases Machine.run_cases hstep with ⟨hshared, -⟩ | ⟨a, k, next, hrest, hperform, hshared, -⟩
      · rw [hshared] at hput
        simp at hput
      · rw [hshared] at hput
        cases effect_perform hperform with
        | other suffix hlog hsuffix =>
          rw [hlog] at hput
          have hsuffix' := List.append_cancel_left hput
          rcases hsuffix with rfl | ⟨hwrites, node', text', rfl⟩ | ⟨enable, rfl⟩
          · cases hsuffix'
          · cases hsuffix'
            refine ⟨⟨o, rfl⟩, htraced _ _ ((hown.owner _ _).mpr ?_)⟩
            have hlocked := hown.locked t
            rw [hrest] at hlocked ⊢
            exact mem_held_of_writesRole hwrites hlocked.1
          · cases hsuffix'
        | registered _ hlog =>
          rw [hlog] at hput
          cases List.append_cancel_left hput
        | found => simp at hput
        | skipped => cases List.append_cancel_left hput
        | notified => cases List.append_cancel_left hput
        | crashed => simp at hput
    · cases hstep
  | call t' c =>
    simp only [Machine.step] at hstep
    split at hstep
    · obtain ⟨next, hcall, rfl⟩ := Option.map_eq_some_iff.mp hstep
      rcases call_cases hcall with ⟨-, -, -, rfl⟩ | ⟨n, -, -, rfl⟩
      · simp at hput
      · cases List.append_cancel_left hput
    · cases hstep
  | environment e =>
    obtain ⟨shared, henvironment, rfl⟩ := Option.map_eq_some_iff.mp hstep
    rw [(environment_keeps henvironment).1] at hput
    simp at hput

/-- A data role is written by the call that has taken the mutex. -/
theorem role_nodes_exclusive_host :
    ∃ s s', exec machine.step Free Service.init
        [.call (.binder 0) (.switchRole ⟨"port0".toList, .dataRole .host, 7⟩),
          .run (.binder 0) {}, .run (.binder 0) {}] = some s ∧
      machine.step s (.run (.binder 0) {}) = some s' ∧
      s'.shared.log = s.shared.log ++
        [.put (.binder 0) "/sys/class/typec/port0/data_role".toList "host".toList] ∧
      TookLast .mRoleSwitchLock (.binder 0) s.trace := by
  refine ⟨_, _, rfl, rfl, rfl, ?_⟩
  exact (role_nodes_exclusive _ _ (reach_of_exec
    [.call (.binder 0) (.switchRole ⟨"port0".toList, .dataRole .host, 7⟩),
      .run (.binder 0) {}, .run (.binder 0) {}] rfl) (.run (.binder 0) {}) rfl (.binder 0)
    "/sys/class/typec/port0/data_role".toList "host".toList rfl).2

def registeredCallback (log : List Action) : Option Nat :=
  log.foldl (fun callback action =>
    match action with
    | .registered callback => callback
    | _ => callback) none

section Callback

theorem registeredCallback_concat (log : List Action) (action : Action) :
    registeredCallback (log ++ [action]) =
      match action with
      | .registered callback => callback
      | _ => registeredCallback log := by
  rw [registeredCallback, List.foldl_append]
  rfl

structure LogHeeded (s : Process) : Prop where
  current : s.mCallback = registeredCallback s.log
  notified : ∀ past callback t n, past ++ [.notified callback t n] <+: s.log →
    registeredCallback past = some callback
  lives : s.ended ≠ some .nullCallback

theorem LogHeeded.congr {s s' : Process} (h : LogHeeded s) (hlog : s'.log = s.log)
    (hcallback : s'.mCallback = s.mCallback) (hended : s'.ended ≠ some .nullCallback) :
    LogHeeded s' := by
  refine ⟨?_, ?_, hended⟩
  · rw [hcallback, hlog, h.current]
  · rw [hlog]
    exact h.notified

theorem LogHeeded.concat {s s' : Process} (h : LogHeeded s) {action : Action}
    (hlog : s'.log = s.log ++ [action])
    (haction : ∀ callback t n, action ≠ .notified callback t n)
    (hcallback : s'.mCallback = registeredCallback (s.log ++ [action]))
    (hended : s'.ended ≠ some .nullCallback) : LogHeeded s' := by
  refine ⟨?_, ?_, hended⟩
  · rw [hlog, hcallback]
  · intro past callback t n hpast
    rw [hlog] at hpast
    rcases List.prefix_concat_iff.mp hpast with heq | hfront
    · have hlast := (List.append_inj' heq rfl).2
      exact absurd (List.singleton_inj.mp hlast).symm (haction callback t n)
    · exact h.notified past callback t n hfront

theorem logHeeded_effect {t : Tid} {a : Act} {s : Process} {next : Process × Block}
    (h : LogHeeded s) (heffect : Effect t a s next)
    (hnotify : ∀ n, a = .notify n → s.mCallback.isSome) : LogHeeded next.1 := by
  cases heffect with
  | @other s' block suffix hlog hsuffix hcallback hended =>
    have hlives : s'.ended ≠ some .nullCallback := by
      rcases hended with hended | ⟨fault, hended⟩
      · rw [hended]
        exact h.lives
      · rw [hended]
        simp
    rcases hsuffix with rfl | ⟨-, node, text, rfl⟩ | ⟨enable, rfl⟩
    · exact h.congr (by rw [hlog, List.append_nil]) hcallback hlives
    · refine h.concat hlog (by simp) ?_ hlives
      rw [registeredCallback_concat, hcallback, h.current]
    · refine h.concat hlog (by simp) ?_ hlives
      rw [registeredCallback_concat, hcallback, h.current]
  | registered _ hlog hended =>
    refine h.concat hlog (by simp) ?_ (by rw [hended]; exact h.lives)
    rw [registeredCallback_concat]
  | found => exact h
  | skipped =>
    refine h.concat rfl (by simp) ?_ h.lives
    rw [registeredCallback_concat]
    exact h.current
  | @notified n callback _ hcallback =>
    refine ⟨?_, ?_, h.lives⟩
    · dsimp only [Process.record]
      rw [registeredCallback_concat]
      exact h.current
    · intro past callback' t' n' hpast
      rcases List.prefix_concat_iff.mp hpast with heq | hfront
      · obtain ⟨rfl, hlast⟩ := List.append_inj' heq rfl
        cases hlast
        rw [← h.current, hcallback]
      · exact h.notified past callback' t' n' hfront
  | crashed ha hcallback =>
    have hsome := hnotify _ ha
    rw [hcallback] at hsome
    cases hsome

/-- Besides, a thread that is about to notify has a callback. -/
structure Heeded (s : Service) : Prop where
  log : LogHeeded s.shared
  tested : ∀ t, Tests (s.rest t) ∨
    ∃ n k, s.rest t = .act (.notify n) :: k ∧ Tests k ∧ s.shared.mCallback.isSome

theorem Tests.tail {stmt : Stmt Mutex Act} {k : Block} (h : Tests (stmt :: k)) : Tests k :=
  ⟨fun n hmem => h.1 n (List.mem_cons_of_mem _ hmem),
    fun l taken hmem => h.2 l taken (List.mem_cons_of_mem _ hmem)⟩

theorem Tests.append {block k : Block} (hblock : Tests block) (hk : Tests k) :
    Tests (block ++ k) := by
  constructor
  · intro n hmem
    rcases List.mem_append.mp hmem with hmem | hmem
    · exact hblock.1 n hmem
    · exact hk.1 n hmem
  · intro l taken hmem
    rcases List.mem_append.mp hmem with hmem | hmem
    · exact hblock.2 l taken hmem
    · exact hk.2 l taken hmem

variable {s s' : Service}

/-- What a thread has in front of it is tested, but for a notification at the front. -/
theorem Heeded.tests_tail (h : Heeded s) {t : Tid} {stmt : Stmt Mutex Act} {k : Block}
    (hrest : s.rest t = stmt :: k) : Tests k := by
  rcases h.tested t with htests | ⟨n, k', hrest', htests, -⟩
  · rw [hrest] at htests
    exact htests.tail
  · rw [hrest] at hrest'
    cases hrest'
    exact htests

theorem Heeded.callback (h : Heeded s) {t : Tid} {n : Notification} {k : Block}
    (hrest : s.rest t = .act (.notify n) :: k) : s.shared.mCallback.isSome := by
  rcases h.tested t with htests | ⟨n', k', -, -, hcallback⟩
  · rw [hrest] at htests
    exact absurd List.mem_cons_self (htests.1 n)
  · exact hcallback

theorem not_assigns (hown : Owned discipline s) {t t' : Tid} (hne : t ≠ t') {a : Act}
    {k k' : Block} {n : Notification} (hrest : s.rest t = .act (.notify n) :: k)
    (hrest' : s.rest t' = .act a :: k') : a.assignsCallback = false := by
  by_contra hassigns
  have hlocked := hown.locked t
  have hlocked' := hown.locked t'
  rw [hrest] at hlocked
  rw [hrest'] at hlocked'
  refine hne (hown.eq_of_mem_held (l := .mLock) ?_ ?_)
  · rw [hrest]
    have hsite : Act.site (.notify n) (discipline.held [] k) := hlocked.1
    rcases hsite with hheld | hheld
    · change Mutex.mLock ∈ discipline.held [] k
      simp [hheld]
    · change Mutex.mLock ∈ discipline.held [] k
      simp [hheld]
  · rw [hrest']
    exact mem_held_of_assignsCallback (Bool.not_eq_false _ ▸ hassigns) hlocked'.1

theorem tested_effect {t : Tid} {a : Act} {k : Block} {next : Process × Block} (h : Heeded s)
    (hrest : s.rest t = .act a :: k) (heffect : Effect t a s.shared next) :
    Tests (next.2 ++ k) ∨
      ∃ n k', next.2 ++ k = .act (.notify n) :: k' ∧ Tests k' ∧ next.1.mCallback.isSome := by
  have hk := h.tests_tail hrest
  cases heffect with
  | other _ _ _ _ _ _ htests => exact .inl (htests.append hk)
  | registered _ _ _ _ htests => exact .inl (htests.append hk)
  | @found n _ hcallback => exact .inr ⟨n, k, rfl, hk, hcallback⟩
  | skipped => exact .inl hk
  | notified => exact .inl hk
  | crashed => exact .inl hk

theorem mCallback_isSome_effect {t : Tid} {a : Act} {next : Process × Block}
    (heffect : Effect t a s.shared next) (hassigns : a.assignsCallback = false)
    (hcallback : s.shared.mCallback.isSome) : next.1.mCallback.isSome := by
  cases heffect with
  | other _ _ _ hsame =>
    rw [hsame]
    exact hcallback
  | registered htrue =>
    rw [hassigns] at htrue
    cases htrue
  | found => exact hcallback
  | skipped => exact hcallback
  | notified => exact hcallback
  | crashed => exact hcallback

theorem heeded_run (hown : Owned discipline s) (h : Heeded s) {t : Tid} {o : Outcome}
    (hrun : machine.run s t o = some s') : Heeded s' := by
  rcases Machine.run_cases hrun with ⟨hshared, stmt, k, block, hrest, hstmt, hrest', hblock⟩ |
    ⟨a, k, next, hrest, hperform, hshared, hrest'⟩
  · refine ⟨by rw [hshared]; exact h.log, ?_⟩
    intro t'
    rw [hrest', hshared]
    rcases eq_or_ne t' t with rfl | hne
    · rw [Function.update_self]
      refine .inl (Tests.append ?_ (h.tests_tail hrest))
      rcases hblock with rfl | ⟨l, taken, rfl, rfl⟩
      · simp [Tests]
      · -- An act behind `tryLock` owes the mutex; a notification owes none.
        have hlocked := hown.locked t'
        rw [hrest] at hlocked
        refine ⟨?_, by simp⟩
        intro n hmem
        cases List.mem_singleton.mp hmem
        cases hlocked.1
    · rw [Function.update_of_ne hne]
      exact h.tested t'
  · have heffect := effect_perform hperform
    refine ⟨?_, ?_⟩
    · rw [hshared]
      refine logHeeded_effect h.log heffect ?_
      rintro n rfl
      exact h.callback hrest
    · intro t'
      rw [hrest', hshared]
      rcases eq_or_ne t' t with rfl | hne
      · rw [Function.update_self]
        exact tested_effect h hrest heffect
      · rw [Function.update_of_ne hne]
        rcases h.tested t' with htests | ⟨n, k', hnotify, htests, hcallback⟩
        · exact .inl htests
        · exact .inr ⟨n, k', hnotify, htests, mCallback_isSome_effect heffect
            (not_assigns hown hne hnotify hrest) hcallback⟩

theorem heeded_step (hown : Owned discipline s) (h : Heeded s)
    {event : Event Tid Outcome Call Environment} (hstep : machine.step s event = some s') :
    Heeded s' := by
  cases event with
  | run t o =>
    simp only [Machine.step] at hstep
    split at hstep
    · exact heeded_run hown h hstep
    · cases hstep
  | call t c =>
    simp only [Machine.step] at hstep
    split at hstep
    · obtain ⟨next, hcall, rfl⟩ := Option.map_eq_some_iff.mp hstep
      have hlog : LogHeeded next.1 ∧ next.1.mCallback = s.shared.mCallback ∧ Tests next.2 := by
        rcases call_cases hcall with ⟨-, -, -, rfl⟩ | ⟨n, -, -, rfl⟩
        · exact ⟨h.log.congr rfl rfl h.log.lives, rfl, tests_body .work⟩
        · refine ⟨h.log.concat rfl (by simp) ?_ h.log.lives, rfl, tests_body c⟩
          rw [registeredCallback_concat]
          exact h.log.current
      refine ⟨hlog.1, ?_⟩
      intro t'
      dsimp only
      rcases eq_or_ne t' t with rfl | hne
      · rw [Function.update_self]
        exact .inl hlog.2.2
      · rw [Function.update_of_ne hne, hlog.2.1]
        exact h.tested t'
    · cases hstep
  | environment e =>
    obtain ⟨shared, henvironment, rfl⟩ := Option.map_eq_some_iff.mp hstep
    obtain ⟨hlog, hcallback, hended⟩ := environment_keeps henvironment
    refine ⟨h.log.congr hlog hcallback (by rw [hended]; exact h.log.lives), ?_⟩
    intro t
    dsimp only
    rw [hcallback]
    exact h.tested t

theorem heeded_init : Heeded Service.init := by
  refine ⟨⟨rfl, ?_, by simp [Service.init, State.start, Process.init]⟩, ?_⟩
  · intro past callback t n hpast
    simp [Service.init, State.start, Process.init] at hpast
  · intro t
    exact .inl (by simp [Tests, Service.init, State.start])

theorem heeded_of_reach (hreach : Reach machine.step Free Service.init s) : Heeded s := by
  induction hreach with
  | start => exact heeded_init
  | next before _ hstep ih => exact heeded_step (owned_of_reach sound before) ih hstep

end Callback

/-- **Callback.**  However the calls and the worker interleave, `mCallback` is never null
where it is used, and every notification has gone to the callback that was registered
last. -/
theorem notifications_reach_registered (s : Service)
    (hreach : Reach machine.step Free Service.init s) :
    s.shared.ended ≠ some .nullCallback ∧
      ∀ past callback t n, past ++ [.notified callback t n] <+: s.shared.log →
        registeredCallback past = some callback := by
  have h := heeded_of_reach hreach
  exact ⟨h.log.lives, h.log.notified⟩

theorem notifications_reach_registered_reset :
    ∃ s, exec machine.step Free Service.init
        [.call (.binder 0) (.setCallback (some 5)), .run (.binder 0) {}, .run (.binder 0) {},
          .run (.binder 0) {}, .run (.binder 0) {},
          .call (.binder 1) (.resetUsbPort "port0".toList 7), .run (.binder 1) {},
          .run (.binder 1) {}, .run (.binder 1) {}] = some s ∧
      s.shared.log =
        [.called 0 (.setCallback (some 5)), .registered (some 5),
          .called 1 (.resetUsbPort "port0".toList 7),
          .notified 5 (.binder 1) (.resetUsbPort "port0".toList 7)] ∧
      registeredCallback
        [.called 0 (.setCallback (some 5)), .registered (some 5),
          .called 1 (.resetUsbPort "port0".toList 7)] = some 5 := by
  refine ⟨_, rfl, rfl, ?_⟩
  exact (notifications_reach_registered _ (reach_of_exec
    [.call (.binder 0) (.setCallback (some 5)), .run (.binder 0) {}, .run (.binder 0) {},
      .run (.binder 0) {}, .run (.binder 0) {},
      .call (.binder 1) (.resetUsbPort "port0".toList 7), .run (.binder 1) {},
      .run (.binder 1) {}, .run (.binder 1) {}] rfl)).2 _ 5 (.binder 1)
    (.resetUsbPort "port0".toList 7) (List.prefix_refl _)

end Exynos9810.Usb.Threads
