import Exynos9810.Usb.ThreadsWorker

/-!
# The threads run `switchMode` as `ModeSwitch` does

A mode switch among the threads is one of `ModeSwitch` from its `fopen` to the answer.
`mRoleSwitchLock` keeps the others from the role nodes and from `mPartnerUp`, which the
worker alone sets by then.
-/
namespace Exynos9810.Usb.Threads

open LockedThreads Transition

/-- The role nodes that have been written, by any thread. -/
def roleWrites (log : List Action) : List (Text × Text) :=
  log.filterMap fun
    | .put _ node text => some (node, text)
    | _ => none

def nodeWrites (log : List SwitchAction) : List (Text × Text) :=
  log.filterMap fun
    | .put node text => some (node, text)
    | _ => none

/-- `mPartnerLock` is held. -/
def inPartnerLock : SwitchPc → Bool
  | .fputs | .timedwait | .decide _ | .unlock _ => true
  | _ => false

/-- `mPartnerUp` has been cleared, and still counts. -/
def watchesPartner : SwitchPc → Bool
  | .timedwait | .waiting | .relock _ | .decide _ => true
  | _ => false

/-- What the thread has in front of it, and where `ModeSwitch` has it. -/
inductive SwitchAt (request : RoleRequest) (k : Block) : Block → SwitchPc → Prop
  | fopen : SwitchAt request k (.act (.openRole request) :: k) .fopen
  | lock : SwitchAt request k (.lock .mPartnerLock :: .act (.fputsMode request) :: k) .lock
  | fputs : SwitchAt request k (.act (.fputsMode request) :: k) .fputs
  | timedwait : SwitchAt request k (.act (.timedwait request) :: k) .timedwait
  | release : SwitchAt request k (.unlock .mPartnerLock :: .act (.wake request) :: k) .timedwait
  | waiting : SwitchAt request k (.act (.wake request) :: k) .waiting
  | relock (err : WaitErr) :
      SwitchAt request k (.lock .mPartnerLock :: .act (.decide request err) :: k) (.relock err)
  | decide (err : WaitErr) : SwitchAt request k (.act (.decide request err) :: k) (.decide err)
  | failed : SwitchAt request k (.unlock .mPartnerLock :: (failedMode request ++ k))
      (.unlock false)
  | succeeded : SwitchAt request k (.unlock .mPartnerLock :: (answerRole request true ++ k))
      (.unlock true)
  | switchToDrp : SwitchAt request k (failedMode request ++ k) .switchToDrp
  | returned (roleSwitch : Bool) :
      SwitchAt request k (answerRole request roleSwitch ++ k) (.returned roleSwitch)

/-- Thread `n` does not go on behind `switchMode`. -/
def Within (n : Nat) (s : Service) : Event Tid Outcome Call Environment → Prop
  | .run (.binder m) _ => m = n → (s.rest (.binder n)).head? ≠ some (.lock .mLock)
  | _ => True

instance (n : Nat) (s : Service) (event : Event Tid Outcome Call Environment) :
    Decidable (Within n s event) := by
  rcases event with ⟨_ | _, _⟩ | _ | _ <;> dsimp only [Within] <;> infer_instance

/-- Thread `n` is where `ModeSwitch` has it.  What has happened counts from `s₀` on. -/
structure Switches (s₀ : Service) (n : Nat) (request : RoleRequest) (k : Block) (s : Service)
    (t : ModeSwitch) : Prop where
  refines : Refines s t.hal
  place : SwitchAt request k (s.rest (.binder n)) t.pc
  lock : t.mPartnerLock = inPartnerLock t.pc
  up : watchesPartner t.pc = true → t.hal.mPartnerUp = s.shared.mPartnerUp
  cleared : t.pc = .fputs → t.hal.mPartnerUp = false
  written : roleWrites s.shared.log = roleWrites s₀.shared.log ++ nodeWrites t.log
  seen : ∃ new, s.trace = s₀.trace ++ new ∧
    (.partnerUp ∈ t.log → (.worker, .act .partnerUp) ∈ new)

/-- `ModeSwitch` follows the threads to `s'`. -/
abbrev SwitchFollows (s₀ : Service) (n : Nat) (request : RoleRequest) (k : Block)
    (t : ModeSwitch) (s' : Service) : Prop :=
  ∃ t', Reach (ModeSwitch.step request.portName request.role) Free t t' ∧
    Switches s₀ n request k s' t'

section Others

variable {t : Tid} {a : Act} {o : Outcome} {p : Process} {next : Process × Block} {s s' : Service}
  {n : Nat}

theorem roleWrites_append (log suffix : List Action) :
    roleWrites (log ++ suffix) = roleWrites log ++ roleWrites suffix :=
  List.filterMap_append

theorem nodeWrites_append (log suffix : List SwitchAction) :
    nodeWrites (log ++ suffix) = nodeWrites log ++ nodeWrites suffix :=
  List.filterMap_append

theorem perform_mPartnerUp (h : Process.perform t a o p = some next)
    (ha : a.writesRole = false) :
    next.1.mPartnerUp = (p.mPartnerUp || a = .partnerUp) := by
  cases a with
  | kill =>
    simp only [Process.perform, Process.kill] at h
    split_ifs at h <;> cases h <;> simp
  | join =>
    simp only [Process.perform] at h
    split_ifs at h
    cases h
    simp
  | create =>
    cases h
    rw [Process.create]
    split <;> simp [Process.record]
  | epollWait =>
    simp only [Process.perform, Process.epollWait] at h
    split_ifs at h <;> cases h <;> simp
  | recv =>
    cases h
    rw [Process.recv]
    split <;> simp
  | queryVersionHelper byWorker =>
    cases h
    unfold Process.queryVersionHelper
    split <;> simp
  | writeUsbData portName enable transactionId =>
    cases h
    rw [Process.writeUsbData]
    dsimp only
    split <;> simp [Process.record]
  | ifCallback n =>
    cases h
    rw [Process.ifCallback]
    split <;> simp [Process.record]
  | notify n =>
    cases h
    unfold Process.notify
    split <;> simp [Process.record]
  | fputsRole | fputsMode | switchToDrp | drpLoop => cases ha
  | _ =>
    cases h
    simp [Process.setCallback, Process.record]

theorem perform_roleWrites (h : Process.perform t a o p = some next)
    (ha : a.writesRole = false) : roleWrites next.1.log = roleWrites p.log := by
  cases effect_perform h with
  | other suffix hlog hsuffix =>
    rw [hlog, roleWrites_append]
    rcases hsuffix with rfl | ⟨hwrites, -⟩ | ⟨enable, rfl⟩
    · exact List.append_nil _
    · rw [ha] at hwrites
      cases hwrites
    · exact List.append_nil _
  | registered _ hlog =>
    rw [hlog, roleWrites_append]
    exact List.append_nil _
  | skipped | notified =>
    rw [Process.record, roleWrites_append]
    exact List.append_nil _
  | found | crashed => rfl

/-- What a step of another thread does while thread `n` has `mRoleSwitchLock`. -/
structure Apart (n : Nat) (s s' : Service) (partner : Bool) : Prop where
  rest : s'.rest (.binder n) = s.rest (.binder n)
  written : roleWrites s'.shared.log = roleWrites s.shared.log
  up : s'.shared.mPartnerUp = (s.shared.mPartnerUp || partner)
  seen : ∃ new, s'.trace = s.trace ++ new ∧
    (partner = true → (.worker, .act .partnerUp) ∈ new)

theorem atPartnerUp_act (a : Act) (k : Block) :
    atPartnerUp (.act a :: k) = decide (a = .partnerUp) := by
  cases a <;> rfl

theorem eq_of_atPartnerUp {block : Block} (h : atPartnerUp block = true) :
    ∃ k, block = .act .partnerUp :: k := by
  unfold atPartnerUp at h
  split at h
  · exact ⟨_, rfl⟩
  · cases h

theorem setsPartnerUp_act {hal : UsbHal} (h : Refines s hal) {k : Block}
    (hrest : s.rest t = .act a :: k) : setsPartnerUp s (.run t o) = decide (a = .partnerUp) := by
  cases t with
  | worker => rw [setsPartnerUp, hrest, atPartnerUp_act]
  | binder m =>
    have hguarded := h.binder m
    rw [hrest] at hguarded
    refine (decide_eq_false ?_).symm
    rintro rfl
    cases (guarded_act hguarded).1

theorem setsPartnerUp_other {stmt : Stmt Mutex Act} {k : Block} (hrest : s.rest t = stmt :: k)
    (hstmt : ∀ a, stmt ≠ .act a) : setsPartnerUp s (.run t o) = false := by
  cases t with
  | worker =>
    rw [setsPartnerUp, hrest]
    cases stmt with
    | act a => exact absurd rfl (hstmt a)
    | _ => rfl
  | binder m => rfl

theorem not_writesRole (hown : Owned discipline s)
    (howner : s.owner .mRoleSwitchLock = some (.binder n)) (hne : t ≠ .binder n) {k : Block}
    (hrest : s.rest t = .act a :: k) : a.writesRole = false := by
  by_contra hwrites
  have hlocked := hown.locked t
  have hmem := (hown.owner .mRoleSwitchLock t).mpr (by
    rw [hrest] at hlocked ⊢
    exact mem_held_of_writesRole (by simpa using hwrites) hlocked.1)
  rw [howner] at hmem
  cases hmem
  exact hne rfl

theorem apart_run {hal : UsbHal} (h : Refines s hal) (hown : Owned discipline s)
    (howner : s.owner .mRoleSwitchLock = some (.binder n)) (hne : t ≠ .binder n)
    (hrun : machine.run s t o = some s') : Apart n s s' (setsPartnerUp s (.run t o)) := by
  have hrest' (block : Block) :
      Function.update s.rest t block (.binder n) = s.rest (.binder n) :=
    Function.update_of_ne hne.symm _ _
  unfold Machine.run at hrun
  split at hrun
  · cases hrun
  · rename_i l k hrest
    rw [setsPartnerUp_other hrest (by simp)]
    split at hrun <;> cases hrun
    exact ⟨hrest' k, rfl, by simp [Machine.take], _, rfl, by simp⟩
  · rename_i l k hrest
    rw [setsPartnerUp_other hrest (by simp)]
    cases hrun
    exact ⟨hrest' k, rfl, by simp, _, rfl, by simp⟩
  · rename_i l taken k hrest
    rw [setsPartnerUp_other hrest (by simp)]
    split at hrun <;> cases hrun
    · exact ⟨hrest' _, rfl, by simp [Machine.take], _, rfl, by simp⟩
    · exact ⟨hrest' k, rfl, by simp, [], (List.append_nil _).symm, by simp⟩
  · rename_i a k hrest
    obtain ⟨next, hperform, rfl⟩ := Option.map_eq_some_iff.mp hrun
    have hwrites := not_writesRole hown howner hne hrest
    refine ⟨hrest' _, perform_roleWrites hperform hwrites, ?_, _, rfl, ?_⟩
    · rw [setsPartnerUp_act h hrest]
      exact perform_mPartnerUp hperform hwrites
    · intro hpartner
      have ha : a = .partnerUp := by simpa [setsPartnerUp_act h hrest] using hpartner
      subst ha
      cases t with
      | worker => exact List.mem_singleton_self _
      | binder m => cases hpartner

theorem apart_step {hal : UsbHal} (h : Refines s hal) (hown : Owned discipline s)
    (howner : s.owner .mRoleSwitchLock = some (.binder n))
    {event : Event Tid Outcome Call Environment} (hevent : ∀ o, event ≠ .run (.binder n) o)
    (hstep : machine.step s event = some s') : Apart n s s' (setsPartnerUp s event) := by
  cases event with
  | run t o =>
    simp only [Machine.step] at hstep
    split at hstep
    · refine apart_run h hown howner ?_ hstep
      rintro rfl
      exact hevent o rfl
    · cases hstep
  | call t c =>
    simp only [Machine.step] at hstep
    split at hstep
    · rename_i hidle
      obtain ⟨next, hcall, rfl⟩ := Option.map_eq_some_iff.mp hstep
      have hne : t ≠ .binder n := by
        rintro rfl
        have hmem := (hown.owner .mRoleSwitchLock (.binder n)).mp howner
        rw [show s.rest (.binder n) = [] by simp_all] at hmem
        cases hmem
      refine ⟨Function.update_of_ne hne.symm _ _, ?_, ?_, [], (List.append_nil _).symm,
        by simp [setsPartnerUp]⟩
      · rcases call_cases hcall with ⟨-, -, -, rfl⟩ | ⟨m, -, -, rfl⟩
        · rfl
        · exact (roleWrites_append _ _).trans (List.append_nil _)
      · rcases call_cases hcall with ⟨-, -, -, rfl⟩ | ⟨m, -, -, rfl⟩ <;>
          simp [setsPartnerUp, Process.record]
    · cases hstep
  | environment e =>
    obtain ⟨shared, henvironment, rfl⟩ := Option.map_eq_some_iff.mp hstep
    refine ⟨rfl, ?_, ?_, [], (List.append_nil _).symm, by simp [setsPartnerUp]⟩
    · rw [(environment_keeps henvironment).1]
    · cases e with
      | uevent msg =>
        cases henvironment
        simp [setsPartnerUp]
      | signal =>
        simp only [machine, Process.environment] at henvironment
        split_ifs at henvironment
        cases henvironment
        simp [setsPartnerUp]

end Others

section Switch

variable {s₀ s s' : Service} {n : Nat} {request : RoleRequest} {k block : Block} {t : ModeSwitch}
  {o : Outcome}

theorem SwitchAt.held {pc : SwitchPc} (h : SwitchAt request k block pc) :
    discipline.held [] block =
      (if inPartnerLock pc then [.mPartnerLock] else []) ++ discipline.held [] k := by
  cases h <;> rfl

theorem SwitchAt.clean {pc : SwitchPc} (h : SwitchAt request k block pc) (hk : Clean false k) :
    Clean false block := by
  cases h with
  | failed => exact ⟨rfl, (clean_failedMode request).append hk⟩
  | succeeded => exact ⟨rfl, (clean_answerRole request true).append hk⟩
  | switchToDrp => exact (clean_failedMode request).append hk
  | returned roleSwitch => exact (clean_answerRole request roleSwitch).append hk
  | _ => simp [Clean, Act.underLock, Act.ofWorker, hk]

/-- What `UsbHal` does, `ModeSwitch` does too. -/
theorem reach_usb {portName : Text} {role : PortRole} {partner : Bool} {hal : UsbHal}
    (hmoves : partner = false ∧ hal = t.hal ∨
      ∃ e, t.hal.step e = some hal ∧ addsPartner t.hal e = partner)
    (hlock : partner = true → t.mPartnerLock = false) :
    Reach (ModeSwitch.step portName role) Free t
        { t with hal, log := t.log ++ if partner then [.partnerUp] else [] } ∧
      hal.mPartnerUp = (t.hal.mPartnerUp || partner) := by
  rcases hmoves with ⟨rfl, rfl⟩ | ⟨e, he, rfl⟩
  · simp only [Bool.false_eq_true, if_false, List.append_nil, Bool.or_false, and_true]
    exact .start
  · refine ⟨.single (.usb e) trivial ?_, mPartnerUp_step he⟩
    simp only [ModeSwitch.step, ModeSwitch.usb, he]
    cases hadds : addsPartner t.hal e with
    | true => simp [hlock hadds]
    | false => simp

/-- `mPartnerLock` is not there for the worker while `switchMode` has it. -/
theorem Switches.partnerLock (h : Switches s₀ n request k s t) (hown : Owned discipline s)
    {event : Event Tid Outcome Call Environment} (hpartner : setsPartnerUp s event = true) :
    t.mPartnerLock = false := by
  have hworker : s.owner .mPartnerLock = some .worker := by
    rcases event with ⟨_ | _, _⟩ | _ | _ <;> try cases hpartner
    obtain ⟨k', hrest⟩ := eq_of_atPartnerUp hpartner
    have hlocked := hown.locked .worker
    rw [hrest] at hlocked
    rw [hown.owner, hrest, show discipline.held [] (.act .partnerUp :: k') = _ from hlocked.1]
    exact List.mem_singleton_self _
  rw [h.lock]
  by_contra hlock
  have hbinder := (hown.owner .mPartnerLock (.binder n)).mpr (by
    rw [h.place.held, if_pos (by simpa using hlock)]
    exact List.mem_cons_self)
  rw [hworker] at hbinder
  cases hbinder

theorem Switches.others (h : Switches s₀ n request k s t) (hown : Owned discipline s)
    (hheld : discipline.held [] k = [.mRoleSwitchLock])
    {event : Event Tid Outcome Call Environment} (hevent : ∀ o, event ≠ .run (.binder n) o)
    (hstep : machine.step s event = some s') :
    SwitchFollows s₀ n request k t s' := by
  have howner : s.owner .mRoleSwitchLock = some (.binder n) := by
    rw [hown.owner, h.place.held, hheld]
    simp
  obtain ⟨hrest, hwritten, hup, new, htrace, hnew⟩ :=
    apart_step h.refines hown howner hevent hstep
  obtain ⟨hal, hmoves, hrefines⟩ := follows_step h.refines hown hstep
  obtain ⟨hreach, hpartnerUp⟩ := reach_usb
    (hmoves.imp id fun ⟨e, he, hadds, _⟩ => ⟨e, he, hadds⟩) (h.partnerLock hown)
  refine ⟨_, hreach, hrefines, ?_, h.lock, ?_, ?_, ?_, ?_⟩
  · rw [hrest]
    exact h.place
  · intro hwatches
    rw [hpartnerUp, hup, h.up hwatches]
  · intro hpc
    have hlock := h.lock
    dsimp only at hpc ⊢
    rw [hpc] at hlock
    rw [hpartnerUp, h.cleared hpc, Bool.false_or]
    by_contra hpartner
    rw [h.partnerLock hown (by simpa using hpartner)] at hlock
    cases hlock
  · rw [hwritten, h.written]
    cases setsPartnerUp s event <;> simp [nodeWrites]
  · obtain ⟨new', htrace', hseen⟩ := h.seen
    refine ⟨new' ++ new, by rw [htrace, htrace', List.append_assoc], fun hmem => ?_⟩
    rcases List.mem_append.mp hmem with hmem | hmem
    · exact List.mem_append_left _ (hseen hmem)
    · refine List.mem_append_right _ (hnew ?_)
      by_contra hpartner
      simp [hpartner] at hmem

theorem Switches.written_put (h : Switches s₀ n request k s t) (tid : Tid) (node text : Text) :
    roleWrites (s.shared.log ++ [.put tid node text]) =
      roleWrites s₀.shared.log ++ nodeWrites (t.log ++ [.put node text]) := by
  rw [roleWrites_append, h.written, nodeWrites_append, List.append_assoc]
  rfl

section Own

variable {owner : Mutex → Option Tid} {entry : Tid × Stmt Mutex Act}
  (h : Switches s₀ n request k s t) (hk : Clean false k)
include h hk

theorem Switches.moves {mPartnerUp : Bool} {log : List Action} (t' : ModeSwitch)
    (hreach : Reach (ModeSwitch.step request.portName request.role) Free t t')
    (hplace : SwitchAt request k block t'.pc)
    (hhal : t'.hal = { t.hal with mPartnerUp := t'.hal.mPartnerUp })
    (hlock : t'.mPartnerLock = inPartnerLock t'.pc)
    (hup : watchesPartner t'.pc = true → t'.hal.mPartnerUp = mPartnerUp)
    (hcleared : t'.pc = .fputs → t'.hal.mPartnerUp = false)
    (hwritten : roleWrites log = roleWrites s₀.shared.log ++ nodeWrites t'.log)
    (hpartner : .partnerUp ∈ t'.log → .partnerUp ∈ t.log) :
    SwitchFollows s₀ n request k t
      { shared := { s.shared with mPartnerUp, log }
        owner, rest := Function.update s.rest (.binder n) block
        trace := s.trace ++ [entry] } := by
  have hbefore := critical_of_clean (h.place.clean hk)
  refine ⟨t', hreach, ?_, ?_, hlock, hup, hcleared, hwritten, ?_⟩
  · rw [hhal]
    obtain ⟨hshares, hlock, hworker, hbinder, hregistered⟩ :=
      h.refines.quiet hbefore (hplace.clean hk) mPartnerUp log
    exact ⟨hshares, hlock, hworker, hbinder, hregistered⟩
  · dsimp only
    rw [Function.update_self]
    exact hplace
  · obtain ⟨new, htrace, hseen⟩ := h.seen
    refine ⟨new ++ [entry], by rw [htrace, List.append_assoc], fun hmem => ?_⟩
    exact List.mem_append_left _ (hseen (hpartner hmem))

/-- The thread goes on and leaves `mPartnerUp` and the nodes as they are. -/
theorem Switches.goesOn {before : SwitchPc} (hpc : t.pc = before) (pc : SwitchPc)
    (actions : List SwitchAction)
    (hkeeps : (watchesPartner pc = true → watchesPartner before = true) ∧ pc ≠ .fputs ∧
      nodeWrites actions = [] ∧ .partnerUp ∉ actions)
    (hplace : SwitchAt request k block pc)
    (hreach : Reach (ModeSwitch.step request.portName request.role) Free t
      { t with pc, mPartnerLock := inPartnerLock pc, log := t.log ++ actions }) :
    SwitchFollows s₀ n request k t
      { shared := s.shared
        owner, rest := Function.update s.rest (.binder n) block
        trace := s.trace ++ [entry] } := by
  obtain ⟨hup, hfputs, hwritten, hpartner⟩ := hkeeps
  refine h.moves hk _ hreach hplace rfl rfl (fun hwatches => h.up (hpc ▸ hup hwatches))
    (fun heq => absurd heq hfputs) ?_ ?_
  · rw [h.written, nodeWrites_append, hwritten, List.append_nil]
  · intro hmem
    exact (List.mem_append.mp hmem).resolve_right hpartner

variable (hrun : machine.run s (.binder n) o = some s')
include hrun

theorem switches_fopen (hmode : request.role.getTag = .mode)
    (hrest : s.rest (.binder n) = .act (.openRole request) :: k) (hpc : t.pc = .fopen) :
    SwitchFollows s₀ n request k t s' := by
  have hlock := h.lock
  rw [hpc] at hlock
  obtain ⟨next, hperform, rfl⟩ := Machine.run_act hrest hrun
  cases hperform
  dsimp only
  rw [Process.openRole, hmode]
  dsimp only
  split
  · refine h.goesOn hk hpc .lock [] (by simp [watchesPartner, nodeWrites]) .lock
      (.single (.fopen true) trivial ?_)
    simp [ModeSwitch.step, ModeSwitch.fopen, hpc, hlock, inPartnerLock]
  · refine h.goesOn hk hpc .switchToDrp [] (by simp [watchesPartner, nodeWrites]) .switchToDrp
      (.single (.fopen false) trivial ?_)
    simp [ModeSwitch.step, ModeSwitch.fopen, hpc, hlock, inPartnerLock]

theorem switches_lock
    (hrest : s.rest (.binder n) = .lock .mPartnerLock :: .act (.fputsMode request) :: k)
    (hpc : t.pc = .lock) : SwitchFollows s₀ n request k t s' := by
  have hlock := h.lock
  rw [hpc] at hlock
  obtain ⟨-, rfl⟩ := Machine.run_lock hrest hrun
  -- `ModeSwitch` clears `mPartnerUp` here, the thread one statement later.
  refine h.moves hk
    { hal := { t.hal with mPartnerUp := false }, mPartnerLock := true, pc := .fputs
      log := t.log ++ [.cleared] }
    (.single .lock trivial ?_) .fputs rfl rfl (by simp [watchesPartner]) (fun _ => rfl) ?_ ?_
  · simp [ModeSwitch.step, ModeSwitch.lock, hpc, hlock, inPartnerLock]
  · simp [h.written, nodeWrites]
  · simp

theorem switches_fputs (hrest : s.rest (.binder n) = .act (.fputsMode request) :: k)
    (hpc : t.pc = .fputs) : SwitchFollows s₀ n request k t s' := by
  have hlock := h.lock
  have hcleared := h.cleared hpc
  rw [hpc] at hlock
  obtain ⟨next, hperform, rfl⟩ := Machine.run_act hrest hrun
  cases hperform
  rw [Process.fputsMode, Process.putRole]
  cases hput : o.put with
  | eof =>
    refine h.moves hk { t with pc := .unlock false } (.single (.fputs .eof) trivial ?_) .failed
      rfl hlock (by simp [watchesPartner]) (by simp) h.written id
    simp [ModeSwitch.step, ModeSwitch.fputs, hpc]
  | flushFailed =>
    refine h.moves hk { t with pc := .timedwait, log := t.log ++ [.flushFailed] }
      (.single (.fputs .flushFailed) trivial ?_) .timedwait rfl hlock (fun _ => hcleared)
      (by simp) ?_ ?_
    · simp [ModeSwitch.step, ModeSwitch.fputs, hpc]
    · simp [h.written, nodeWrites]
    · simp
  | flushed =>
    refine h.moves hk
      { t with
        pc := .timedwait
        log := t.log ++ [.put (appendRoleNodeHelper (cStr request.portName) request.role.getTag)
          (convertRoletoString request.role)] }
      (.single (.fputs .flushed) trivial ?_) .timedwait rfl hlock (fun _ => hcleared)
      (by simp) (h.written_put _ _ _) ?_
    · simp [ModeSwitch.step, ModeSwitch.fputs, hpc]
    · simp

theorem switches_wait (hplace : SwitchAt request k (s.rest (.binder n)) t.pc)
    (hpc : t.pc = .timedwait) : SwitchFollows s₀ n request k t s' := by
  rw [hpc] at hplace
  generalize hrest : s.rest (.binder n) = block at hplace
  cases hplace with
  | timedwait =>
    obtain ⟨next, hperform, rfl⟩ := Machine.run_act hrest hrun
    cases hperform
    -- `ModeSwitch` releases the lock and waits in one step, the next one of the thread.
    refine h.goesOn hk hpc .timedwait [] (by simp [watchesPartner, nodeWrites]) .release ?_
    rw [List.append_nil, ← hpc, ← h.lock]
    exact .start
  | release =>
    rw [Machine.run_unlock hrest hrun]
    refine h.goesOn hk hpc .waiting [] (by simp [watchesPartner, nodeWrites]) .waiting
      (.single .timedwait trivial ?_)
    simp [ModeSwitch.step, ModeSwitch.timedwait, hpc, inPartnerLock]

theorem switches_wake (hrest : s.rest (.binder n) = .act (.wake request) :: k)
    (hpc : t.pc = .waiting) : SwitchFollows s₀ n request k t s' := by
  have hlock := h.lock
  rw [hpc] at hlock
  obtain ⟨next, hperform, rfl⟩ := Machine.run_act hrest hrun
  cases hperform
  cases herr : o.err with
  | awake =>
    refine h.goesOn hk hpc (.relock .awake) [] (by simp [watchesPartner, nodeWrites])
      (.relock .awake) (.single (.wake .awake) trivial ?_)
    simp [ModeSwitch.step, ModeSwitch.wake, hpc, hlock, inPartnerLock]
  | timedOut =>
    refine h.goesOn hk hpc (.relock .timedOut) [.timedOut] (by simp [watchesPartner, nodeWrites])
      (.relock .timedOut) (.single (.wake .timedOut) trivial ?_)
    simp [ModeSwitch.step, ModeSwitch.wake, hpc, hlock, inPartnerLock]

theorem switches_relock {err : WaitErr}
    (hrest : s.rest (.binder n) = .lock .mPartnerLock :: .act (.decide request err) :: k)
    (hpc : t.pc = .relock err) : SwitchFollows s₀ n request k t s' := by
  have hlock := h.lock
  rw [hpc] at hlock
  obtain ⟨-, rfl⟩ := Machine.run_lock hrest hrun
  refine h.goesOn hk hpc (.decide err) [] (by simp [watchesPartner, nodeWrites]) (.decide err)
    (.single .relock trivial ?_)
  simp [ModeSwitch.step, ModeSwitch.relock, hpc, hlock, inPartnerLock]

theorem switches_decide {err : WaitErr}
    (hrest : s.rest (.binder n) = .act (.decide request err) :: k) (hpc : t.pc = .decide err) :
    SwitchFollows s₀ n request k t s' := by
  have hlock := h.lock
  have hup := h.up (by rw [hpc]; rfl)
  rw [hpc] at hlock
  obtain ⟨next, hperform, rfl⟩ := Machine.run_act hrest hrun
  cases hperform
  cases err with
  | timedOut =>
    refine h.goesOn hk hpc (.unlock false) [] (by simp [watchesPartner, nodeWrites]) .failed
      (.single .decide trivial ?_)
    simp [ModeSwitch.step, ModeSwitch.decide, hpc, hlock, inPartnerLock]
  | awake =>
    dsimp only
    rw [Process.decide]
    split
    · rename_i hpartner
      refine h.goesOn hk hpc (.unlock true) [] (by simp [watchesPartner, nodeWrites]) .succeeded
        (.single .decide trivial ?_)
      simp [ModeSwitch.step, ModeSwitch.decide, hpc, hlock, inPartnerLock, hup, hpartner]
    · rename_i hpartner
      refine h.goesOn hk hpc .timedwait [] (by simp [watchesPartner, nodeWrites]) .timedwait
        (.single .decide trivial ?_)
      simp [ModeSwitch.step, ModeSwitch.decide, hpc, hlock, inPartnerLock, hup, hpartner]

theorem switches_unlock {roleSwitch : Bool}
    (hplace : SwitchAt request k (s.rest (.binder n)) t.pc) (hpc : t.pc = .unlock roleSwitch) :
    SwitchFollows s₀ n request k t s' := by
  rw [hpc] at hplace
  generalize hrest : s.rest (.binder n) = block at hplace
  cases hplace with
  | failed =>
    rw [Machine.run_unlock hrest hrun]
    refine h.goesOn hk hpc .switchToDrp [.unlocked] (by simp [watchesPartner, nodeWrites])
      .switchToDrp (.single .unlock trivial ?_)
    simp [ModeSwitch.step, ModeSwitch.unlock, hpc, inPartnerLock]
  | succeeded =>
    rw [Machine.run_unlock hrest hrun]
    refine h.goesOn hk hpc (.returned true) [.unlocked] (by simp [watchesPartner, nodeWrites])
      (.returned true) (.single .unlock trivial ?_)
    simp [ModeSwitch.step, ModeSwitch.unlock, hpc, inPartnerLock]

theorem switches_switchToDrp (hrest : s.rest (.binder n) = failedMode request ++ k)
    (hpc : t.pc = .switchToDrp) : SwitchFollows s₀ n request k t s' := by
  have hlock := h.lock
  rw [hpc] at hlock
  obtain ⟨next, hperform, rfl⟩ := Machine.run_act hrest hrun
  cases hperform
  dsimp only
  split
  · refine h.moves hk
      { t with
        pc := .returned false
        log := t.log ++ [.put (drpNode request.portName) "dual".toList] }
      (.single (.switchToDrp true) trivial ?_) (.returned false) rfl hlock
      (by simp [watchesPartner]) (by simp) (h.written_put _ _ _) ?_
    · simp [ModeSwitch.step, ModeSwitch.switchToDrp, hpc]
    · simp
  · refine h.goesOn hk hpc (.returned false) [.drpFailed] (by simp [watchesPartner, nodeWrites])
      (.returned false) (.single (.switchToDrp false) trivial ?_)
    simp [ModeSwitch.step, ModeSwitch.switchToDrp, hpc, hlock, inPartnerLock]

theorem Switches.own (hmode : request.role.getTag = .mode)
    (hwithin : (s.rest (.binder n)).head? ≠ some (.lock .mLock)) :
    SwitchFollows s₀ n request k t s' := by
  have hplace := h.place
  generalize hrest : s.rest (.binder n) = block at hplace
  generalize hpc : t.pc = pc at hplace
  cases hplace with
  | fopen => exact switches_fopen h hk hrun hmode hrest hpc
  | lock => exact switches_lock h hk hrun hrest hpc
  | fputs => exact switches_fputs h hk hrun hrest hpc
  | timedwait | release => exact switches_wait h hk hrun h.place hpc
  | waiting => exact switches_wake h hk hrun hrest hpc
  | relock err => exact switches_relock h hk hrun hrest hpc
  | decide err => exact switches_decide h hk hrun hrest hpc
  | failed | succeeded => exact switches_unlock h hk hrun h.place hpc
  | switchToDrp => exact switches_switchToDrp h hk hrun hrest hpc
  | returned roleSwitch =>
    rw [hrest] at hwithin
    exact absurd rfl hwithin

end Own

theorem switches_start {hal : UsbHal} (hrefines : Refines s₀ hal)
    (hcall : s₀.rest (.binder n) = .act (.openRole request) :: k) :
    Switches s₀ n request k s₀ (.start hal) := by
  refine ⟨hrefines, hcall ▸ .fopen, rfl, ?_, ?_, (List.append_nil _).symm, [],
    (List.append_nil _).symm, ?_⟩ <;> simp [ModeSwitch.start, watchesPartner]

theorem Switches.step (h : Switches s₀ n request k s t) (hown : Owned discipline s)
    (hmode : request.role.getTag = .mode) (hk : Clean false k)
    (hheld : discipline.held [] k = [.mRoleSwitchLock])
    {event : Event Tid Outcome Call Environment} (hwithin : Within n s event)
    (hstep : machine.step s event = some s') :
    SwitchFollows s₀ n request k t s' := by
  by_cases hevent : ∃ o, event = .run (.binder n) o
  · obtain ⟨o, rfl⟩ := hevent
    simp only [Machine.step] at hstep
    split at hstep
    · exact h.own hk hstep hmode (hwithin rfl)
    · cases hstep
  · exact h.others hown hheld (fun o ho => hevent ⟨o, ho⟩) hstep

theorem switches_of_reach {hal : UsbHal} (hrefines : Refines s₀ hal)
    (hown : Owned discipline s₀) (hcall : s₀.rest (.binder n) = .act (.openRole request) :: k)
    (hmode : request.role.getTag = .mode) (hrun : Reach machine.step (Within n) s₀ s) :
    ∃ t, Reach (ModeSwitch.step request.portName request.role) Free (.start hal) t ∧
      Switches s₀ n request k s t := by
  have hguarded := hrefines.binder n
  have hlocked := hown.locked (.binder n)
  rw [hcall] at hguarded hlocked
  have hk : Clean false k := (guarded_act hguarded).2
  have hheld : discipline.held [] k = [.mRoleSwitchLock] := hlocked.1
  obtain ⟨t, hreach, -, h⟩ := hrun.simulated
    (fun s t => Owned discipline s ∧ Switches s₀ n request k s t)
    ⟨hown, switches_start hrefines hcall⟩ fun s event s' t ⟨hown, h⟩ hwithin hstep => by
      obtain ⟨t', hreach, h'⟩ := h.step hown hmode hk hheld hwithin hstep
      exact ⟨t', hreach, owned_step sound hown hstep, h'⟩
  exact ⟨t, hreach, h⟩

theorem SwitchAt.eq_returned {pc : SwitchPc} {roleSwitch : Bool}
    (h : SwitchAt request k (answerRole request roleSwitch ++ k) pc) :
    pc = .returned roleSwitch := by
  generalize hblock : answerRole request roleSwitch ++ k = block at h
  cases h with
  | returned roleSwitch' =>
    cases roleSwitch <;> cases roleSwitch' <;> first | rfl | cases hblock
  | _ => cases hblock

theorem partnerUp_mem_of_cameUp {log : List SwitchAction} (h : CameUp log) :
    .partnerUp ∈ log :=
  List.dropWhile_subset _ (List.takeWhile_subset _ h)

end Switch

/-- **Refinement of `switchMode`.**  Whatever the other threads do, a mode switch that is
about to be answered is one of `ModeSwitch`, and nobody else has written a role node since
it began.  If it succeeds, the worker has reported a partner in the meantime. -/
theorem threads_refine_modeSwitch (s₀ s : Service)
    (hreach : Reach machine.step Free Service.init s₀) (n : Nat) (request : RoleRequest)
    (k : Block) (hcall : s₀.rest (.binder n) = .act (.openRole request) :: k)
    (hmode : request.role.getTag = .mode) (hrun : Reach machine.step (Within n) s₀ s)
    (roleSwitch : Bool) (hanswer : s.rest (.binder n) = answerRole request roleSwitch ++ k) :
    ∃ hal t, Refines s₀ hal ∧
      Reach (ModeSwitch.step request.portName request.role) Free (.start hal) t ∧
      t.pc = .returned roleSwitch ∧
      roleWrites s.shared.log = roleWrites s₀.shared.log ++ nodeWrites t.log ∧
      (roleSwitch = true → CameUp t.log ∧
        ∃ new, s.trace = s₀.trace ++ new ∧ (.worker, .act .partnerUp) ∈ new) := by
  obtain ⟨hal, -, hown, hrefines⟩ :=
    refined_of_reach (fun _ _ _ _ _ _ _ _ => trivial) hreach
  obtain ⟨t, hswitch, h⟩ := switches_of_reach hrefines hown hcall hmode hrun
  have hpc : t.pc = .returned roleSwitch := by
    have hplace := h.place
    rw [hanswer] at hplace
    exact hplace.eq_returned
  refine ⟨hal, t, hrefines, hswitch, hpc, h.written, ?_⟩
  rintro rfl
  have htracked := hswitch.invariant (Tracked request.portName request.role) (tracked_start hal)
    fun _ _ _ h _ hstep => tracked_step h hstep
  have hexpected := htracked.expected
  rw [hpc] at hexpected
  obtain ⟨-, ⟨-, hup, -⟩, -⟩ := hexpected
  obtain ⟨new, htrace, hseen⟩ := h.seen
  exact ⟨hup, new, htrace, hseen (partnerUp_mem_of_cameUp hup)⟩

/-- The partner comes up during the wait. -/
theorem threads_refine_modeSwitch_partner :
    ∃ s₀ s, exec machine.step Free Service.init
        [.call (.binder 1) (.setCallback (some 5)), .run (.binder 1) {}, .run (.binder 1) {},
          .run (.binder 1) {}, .run (.binder 1) {}, .call .worker .work, .run .worker {},
          .run .worker {}, .run .worker {},
          .call (.binder 0) (.switchRole ⟨"port0".toList, .mode .dfp, 7⟩),
          .run (.binder 0) {}] = some s₀ ∧
      exec machine.step (Within 0) s₀
        [.run (.binder 0) {}, .run (.binder 0) {}, .run (.binder 0) {}, .run (.binder 0) {},
          .run (.binder 0) {}, .environment (.uevent "add@/port0-partner".toList),
          .run .worker {}, .run .worker {}, .run .worker {}, .run .worker {}, .run .worker {},
          .run .worker {}, .run (.binder 0) {}, .run (.binder 0) {}, .run (.binder 0) {},
          .run (.binder 0) {}] = some s ∧
      s.rest (.binder 0) = answerRole ⟨"port0".toList, .mode .dfp, 7⟩ true ++
        [.unlock .mRoleSwitchLock] ∧
      ∃ hal t, Refines s₀ hal ∧
        Reach (ModeSwitch.step "port0".toList (.mode .dfp)) Free (.start hal) t ∧
        t.pc = .returned true ∧
        roleWrites s.shared.log = roleWrites s₀.shared.log ++ nodeWrites t.log ∧
        (true = true → CameUp t.log ∧
          ∃ new, s.trace = s₀.trace ++ new ∧ (.worker, .act .partnerUp) ∈ new) := by
  refine ⟨_, _, rfl, rfl, rfl, ?_⟩
  exact threads_refine_modeSwitch _ _ (reach_of_exec
    [.call (.binder 1) (.setCallback (some 5)), .run (.binder 1) {}, .run (.binder 1) {},
      .run (.binder 1) {}, .run (.binder 1) {}, .call .worker .work, .run .worker {},
      .run .worker {}, .run .worker {},
      .call (.binder 0) (.switchRole ⟨"port0".toList, .mode .dfp, 7⟩),
      .run (.binder 0) {}] rfl) 0 ⟨"port0".toList, .mode .dfp, 7⟩ [.unlock .mRoleSwitchLock] rfl
    rfl (reach_of_exec
      [.run (.binder 0) {}, .run (.binder 0) {}, .run (.binder 0) {}, .run (.binder 0) {},
        .run (.binder 0) {}, .environment (.uevent "add@/port0-partner".toList),
        .run .worker {}, .run .worker {}, .run .worker {}, .run .worker {}, .run .worker {},
        .run .worker {}, .run (.binder 0) {}, .run (.binder 0) {}, .run (.binder 0) {},
        .run (.binder 0) {}] rfl) true rfl

end Exynos9810.Usb.Threads
