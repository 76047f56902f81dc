import Exynos9810.Usb.ThreadsSafety

/-!
# Calls are settled once, and the threads get on

A binder thread settles its calls one by one, each with one notification, or without
one if there is no callback.  Only the join of a worker can bring the service to a halt.
-/
namespace Exynos9810.Usb.Threads

open LockedThreads Transition

def Call.answerable : Call → Bool
  | .work | .setCallback _ => false
  | _ => true

/-- The calls that binder thread `n` has begun. -/
def asked (n : Nat) (log : List Action) : List Call :=
  log.filterMap fun
    | .called m call => if m = n ∧ call.answerable = true then some call else none
    | _ => none

def settled (n : Nat) (log : List Action) : List Call :=
  log.filterMap fun
    | .notified _ t notification | .skipped t notification =>
      if t = .binder n then notification.request else none
    | _ => none

/-- What has been asked and is not settled is in front of the thread. -/
structure Accounted (s : Service) : Prop where
  inOrder : ∀ n, asked n s.shared.log = settled n s.shared.log ++ dues (s.rest (.binder n))
  atMostOne : ∀ n, (dues (s.rest (.binder n))).length ≤ 1

section Accounts

theorem dues_append (block k : Block) : dues (block ++ k) = dues block ++ dues k :=
  List.filterMap_append

theorem dues_act (a : Act) (k : Block) : dues (.act a :: k) = a.due.toList ++ dues k := by
  cases hdue : a.due <;> simp [dues, hdue]

theorem dues_of_not_act {stmt : Stmt Mutex Act} (h : ∀ a, stmt ≠ .act a) (k : Block) :
    dues (stmt :: k) = dues k := by
  cases stmt with
  | act a => exact absurd rfl (h a)
  | _ => rfl

theorem dues_body (c : Call) : dues (body c) = if c.answerable = true then [c] else [] := by
  cases c <;> rfl

theorem settled_concat (n : Nat) (log : List Action) {action : Action}
    (h : (∀ callback t notification, action ≠ .notified callback t notification) ∧
      ∀ t notification, action ≠ .skipped t notification) :
    settled n (log ++ [action]) = settled n log := by
  rw [settled, List.filterMap_append]
  cases action with
  | notified callback t notification => exact absurd rfl (h.1 callback t notification)
  | skipped t notification => exact absurd rfl (h.2 t notification)
  | _ => exact List.append_nil _

theorem asked_concat (n : Nat) (log : List Action) {action : Action}
    (h : ∀ m call, action ≠ .called m call) : asked n (log ++ [action]) = asked n log := by
  rw [asked, List.filterMap_append]
  cases action with
  | called m call => exact absurd rfl (h m call)
  | _ => exact List.append_nil _

theorem settled_notification (n : Nat) (log : List Action) {action : Action} {t : Tid}
    {notification : Notification}
    (h : action = .skipped t notification ∨
      ∃ callback, action = .notified callback t notification) :
    settled n (log ++ [action]) =
      settled n log ++ if t = .binder n then notification.request.toList else [] := by
  rw [settled, List.filterMap_append]
  congr 1
  rcases h with rfl | ⟨callback, rfl⟩
  all_goals
    by_cases ht : t = .binder n
    · cases hrequest : notification.request <;> simp [ht, hrequest]
    · simp [ht]

theorem account_effect {t : Tid} {a : Act} {s : Process} {next : Process × Block}
    (heffect : Effect t a s next) (hnotify : ∀ n, a = .notify n → s.mCallback.isSome) :
    ∃ gone, gone ++ dues next.2 = a.due.toList ∧ ∀ n,
      asked n next.1.log = asked n s.log ∧
      settled n next.1.log = settled n s.log ++ if t = .binder n then gone else [] := by
  cases heffect with
  | other suffix hlog hsuffix _ _ hdues =>
    refine ⟨[], hdues, ?_⟩
    intro n
    rw [ite_self, List.append_nil, hlog]
    rcases hsuffix with rfl | ⟨-, node, text, rfl⟩ | ⟨enable, rfl⟩
    · rw [List.append_nil]
      exact ⟨rfl, rfl⟩
    · exact ⟨asked_concat n _ (by simp), settled_concat n _ (by simp)⟩
    · exact ⟨asked_concat n _ (by simp), settled_concat n _ (by simp)⟩
  | registered hassigns hlog _ hdues =>
    refine ⟨[], ?_, ?_⟩
    · rw [List.nil_append, hdues]
      cases a <;> first | rfl | cases hassigns
    · intro n
      rw [ite_self, List.append_nil, hlog]
      exact ⟨asked_concat n _ (by simp), settled_concat n _ (by simp)⟩
  | @found notification ha =>
    refine ⟨[], ?_, ?_⟩
    · rw [List.nil_append, dues_act, ha]
      exact List.append_nil _
    · intro n
      rw [ite_self, List.append_nil]
      exact ⟨rfl, rfl⟩
  | @skipped notification ha =>
    refine ⟨notification.request.toList, by rw [ha]; exact List.append_nil _, ?_⟩
    intro n
    exact ⟨asked_concat n _ (by simp), settled_notification n _ (.inl rfl)⟩
  | @notified notification callback ha =>
    refine ⟨notification.request.toList, by rw [ha]; exact List.append_nil _, ?_⟩
    intro n
    exact ⟨asked_concat n _ (by simp), settled_notification n _ (.inr ⟨callback, rfl⟩)⟩
  | crashed ha hcallback =>
    have hsome := hnotify _ ha
    rw [hcallback] at hsome
    cases hsome

variable {s s' : Service}

theorem Accounted.update (h : Accounted s) {shared : Process} {t : Tid} {k : Block}
    {rest : Tid → Block} (hrest : rest = Function.update s.rest t k)
    (hother : ∀ n, t ≠ .binder n →
      asked n shared.log = asked n s.shared.log ∧ settled n shared.log = settled n s.shared.log)
    (hown : ∀ n, t = .binder n → asked n shared.log = settled n shared.log ++ dues k ∧
      (dues k).length ≤ 1)
    (owner : Mutex → Option Tid) (trace : List (Tid × Stmt Mutex Act)) :
    Accounted { shared, owner, rest, trace } := by
  subst hrest
  constructor
  · intro n
    rcases eq_or_ne t (.binder n) with rfl | hne
    · simpa only [Function.update_self] using (hown n rfl).1
    · simpa only [Function.update_of_ne hne.symm, hother n hne] using h.inOrder n
  · intro n
    rcases eq_or_ne t (.binder n) with rfl | hne
    · simpa only [Function.update_self] using (hown n rfl).2
    · simpa only [Function.update_of_ne hne.symm] using h.atMostOne n

theorem due_of_tryLock (h : Heeded s) {t : Tid} {l : Mutex} {taken : Act} {k : Block}
    (hrest : s.rest t = .tryLock l taken :: k) : taken.due = none := by
  rcases h.tested t with htests | ⟨n, k', hnotify, -, -⟩
  · rw [hrest] at htests
    exact htests.2 l taken List.mem_cons_self
  · rw [hrest] at hnotify
    cases hnotify

theorem accounted_run (hheeded : Heeded s) (h : Accounted s) {t : Tid} {o : Outcome}
    (hrun : machine.run s t o = some s') : Accounted s' := by
  rcases Machine.run_cases hrun with ⟨hshared, stmt, k, block, hrest, hstmt, hrest', hblock⟩ |
    ⟨a, k, next, hrest, hperform, hshared, hrest'⟩
  · refine h.update hrest' (fun n _ => by rw [hshared]; exact ⟨rfl, rfl⟩) ?_ _ _
    rintro n rfl
    have hdues : dues (block ++ k) = dues (s.rest (.binder n)) := by
      rw [hrest, dues_of_not_act hstmt, dues_append]
      rcases hblock with rfl | ⟨l, taken, rfl, rfl⟩
      · rfl
      · rw [dues_act, due_of_tryLock hheeded hrest]
        rfl
    rw [hdues, hshared]
    exact ⟨h.inOrder n, h.atMostOne n⟩
  · have heffect := effect_perform hperform
    obtain ⟨gone, hgone, haccount⟩ := account_effect heffect (by
      rintro n rfl
      exact hheeded.callback hrest)
    refine h.update hrest' ?_ ?_ _ _
    · intro n hne
      have hn := haccount n
      rw [if_neg hne, List.append_nil] at hn
      rw [hshared]
      exact hn
    · rintro n rfl
      have hn := haccount n
      have horder := h.inOrder n
      have hone := h.atMostOne n
      rw [if_pos rfl] at hn
      rw [hrest, dues_act, ← hgone] at horder hone
      rw [hshared, hn.1, hn.2, dues_append, horder]
      refine ⟨by simp only [List.append_assoc], ?_⟩
      simp only [List.length_append] at hone ⊢
      omega

theorem accounted_step (hheeded : Heeded s) (h : Accounted s)
    {event : Event Tid Outcome Call Environment} (hstep : machine.step s event = some s') :
    Accounted s' := by
  cases event with
  | run t o =>
    simp only [Machine.step] at hstep
    split at hstep
    · exact accounted_run hheeded h hstep
    · cases hstep
  | call t c =>
    simp only [Machine.step] at hstep
    split at hstep
    · rename_i hidle
      have hrest : s.rest t = [] := by simp_all
      obtain ⟨next, hcall, rfl⟩ := Option.map_eq_some_iff.mp hstep
      rcases call_cases hcall with ⟨rfl, -, -, rfl⟩ | ⟨m, rfl, -, rfl⟩
      · refine h.update (t := .worker) rfl ?_ ?_ _ _
        · intro n _
          exact ⟨rfl, rfl⟩
        · intro n hbinder
          cases hbinder
      · have hasked (n : Nat) : asked n (s.shared.log ++ [.called m c]) =
            asked n s.shared.log ++ if m = n then dues (body c) else [] := by
          rw [asked, List.filterMap_append, dues_body]
          congr 1
          by_cases hm : m = n <;> cases hc : c.answerable <;> simp [hm, hc]
        have hsettled (n : Nat) : settled n (s.shared.log ++ [.called m c]) =
            settled n s.shared.log := settled_concat n _ (by simp)
        refine h.update rfl ?_ ?_ _ _
        · intro n hne
          have hm : m ≠ n := fun hm => hne (by rw [hm])
          refine ⟨?_, hsettled n⟩
          change asked n (s.shared.log ++ [.called m c]) = _
          rw [hasked, if_neg hm, List.append_nil]
        · rintro n hbinder
          cases hbinder
          have horder := h.inOrder m
          rw [hrest, show dues [] = [] from rfl, List.append_nil] at horder
          change asked m (s.shared.log ++ [.called m c]) =
            settled m (s.shared.log ++ [.called m c]) ++ dues (body c) ∧ _
          rw [hasked, hsettled, if_pos rfl, horder]
          refine ⟨rfl, ?_⟩
          rw [dues_body]
          split <;> simp
    · cases hstep
  | environment e =>
    obtain ⟨shared, henvironment, rfl⟩ := Option.map_eq_some_iff.mp hstep
    obtain ⟨hlog, -, -⟩ := environment_keeps henvironment
    constructor
    · intro n
      dsimp only
      rw [hlog]
      exact h.inOrder n
    · exact h.atMostOne

theorem accounted_of_reach (hreach : Reach machine.step Free Service.init s) : Accounted s := by
  induction hreach with
  | start => exact ⟨fun _ => rfl, fun _ => Nat.zero_le 1⟩
  | next before _ hstep ih => exact accounted_step (heeded_of_reach before) ih hstep

end Accounts

/-- **Answers.**  Whatever else goes on, a binder thread settles its calls in the order in
which they came in, each once and under its own arguments: when it is idle all of them
are settled, and in between all but the last. -/
theorem calls_settled (s : Service) (hreach : Reach machine.step Free Service.init s) (n : Nat) :
    settled n s.shared.log <+: asked n s.shared.log ∧
      (asked n s.shared.log).length ≤ (settled n s.shared.log).length + 1 ∧
      (s.rest (.binder n) = [] → settled n s.shared.log = asked n s.shared.log) := by
  have h := accounted_of_reach hreach
  have hone := h.atMostOne n
  rw [h.inOrder n]
  refine ⟨List.prefix_append _ _, ?_, ?_⟩
  · rw [List.length_append]
    omega
  · intro hidle
    rw [hidle]
    exact (List.append_nil _).symm

theorem calls_settled_two :
    ∃ s, exec machine.step Free Service.init
        [.call (.binder 1) (.resetUsbPort "port0".toList 7), .run (.binder 1) {},
          .call (.binder 0) (.setCallback (some 5)), .run (.binder 1) {}, .run (.binder 1) {},
          .run (.binder 0) {}, .run (.binder 0) {}, .run (.binder 0) {}, .run (.binder 0) {},
          .call (.binder 1) (.limitPowerTransfer "port0".toList 8), .run (.binder 1) {},
          .run (.binder 1) {}, .run (.binder 1) {}, .run (.binder 1) {}] = some s ∧
      s.shared.log.getLast? =
        some (.notified 5 (.binder 1) (.limitPowerTransfer "port0".toList 8)) ∧
      settled 1 s.shared.log = asked 1 s.shared.log ∧ (asked 1 s.shared.log).length = 2 := by
  refine ⟨_, rfl, rfl, ?_, rfl⟩
  exact (calls_settled _ (reach_of_exec
    [.call (.binder 1) (.resetUsbPort "port0".toList 7), .run (.binder 1) {},
      .call (.binder 0) (.setCallback (some 5)), .run (.binder 1) {}, .run (.binder 1) {},
      .run (.binder 0) {}, .run (.binder 0) {}, .run (.binder 0) {}, .run (.binder 0) {},
      .call (.binder 1) (.limitPowerTransfer "port0".toList 8), .run (.binder 1) {},
      .run (.binder 1) {}, .run (.binder 1) {}, .run (.binder 1) {}] rfl) 1).2.2 rfl

section Progress

theorem perform_isSome (t : Tid) {a : Act} (hjoin : a ≠ .join) (hwait : a ≠ .epollWait)
    (s : Process) : (Process.perform t a {} s).isSome := by
  cases a with
  | join => exact absurd rfl hjoin
  | epollWait => exact absurd rfl hwait
  | _ => rfl

theorem step_isSome {s : Service} (halive : s.shared.ended = none) {t : Tid} {o : Outcome}
    {stmt : Stmt Mutex Act} {k : Block} (hrest : s.rest t = stmt :: k)
    (hlock : ∀ l, stmt = .lock l → s.owner l = none)
    (hact : ∀ a, stmt = .act a → (Process.perform t a o s.shared).isSome) :
    (machine.step s (.run t o)).isSome := by
  have halive' : machine.alive s.shared = true := by simp [machine, halive]
  cases stmt with
  | lock l => simp [Machine.step, halive', Machine.run, hrest, hlock l rfl]
  | unlock l => simp [Machine.step, halive', Machine.run, hrest]
  | tryLock l taken =>
    simp only [Machine.step, halive', Machine.run, hrest, if_true]
    split <;> rfl
  | act a =>
    simp only [Machine.step, halive', Machine.run, hrest, if_true, Option.isSome_map]
    exact hact a rfl

/-- `epoll_wait` can always fail. -/
theorem exists_step {s : Service} (halive : s.shared.ended = none) {t : Tid}
    {stmt : Stmt Mutex Act} {k : Block} (hrest : s.rest t = stmt :: k)
    (hlock : ∀ l, stmt = .lock l → s.owner l = none) (hjoin : stmt ≠ .act .join) :
    ∃ o, (machine.step s (.run t o)).isSome := by
  by_cases hwait : stmt = .act .epollWait
  · refine ⟨{ ok := false }, step_isSome halive hrest hlock ?_⟩
    rintro a rfl
    cases hwait
    simp only [Process.perform, Process.epollWait]
    split <;> rfl
  · refine ⟨{}, step_isSome halive hrest hlock ?_⟩
    rintro a rfl
    exact perform_isSome t (fun ha => hjoin (congrArg _ ha)) (fun ha => hwait (congrArg _ ha)) _

end Progress

/-- **Progress.**  While a call is not done and nobody joins the worker, its thread or one
that holds a mutex can go on: the calls never wait for each other in a circle. -/
theorem service_progress (s : Service) (hreach : Reach machine.step Free Service.init s)
    (halive : s.shared.ended = none) (n : Nat) (hbusy : s.rest (.binder n) ≠ [])
    (hjoin : ∀ t k, s.rest t ≠ .act .join :: k) :
    ∃ t o, (machine.step s (.run t o)).isSome ∧
      (t = .binder n ∨ ∃ l, s.owner l = some t) := by
  have hown := owned_of_reach sound hreach
  obtain ⟨stmt, k, hrest⟩ := List.exists_cons_of_ne_nil hbusy
  by_cases hblocked : ∃ l, stmt = .lock l ∧ s.owner l ≠ none
  · obtain ⟨l, rfl, howner⟩ := hblocked
    obtain ⟨t, stmt', k', hrest', hheld, hfree⟩ :=
      hown.exists_unblocked 3 (by rintro (_ | _ | _) <;> decide) hrest howner
    obtain ⟨o, ho⟩ := exists_step halive hrest' hfree
      (fun hstmt => hjoin t k' (by rw [hrest', hstmt]))
    obtain ⟨l', hl'⟩ := List.exists_mem_of_ne_nil _ hheld
    exact ⟨t, o, ho, .inr ⟨l', (hown.owner l' t).mpr hl'⟩⟩
  · obtain ⟨o, ho⟩ := exists_step halive hrest
      (fun l hstmt => by
        by_contra howner
        exact hblocked ⟨l, hstmt, howner⟩)
      (fun hstmt => hjoin (.binder n) k (by rw [hrest, hstmt]))
    exact ⟨.binder n, o, ho, .inl rfl⟩

/-- A mode switch waits for the partner while another one waits for its turn. -/
theorem service_progress_waiting :
    ∃ s, exec machine.step Free Service.init
        [.call (.binder 0) (.switchRole ⟨"port0".toList, .mode .ufp, 7⟩), .run (.binder 0) {},
          .run (.binder 0) {}, .run (.binder 0) {}, .run (.binder 0) {}, .run (.binder 0) {},
          .run (.binder 0) {},
          .call (.binder 1) (.switchRole ⟨"port0".toList, .mode .dfp, 8⟩)] = some s ∧
      (s.rest (.binder 0)).head? = some (.act (.wake ⟨"port0".toList, .mode .ufp, 7⟩)) ∧
      (s.rest (.binder 1)).head? = some (.lock .mRoleSwitchLock) ∧
      s.owner .mRoleSwitchLock = some (.binder 0) ∧
      ∃ t o, (machine.step s (.run t o)).isSome ∧
        (t = .binder 1 ∨ ∃ l, s.owner l = some t) := by
  refine ⟨_, rfl, rfl, rfl, rfl, ?_⟩
  refine service_progress _ (reach_of_exec
    [.call (.binder 0) (.switchRole ⟨"port0".toList, .mode .ufp, 7⟩), .run (.binder 0) {},
      .run (.binder 0) {}, .run (.binder 0) {}, .run (.binder 0) {}, .run (.binder 0) {},
      .run (.binder 0) {},
      .call (.binder 1) (.switchRole ⟨"port0".toList, .mode .dfp, 8⟩)] rfl) rfl 1 ?_ ?_
  · intro hidle
    cases hidle
  · rintro (_ | _ | _ | n) k hjoin
    all_goals cases hjoin

end Exynos9810.Usb.Threads
