import Exynos9810.Usb.ThreadsAnswers
import Exynos9810.Usb.ThreadsWorker
import Exynos9810.Usb.Unregister

/-!
# Unregistering the callback among the threads

What keeps the join from waiting forever in `UsbHal` does so here, where the worker may
also have to wait for `mPartnerLock`.
-/
namespace Exynos9810.Usb.Threads

open LockedThreads Transition

/-- The worker is going to take `mLock`. -/
def willQuery (block : Block) : Bool :=
  block.any fun
    | .lock .mLock => true
    | .act (.scan segments) => leadsToQuery segments
    | _ => false

def Joins (s : Service) : Prop :=
  ∃ t ∈ s.owner .mLock, (s.rest t).head? = some (.act .join)

instance (s : Service) : Decidable (Joins s) :=
  inferInstanceAs (Decidable (∃ t ∈ s.owner .mLock, (s.rest t).head? = some (.act .join)))

/-- What `Undisturbed` asks of `UsbHal`. -/
def Calm (s : Service) : Event Tid Outcome Call Environment → Prop
  | .run (.binder n) _ =>
    (s.rest (.binder n)).head? = some (.act .kill) → willQuery (s.rest .worker) = false
  | .run .worker _ => Joins s → s.rest .worker = [.act .recv] →
      ∀ msg ∈ s.shared.socket.head?, leadsToQuery (segments msg) = false
  | .environment .signal => s.rest .worker ≠ [.act .enter]
  | _ => True

instance (s : Service) (event : Event Tid Outcome Call Environment) :
    Decidable (Calm s event) := by
  rcases event with ⟨_ | _, _⟩ | _ | (_ | _) <;> dsimp only [Calm] <;> infer_instance

/-- A step of what a join waits for, and the join itself.  The worker does not go on by a
failure, and another thread only counts when the worker waits for it. -/
def Furthers (s : Service) (n : Nat) : Event Tid Outcome Call Environment → Prop
  | .run .worker o => o.ok = true
  | .run (.binder m) _ => m = n ∨
      (s.rest .worker).head? = some (.lock .mPartnerLock) ∧
        s.owner .mPartnerLock = some (.binder m)
  | .call .worker _ | .environment .signal => True
  | _ => False

section Refined

variable {s : Service} {hal : UsbHal} {p : Process} {block : Block} {pc : WorkerPc}

theorem Running.willQuery {destroyThread : Bool} (h : Running destroyThread block pc) :
    pc.willQuery = willQuery block := by
  cases h with
  | partnerLock rest h | partnerUp rest h =>
    simp [WorkerPc.willQuery, Threads.willQuery, leadsToQuery, h]
  | _ => simp [WorkerPc.willQuery, Threads.willQuery, queryVersionHelper, queryEnd]

theorem WorkerAt.willQuery (h : WorkerAt p block pc) : pc.willQuery = Threads.willQuery block := by
  cases h with
  | running _ hrunning => exact hrunning.willQuery
  | _ => rfl

theorem WorkerAt.eq_recv (h : WorkerAt p block .recv) : block = [.act .recv] := by
  cases h with
  | running _ hrunning => cases hrunning; rfl

theorem WorkerAt.eq_enter (h : WorkerAt p block .enter) : block = [.act .enter] := by
  cases h with
  | running _ hrunning => cases hrunning; rfl

theorem eq_of_callerPc_kill {a : Act} (h : a.callerPc = .kill) : a = .kill := by
  cases a <;> first | rfl | cases h

theorem eq_of_callerPc_join {a : Act} (h : a.callerPc = .join) : a = .join := by
  cases a <;> first | rfl | cases h

theorem Refines.joins (h : Refines s hal) (hown : Owned discipline s)
    (hcaller : hal.caller = .join) : Joins s := by
  rcases h.lock with ⟨t, a, hcritical, -, hpc⟩ | ⟨-, -, hidle⟩
  · rw [hcaller] at hpc
    obtain rfl := eq_of_callerPc_join hpc.symm
    refine ⟨t, owner_of_critical hown hcritical, ?_⟩
    unfold critical at hcritical
    split at hcritical
    · rename_i hrest
      split at hcritical <;> cases hcritical
      rw [hrest]
      rfl
    · cases hcritical
  · rw [hcaller] at hidle
    cases hidle

theorem undisturbed_of_calm (h : Refines s hal) (hown : Owned discipline s)
    {event : Event Tid Outcome Call Environment} {e : UsbEvent} (hcalm : Calm s event)
    (hmakes : Makes s hal event e) : Undisturbed hal e := by
  cases e with
  | caller ok =>
    rcases event with ⟨_ | n, o⟩ | _ | (_ | _) <;> try exact hmakes.elim
    obtain ⟨a, k, hrest, hpc⟩ := hmakes
    intro hkill
    rw [hkill] at hpc
    obtain rfl := eq_of_callerPc_kill hpc.symm
    rw [h.worker.willQuery]
    exact hcalm (by rw [hrest]; rfl)
  | worker ok =>
    rcases event with ⟨_ | n, o⟩ | _ | (_ | _) <;> try exact hmakes.elim
    intro hjoin hrecv
    rw [h.shares.socket]
    exact hcalm (h.joins hown hjoin) (hrecv ▸ h.worker).eq_recv
  | signal =>
    rcases event with ⟨_ | n, o⟩ | _ | (_ | _) <;> try exact hmakes.elim
    intro henter
    exact hcalm (henter ▸ h.worker).eq_enter
  | _ => trivial

end Refined

section GetsOn

variable {s : Service} {hal : UsbHal} {block k : Block} {pc : WorkerPc} {n : Nat}

theorem Running.head {destroyThread : Bool} (h : Running destroyThread block pc)
    (hquery : pc.willQuery = false) :
    ∃ stmt k, block = stmt :: k ∧ stmt ≠ .act .join ∧ stmt ≠ .act .epollWait ∧
      ∀ l, stmt = .lock l → l = .mPartnerLock ∧ discipline.held [] block = [] := by
  cases h with
  | queryLock => cases hquery
  | _ => exact ⟨_, _, rfl, by simp, by simp, by simp [discipline, Discipline.held, Act.owes]⟩

/-- No thread takes `mLock` with `mPartnerLock` in hand. -/
theorem Guarded.not_lock (hguarded : Guarded block) (hlocked : discipline.Locked [] block)
    (hheld : .mPartnerLock ∈ discipline.held [] block) {l : Mutex} : block ≠ .lock l :: k := by
  rintro rfl
  obtain ⟨-, hrank, hk⟩ := hlocked
  have hl : l = .mLock := by
    have hlt := hrank .mPartnerLock hheld
    cases l <;> first | rfl | (revert hlt; decide)
  subst hl
  rcases hguarded with hclean | ⟨_, _, heq, -⟩
  · obtain ⟨a, k', rfl, henters, -⟩ := exists_of_clean_true hclean.2
    have hmem := List.mem_of_mem_tail hheld
    rcases held_of_underLock (underLock_of_enters henters) hk with hheld | hheld <;>
      simp [hheld] at hmem
  · cases heq

theorem exists_step_partner (h : Refines s hal) (hown : Owned discipline s)
    (halive : s.shared.ended = none)
    (hheld : .mPartnerLock ∈ discipline.held [] (s.rest (.binder n))) :
    ∃ o, (machine.step s (.run (.binder n) o)).isSome := by
  have hguarded := h.binder n
  have hlocked := hown.locked (.binder n)
  cases hrest : s.rest (.binder n) with
  | nil =>
    rw [hrest] at hheld
    cases hheld
  | cons stmt k =>
    rw [hrest] at hguarded hlocked hheld
    refine exists_step halive hrest ?_ ?_
    · rintro l rfl
      exact absurd rfl (hguarded.not_lock hlocked hheld)
    · rintro rfl
      rcases held_of_underLock (a := .join) rfl hlocked with hjoin | hjoin <;>
        simp [hjoin] at hheld

theorem exists_furthers_running (h : Refines s hal) (hown : Owned discipline s)
    (halive : s.shared.ended = none) {destroyThread : Bool}
    (hrunning : Running destroyThread (s.rest .worker) hal.worker)
    (hquery : hal.worker.willQuery = false) :
    ∃ event, Furthers s n event ∧ (machine.step s event).isSome := by
  obtain ⟨stmt, k, hrest, hjoin, hwait, hlock⟩ := hrunning.head hquery
  by_cases hblocked : ∃ l, stmt = .lock l ∧ s.owner l ≠ none
  · obtain ⟨l, rfl, howner⟩ := hblocked
    obtain ⟨rfl, hheld⟩ := hlock l rfl
    obtain ⟨t, howner⟩ := Option.ne_none_iff_exists'.mp howner
    have hmem := (hown.owner .mPartnerLock t).mp howner
    cases t with
    | worker =>
      rw [hheld] at hmem
      cases hmem
    | binder m =>
      obtain ⟨o, ho⟩ := exists_step_partner h hown halive hmem
      exact ⟨.run (.binder m) o, .inr ⟨by rw [hrest]; rfl, howner⟩, ho⟩
  · refine ⟨.run .worker {}, rfl, step_isSome halive hrest ?_ ?_⟩
    · intro l hl
      by_contra howner
      exact hblocked ⟨l, hl, howner⟩
    · rintro a rfl
      exact perform_isSome .worker (fun ha => hjoin (congrArg _ ha))
        (fun ha => hwait (congrArg _ ha)) _

theorem exists_furthers (h : Refines s hal) (hown : Owned discipline s) (horderly : Orderly hal)
    (halive : s.shared.ended = none) (hrest : s.rest (.binder n) = .act .join :: k) :
    ∃ event, Furthers s n event ∧ (machine.step s event).isSome := by
  have hcaller : hal.caller = .join := (h.inside hown hrest rfl).2.1
  cases hup : s.shared.workerUp with
  | false =>
    refine ⟨.run (.binder n) {}, .inl rfl, step_isSome halive hrest (by simp) ?_⟩
    rintro a ⟨⟩
    simp [Process.perform, hup]
  | true =>
    rcases (horderly.told hcaller).resolve_left (h.worker.of_up hup).2 with hsignalled | hdestroy
    · refine ⟨.environment .signal, trivial, ?_⟩
      rw [h.shares.signalled] at hsignalled
      simp [Machine.step, machine, Process.environment, hsignalled, hup]
    · have hworker := h.worker
      generalize hblock : s.rest .worker = block at hworker
      generalize hpc : hal.worker = pc at hworker
      cases hworker with
      | absent hflags | exited hflags => simp [Process.flags, hup] at hflags
      | spawned hflags =>
        simp only [Process.flags, Prod.mk.injEq] at hflags
        refine ⟨.call .worker .work, trivial, ?_⟩
        simp [Machine.step, machine, Process.call, halive, hblock, hflags]
      | epollWait =>
        have hpolls := horderly.polls (.inr hpc)
        rw [hdestroy] at hpolls
        cases hpolls
      | woken hflags =>
        simp only [Process.flags, Prod.mk.injEq] at hflags
        refine ⟨.run .worker {}, rfl, step_isSome halive hblock (by simp) ?_⟩
        rintro a ⟨⟩
        simp [Process.perform, Process.epollWait, hflags]
      | faulted _ hended => exact absurd halive hended
      | running _ hrunning =>
        exact exists_furthers_running h hown halive (hblock ▸ hpc ▸ hrunning)
          (horderly.joins hcaller)

end GetsOn

/-- **Unregistering.**  In a calm run a thread in `pthread_join` does not wait in vain: the
worker has ended, or it can go on, or the thread can that the worker waits for. -/
theorem unregister_gets_on (s : Service) (hreach : Reach machine.step Calm Service.init s)
    (halive : s.shared.ended = none) (n : Nat) (k : Block)
    (hjoin : s.rest (.binder n) = .act .join :: k) :
    ∃ event, Furthers s n event ∧ (machine.step s event).isSome := by
  obtain ⟨hal, hrun, hown, h⟩ :=
    refined_of_reach (fun _ _ _ _ h hown => undisturbed_of_calm h hown) hreach
  exact exists_furthers h hown (orderly_of_reach hrun) halive hjoin

/-- The worker sits in `epoll_wait` and the signal is on its way. -/
theorem unregister_gets_on_signalled :
    ∃ s, exec machine.step Calm Service.init
        [.call (.binder 0) (.setCallback (some 5)), .run (.binder 0) {}, .run (.binder 0) {},
          .run (.binder 0) {}, .run (.binder 0) {}, .call .worker .work, .run .worker {},
          .run .worker {}, .run .worker {}, .call (.binder 1) (.setCallback none),
          .run (.binder 1) {}, .run (.binder 1) {}, .run (.binder 1) {}] = some s ∧
      s.rest (.binder 1) = [.act .join, .unlock .mLock] ∧ s.rest .worker = [.act .epollWait] ∧
      s.shared.ended = none ∧ ∃ event, Furthers s 1 event ∧ (machine.step s event).isSome := by
  refine ⟨_, rfl, rfl, rfl, rfl, ?_⟩
  exact unregister_gets_on _ (reach_of_exec
    [.call (.binder 0) (.setCallback (some 5)), .run (.binder 0) {}, .run (.binder 0) {},
      .run (.binder 0) {}, .run (.binder 0) {}, .call .worker .work, .run .worker {},
      .run .worker {}, .run .worker {}, .call (.binder 1) (.setCallback none),
      .run (.binder 1) {}, .run (.binder 1) {}, .run (.binder 1) {}] rfl) rfl 1
    [.unlock .mLock] rfl

end Exynos9810.Usb.Threads
