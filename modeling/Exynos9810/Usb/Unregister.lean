import Exynos9810.Usb.SetCallback

/-!
# Unregistering the callback

`setCallback(NULL)` waits for the worker with `mLock` held.  It returns as long as
the worker is not on its way to that lock and the signal finds it in `epoll_wait`
or on its way to the test.
-/
namespace Exynos9810.Usb

open Transition UsbHal

/-- The join holds `mLock` and the worker cannot get to its test: it waits for the
lock, or sits in `epoll_wait` with the signal used up. -/
def Deadlocked (s : UsbHal) : Prop :=
  s.caller = .join ∧ s.mLock = some .caller ∧
    (s.worker = .queryLock ∨ s.worker = .epollWait ∧ s.destroyThread = true ∧
      s.signalled = false ∧ s.socket = [])

instance (s : UsbHal) : Decidable (Deadlocked s) :=
  inferInstanceAs (Decidable (_ ∧ _ ∧ (_ ∨ _ ∧ _ ∧ _ ∧ _)))

def WorkerPc.willQuery : WorkerPc → Bool
  | .scan segments => leadsToQuery segments
  | .queryLock => true
  | _ => false

/-- No message that leads to a query is being scanned when the signal is sent or
is read before the worker is gone, and the handler does not run between the test and
`epoll_wait`. -/
def Undisturbed (s : UsbHal) : UsbEvent → Prop
  | .caller _ => s.caller = .kill → s.worker.willQuery = false
  | .worker _ => s.caller = .join → s.worker = .recv →
      ∀ msg ∈ s.socket.head?, leadsToQuery (segments msg) = false
  | .signal => s.worker ≠ .enter
  | _ => True

instance (s : UsbHal) (event : UsbEvent) : Decidable (Undisturbed s event) := by
  unfold Undisturbed
  split <;> infer_instance

/-- A worker behind its test has not been told to stop by then, and a worker that
is joined has been told and is not going to query. -/
structure Orderly (s : UsbHal) : Prop where
  polls : s.worker = .enter ∨ s.worker = .epollWait → s.destroyThread = false
  told : s.caller = .join → s.worker = .exited ∨ s.signalled = true ∨ s.destroyThread = true
  joins : s.caller = .join → s.worker.willQuery = false

variable {s s' : UsbHal}

theorem orderly_callerStep (h : Orderly s) {ok : Bool}
    (hallowed : Undisturbed s (.caller ok)) (hstep : s.callerStep ok = some s') :
    Orderly s' := by
  unfold callerStep at hstep
  split at hstep
  · cases hstep
  · split at hstep <;> cases hstep
    · exact ⟨h.polls, nofun, nofun⟩
    · refine ⟨h.polls, ?_, ?_⟩ <;> dsimp only <;> split <;> nofun
  · rename_i hpc
    split at hstep
    · cases hstep
      exact ⟨h.polls, fun _ => .inr (.inl rfl), fun _ => hallowed hpc⟩
    · split at hstep <;> cases hstep
      exact ⟨h.polls, nofun, nofun⟩
  · split at hstep <;> cases hstep
    exact ⟨nofun, nofun, nofun⟩
  · split at hstep <;> cases hstep
    · exact ⟨nofun, nofun, nofun⟩
    · exact ⟨fun _ => rfl, nofun, nofun⟩

theorem orderly_moved (h : Orderly s) (hpc : s.worker ≠ .exited) (pc : WorkerPc)
    (hpolls : pc = .enter ∨ pc = .epollWait → s.destroyThread = false)
    (hquery : s.caller = .join → pc.willQuery = false) {mPartnerUp : Bool}
    {mLock : Option Holder} {socket : List Uevent} :
    Orderly { s with worker := pc, mPartnerUp, mLock, socket } := by
  refine ⟨hpolls, fun hjoin => .inr ?_, hquery⟩
  exact (h.told hjoin).resolve_left hpc

theorem orderly_scan (h : Orderly s) {segment : List Char} {rest : List (List Char)}
    (hpc : s.worker = .scan (segment :: rest)) {ok : Bool} (hstep : s.workerStep ok = some s') :
    Orderly s' := by
  have halive : s.worker ≠ .exited := by
    rw [hpc]
    nofun
  have hquery (hjoin : s.caller = .join) : leadsToQuery (segment :: rest) = false := by
    have hjoins := h.joins hjoin
    rwa [hpc] at hjoins
  simp only [workerStep, hpc] at hstep
  simp only [leadsToQuery, List.any_cons, Bool.or_eq_false_iff] at hquery
  split at hstep
  · cases hstep
    exact orderly_moved h halive (.scan rest) nofun fun hjoin => (hquery hjoin).2
  · rename_i hpartner
    split at hstep <;> cases hstep
    · rename_i hchange
      refine orderly_moved h halive .queryLock nofun fun hjoin => ?_
      simp [hpartner, hchange] at hquery
      exact absurd hjoin hquery
    · exact orderly_moved h halive (.scan rest) nofun fun hjoin => (hquery hjoin).2

theorem orderly_workerStep (h : Orderly s) {ok : Bool}
    (hallowed : Undisturbed s (.worker ok)) (hstep : s.workerStep ok = some s') :
    Orderly s' := by
  cases hpc : s.worker with
  | scan segments =>
    cases segments with
    | nil =>
      simp only [workerStep, hpc] at hstep
      cases hstep
      exact orderly_moved h (by simp [hpc]) .test nofun fun _ => rfl
    | cons segment rest => exact orderly_scan h hpc hstep
  | recv =>
    simp only [workerStep, hpc] at hstep
    split at hstep <;> cases hstep
    · exact orderly_moved h (by simp [hpc]) .test nofun fun _ => rfl
    · rename_i msg rest hsocket
      refine orderly_moved h (by simp [hpc]) (.scan (segments msg)) nofun fun hjoin => ?_
      exact hallowed hjoin hpc msg (by simp [hsocket])
  | test =>
    simp only [workerStep, hpc] at hstep
    cases hstep
    refine orderly_moved h (by simp [hpc]) _ ?_ ?_
    · intro hpolls
      by_contra hdestroy
      rw [if_pos (Bool.not_eq_false _ ▸ hdestroy)] at hpolls
      rcases hpolls with hpolls | hpolls <;> cases hpolls
    · intro _
      split <;> rfl
  | enter =>
    simp only [workerStep, hpc] at hstep
    cases hstep
    exact orderly_moved h (by simp [hpc]) .epollWait (fun _ => h.polls (.inl hpc)) fun _ => rfl
  | epollWait =>
    simp only [workerStep, hpc] at hstep
    split_ifs at hstep <;> cases hstep
    · exact orderly_moved h (by simp [hpc]) .exited nofun fun _ => rfl
    · exact orderly_moved h (by simp [hpc]) .recv nofun fun _ => rfl
  | queryLock =>
    simp only [workerStep, hpc] at hstep
    split at hstep <;> cases hstep
    exact orderly_moved h (by simp [hpc]) .querying nofun fun _ => rfl
  | opening =>
    simp only [workerStep, hpc] at hstep
    cases ok <;> cases hstep
    · exact orderly_moved h (by simp [hpc]) .exited nofun fun _ => rfl
    · exact orderly_moved h (by simp [hpc]) .test nofun fun _ => rfl
  | querying =>
    simp only [workerStep, hpc] at hstep
    cases hstep
    exact orderly_moved h (by simp [hpc]) .roleSwitch nofun fun _ => rfl
  | roleSwitch =>
    simp only [workerStep, hpc] at hstep
    cases hstep
    exact orderly_moved h (by simp [hpc]) .test nofun fun _ => rfl
  | absent | exited =>
    simp only [workerStep, hpc] at hstep
    cases hstep

theorem orderly_deliver (h : Orderly s) (hallowed : s.worker ≠ .enter)
    (hstep : s.deliver = some s') : Orderly s' := by
  unfold deliver at hstep
  split at hstep <;> cases hstep
  refine ⟨?_, fun _ => .inr (.inr rfl), ?_⟩
  · dsimp only
    split
    · nofun
    · rintro (hpc | hpc)
      · exact absurd hpc hallowed
      · contradiction
  · intro hjoin
    dsimp only
    split
    · rfl
    · exact h.joins hjoin

theorem orderly_step {event : UsbEvent} (h : Orderly s) (hallowed : Undisturbed s event)
    (hstep : s.step event = some s') : Orderly s' := by
  cases event with
  | setCallback inCallback =>
    simp only [step] at hstep
    split at hstep <;> cases hstep
    exact ⟨h.polls, nofun, nofun⟩
  | caller ok => exact orderly_callerStep h hallowed hstep
  | worker ok => exact orderly_workerStep h hallowed hstep
  | signal => exact orderly_deliver h hallowed hstep
  | uevent msg =>
    cases hstep
    exact ⟨h.polls, h.told, h.joins⟩
  | otherLocks | otherUnlocks =>
    simp only [step] at hstep
    split at hstep <;> cases hstep
    exact ⟨h.polls, h.told, h.joins⟩

theorem orderly_of_reach (hreach : Reach step Undisturbed UsbHal.init s) : Orderly s :=
  hreach.invariant Orderly ⟨nofun, nofun, nofun⟩ fun _ _ _ h hallowed hstep =>
    orderly_step h hallowed hstep

/-- While the join waits for a worker that is still there, the worker or its signal
handler can go on. -/
theorem join_progress (h : Orderly s) (hjoin : s.caller = .join)
    (hthere : s.worker ≠ .absent) (hworker : s.worker ≠ .exited) :
    (s.step .signal).isSome ∨ (s.step (.worker true)).isSome := by
  rcases (h.told hjoin).resolve_left hworker with hsignalled | hdestroy
  · left
    simp [step, deliver, hsignalled, hthere, hworker]
  · right
    have hjoins := h.joins hjoin
    have hpolls := h.polls
    cases hpc : s.worker with
    | scan segments =>
      cases segments with
      | nil => simp [step, workerStep, hpc]
      | cons segment rest =>
        simp only [step, workerStep, hpc]
        split_ifs <;> rfl
    | recv =>
      simp only [step, workerStep, hpc]
      split <;> rfl
    | epollWait => simp [hpc, hdestroy] at hpolls
    | queryLock => simp [hpc, WorkerPc.willQuery] at hjoins
    | absent => exact absurd hpc hthere
    | exited => exact absurd hpc hworker
    | _ => simp [step, workerStep, hpc]

/-- In an undisturbed run the join never faces a worker that cannot get to its test: the
worker or its signal handler can go on until the worker has exited. -/
theorem unregister_never_deadlocks (s : UsbHal)
    (hrun : Reach step Undisturbed UsbHal.init s) :
    ¬Deadlocked s ∧
      (s.caller = .join → s.worker ≠ .absent → s.worker ≠ .exited →
        (s.step .signal).isSome ∨ (s.step (.worker true)).isSome) := by
  have h := orderly_of_reach hrun
  refine ⟨?_, join_progress h⟩
  rintro ⟨hjoin, -, hquery | ⟨hwait, hdestroy, -⟩⟩
  · have hjoins := h.joins hjoin
    rw [hquery] at hjoins
    cases hjoins
  · rw [h.polls (.inr hwait)] at hdestroy
    cases hdestroy

theorem unregister_never_deadlocks_idle :
    ∃ s, exec step Undisturbed UsbHal.init
        [.setCallback (some 0), .caller true, .caller true, .worker true, .worker true,
          .worker true, .setCallback none, .caller true, .caller true] = some s ∧
      s.caller = .join ∧ s.worker = .epollWait ∧ ¬Deadlocked s ∧
      ((s.step .signal).isSome ∨ (s.step (.worker true)).isSome) := by
  refine ⟨_, rfl, rfl, rfl, ?_⟩
  have hsafe := unregister_never_deadlocks _ (reach_of_exec
    [.setCallback (some 0), .caller true, .caller true, .worker true, .worker true,
      .worker true, .setCallback none, .caller true, .caller true] rfl)
  exact ⟨hsafe.1, hsafe.2 rfl (by decide) (by decide)⟩

/-- A Type-C uevent before the call, or a signal between the test and `epoll_wait`. -/
theorem unregister_deadlocks :
    (∃ s, exec step Free UsbHal.init
        [.setCallback (some 0), .caller true, .caller true, .worker true, .worker true,
          .worker true, .uevent "DEVTYPE=typec_port".toList, .worker true, .worker true,
          .worker true, .setCallback none, .caller true, .caller true] = some s ∧
      s.worker = .queryLock ∧ Deadlocked s) ∧
    ∃ s, exec step Free UsbHal.init
        [.setCallback (some 0), .caller true, .caller true, .worker true, .worker true,
          .setCallback none, .caller true, .caller true, .signal, .worker true] = some s ∧
      s.worker = .epollWait ∧ Deadlocked s := by
  exact ⟨⟨_, rfl, rfl, by decide⟩, ⟨_, rfl, rfl, by decide⟩⟩

end Exynos9810.Usb
