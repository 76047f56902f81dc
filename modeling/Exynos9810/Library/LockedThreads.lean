import Exynos9810.Library.Transition
import Mathlib.Data.List.Nodup
import Mathlib.Logic.Function.Basic

/-!
# Threads that share locks

A thread is the list of statements it has still to run.  What a thread holds can be
read off that list, if every lock is released in the reverse order of taking and an
act that has taken locks says which of them it will release.
-/
namespace LockedThreads

open Transition

/-- An `act` is carried out in one step and may put further statements in front of
those that are left. -/
inductive Stmt (Lock Act : Type) where
  | lock (l : Lock)
  | unlock (l : Lock)
  /-- If the lock is free it is taken, and the act comes next. -/
  | tryLock (l : Lock) (taken : Act)
  | act (a : Act)
  deriving DecidableEq, Repr

/-- What the acts do to the shared data.  Nothing runs once it is not `alive`. -/
structure Machine (Tid Lock Act Outcome Call Env Shared : Type) where
  alive : Shared → Bool
  call : Tid → Call → Shared → Option (Shared × List (Stmt Lock Act))
  perform : Tid → Act → Outcome → Shared → Option (Shared × List (Stmt Lock Act))
  environment : Env → Shared → Option Shared

structure State (Tid Lock Act Shared : Type) where
  shared : Shared
  owner : Lock → Option Tid
  rest : Tid → List (Stmt Lock Act)
  /-- The statements that have been run; `tryLock` is seen as `lock` if it succeeds. -/
  trace : List (Tid × Stmt Lock Act)

inductive Event (Tid Outcome Call Env : Type) where
  | run (t : Tid) (outcome : Outcome)
  | call (t : Tid) (c : Call)
  | environment (e : Env)

variable {Tid Lock Act Outcome Call Env Shared : Type}

/-- No thread has begun. -/
def State.start (shared : Shared) : State Tid Lock Act Shared :=
  { shared, owner := fun _ => none, rest := fun _ => [], trace := [] }

namespace Machine

variable [DecidableEq Tid] [DecidableEq Lock] (m : Machine Tid Lock Act Outcome Call Env Shared)

def take (s : State Tid Lock Act Shared) (t : Tid) (l : Lock) (k : List (Stmt Lock Act)) :
    State Tid Lock Act Shared :=
  { s with
    owner := Function.update s.owner l (some t)
    rest := Function.update s.rest t k
    trace := s.trace ++ [(t, .lock l)] }

def run (s : State Tid Lock Act Shared) (t : Tid) (outcome : Outcome) :
    Option (State Tid Lock Act Shared) :=
  match s.rest t with
  | [] => none
  | .lock l :: k => if (s.owner l).isNone then some (take s t l k) else none
  | .unlock l :: k =>
    some { s with
      owner := Function.update s.owner l none
      rest := Function.update s.rest t k
      trace := s.trace ++ [(t, .unlock l)] }
  | .tryLock l taken :: k =>
    if (s.owner l).isNone then some (take s t l (.act taken :: k))
    else some { s with rest := Function.update s.rest t k }
  | .act a :: k =>
    (m.perform t a outcome s.shared).map fun next =>
      { s with
        shared := next.1
        rest := Function.update s.rest t (next.2 ++ k)
        trace := s.trace ++ [(t, .act a)] }

def step (s : State Tid Lock Act Shared) :
    Event Tid Outcome Call Env → Option (State Tid Lock Act Shared)
  | .run t outcome => if m.alive s.shared then m.run s t outcome else none
  | .call t c =>
    if m.alive s.shared && (s.rest t).isEmpty then
      (m.call t c s.shared).map fun next =>
        { s with shared := next.1, rest := Function.update s.rest t next.2 }
    else none
  | .environment e => (m.environment e s.shared).map fun shared => { s with shared }

variable {m}

/-- A thread runs a statement about a lock, which leaves the shared data alone, or an
act. -/
theorem run_cases {s s' : State Tid Lock Act Shared} {t : Tid} {outcome : Outcome}
    (h : m.run s t outcome = some s') :
    (s'.shared = s.shared ∧ ∃ stmt k block, s.rest t = stmt :: k ∧ (∀ a, stmt ≠ .act a) ∧
      s'.rest = Function.update s.rest t (block ++ k) ∧
      (block = [] ∨ ∃ l taken, stmt = .tryLock l taken ∧ block = [.act taken])) ∨
    ∃ a k next, s.rest t = .act a :: k ∧ m.perform t a outcome s.shared = some next ∧
      s'.shared = next.1 ∧ s'.rest = Function.update s.rest t (next.2 ++ k) := by
  unfold run at h
  split at h
  · cases h
  · rename_i l k hrest
    split at h <;> cases h
    exact .inl ⟨rfl, _, k, [], hrest, by simp, rfl, .inl rfl⟩
  · rename_i l k hrest
    cases h
    exact .inl ⟨rfl, _, k, [], hrest, by simp, rfl, .inl rfl⟩
  · rename_i l taken k hrest
    split at h <;> cases h
    · exact .inl ⟨rfl, _, k, [.act taken], hrest, by simp, rfl, .inr ⟨l, taken, rfl, rfl⟩⟩
    · exact .inl ⟨rfl, _, k, [], hrest, by simp, rfl, .inl rfl⟩
  · rename_i a k hrest
    obtain ⟨next, hperform, rfl⟩ := Option.map_eq_some_iff.mp h
    exact .inr ⟨a, k, next, hrest, hperform, rfl, rfl⟩

section Run

variable {s s' : State Tid Lock Act Shared} {t : Tid} {outcome : Outcome}
  {k : List (Stmt Lock Act)}

theorem run_act {a : Act} (hrest : s.rest t = .act a :: k) (h : m.run s t outcome = some s') :
    ∃ next, m.perform t a outcome s.shared = some next ∧
      s' = { s with
        shared := next.1, rest := Function.update s.rest t (next.2 ++ k)
        trace := s.trace ++ [(t, .act a)] } := by
  rw [run, hrest] at h
  obtain ⟨next, hperform, rfl⟩ := Option.map_eq_some_iff.mp h
  exact ⟨next, hperform, rfl⟩

theorem run_lock {l : Lock} (hrest : s.rest t = .lock l :: k) (h : m.run s t outcome = some s') :
    s.owner l = none ∧ s' = take s t l k := by
  rw [run, hrest] at h
  dsimp only at h
  split at h <;> cases h
  rename_i hfree
  exact ⟨Option.isNone_iff_eq_none.mp hfree, rfl⟩

theorem run_unlock {l : Lock} (hrest : s.rest t = .unlock l :: k)
    (h : m.run s t outcome = some s') :
    s' = { s with
      owner := Function.update s.owner l none, rest := Function.update s.rest t k
      trace := s.trace ++ [(t, .unlock l)] } := by
  rw [run, hrest] at h
  exact (Option.some.inj h).symm

theorem run_tryLock {l : Lock} {taken : Act} (hrest : s.rest t = .tryLock l taken :: k)
    (h : m.run s t outcome = some s') :
    s' = take s t l (.act taken :: k) ∨ s' = { s with rest := Function.update s.rest t k } := by
  rw [run, hrest] at h
  dsimp only at h
  split at h <;> cases h
  · exact .inl rfl
  · exact .inr rfl

end Run

end Machine

/-- The order of the locks, and where an act may stand. -/
structure Discipline (Lock Act : Type) where
  rank : Lock → Nat
  /-- Locks that the act finds taken and that its statements release. -/
  owes : Act → List Lock
  /-- Whether the act may run with these locks held, its own first. -/
  site : Act → List Lock → Prop

namespace Discipline

variable (d : Discipline Lock Act)

/-- The locks held in front of the statements, if `base` are held behind them. -/
def held (base : List Lock) : List (Stmt Lock Act) → List Lock
  | [] => base
  | .lock _ :: k => (held base k).tail
  | .unlock l :: k => l :: held base k
  | .tryLock _ _ :: k => held base k
  | .act a :: k => d.owes a ++ held base k

def Locked (base : List Lock) : List (Stmt Lock Act) → Prop
  | [] => True
  | .lock l :: k =>
    (d.held base k).head? = some l ∧ (∀ l' ∈ (d.held base k).tail, d.rank l' < d.rank l) ∧
      Locked base k
  | .unlock _ :: k => Locked base k
  | .tryLock l taken :: k =>
    d.owes taken = [l] ∧ d.site taken (l :: d.held base k) ∧ Locked base k
  | .act a :: k => d.site a (d.owes a ++ d.held base k) ∧ Locked base k

theorem held_append (base : List Lock) (block k : List (Stmt Lock Act)) :
    d.held base (block ++ k) = d.held (d.held base k) block := by
  induction block with
  | nil => rfl
  | cons stmt block ih => cases stmt <;> simp only [List.cons_append, held, ih]

theorem locked_append (base : List Lock) (block k : List (Stmt Lock Act)) :
    d.Locked base (block ++ k) ↔ d.Locked (d.held base k) block ∧ d.Locked base k := by
  induction block with
  | nil => simp [Locked]
  | cons stmt block ih =>
    cases stmt <;> simp only [List.cons_append, Locked, held_append, ih, and_assoc]

end Discipline

structure Sound (d : Discipline Lock Act) (m : Machine Tid Lock Act Outcome Call Env Shared) :
    Prop where
  call : ∀ {t c shared next}, m.call t c shared = some next →
    d.Locked [] next.2 ∧ d.held [] next.2 = []
  perform : ∀ {t a outcome shared next} {base : List Lock},
    m.perform t a outcome shared = some next → d.site a (d.owes a ++ base) →
    d.Locked base next.2 ∧ d.held base next.2 = d.owes a ++ base

/-- The owner of a lock is the thread that is going to release it. -/
structure Owned (d : Discipline Lock Act) (s : State Tid Lock Act Shared) : Prop where
  locked : ∀ t, d.Locked [] (s.rest t)
  nodup : ∀ t, (d.held [] (s.rest t)).Nodup
  owner : ∀ l t, s.owner l = some t ↔ l ∈ d.held [] (s.rest t)

section Ownership

variable {d : Discipline Lock Act} {s : State Tid Lock Act Shared}

theorem owned_start (shared : Shared) :
    Owned d (State.start shared : State Tid Lock Act Shared) where
  locked := fun _ => trivial
  nodup := fun _ => List.nodup_nil
  owner := by
    intro l t
    simp [State.start, Discipline.held]

theorem Owned.not_mem_held (h : Owned d s) {l : Lock} (hfree : s.owner l = none) (t : Tid) :
    l ∉ d.held [] (s.rest t) := by
  rw [← h.owner, hfree]
  exact nofun

theorem Owned.eq_of_mem_held (h : Owned d s) {l : Lock} {t t' : Tid}
    (ht : l ∈ d.held [] (s.rest t)) (ht' : l ∈ d.held [] (s.rest t')) : t = t' := by
  rw [← h.owner] at ht ht'
  rw [ht] at ht'
  exact Option.some_inj.mp ht'

/-- If a thread waits for a lock, some thread with a lock does not: it would have to
wait for one of higher rank. -/
theorem Owned.exists_unblocked (h : Owned d s) (bound : Nat) (hbound : ∀ l, d.rank l < bound)
    {t : Tid} {l : Lock} {k : List (Stmt Lock Act)} (hrest : s.rest t = .lock l :: k)
    (howner : s.owner l ≠ none) :
    ∃ t' stmt k', s.rest t' = stmt :: k' ∧ d.held [] (s.rest t') ≠ [] ∧
      ∀ l', stmt = .lock l' → s.owner l' = none := by
  induction hn : bound - d.rank l using Nat.strongRecOn generalizing t l k with
  | ind n ih =>
    obtain ⟨t', ht'⟩ := Option.ne_none_iff_exists'.mp howner
    have hheld := (h.owner l t').mp ht'
    have hne : d.held [] (s.rest t') ≠ [] := List.ne_nil_of_mem hheld
    cases hrest' : s.rest t' with
    | nil =>
      rw [hrest'] at hne
      exact absurd rfl hne
    | cons stmt k' =>
      by_cases hblocked : ∃ l', stmt = .lock l' ∧ s.owner l' ≠ none
      · obtain ⟨l', rfl, howner'⟩ := hblocked
        have hlocked := h.locked t'
        rw [hrest'] at hlocked hheld
        have hrank := hlocked.2.1 l hheld
        have hlt := hbound l'
        exact ih (bound - d.rank l') (by omega) hrest' howner' rfl
      · refine ⟨t', stmt, k', hrest', hne, ?_⟩
        intro l' hstmt
        by_contra howner'
        exact hblocked ⟨l', hstmt, howner'⟩

variable [DecidableEq Tid]

theorem Owned.goOn (h : Owned d s) {t : Tid} {k : List (Stmt Lock Act)}
    (hlocked : d.Locked [] k) (hheld : d.held [] k = d.held [] (s.rest t)) (shared : Shared)
    (trace : List (Tid × Stmt Lock Act)) :
    Owned d { s with shared, rest := Function.update s.rest t k, trace } := by
  refine ⟨?_, ?_, ?_⟩
  · intro t'
    rcases eq_or_ne t' t with rfl | hne
    · simpa only [Function.update_self] using hlocked
    · simpa only [Function.update_of_ne hne] using h.locked t'
  · intro t'
    rcases eq_or_ne t' t with rfl | hne
    · simpa only [Function.update_self, hheld] using h.nodup t'
    · simpa only [Function.update_of_ne hne] using h.nodup t'
  · intro l t'
    rcases eq_or_ne t' t with rfl | hne
    · simpa only [Function.update_self, hheld] using h.owner l t'
    · simpa only [Function.update_of_ne hne] using h.owner l t'

variable [DecidableEq Lock]

theorem Owned.take (h : Owned d s) {t : Tid} {l : Lock} {k : List (Stmt Lock Act)}
    (hfree : s.owner l = none) (hlocked : d.Locked [] k)
    (hheld : d.held [] k = l :: d.held [] (s.rest t)) :
    Owned d (Machine.take s t l k) := by
  refine ⟨?_, ?_, ?_⟩
  · intro t'
    rcases eq_or_ne t' t with rfl | hne
    · simpa only [Machine.take, Function.update_self] using hlocked
    · simpa only [Machine.take, Function.update_of_ne hne] using h.locked t'
  · intro t'
    rcases eq_or_ne t' t with rfl | hne
    · simp only [Machine.take, Function.update_self, hheld]
      exact List.nodup_cons.mpr ⟨h.not_mem_held hfree t', h.nodup t'⟩
    · simpa only [Machine.take, Function.update_of_ne hne] using h.nodup t'
  · intro l' t'
    have hown := h.owner l' t'
    rcases eq_or_ne l' l with rfl | hl
    · rcases eq_or_ne t' t with rfl | hne
      · simp [Machine.take, hheld]
      · simpa [Machine.take, Function.update_of_ne hne, hne.symm] using
          h.not_mem_held hfree t'
    · rcases eq_or_ne t' t with rfl | hne
      · simpa [Machine.take, Function.update_of_ne hl, hheld, hl] using hown
      · simpa only [Machine.take, Function.update_of_ne hl, Function.update_of_ne hne] using hown

theorem Owned.release (h : Owned d s) {t : Tid} {l : Lock} {k : List (Stmt Lock Act)}
    (hlocked : d.Locked [] k) (hheld : d.held [] (s.rest t) = l :: d.held [] k)
    (trace : List (Tid × Stmt Lock Act)) :
    Owned d { s with
      owner := Function.update s.owner l none
      rest := Function.update s.rest t k, trace } := by
  have hnodup := h.nodup t
  rw [hheld, List.nodup_cons] at hnodup
  refine ⟨?_, ?_, ?_⟩
  · intro t'
    rcases eq_or_ne t' t with rfl | hne
    · simpa only [Function.update_self] using hlocked
    · simpa only [Function.update_of_ne hne] using h.locked t'
  · intro t'
    rcases eq_or_ne t' t with rfl | hne
    · simpa only [Function.update_self] using hnodup.2
    · simpa only [Function.update_of_ne hne] using h.nodup t'
  · intro l' t'
    have hown := h.owner l' t'
    rcases eq_or_ne l' l with rfl | hl
    · rcases eq_or_ne t' t with rfl | hne
      · simpa using hnodup.1
      · have howner : s.owner l' = some t := (h.owner l' t).mpr (by simp [hheld])
        rw [howner] at hown
        simpa [Function.update_of_ne hne, hne.symm] using hown
    · rcases eq_or_ne t' t with rfl | hne
      · simpa [Function.update_of_ne hl, hheld, hl] using hown
      · simpa only [Function.update_of_ne hl, Function.update_of_ne hne] using hown

end Ownership

section Run

variable [DecidableEq Tid] [DecidableEq Lock] {d : Discipline Lock Act}
  {m : Machine Tid Lock Act Outcome Call Env Shared} {s s' : State Tid Lock Act Shared}

theorem owned_run (hm : Sound d m) (h : Owned d s) {t : Tid} {outcome : Outcome}
    (hrun : m.run s t outcome = some s') : Owned d s' := by
  have hlocked := h.locked t
  unfold Machine.run at hrun
  split at hrun
  · cases hrun
  · rename_i l k hrest
    split at hrun <;> cases hrun
    rename_i hfree
    rw [hrest] at hlocked
    refine h.take (Option.isNone_iff_eq_none.mp hfree) hlocked.2.2 ?_
    rw [hrest, Discipline.held]
    exact (List.cons_head?_tail hlocked.1).symm
  · rename_i l k hrest
    cases hrun
    rw [hrest] at hlocked
    exact h.release (l := l) (k := k) hlocked (by rw [hrest, Discipline.held]) _
  · rename_i l taken k hrest
    rw [hrest] at hlocked
    obtain ⟨howes, hsite, hlocked⟩ := hlocked
    split at hrun <;> cases hrun
    · rename_i hfree
      refine h.take (Option.isNone_iff_eq_none.mp hfree) ⟨?_, hlocked⟩ ?_
      · rw [howes]
        exact hsite
      · rw [hrest, Discipline.held, Discipline.held, howes]
        rfl
    · exact h.goOn hlocked (by rw [hrest, Discipline.held]) _ _
  · rename_i a k hrest
    rw [hrest] at hlocked
    obtain ⟨next, hperform, rfl⟩ := Option.map_eq_some_iff.mp hrun
    obtain ⟨hblock, hheld⟩ := hm.perform hperform hlocked.1
    refine h.goOn ((d.locked_append _ _ _).mpr ⟨hblock, hlocked.2⟩) ?_ _ _
    rw [hrest, d.held_append, hheld, Discipline.held]

theorem owned_step (hm : Sound d m) (h : Owned d s) {event : Event Tid Outcome Call Env}
    (hstep : m.step s event = some s') : Owned d s' := by
  cases event with
  | run t outcome =>
    simp only [Machine.step] at hstep
    split at hstep
    · exact owned_run hm h hstep
    · cases hstep
  | call t c =>
    simp only [Machine.step] at hstep
    split at hstep
    · rename_i hidle
      obtain ⟨next, hcall, rfl⟩ := Option.map_eq_some_iff.mp hstep
      obtain ⟨hlocked, hheld⟩ := hm.call hcall
      have hrest : s.rest t = [] := by simp_all
      exact h.goOn hlocked (by rw [hheld, hrest, Discipline.held]) _ _
    · cases hstep
  | environment e =>
    obtain ⟨shared, -, rfl⟩ := Option.map_eq_some_iff.mp hstep
    exact ⟨h.locked, h.nodup, h.owner⟩

theorem owned_of_reach (hm : Sound d m) {shared : Shared}
    {allowed : State Tid Lock Act Shared → Event Tid Outcome Call Env → Prop}
    (hreach : Reach m.step allowed (State.start shared) s) : Owned d s :=
  hreach.invariant (Owned d) (owned_start shared) fun _ _ _ h _ hstep => owned_step hm h hstep

end Run

section Trace

/-- The last thing that was done with the lock is that `t` has taken it. -/
def TookLast (l : Lock) (t : Tid) (trace : List (Tid × Stmt Lock Act)) : Prop :=
  ∃ before between, trace = before ++ (t, .lock l) :: between ∧
    ∀ entry ∈ between, entry.2 ≠ .lock l ∧ entry.2 ≠ .unlock l

def Traced (s : State Tid Lock Act Shared) : Prop :=
  ∀ l t, s.owner l = some t → TookLast l t s.trace

variable {l : Lock} {t : Tid} {trace : List (Tid × Stmt Lock Act)}

theorem tookLast_lock (l : Lock) (t : Tid) (trace : List (Tid × Stmt Lock Act)) :
    TookLast l t (trace ++ [(t, .lock l)]) :=
  ⟨trace, [], rfl, by simp⟩

theorem TookLast.concat (h : TookLast l t trace) {entry : Tid × Stmt Lock Act}
    (hlock : entry.2 ≠ .lock l) (hunlock : entry.2 ≠ .unlock l) :
    TookLast l t (trace ++ [entry]) := by
  obtain ⟨before, between, rfl, hbetween⟩ := h
  refine ⟨before, between ++ [entry], by simp, ?_⟩
  intro entry' hentry'
  rcases List.mem_append.mp hentry' with hmem | hmem
  · exact hbetween entry' hmem
  · rw [List.mem_singleton.mp hmem]
    exact ⟨hlock, hunlock⟩

variable [DecidableEq Tid] [DecidableEq Lock] {s s' : State Tid Lock Act Shared}
  {m : Machine Tid Lock Act Outcome Call Env Shared}

theorem Traced.take (h : Traced s) (t : Tid) (l : Lock) (k : List (Stmt Lock Act)) :
    Traced (Machine.take s t l k) := by
  intro l' t' howner
  simp only [Machine.take, Function.update_apply] at howner ⊢
  split at howner
  · rename_i hl
    cases howner
    rw [hl]
    exact tookLast_lock l t s.trace
  · rename_i hl
    exact (h l' t' howner).concat (by simpa using Ne.symm hl) (by simp)

theorem traced_run (h : Traced s) {t : Tid} {outcome : Outcome}
    (hrun : m.run s t outcome = some s') : Traced s' := by
  unfold Machine.run at hrun
  split at hrun
  · cases hrun
  · split at hrun <;> cases hrun
    exact h.take _ _ _
  · rename_i l k hrest
    cases hrun
    intro l' t' howner
    simp only [Function.update_apply] at howner
    split at howner
    · cases howner
    · rename_i hl
      exact (h l' t' howner).concat (by simp) (by simpa using Ne.symm hl)
  · split at hrun <;> cases hrun
    · exact h.take _ _ _
    · exact h
  · rename_i a k hrest
    obtain ⟨next, -, rfl⟩ := Option.map_eq_some_iff.mp hrun
    intro l' t' howner
    exact (h l' t' howner).concat (by simp) (by simp)

theorem traced_step (h : Traced s) {event : Event Tid Outcome Call Env}
    (hstep : m.step s event = some s') : Traced s' := by
  cases event with
  | run t outcome =>
    simp only [Machine.step] at hstep
    split at hstep
    · exact traced_run h hstep
    · cases hstep
  | call t c =>
    simp only [Machine.step] at hstep
    split at hstep
    · obtain ⟨next, -, rfl⟩ := Option.map_eq_some_iff.mp hstep
      exact h
    · cases hstep
  | environment e =>
    obtain ⟨shared, -, rfl⟩ := Option.map_eq_some_iff.mp hstep
    exact h

theorem traced_of_reach {shared : Shared}
    {allowed : State Tid Lock Act Shared → Event Tid Outcome Call Env → Prop}
    (hreach : Reach m.step allowed (State.start shared) s) : Traced s := by
  induction hreach with
  | start =>
    intro l t howner
    cases howner
  | next _ _ hstep ih => exact traced_step ih hstep

end Trace

end LockedThreads
