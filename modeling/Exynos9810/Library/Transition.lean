import Mathlib.Tactic.Common

/-!
# Runs of a transition system

A step takes a state and an event to a new state, or is not enabled.  A run may
be restricted to steps that satisfy a condition on the state before them.
-/
namespace Transition

variable {State Event : Type} {step : State → Event → Option State}
  {allowed : State → Event → Prop} {start s : State}

/-- The states reached from `start` by steps that are all allowed. -/
inductive Reach (step : State → Event → Option State) (allowed : State → Event → Prop)
    (start : State) : State → Prop
  | start : Reach step allowed start start
  | next {s s' : State} {event : Event} (before : Reach step allowed start s)
      (hallowed : allowed s event) (hstep : step s event = some s') :
      Reach step allowed start s'

def Free (_ : State) (_ : Event) : Prop :=
  True

instance (s : State) (event : Event) : Decidable (Free s event) :=
  isTrue trivial

/-- What holds at the start and survives each allowed step holds in every state reached. -/
theorem Reach.invariant (hreach : Reach step allowed start s) (holds : State → Prop)
    (hstart : holds start)
    (hnext : ∀ s event s', holds s → allowed s event → step s event = some s' → holds s') :
    holds s := by
  induction hreach with
  | start => exact hstart
  | next _ hallowed hstep ih => exact hnext _ _ _ ih hallowed hstep

theorem Reach.single (event : Event) (hallowed : allowed start event)
    (hstep : step start event = some s) : Reach step allowed start s :=
  .next .start hallowed hstep

theorem Reach.trans {s' : State} (hreach : Reach step allowed start s)
    (hrest : Reach step allowed s s') : Reach step allowed start s' := by
  induction hrest with
  | start => exact hreach
  | next _ hallowed hstep ih => exact .next ih hallowed hstep

/-- Simulation: if every step is matched by steps of another system, or by none, every
state reached is matched by one that the other system reaches. -/
theorem Reach.simulated {State' Event' : Type} {step' : State' → Event' → Option State'}
    {allowed' : State' → Event' → Prop} {start' : State'} (relates : State → State' → Prop)
    (hreach : Reach step allowed start s) (hstart : relates start start')
    (hmatch : ∀ s event s' t, relates s t → allowed s event → step s event = some s' →
      ∃ t', Reach step' allowed' t t' ∧ relates s' t') :
    ∃ t, Reach step' allowed' start' t ∧ relates s t := by
  induction hreach with
  | start => exact ⟨start', .start, hstart⟩
  | next _ hallowed hstep ih =>
    obtain ⟨t, hbefore, hrelated⟩ := ih
    obtain ⟨t', hafter, hrelated'⟩ := hmatch _ _ _ t hrelated hallowed hstep
    exact ⟨t', hbefore.trans hafter, hrelated'⟩

def exec (step : State → Event → Option State) (allowed : State → Event → Prop)
    [∀ s event, Decidable (allowed s event)] : State → List Event → Option State
  | s, [] => some s
  | s, event :: rest =>
    if allowed s event then
      match step s event with
      | some s' => exec step allowed s' rest
      | none => none
    else none

theorem exec_cons [∀ s event, Decidable (allowed s event)] {s' : State} {event : Event}
    (hallowed : allowed s event) (hstep : step s event = some s') (rest : List Event) :
    exec step allowed s (event :: rest) = exec step allowed s' rest := by
  rw [exec, if_pos hallowed, hstep]

theorem reach_of_exec [∀ s event, Decidable (allowed s event)] (events : List Event)
    (h : exec step allowed start events = some s) : Reach step allowed start s := by
  suffices hgeneral : ∀ middle, Reach step allowed start middle →
      exec step allowed middle events = some s → Reach step allowed start s from
    hgeneral start .start h
  clear h
  induction events with
  | nil =>
    intro middle hmiddle h
    cases h
    exact hmiddle
  | cons event rest ih =>
    intro middle hmiddle h
    unfold exec at h
    split at h
    · rename_i hallowed
      split at h
      · rename_i next hnext
        exact ih next (.next hmiddle hallowed hnext) h
      · cases h
    · cases h

end Transition
