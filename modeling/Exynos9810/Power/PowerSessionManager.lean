import Mathlib.Data.Finset.Basic

/-!
# `PowerSessionManager.cpp`: registering sessions

A tid may be listed by several sessions and several times by one of them.  The
manager keeps a reference count for each and switches a task profile when the
first reference comes and when the last one goes.  Whether the `n`th call of
`SetTaskProfiles` succeeds is a parameter.
-/
namespace Exynos9810.Power

abbrev Tid := Int
abbrev SessionId := Nat

inductive TaskProfile where
  | resetUclampGrp
  | noResetUclampGrp
  deriving DecidableEq, Repr

inductive Operation where
  | add
  | remove
  deriving DecidableEq, Repr

/-- What one turn of a loop over a tid list has done. -/
structure Turn where
  operation : Operation
  session : SessionId
  tid : Tid
  before : Option Int
  after : Option Int
  profile : Option TaskProfile
  unexpected : Bool
  deriving DecidableEq, Repr

structure PowerSessionManager where
  sessions : Finset SessionId
  tidRefCountMap : Tid → Option Int
  /-- How often `SetTaskProfiles` has been called. -/
  profileCalls : Nat
  turns : List Turn

namespace PowerSessionManager

def init : PowerSessionManager :=
  { sessions := ∅, tidRefCountMap := fun _ => none, profileCalls := 0, turns := [] }

def setCount (m : PowerSessionManager) (tid : Tid) (count : Option Int) : PowerSessionManager :=
  { m with tidRefCountMap := fun t => if t = tid then count else m.tidRefCountMap t }

def record (m : PowerSessionManager) (turn : Turn) : PowerSessionManager :=
  { m with turns := m.turns ++ [turn] }

section Loops

variable (setTaskProfiles : Nat → Bool) (session : SessionId)

/-- The body of the loop of `addPowerSession`. -/
def addTid (m : PowerSessionManager) (t : Tid) : PowerSessionManager :=
  match m.tidRefCountMap t with
  | none =>
    let after := if setTaskProfiles m.profileCalls then some 1 else none
    { m.setCount t after with profileCalls := m.profileCalls + 1 }.record
      { operation := .add, session, tid := t, before := none, after
        profile := some .resetUclampGrp, unexpected := false }
  | some count =>
    if count ≤ 0 then
      m.record
        { operation := .add, session, tid := t, before := some count, after := some count
          profile := none, unexpected := true }
    else
      (m.setCount t (some (count + 1))).record
        { operation := .add, session, tid := t, before := some count
          after := some (count + 1), profile := none, unexpected := false }

def addPowerSession (m : PowerSessionManager) (tids : List Tid) : PowerSessionManager :=
  let m := tids.foldl (addTid setTaskProfiles session) m
  { m with sessions := insert session m.sessions }

/-- The body of the loop of `removePowerSession`.  The entry is erased whether
or not the profile call succeeds. -/
def removeTid (m : PowerSessionManager) (t : Tid) : PowerSessionManager :=
  match m.tidRefCountMap t with
  | none =>
    m.record
      { operation := .remove, session, tid := t, before := none, after := none
        profile := none, unexpected := true }
  | some count =>
    if count - 1 ≤ 0 then
      { m.setCount t none with profileCalls := m.profileCalls + 1 }.record
        { operation := .remove, session, tid := t, before := some count, after := none
          profile := some .noResetUclampGrp, unexpected := false }
    else
      (m.setCount t (some (count - 1))).record
        { operation := .remove, session, tid := t, before := some count
          after := some (count - 1), profile := none, unexpected := false }

def removePowerSession (m : PowerSessionManager) (tids : List Tid) : PowerSessionManager :=
  let m := tids.foldl (removeTid session) m
  { m with sessions := m.sessions.erase session }

end Loops

section Registered

variable {setTaskProfiles : Nat → Bool} {session : SessionId}

theorem sessions_addTid (m : PowerSessionManager) (t : Tid) :
    (addTid setTaskProfiles session m t).sessions = m.sessions := by
  unfold addTid
  split
  · rfl
  · split <;> rfl

theorem sessions_removeTid (m : PowerSessionManager) (t : Tid) :
    (removeTid session m t).sessions = m.sessions := by
  unfold removeTid
  split
  · rfl
  · split <;> rfl

theorem sessions_foldl {turn : PowerSessionManager → Tid → PowerSessionManager}
    (hturn : ∀ m t, (turn m t).sessions = m.sessions) (tids : List Tid) :
    ∀ m : PowerSessionManager, (tids.foldl turn m).sessions = m.sessions := by
  induction tids with
  | nil => exact fun _ => rfl
  | cons t rest ih => exact fun m => (ih (turn m t)).trans (hturn m t)

theorem sessions_addPowerSession (m : PowerSessionManager) (tids : List Tid) :
    (m.addPowerSession setTaskProfiles session tids).sessions = insert session m.sessions := by
  unfold addPowerSession
  dsimp only
  rw [sessions_foldl sessions_addTid]

theorem sessions_removePowerSession (m : PowerSessionManager) (tids : List Tid) :
    (m.removePowerSession session tids).sessions = m.sessions.erase session := by
  unfold removePowerSession
  dsimp only
  rw [sessions_foldl sessions_removeTid]

end Registered

end PowerSessionManager

end Exynos9810.Power
