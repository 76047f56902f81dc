import Mathlib.Tactic.Common

/-!
# Message queues

A queue is given by its operations on states of any type.  What a client may rely on is
stated as laws about the messages that wait in a state.
-/
namespace MessageQueue

/-- `write` tells whether the batch has gone in, `read` returns a batch or nothing. -/
structure Operations (Q α : Type) where
  write : Q → List α → Bool × Q
  read : Q → Nat → Option (List α) × Q

/-- First in, first out.  Batches go in and out as a whole, a call that fails leaves what
waits, and a read fails only for want of messages. -/
structure Fifo {Q α : Type} (ops : Operations Q α) (waiting : Q → List α) : Prop where
  write : ∀ q batch, waiting (ops.write q batch).2 =
    if (ops.write q batch).1 then waiting q ++ batch else waiting q
  read_some : ∀ q count batch, (ops.read q count).1 = some batch →
    batch.length = count ∧ batch ++ waiting (ops.read q count).2 = waiting q
  read_none : ∀ q count, (ops.read q count).1 = none → waiting (ops.read q count).2 = waiting q
  read_fails : ∀ q count, (ops.read q count).1 = none ↔ (waiting q).length < count

section Bounded

variable {α : Type} {bound : Nat}

/-- The states of a queue with room for `bound` messages. -/
structure Bounded (α : Type) (bound : Nat) where
  items : List α
  fits : items.length ≤ bound

def Bounded.empty : Bounded α bound :=
  ⟨[], Nat.zero_le bound⟩

def Bounded.operations : Operations (Bounded α bound) α where
  write q batch :=
    if h : q.items.length + batch.length ≤ bound then
      (true, ⟨q.items ++ batch, by rwa [List.length_append]⟩)
    else (false, q)
  read q count :=
    if count ≤ q.items.length then
      (some (q.items.take count), ⟨q.items.drop count, by
        rw [List.length_drop]
        exact Nat.le_trans (Nat.sub_le _ _) q.fits⟩)
    else (none, q)

theorem Bounded.fifo : Fifo (operations : Operations (Bounded α bound) α) items where
  write q batch := by
    simp only [operations]
    split <;> rfl
  read_some q count batch h := by
    simp only [operations] at h ⊢
    split at h
    next hcount =>
      cases h
      rw [if_pos hcount]
      exact ⟨by rw [List.length_take]; omega, List.take_append_drop count q.items⟩
    next => cases h
  read_none q count h := by
    simp only [operations] at h ⊢
    split at h
    next => cases h
    next hcount => rw [if_neg hcount]
  read_fails q count := by
    simp only [operations]
    split <;> simp <;> omega

end Bounded

end MessageQueue
