import Mathlib.Tactic.Common

/-!
# Strings in a buffer

Pointer code reads a buffer one character at a time and knows the end of a string by its
terminator.  A read behind the buffer is a fault.  The laws are about what stands in the
buffer from the pointer on.
-/
namespace StringBuffer

inductive ReadFault where
  | outOfBounds (index : Nat)
  | outOfFuel
  deriving DecidableEq, Repr

variable {α : Type}

def readAt (buffer : List α) (cp : Nat) : Except ReadFault α :=
  match buffer[cp]? with
  | some c => .ok c
  | none => .error (.outOfBounds cp)

variable [DecidableEq α]

def stringAt (nul : α) (buffer : List α) : Nat → Nat → Except ReadFault (List α)
  | 0, _ => .error .outOfFuel
  | fuel + 1, cp => do
    let c ← readAt buffer cp
    if c = nul then return []
    return c :: (← stringAt nul buffer fuel (cp + 1))

def skipString (nul : α) (buffer : List α) : Nat → Nat → Except ReadFault Nat
  | 0, _ => .error .outOfFuel
  | fuel + 1, cp => do
    let c ← readAt buffer cp
    if c = nul then return cp + 1
    skipString nul buffer fuel (cp + 1)

def startsAt (buffer : List α) : List α → Nat → Except ReadFault Bool
  | [], _ => .ok true
  | t :: text, cp => do
    let c ← readAt buffer cp
    if c = t then startsAt buffer text (cp + 1) else return false

section Laws

variable {nul : α} {buffer : List α} {cp : Nat}

omit [DecidableEq α] in
theorem readAt_of_drop {c : α} {rest : List α} (h : buffer.drop cp = c :: rest) :
    readAt buffer cp = .ok c := by
  have hget : buffer[cp]? = some c := by
    rw [← Nat.add_zero cp, ← List.getElem?_drop, h, List.getElem?_cons_zero]
  rw [readAt, hget]

omit [DecidableEq α] in
theorem drop_cons {c : α} {rest : List α} (h : buffer.drop cp = c :: rest) :
    buffer.drop (cp + 1) = rest := by
  rw [List.drop_add_one_eq_tail_drop, h, List.tail_cons]

omit [DecidableEq α] in
theorem drop_string {segment rest : List α} (h : buffer.drop cp = segment ++ nul :: rest) :
    buffer.drop (cp + (segment.length + 1)) = rest := by
  induction segment generalizing cp with
  | nil => exact drop_cons h
  | cons c segment ih =>
    rw [List.length_cons, Nat.add_comm _ 1, ← Nat.add_assoc]
    exact ih (drop_cons h)

theorem string_of_drop {fuel : Nat} {segment rest : List α}
    (h : buffer.drop cp = segment ++ nul :: rest) (hnul : nul ∉ segment)
    (hfuel : segment.length < fuel) :
    stringAt nul buffer fuel cp = .ok segment ∧
      skipString nul buffer fuel cp = .ok (cp + (segment.length + 1)) := by
  induction segment generalizing cp fuel with
  | nil =>
    obtain ⟨fuel, rfl⟩ := Nat.exists_eq_add_one.mpr hfuel
    rw [stringAt, skipString, readAt_of_drop h]
    simp [bind, Except.bind, pure, Except.pure]
  | cons c segment ih =>
    obtain ⟨fuel, rfl⟩ := Nat.exists_eq_add_one.mpr (Nat.zero_lt_of_lt hfuel)
    have hc : c ≠ nul := fun heq => hnul (heq ▸ List.mem_cons_self)
    have hrest : nul ∉ segment := fun hmem => hnul (.tail _ hmem)
    have hread := ih (drop_cons h) hrest (Nat.lt_of_succ_lt_succ hfuel)
    rw [stringAt, skipString, readAt_of_drop h]
    simp only [bind, Except.bind, pure, Except.pure, hc, if_false, hread, true_and]
    rw [List.length_cons, Nat.add_assoc, Nat.add_comm 1]

theorem startsAt_of_drop {segment rest : List α} (text : List α)
    (h : buffer.drop cp = segment ++ nul :: rest) (htext : nul ∉ text) :
    startsAt buffer text cp = .ok (text.isPrefixOf segment) := by
  induction text generalizing cp segment with
  | nil => rfl
  | cons t text ih =>
    have ht : nul ≠ t := fun heq => htext (heq ▸ List.mem_cons_self)
    cases segment with
    | nil => simp [startsAt, readAt_of_drop h, ht, bind, Except.bind, pure, Except.pure]
    | cons c segment =>
      have hrest := ih (drop_cons h) (fun hmem => htext (.tail _ hmem))
      by_cases hc : c = t
      · simp [startsAt, readAt_of_drop h, hc, hrest, bind, Except.bind]
      · have hdiffer : (t :: text).isPrefixOf (c :: segment) = false := by
          simp [List.isPrefixOf, Ne.symm hc]
        simp [startsAt, readAt_of_drop h, hc, hdiffer, bind, Except.bind, pure, Except.pure]

end Laws

end StringBuffer
