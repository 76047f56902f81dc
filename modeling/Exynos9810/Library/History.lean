import Mathlib.Data.List.Induction

namespace History

variable {Key Value State : Type}

section Last

variable [DecidableEq Key]

/-- The last call for `key`: the calls before it, and its value. -/
def lastCall (calls : List (Key × Value)) (key : Key) : Option (List (Key × Value) × Value) :=
  match calls with
  | [] => none
  | call :: rest =>
    match lastCall rest key with
    | some (before, value) => some (call :: before, value)
    | none => if call.1 = key then some ([], call.2) else none

def lastSet (calls : List (Key × Value)) (key : Key) : Option Value :=
  (lastCall calls key).map Prod.snd

theorem lastCall_concat (calls : List (Key × Value)) (key key' : Key) (value : Value) :
    lastCall (calls ++ [(key, value)]) key' =
      if key = key' then some (calls, value) else lastCall calls key' := by
  induction calls with
  | nil => rfl
  | cons call rest ih =>
    rw [List.cons_append, lastCall, ih]
    by_cases hkey : key = key'
    · simp [hkey]
    · simp only [hkey, if_false, lastCall]

@[simp] theorem lastSet_nil (key : Key) : lastSet ([] : List (Key × Value)) key = none := rfl

theorem lastSet_concat (calls : List (Key × Value)) (key key' : Key) (value : Value) :
    lastSet (calls ++ [(key, value)]) key' =
      if key = key' then some value else lastSet calls key' := by
  rw [lastSet, lastCall_concat]
  split <;> rfl

theorem lastSet_append_map (calls : List (Key × Value)) (keys : List Key) (value : Value)
    (key : Key) :
    lastSet (calls ++ keys.map fun key => (key, value)) key =
      if key ∈ keys then some value else lastSet calls key := by
  induction keys using List.reverseRecOn with
  | nil => simp
  | append_singleton keys last ih =>
    rw [List.map_append, ← List.append_assoc, List.map_singleton, lastSet_concat, ih]
    by_cases hkey : last = key
    · simp [hkey]
    · simp [hkey, Ne.symm hkey]

theorem exists_of_lastSet {calls : List (Key × Value)} {key : Key} {value : Value}
    (h : lastSet calls key = some value) : ∃ before, lastCall calls key = some (before, value) := by
  obtain ⟨⟨before, value'⟩, hcall, rfl⟩ := Option.map_eq_some_iff.mp h
  exact ⟨before, hcall⟩

theorem mem_of_lastSet {calls : List (Key × Value)} {key : Key} {value : Value}
    (h : lastSet calls key = some value) : (key, value) ∈ calls := by
  induction calls using List.reverseRecOn with
  | nil => cases h
  | append_singleton calls call ih =>
    rw [← Prod.eta call, lastSet_concat] at h
    split at h
    next heq =>
      cases h
      rw [← heq]
      exact List.mem_append_right _ (List.mem_singleton_self _)
    next => exact List.mem_append_left _ (ih h)

end Last

/-- A relation between the history and the state that each call keeps holds after
any history. -/
theorem foldl_holds {Call : Type} {next : State → Call → State} {start : State}
    (holds : List Call → State → Prop) (hstart : holds [] start)
    (hnext : ∀ calls call s, holds calls s → holds (calls ++ [call]) (next s call))
    (calls : List Call) : holds calls (calls.foldl next start) := by
  induction calls using List.reverseRecOn with
  | nil => exact hstart
  | append_singleton calls call ih =>
    rw [List.foldl_append]
    exact hnext calls call _ ih

end History
