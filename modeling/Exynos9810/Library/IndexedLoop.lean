import Mathlib.Algebra.Group.Basic
import Mathlib.Tactic.Abel

/-!
# Accumulators of an indexed loop

One loop runs over numbered items and feeds several accumulators, each of which
takes part only from an index of its own on.
-/
namespace IndexedLoop

variable {Item Acc G : Type*}

/-- The accumulator of a loop over `items`, numbered from `i`, that takes part from
index `first` on. -/
def gated (f : Acc → Item → Acc) (first : Nat) : Acc → Nat → List Item → Acc
  | acc, _, [] => acc
  | acc, i, item :: rest => gated f first (if first ≤ i then f acc item else acc) (i + 1) rest

theorem gated_eq_foldl (f : Acc → Item → Acc) (first : Nat) (acc : Acc) (i : Nat)
    (items : List Item) :
    gated f first acc i items = (items.drop (first - i)).foldl f acc := by
  induction items generalizing acc i with
  | nil => simp [gated]
  | cons item rest ih =>
    rw [gated, ih]
    by_cases hopen : first ≤ i
    · rw [if_pos hopen, Nat.sub_eq_zero_of_le hopen, Nat.sub_eq_zero_of_le (by omega),
        List.drop_zero, List.drop_zero, List.foldl_cons]
    · have hnext : first - i = first - (i + 1) + 1 := by omega
      rw [if_neg hopen, hnext, List.drop_succ_cons]

section Differences

variable [AddCommGroup G]

/-- The sum of the differences of neighbouring items, from index `first` on.
`previous` is the item before the first one. -/
def differences (first : Nat) : G → G → Nat → List G → G
  | sum, _, _, [] => sum
  | sum, previous, i, item :: rest =>
    differences first (if first ≤ i then sum + (item - previous) else sum) item (i + 1) rest

theorem differences_eq (first : Nat) (sum previous : G) (i : Nat) (items : List G)
    (h : first - i ≤ items.length) :
    differences first sum previous i items =
      sum + (items.getLastD previous - (previous :: items).getD (first - i) 0) := by
  induction items generalizing sum previous i with
  | nil =>
    have hzero : first - i = 0 := Nat.le_zero.mp h
    simp [differences, hzero]
  | cons item rest ih =>
    rw [List.length_cons] at h
    rw [differences, ih _ _ _ (by omega), List.getLastD_cons]
    by_cases hopen : first ≤ i
    · rw [if_pos hopen, Nat.sub_eq_zero_of_le hopen, Nat.sub_eq_zero_of_le (by omega),
        List.getD_cons_zero, List.getD_cons_zero]
      abel
    · have hnext : first - i = first - (i + 1) + 1 := by omega
      rw [if_neg hopen, hnext, List.getD_cons_succ]

end Differences

end IndexedLoop
