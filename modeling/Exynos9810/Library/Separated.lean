import Mathlib.Data.List.TakeWhile

namespace Separated

variable {α : Type*} [BEq α] [LawfulBEq α]

theorem splitOn_append_cons (sep : α) (xs ys : List α) :
    (xs ++ sep :: ys).splitOn sep = xs.splitOn sep ++ ys.splitOn sep :=
  List.splitOnP_append_cons (p := (· == sep)) xs ys (beq_self_eq_true sep)

theorem splitOn_induction (sep : α) {motive : List α → List (List α) → Prop}
    (last : ∀ xs, sep ∉ xs → motive xs [xs])
    (piece : ∀ front rest, sep ∉ front → motive rest (rest.splitOn sep) →
      motive (front ++ sep :: rest) (front :: rest.splitOn sep))
    (xs : List α) : motive xs (xs.splitOn sep) := by
  -- The list behind the first separator is shorter.
  induction hlength : xs.length using Nat.strong_induction_on generalizing xs with
  | _ length ih =>
    by_cases hmem : sep ∈ xs
    · obtain ⟨front, rest, rfl, hfront⟩ := List.eq_append_cons_of_mem hmem
      have hsplit : (front ++ sep :: rest).splitOn sep = front :: rest.splitOn sep := by
        rw [splitOn_append_cons, List.splitOn_eq_singleton hfront]
        rfl
      rw [hsplit]
      refine piece front rest hfront (ih rest.length ?_ rest rfl)
      simp only [← hlength, List.length_append, List.length_cons]
      omega
    · rw [List.splitOn_eq_singleton hmem]
      exact last xs hmem

variable {sep : α}

theorem not_mem_of_mem_splitOn {xs : List α} : ∀ part ∈ xs.splitOn sep, sep ∉ part := by
  refine splitOn_induction sep (motive := fun _ parts => ∀ part ∈ parts, sep ∉ part) ?_ ?_ xs
  · intro xs hxs part hpart
    rwa [List.mem_singleton.mp hpart]
  · intro front rest hfront ih part hpart
    rcases List.mem_cons.mp hpart with rfl | hpart
    · exact hfront
    · exact ih part hpart

theorem flatMap_splitOn (sep : α) (xs : List α) :
    (xs.splitOn sep).flatMap (· ++ [sep]) = xs ++ [sep] := by
  refine splitOn_induction sep
    (motive := fun xs parts => parts.flatMap (· ++ [sep]) = xs ++ [sep]) ?_ ?_ xs
  · intro xs _
    simp
  · intro front rest _ ih
    rw [List.flatMap_cons, ih]
    simp

theorem splitOn_eq_pair_iff {xs left right : List α} :
    xs.splitOn sep = [left, right] ↔ xs = left ++ sep :: right ∧ sep ∉ left ∧ sep ∉ right := by
  constructor
  · intro hsplit
    have hnot : ∀ part ∈ xs.splitOn sep, sep ∉ part := not_mem_of_mem_splitOn
    have hjoin := flatMap_splitOn sep xs
    rw [hsplit] at hnot hjoin
    refine ⟨(List.append_left_inj [sep]).mp ?_, hnot left (by simp), hnot right (by simp)⟩
    simpa using hjoin.symm
  · rintro ⟨rfl, hleft, hright⟩
    rw [splitOn_append_cons, List.splitOn_eq_singleton hleft, List.splitOn_eq_singleton hright]
    rfl

theorem find?_splitOn [DecidableEq α] {xs : List α} (h : ∃ x ∈ xs, x ≠ sep) :
    (xs.splitOn sep).find? (fun part => !part.isEmpty) =
      some ((xs.dropWhile (· = sep)).takeWhile (· ≠ sep)) := by
  revert h
  refine splitOn_induction sep
    (motive := fun xs parts => (∃ x ∈ xs, x ≠ sep) →
      parts.find? (fun part => !part.isEmpty) =
        some ((xs.dropWhile (· = sep)).takeWhile (· ≠ sep))) ?_ ?_ xs
  · rintro xs hxs ⟨x, hx, -⟩
    cases xs with
    | nil => cases hx
    | cons first xs =>
      have hfirst : first ≠ sep := fun heq => hxs (heq ▸ List.mem_cons_self)
      have hall : ∀ y ∈ first :: xs, decide (y ≠ sep) = true :=
        fun y hy => decide_eq_true (ne_of_mem_of_not_mem hy hxs)
      rw [List.dropWhile_cons_of_neg (by simpa using hfirst),
        List.takeWhile_eq_self_iff.mpr hall]
      rfl
  · rintro front rest hfront ih ⟨x, hx, hne⟩
    cases front with
    | nil =>
      have hrest : x ∈ rest := (List.mem_cons.mp hx).resolve_left hne
      simpa using ih ⟨x, hrest, hne⟩
    | cons first front =>
      have hfirst : first ≠ sep := fun heq => hfront (heq ▸ List.mem_cons_self)
      have hall : ∀ y ∈ first :: front, decide (y ≠ sep) = true :=
        fun y hy => decide_eq_true (ne_of_mem_of_not_mem hy hfront)
      rw [List.cons_append, List.dropWhile_cons_of_neg (by simpa using hfirst),
        ← List.cons_append, List.takeWhile_append_of_pos hall]
      simp

end Separated
