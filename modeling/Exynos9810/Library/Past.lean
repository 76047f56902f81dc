import Mathlib.Data.List.Induction
import Mathlib.Data.List.Infix

namespace Past

variable {α β : Type}

def flatMap (f : List α → α → List β) (l : List α) : List β :=
  behind [] l
where
  /-- The elements of the second list, behind those of the first. -/
  behind (past : List α) : List α → List β
    | [] => []
    | a :: rest => f past a ++ behind (past ++ [a]) rest

theorem flatMap_behind_concat (f : List α → α → List β) (past l : List α) (a : α) :
    flatMap.behind f past (l ++ [a]) = flatMap.behind f past l ++ f (past ++ l) a := by
  induction l generalizing past with
  | nil => simp [flatMap.behind]
  | cons b l ih => simp [flatMap.behind, ih]

@[simp] theorem flatMap_nil (f : List α → α → List β) : flatMap f [] = [] := rfl

@[simp] theorem flatMap_concat (f : List α → α → List β) (l : List α) (a : α) :
    flatMap f (l ++ [a]) = flatMap f l ++ f l a :=
  flatMap_behind_concat f [] l a

/-- The last element that satisfies `p` satisfies `q`. -/
def Last (p q : List α → α → Prop) (l : List α) : Prop :=
  ∃ past a rest, l = past ++ a :: rest ∧ p past a ∧ q past a ∧
    ∀ past' a', past' ++ [a'] <+: rest → ¬p (past ++ a :: past') a'

theorem not_last_nil (p q : List α → α → Prop) : ¬Last p q [] := by
  rintro ⟨past, a, rest, h, -⟩
  simp at h

theorem last_concat_of_pos {p q : List α → α → Prop} {l : List α} {a : α} (h : p l a) :
    Last p q (l ++ [a]) ↔ q l a := by
  constructor
  · rintro ⟨past, b, rest, heq, -, hq, hlast⟩
    rcases List.eq_nil_or_concat rest with rfl | ⟨rest, c, rfl⟩
    · obtain ⟨rfl, hab⟩ := List.append_inj' heq rfl
      cases hab
      exact hq
    · rw [List.concat_eq_append, ← List.cons_append, ← List.append_assoc] at heq
      obtain ⟨rfl, hac⟩ := List.append_inj' heq rfl
      cases hac
      exact absurd h (hlast rest a (by simp))
  · intro hq
    refine ⟨l, a, [], rfl, h, hq, ?_⟩
    intro past' a' hfront
    simp at hfront

theorem last_concat_of_neg {p q : List α → α → Prop} {l : List α} {a : α} (h : ¬p l a) :
    Last p q (l ++ [a]) ↔ Last p q l := by
  constructor
  · rintro ⟨past, b, rest, heq, hp, hq, hlast⟩
    rcases List.eq_nil_or_concat rest with rfl | ⟨rest, c, rfl⟩
    · obtain ⟨rfl, hab⟩ := List.append_inj' heq rfl
      cases hab
      exact absurd hp h
    · rw [List.concat_eq_append, ← List.cons_append, ← List.append_assoc] at heq
      obtain ⟨rfl, -⟩ := List.append_inj' heq rfl
      refine ⟨past, b, rest, rfl, hp, hq, fun past' a' hfront => hlast past' a' ?_⟩
      rw [List.concat_eq_append]
      exact hfront.trans (List.prefix_append _ _)
  · rintro ⟨past, b, rest, rfl, hp, hq, hlast⟩
    refine ⟨past, b, rest ++ [a], by simp, hp, hq, ?_⟩
    intro past' a' hfront
    rcases List.prefix_concat_iff.mp hfront with heq | hfront
    · obtain ⟨rfl, haa⟩ := List.append_inj' heq rfl
      cases haa
      exact h
    · exact hlast past' a' hfront

end Past
