import Mathlib.Data.List.Sort
import Mathlib.Order.Basic

/-!
# Comparison functions of C

A comparison function answers with the sign of an integer.  A sorting routine is
bound to sort only if the answers for the items at hand are consistent.
-/
namespace Comparator

variable {A K : Type}

/-- Opposite signs for the two orders of a pair, and a transitive `≤`. -/
structure Consistent (cmp : A → A → Int) (items : List A) : Prop where
  opposite : ∀ a ∈ items, ∀ b ∈ items, (cmp a b < 0 ↔ 0 < cmp b a)
  trans : ∀ a ∈ items, ∀ b ∈ items, ∀ c ∈ items, cmp a b ≤ 0 → cmp b c ≤ 0 → cmp a c ≤ 0

/-- What is known of `qsort`: it permutes, and sorts if it is given an order. -/
structure Sorts (sort : (A → A → Int) → List A → List A) : Prop where
  perm : ∀ cmp items, (sort cmp items).Perm items
  sorted : ∀ cmp items, Consistent cmp items →
    (sort cmp items).Pairwise fun a b => cmp a b ≤ 0

section Key

variable [LinearOrder K] {cmp : A → A → Int} {key : A → K} {items : List A}

def AgreesOn (cmp : A → A → Int) (key : A → K) (items : List A) : Prop :=
  ∀ a ∈ items, ∀ b ∈ items,
    (cmp a b < 0 ↔ key a < key b) ∧ (0 < cmp a b ↔ key b < key a)

theorem AgreesOn.le_iff (h : AgreesOn cmp key items) {a b : A} (ha : a ∈ items)
    (hb : b ∈ items) : cmp a b ≤ 0 ↔ key a ≤ key b := by
  rw [← not_lt, (h a ha b hb).2, not_lt]

theorem AgreesOn.consistent (h : AgreesOn cmp key items) : Consistent cmp items where
  opposite := by
    intro a ha b hb
    rw [(h a ha b hb).1, (h b hb a ha).2]
  trans := by
    intro a ha b hb c hc hab hbc
    rw [h.le_iff ha hb] at hab
    rw [h.le_iff hb hc] at hbc
    rw [h.le_iff ha hc]
    exact hab.trans hbc

theorem Sorts.pairwise_key {sort : (A → A → Int) → List A → List A} (hsort : Sorts sort)
    (h : AgreesOn cmp key items) : (sort cmp items).Pairwise fun a b => key a ≤ key b := by
  refine (hsort.sorted cmp items h.consistent).imp_of_mem ?_
  intro a b ha hb hle
  have hmem := hsort.perm cmp items
  exact (h.le_iff (hmem.mem_iff.mp ha) (hmem.mem_iff.mp hb)).mp hle

end Key

theorem sorts_mergeSort :
    Sorts fun (cmp : A → A → Int) items => items.mergeSort fun a b => cmp a b ≤ 0 where
  perm := fun _ _ => List.mergeSort_perm _ _
  sorted := by
    intro cmp items h
    -- The order is one on the items only, so sort them as members of the list.
    have hmap : (items.attach.mergeSort fun a b => cmp a.val b.val ≤ 0).map Subtype.val =
        items.mergeSort fun a b => cmp a b ≤ 0 := by
      have hvalues := List.map_mergeSort (l := items.attach) (f := Subtype.val)
        (r := fun a b => decide (cmp a.val b.val ≤ 0)) (s := fun a b => decide (cmp a b ≤ 0))
        fun _ _ _ _ => rfl
      rwa [List.attach_map_subtype_val] at hvalues
    have htrans : ∀ a b c : { item // item ∈ items }, decide (cmp a.val b.val ≤ 0) →
        decide (cmp b.val c.val ≤ 0) → decide (cmp a.val c.val ≤ 0) := by
      intro a b c hab hbc
      exact decide_eq_true (h.trans a.val a.property b.val b.property c.val c.property
        (of_decide_eq_true hab) (of_decide_eq_true hbc))
    have htotal : ∀ a b : { item // item ∈ items },
        decide (cmp a.val b.val ≤ 0) || decide (cmp b.val a.val ≤ 0) := by
      intro a b
      have hopposite := h.opposite b.val b.property a.val a.property
      simp only [Bool.or_eq_true, decide_eq_true_eq]
      omega
    rw [← hmap, List.pairwise_map]
    exact (List.pairwise_mergeSort htrans htotal items.attach).imp of_decide_eq_true

section Inverted

variable [LinearOrder K] {cmp : A → A → Int} {key : A → K} {items : List A} {a b : A}

/-- Answers that are consistent but say that the larger of two keys is the smaller one. -/
theorem Sorts.not_pairwise_of_inverted {sort : (A → A → Int) → List A → List A}
    (hsort : Sorts sort) (hconsistent : Consistent cmp items) (ha : a ∈ items) (hb : b ∈ items)
    (hcmp : cmp a b < 0) (hkey : key b < key a) :
    ¬(sort cmp items).Pairwise fun x y => key x ≤ key y := by
  intro hsorted
  have hmem := hsort.perm cmp items
  obtain ⟨i, hi, hai⟩ := List.mem_iff_getElem.mp (hmem.mem_iff.mpr ha)
  obtain ⟨j, hj, hbj⟩ := List.mem_iff_getElem.mp (hmem.mem_iff.mpr hb)
  rcases Nat.lt_trichotomy i j with hij | rfl | hji
  · have hle := List.pairwise_iff_getElem.mp hsorted i j hi hj hij
    rw [hai, hbj] at hle
    exact hle.not_gt hkey
  · rw [hai] at hbj
    exact hkey.ne (congrArg key hbj.symm)
  · have hle := List.pairwise_iff_getElem.mp (hsort.sorted cmp items hconsistent) j i hj hi hji
    rw [hbj, hai] at hle
    have hopposite := (hconsistent.opposite a ha b hb).mp hcmp
    omega

theorem exists_sorts_cons_erase [DecidableEq A] (hconsistent : ¬Consistent cmp items)
    (ha : a ∈ items) :
    ∃ sort : (A → A → Int) → List A → List A, Sorts sort ∧
      sort cmp items = a :: items.erase a := by
  classical
  refine ⟨fun cmp' items' => if cmp' = cmp ∧ items' = items then a :: items.erase a
    else items'.mergeSort fun x y => cmp' x y ≤ 0, ⟨?_, ?_⟩, if_pos ⟨rfl, rfl⟩⟩
  · intro cmp' items'
    split
    · rename_i hsame
      rw [hsame.2]
      exact (List.perm_cons_erase ha).symm
    · exact sorts_mergeSort.perm cmp' items'
  · intro cmp' items' h
    have hother : ¬(cmp' = cmp ∧ items' = items) := by
      rintro ⟨rfl, rfl⟩
      exact hconsistent h
    simp only [if_neg hother]
    exact sorts_mergeSort.sorted cmp' items' h

/-- One pair with the wrong answer is enough: some routine that keeps to its contract
does not sort by the keys. -/
theorem exists_sorts_not_pairwise [DecidableEq A] (ha : a ∈ items) (hb : b ∈ items)
    (hcmp : cmp a b < 0) (hkey : key b < key a) :
    ∃ sort : (A → A → Int) → List A → List A, Sorts sort ∧
      ¬(sort cmp items).Pairwise fun x y => key x ≤ key y := by
  by_cases hconsistent : Consistent cmp items
  · exact ⟨_, sorts_mergeSort,
      sorts_mergeSort.not_pairwise_of_inverted hconsistent ha hb hcmp hkey⟩
  · obtain ⟨sort, hsort, hfirst⟩ := exists_sorts_cons_erase hconsistent ha
    refine ⟨sort, hsort, ?_⟩
    rw [hfirst, List.pairwise_cons]
    rintro ⟨hle, -⟩
    have hne : b ≠ a := fun heq => hkey.ne (congrArg key heq)
    exact (hle b ((List.mem_erase_of_ne hne).mpr hb)).not_gt hkey

end Inverted

end Comparator
