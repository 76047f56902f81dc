import Mathlib.Data.List.Nodup
import Mathlib.Data.List.Perm.Basic

namespace AssocMap

variable {Key Value : Type*} {entries : List (Key × Value)} {key : Key} {value : Value}

def UniqueKeys (entries : List (Key × Value)) : Prop :=
  (entries.map Prod.fst).Nodup

theorem UniqueKeys.eq_of_mem (h : UniqueKeys entries) {value' : Value}
    (hvalue : (key, value) ∈ entries) (hvalue' : (key, value') ∈ entries) : value = value' :=
  (Prod.mk.inj (List.inj_on_of_nodup_map h hvalue hvalue' rfl)).2

theorem perm_of_mem_iff {entries' : List (Key × Value)} (h : UniqueKeys entries)
    (h' : UniqueKeys entries') (hmem : ∀ entry, entry ∈ entries ↔ entry ∈ entries') :
    entries.Perm entries' :=
  (List.perm_ext_iff_of_nodup h.of_map h'.of_map).mpr hmem

theorem uniqueKeys_append (h : UniqueKeys entries) (hkey : key ∉ entries.map Prod.fst) :
    UniqueKeys (entries ++ [(key, value)]) := by
  rw [UniqueKeys, List.map_append, List.map_singleton]
  exact List.Nodup.append h (List.nodup_singleton key) (by simpa using hkey)

variable [DecidableEq Key]

def insertAbsent (entries : List (Key × Value)) (key : Key) (value : Value) :
    List (Key × Value) :=
  if entries.any (·.1 = key) then entries else entries ++ [(key, value)]

def assign (entries : List (Key × Value)) (key : Key) (value : Value) : List (Key × Value) :=
  if entries.any (·.1 = key) then
    entries.map fun entry => if entry.1 = key then (key, value) else entry
  else entries ++ [(key, value)]

theorem any_iff : entries.any (·.1 = key) = true ↔ key ∈ entries.map Prod.fst := by
  simp

theorem uniqueKeys_insertAbsent (h : UniqueKeys entries) :
    UniqueKeys (insertAbsent entries key value) := by
  unfold insertAbsent
  split
  · exact h
  · rename_i habsent
    exact uniqueKeys_append h (mt any_iff.mpr habsent)

theorem mem_insertAbsent {entry : Key × Value} :
    entry ∈ insertAbsent entries key value ↔
      entry ∈ entries ∨ entry = (key, value) ∧ key ∉ entries.map Prod.fst := by
  unfold insertAbsent
  rw [← any_iff]
  split <;> simp_all

theorem uniqueKeys_assign (h : UniqueKeys entries) : UniqueKeys (assign entries key value) := by
  unfold assign
  split
  · have hkeys : (entries.map fun entry => if entry.1 = key then (key, value) else entry).map
        Prod.fst = entries.map Prod.fst := by
      rw [List.map_map]
      apply List.map_congr_left
      intro entry _
      dsimp only [Function.comp_apply]
      split <;> simp_all
    rw [UniqueKeys, hkeys]
    exact h
  · rename_i habsent
    exact uniqueKeys_append h (mt any_iff.mpr habsent)

theorem mem_assign {entry : Key × Value} :
    entry ∈ assign entries key value ↔
      entry = (key, value) ∨ entry.1 ≠ key ∧ entry ∈ entries := by
  unfold assign
  split
  · rename_i hpresent
    rw [List.mem_map]
    constructor
    · rintro ⟨old, hold, rfl⟩
      by_cases hkey : old.1 = key
      · exact .inl (if_pos hkey)
      · rw [if_neg hkey]
        exact .inr ⟨hkey, hold⟩
    · rintro (rfl | ⟨hne, hmem⟩)
      · obtain ⟨old, hold, hkey⟩ := List.mem_map.mp (any_iff.mp hpresent)
        exact ⟨old, hold, if_pos hkey⟩
      · exact ⟨entry, hmem, if_neg hne⟩
  · rename_i habsent
    have hne (hmem : entry ∈ entries) : entry.1 ≠ key := by
      rintro rfl
      exact habsent (any_iff.mpr (List.mem_map_of_mem hmem))
    rw [List.mem_append, List.mem_singleton, or_comm]
    exact or_congr_right ⟨fun hmem => ⟨hne hmem, hmem⟩, And.right⟩

theorem mem_keys_insertAbsent {key' : Key} :
    key' ∈ (insertAbsent entries key value).map Prod.fst ↔
      key' ∈ entries.map Prod.fst ∨ key' = key := by
  unfold insertAbsent
  split
  · rename_i hpresent
    exact ⟨.inl, fun h => h.elim id fun heq => heq ▸ any_iff.mp hpresent⟩
  · simp

theorem mem_keys_assign {key' : Key} :
    key' ∈ (assign entries key value).map Prod.fst ↔
      key' ∈ entries.map Prod.fst ∨ key' = key := by
  constructor
  · intro hkey'
    obtain ⟨entry, hentry, rfl⟩ := List.mem_map.mp hkey'
    rcases mem_assign.mp hentry with rfl | ⟨-, hmem⟩
    · exact .inr rfl
    · exact .inl (List.mem_map_of_mem hmem)
  · intro hkey'
    by_cases heq : key' = key
    · exact List.mem_map.mpr ⟨(key, value), mem_assign.mpr (.inl rfl), heq.symm⟩
    · obtain ⟨entry, hentry, rfl⟩ := List.mem_map.mp (hkey'.resolve_right heq)
      exact List.mem_map_of_mem (mem_assign.mpr (.inr ⟨heq, hentry⟩))

end AssocMap
