import Exynos9810.Dtbhtool.DtbimgLocate
import Exynos9810.Library.Comparator
import Exynos9810.Library.Words
import Mathlib.Data.Prod.Lex

/-!
# The order of the table

`dt_entry_cmp` returns an unsigned difference as an `int`.  Its sign is that of
the comparison exactly for numbers less than `2 ^ 31` apart.
-/
namespace Exynos9810.Dtbhtool

open ByteString Paging Comparator

/-- `chip`, then `hw_rev`, as unsigned numbers. -/
def TableEntry.key (entry : TableEntry) : Nat ×ₗ Nat :=
  toLex (entry.chip.toNat, entry.hwRev.toNat)

/-- Numbers whose difference fits in an `int`. -/
def Near (x y : UInt32) : Prop :=
  x.toNat < y.toNat + 2 ^ 31 ∧ y.toNat < x.toNat + 2 ^ 31

instance (x y : UInt32) : Decidable (Near x y) :=
  inferInstanceAs (Decidable (_ ∧ _))

/-- The chips are near each other, and so are the revisions of each chip. -/
def NearKeys (dtbs : List Dtb) : Prop :=
  ∀ a ∈ dtbs, ∀ b ∈ dtbs, Near a.chip b.chip ∧ (a.chip = b.chip → Near a.hwRev b.hwRev)

section Compare

theorem toInt_sub_eq (x y : UInt32) :
    (x - y).toInt32.toInt =
      (((2 ^ 32 - y.toNat + x.toNat) % 2 ^ 32 : Nat) : Int).bmod (2 ^ 32) := by
  rw [Words.toInt_toInt32, UInt32.toNat_sub]

theorem toInt_sub_of_near {x y : UInt32} (h : Near x y) :
    (x - y).toInt32.toInt = (x.toNat : Int) - y.toNat := by
  obtain ⟨hx, hy⟩ := h
  have hxlt := x.toNat_lt
  have hylt := y.toNat_lt
  rw [toInt_sub_eq, Int.bmod_def]
  split <;> omega

theorem toInt_sub_neg_of_far {x y : UInt32} (h : y.toNat + 2 ^ 31 ≤ x.toNat) :
    (x - y).toInt32.toInt < 0 := by
  have hxlt := x.toNat_lt
  rw [toInt_sub_eq, Int.bmod_def]
  split <;> omega

theorem key_lt_iff (a b : TableEntry) :
    a.key < b.key ↔ a.chip.toNat < b.chip.toNat ∨
      a.chip = b.chip ∧ a.hwRev.toNat < b.hwRev.toNat := by
  rw [TableEntry.key, TableEntry.key, Prod.Lex.toLex_lt_toLex, UInt32.toNat_inj]

theorem dtEntryCmp_sign {a b : DtEntry} (hchip : Near a.chip b.chip)
    (hrev : a.chip = b.chip → Near a.hwRev b.hwRev) :
    (dtEntryCmp a b < 0 ↔ a.key < b.key) ∧ (0 < dtEntryCmp a b ↔ b.key < a.key) := by
  rw [key_lt_iff, key_lt_iff, dtEntryCmp]
  by_cases heq : a.chip = b.chip
  · rw [if_neg (not_not_intro heq), toInt_sub_of_near (hrev heq), heq]
    simp only [true_and]
    omega
  · have hne : a.chip.toNat ≠ b.chip.toNat := fun h => heq (UInt32.toNat_inj.mp h)
    rw [if_pos heq, toInt_sub_of_near hchip]
    simp only [heq, Ne.symm heq, false_and, or_false]
    omega

theorem dtEntryCmp_neg_of_far {a b : DtEntry}
    (h : b.chip.toNat + 2 ^ 31 ≤ a.chip.toNat ∨
      a.chip = b.chip ∧ b.hwRev.toNat + 2 ^ 31 ≤ a.hwRev.toNat) :
    dtEntryCmp a b < 0 ∧ b.key < a.key := by
  rw [key_lt_iff, dtEntryCmp]
  rcases h with hchip | ⟨heq, hrev⟩
  · have hne : a.chip ≠ b.chip := by
      intro heq
      rw [heq] at hchip
      omega
    rw [if_pos hne]
    exact ⟨toInt_sub_neg_of_far hchip, Or.inl (by omega)⟩
  · rw [if_neg (not_not_intro heq)]
    exact ⟨toInt_sub_neg_of_far hrev, Or.inr ⟨heq.symm, by omega⟩⟩

theorem exists_inverted_of_not_nearKeys {dtbs : List Dtb} (h : ¬NearKeys dtbs) :
    ∃ a ∈ dtbs.mapIdx entryOf, ∃ b ∈ dtbs.mapIdx entryOf,
      dtEntryCmp a b < 0 ∧ b.key < a.key := by
  by_contra hnone
  have hfar {a b : Dtb} (ha : a ∈ dtbs) (hb : b ∈ dtbs)
      (hab : b.chip.toNat + 2 ^ 31 ≤ a.chip.toNat ∨
        a.chip = b.chip ∧ b.hwRev.toNat + 2 ^ 31 ≤ a.hwRev.toNat) : False := by
    obtain ⟨i, hi, rfl⟩ := List.mem_iff_getElem.mp ha
    obtain ⟨j, hj, rfl⟩ := List.mem_iff_getElem.mp hb
    exact hnone ⟨entryOf i dtbs[i], List.mem_mapIdx.mpr ⟨i, hi, rfl⟩,
      entryOf j dtbs[j], List.mem_mapIdx.mpr ⟨j, hj, rfl⟩, dtEntryCmp_neg_of_far hab⟩
  apply h
  intro a ha b hb
  refine ⟨⟨?_, ?_⟩, fun heq => ⟨?_, ?_⟩⟩
  · by_contra hle
    exact hfar ha hb (Or.inl (Nat.le_of_not_lt hle))
  · by_contra hle
    exact hfar hb ha (Or.inl (Nat.le_of_not_lt hle))
  · by_contra hle
    exact hfar ha hb (Or.inr ⟨heq, Nat.le_of_not_lt hle⟩)
  · by_contra hle
    exact hfar hb ha (Or.inr ⟨heq.symm, Nat.le_of_not_lt hle⟩)

/-- `dt_entry_cmp` is the unsigned order on the entries of some dtbs if and only
if their keys are near. -/
theorem dtEntryCmp_agrees_iff (dtbs : List Dtb) :
    AgreesOn dtEntryCmp (fun entry => entry.key) (dtbs.mapIdx entryOf) ↔ NearKeys dtbs := by
  constructor
  · intro hagrees
    by_contra hfar
    obtain ⟨a, ha, b, hb, hcmp, hkey⟩ := exists_inverted_of_not_nearKeys hfar
    exact hkey.asymm ((hagrees a ha b hb).1.mp hcmp)
  · intro hnear a ha b hb
    obtain ⟨i, hi, rfl⟩ := List.mem_mapIdx.mp ha
    obtain ⟨j, hj, rfl⟩ := List.mem_mapIdx.mp hb
    obtain ⟨hchip, hrev⟩ := hnear _ (List.getElem_mem hi) _ (List.getElem_mem hj)
    exact dtEntryCmp_sign hchip hrev

end Compare

section Table

variable {fdt : Libfdt} {qsort : (DtEntry → DtEntry → Int) → List DtEntry → List DtEntry}
  {listing : List DirEntry} {dtbs : List Dtb} {pagesize : UInt32}

@[simp] theorem key_updateEntry (pagesize : UInt32) (blobs : List DtBlob) (entry : DtEntry) :
    (updateEntry pagesize blobs entry).key = entry.key := by
  unfold updateEntry
  split <;> rfl

theorem entries_of_load {block : DtbhBlock} (haccepted : acceptedDtbs fdt listing = .ok dtbs)
    (hload : loadDtbhBlock fdt qsort (some listing) pagesize = .ok (some block)) :
    block.entries = (qsort dtEntryCmp (dtbs.mapIdx entryOf)).map
      (updateEntry pagesize block.blobs) := by
  have hgather := gather_eq_foldl haccepted pagesize Gathered.start
  rw [← gathered] at hgather
  simp only [loadDtbhBlock, hgather, ok_bind, gathered_entries] at hload
  split at hload
  · cases hload
  · obtain ⟨image, -, hload⟩ := bind_eq_ok hload
    cases hload
    rfl

theorem keys_of_table {bits : Nat} (hqsort : ∀ cmp entries, (qsort cmp entries).Perm entries)
    (haccepted : acceptedDtbs fdt listing = .ok dtbs) (hne : dtbs ≠ [])
    (hpage : pagesize.toNat = 2 ^ bits)
    (hsums : roundUp pagesize.toNat (declaredEnd dtbs.length) +
      extent pagesize.toNat (payloads dtbs) < 2 ^ 32) :
    ∃ block, loadDtbhBlock fdt qsort (some listing) pagesize = .ok (some block) ∧
      ∀ c entry, (qsort dtEntryCmp (dtbs.mapIdx entryOf))[c]? = some entry →
        (readEntry block.image (tableEnd c)).key = entry.key := by
  obtain ⟨entries, -, blobs, hblock⟩ :=
    loadDtbhBlock_laidOut hqsort haccepted hne hpage hsums
  refine ⟨_, hblock, ?_⟩
  intro c entry hc
  have hentries := entries_of_load haccepted hblock
  have hupdated : entries[c]? = some (updateEntry pagesize blobs entry) := by
    dsimp only at hentries
    rw [hentries, List.getElem?_map, hc, Option.map_some]
  dsimp only
  rw [readEntry_laidOut _ _ _ _ hupdated, key_updateEntry]

end Table

def TableSorted (count : Nat) (image : Bytes) : Prop :=
  ∀ c d, c < d → d < count →
    (readEntry image (tableEnd c)).key ≤ (readEntry image (tableEnd d)).key

theorem tableSorted_iff {entries : List DtEntry} {image : Bytes}
    (hkeys : ∀ c entry, entries[c]? = some entry →
      (readEntry image (tableEnd c)).key = entry.key) :
    TableSorted entries.length image ↔ entries.Pairwise fun a b => a.key ≤ b.key := by
  rw [List.pairwise_iff_getElem]
  have hkey {c : Nat} (hc : c < entries.length) :
      (readEntry image (tableEnd c)).key = entries[c].key :=
    hkeys c _ (List.getElem?_eq_getElem hc)
  constructor
  · intro hsorted c d hc hd hcd
    rw [← hkey hc, ← hkey hd]
    exact hsorted c d hcd hd
  · intro hsorted c d hcd hd
    rw [hkey (hcd.trans hd), hkey hd]
    exact hsorted c d (hcd.trans hd) hd hcd

/-- **Order.**  The comparator is the unsigned order of (`chip`, `hw_rev`), and the table
is sorted by it whatever `qsort` does within its contract, exactly when the keys are near
each other. -/
theorem table_sorted_iff (fdt : Libfdt) (listing : List DirEntry) (dtbs : List Dtb)
    (haccepted : acceptedDtbs fdt listing = .ok dtbs) (hne : dtbs ≠ []) (pagesize : UInt32)
    (bits : Nat) (hpage : pagesize.toNat = 2 ^ bits)
    (hsums : roundUp pagesize.toNat (declaredEnd dtbs.length) +
      extent pagesize.toNat (payloads dtbs) < 2 ^ 32) :
    (AgreesOn dtEntryCmp (fun entry => entry.key) (dtbs.mapIdx entryOf) ↔ NearKeys dtbs) ∧
      ((∀ qsort, Sorts qsort →
        ∃ block, loadDtbhBlock fdt qsort (some listing) pagesize = .ok (some block) ∧
          TableSorted dtbs.length block.image) ↔ NearKeys dtbs) := by
  have hagrees := dtEntryCmp_agrees_iff dtbs
  refine ⟨hagrees, ?_, ?_⟩
  · intro hall
    by_contra hfar
    obtain ⟨a, ha, b, hb, hcmp, hkey⟩ := exists_inverted_of_not_nearKeys hfar
    obtain ⟨qsort, hqsort, hunsorted⟩ : ∃ qsort, Sorts qsort ∧
        ¬(qsort dtEntryCmp (dtbs.mapIdx entryOf)).Pairwise fun x y => x.key ≤ y.key :=
      exists_sorts_not_pairwise ha hb hcmp hkey
    obtain ⟨block, hblock, hsorted⟩ := hall qsort hqsort
    obtain ⟨block', hblock', hkeys⟩ := keys_of_table hqsort.perm haccepted hne hpage hsums
    rw [hblock] at hblock'
    cases hblock'
    rw [← length_of_perm_mapIdx (hqsort.perm dtEntryCmp (dtbs.mapIdx entryOf))] at hsorted
    exact hunsorted ((tableSorted_iff hkeys).mp hsorted)
  · intro hnear qsort hqsort
    obtain ⟨block, hblock, hkeys⟩ := keys_of_table hqsort.perm haccepted hne hpage hsums
    refine ⟨block, hblock, ?_⟩
    rw [← length_of_perm_mapIdx (hqsort.perm dtEntryCmp (dtbs.mapIdx entryOf))]
    exact (tableSorted_iff hkeys).mpr (hqsort.pairwise_key (hagrees.mpr hnear))

section Samples

theorem sorts_sampleSort : Sorts sampleSort := sorts_mergeSort

def dtbOfChip (chip : UInt32) : Bytes :=
  sampleDtb.take 76 ++ (le32 chip).reverse ++ sampleDtb.drop 80

def farDtb : Bytes := dtbOfChip 0xc0000000

def nearDtb : Bytes := dtbOfChip 8895

def farEntry : DirEntry :=
  { dName := "far.dtb".toList, contents := some farDtb }

def farDtbs : List Dtb :=
  [⟨farDtb, 0xc0000000, 0, 255⟩, ⟨sampleDtb, 9810, 0, 255⟩]

def nearEntry : DirEntry :=
  { dName := "near.dtb".toList, contents := some nearDtb }

def nearDtbs : List Dtb :=
  [⟨sampleDtb, 9810, 0, 255⟩, ⟨nearDtb, 8895, 0, 255⟩]

theorem acceptedDtbs_near : acceptedDtbs sampleFdt [sampleEntry, nearEntry] = .ok nearDtbs := by
  decide +kernel

theorem examine_farEntry :
    examine sampleFdt farEntry = .ok (some ⟨farDtb, 0xc0000000, 0, 255⟩) := by
  decide +kernel

theorem acceptedDtbs_far : acceptedDtbs sampleFdt [farEntry, sampleEntry] = .ok farDtbs := by
  rw [acceptedDtbs, examine_farEntry, ok_bind]
  dsimp only
  rw [show [sampleEntry] = List.replicate 1 sampleEntry from rfl, acceptedDtbs_replicate 1]
  rfl

theorem sums_far : roundUp (2048 : UInt32).toNat (declaredEnd farDtbs.length) +
    extent (2048 : UInt32).toNat (payloads farDtbs) < 2 ^ 32 := by
  decide +kernel

theorem sampleSort_far :
    sampleSort dtEntryCmp (farDtbs.mapIdx entryOf) = farDtbs.mapIdx entryOf := by
  apply List.mergeSort_of_pairwise
  decide +kernel

end Samples

/-- Two chips in descending order in the directory are in ascending order in the table. -/
theorem table_sorted_iff_two :
    NearKeys nearDtbs ∧ ∀ qsort, Sorts qsort →
      ∃ block, loadDtbhBlock sampleFdt qsort (some [sampleEntry, nearEntry]) 2048 =
          .ok (some block) ∧
        TableSorted nearDtbs.length block.image := by
  have hnear : NearKeys nearDtbs := by
    unfold NearKeys
    decide +kernel
  exact ⟨hnear, (table_sorted_iff sampleFdt [sampleEntry, nearEntry] nearDtbs acceptedDtbs_near
    (List.cons_ne_nil _ _) 2048 11 rfl (by decide +kernel)).2.mpr hnear⟩

/-- Two chips `2 ^ 31` apart are each less than the other; two that are further
apart are sorted the wrong way round. -/
theorem table_unsorted :
    (dtEntryCmp (entryOf 0 ⟨farDtb, 0x80000000, 0, 255⟩) (entryOf 1 ⟨farDtb, 0, 0, 255⟩) < 0 ∧
      dtEntryCmp (entryOf 1 ⟨farDtb, 0, 0, 255⟩) (entryOf 0 ⟨farDtb, 0x80000000, 0, 255⟩) < 0) ∧
    acceptedDtbs sampleFdt [farEntry, sampleEntry] = .ok farDtbs ∧
    ∃ block, loadDtbhBlock sampleFdt sampleSort (some [farEntry, sampleEntry]) 2048 =
        .ok (some block) ∧
      ¬(readEntry block.image (tableEnd 0)).key ≤ (readEntry block.image (tableEnd 1)).key := by
  have hpage : (2048 : UInt32).toNat = 2 ^ 11 := rfl
  refine ⟨by decide +kernel, acceptedDtbs_far, ?_⟩
  obtain ⟨block, hblock, hkeys⟩ := keys_of_table sorts_sampleSort.perm acceptedDtbs_far
    (List.cons_ne_nil _ _) hpage sums_far
  rw [sampleSort_far] at hkeys
  refine ⟨block, hblock, ?_⟩
  rw [hkeys 0 (entryOf 0 ⟨farDtb, 0xc0000000, 0, 255⟩) rfl,
    hkeys 1 (entryOf 1 ⟨sampleDtb, 9810, 0, 255⟩) rfl, not_le, key_lt_iff]
  left
  decide

end Exynos9810.Dtbhtool
