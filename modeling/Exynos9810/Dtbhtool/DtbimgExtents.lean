import Exynos9810.Dtbhtool.DtbimgLocate

namespace Exynos9810.Dtbhtool

open ByteString Paging

structure Describes (page : Nat) (entry : TableEntry) (dtb : Dtb) : Prop where
  chip : entry.chip = dtb.chip
  hwRev : entry.hwRev = dtb.hwRev
  hwRevEnd : entry.hwRevEnd = dtb.hwRevEnd
  size : entry.size.toNat = roundUp page dtb.payload.length

def TableEntry.stop (entry : TableEntry) : Nat :=
  entry.offset.toNat + entry.size.toNat

/-- The table of `image`, as a reader finds it, has one entry for each dtb, and
the intervals are sound. -/
structure SoundExtents (page : Nat) (dtbs : List Dtb) (image : Bytes) : Prop where
  length : image.length =
    roundUp page (declaredEnd dtbs.length) + extent page (payloads dtbs)
  onePerDtb : ∃ order : List Nat, order.Perm (List.range dtbs.length) ∧
    ∀ c index, order[c]? = some index →
      ∃ dtb, dtbs[index]? = some dtb ∧ Describes page (readEntry image (tableEnd c)) dtb
  aligned : ∀ c < dtbs.length, page ∣ (readEntry image (tableEnd c)).offset.toNat
  apart : ∀ c < dtbs.length, ∀ d < dtbs.length, c ≠ d →
    (readEntry image (tableEnd c)).stop ≤ (readEntry image (tableEnd d)).offset.toNat ∨
      (readEntry image (tableEnd d)).stop ≤ (readEntry image (tableEnd c)).offset.toNat
  behindTable : ∀ c < dtbs.length,
    tableEnd dtbs.length ≤ (readEntry image (tableEnd c)).offset.toNat
  inside : ∀ c < dtbs.length, (readEntry image (tableEnd c)).stop ≤ image.length

section Geometry

variable {page : Nat} {dtbs : List Dtb}

theorem dvd_extent (page : Nat) (sections : List Bytes) : page ∣ extent page sections := by
  induction sections with
  | nil => exact Nat.dvd_zero page
  | cons bytes sections ih =>
    rw [extent_cons]
    exact Nat.dvd_add (Nat.dvd_mul_left page _) ih

theorem extent_take_add_le_take (page : Nat) {first second : Nat} {dtb : Dtb}
    (hlt : first < second) (h : dtbs[first]? = some dtb) :
    extent page (payloads (dtbs.take first)) + roundUp page dtb.payload.length ≤
      extent page (payloads (dtbs.take second)) := by
  have hfirst : (dtbs.take second)[first]? = some dtb := by
    rw [List.getElem?_take_of_lt hlt, h]
  have hle := extent_take_add_le page hfirst
  rwa [List.take_take, Nat.min_eq_left hlt.le] at hle

theorem length_blockImage (hpos : 0 < page) {declared : Nat} (entryCount : UInt32)
    (entries : List DtEntry) (dtbs : List Dtb)
    (hdeclared : roundUp page (tableEnd entries.length) ≤ declared) :
    (blockImage page declared entryCount entries dtbs).length =
      declared + extent page (payloads dtbs) := by
  rw [blockImage_eq, List.length_append, List.length_append, length_blockHead hpos,
    length_flatMap_padded hpos, length_zeros]
  omega

end Geometry

section Entries

variable {page declared : Nat} {dtbs : List Dtb} {entries : List DtEntry}

theorem map_blob_perm (hperm : entries.Perm (dtbs.mapIdx (placedEntry page declared dtbs))) :
    (entries.map DtEntry.blob).Perm (List.range dtbs.length) := by
  have hrange : (dtbs.mapIdx (placedEntry page declared dtbs)).map DtEntry.blob =
      List.range dtbs.length := by
    apply List.ext_getElem
    · simp
    · intro index _ _
      simp [placedEntry, entryOf]
  rw [← hrange]
  exact hperm.map _

theorem blob_ne (hperm : entries.Perm (dtbs.mapIdx (placedEntry page declared dtbs)))
    {c d : Nat} {left right : DtEntry} (hc : entries[c]? = some left)
    (hd : entries[d]? = some right) (hne : c ≠ d) : left.blob ≠ right.blob := by
  have hnodup : (entries.map DtEntry.blob).Nodup :=
    (map_blob_perm hperm).nodup_iff.mpr List.nodup_range
  have hleft : (entries.map DtEntry.blob)[c]? = some left.blob := by
    rw [List.getElem?_map, hc, Option.map_some]
  have hright : (entries.map DtEntry.blob)[d]? = some right.blob := by
    rw [List.getElem?_map, hd, Option.map_some]
  intro heq
  obtain ⟨hlt, -⟩ := List.getElem?_eq_some_iff.mp hleft
  rw [heq, ← hright] at hleft
  exact hne ((List.getElem?_inj hlt hnodup).mp hleft)

theorem read_placed {image : Bytes}
    (hperm : entries.Perm (dtbs.mapIdx (placedEntry page declared dtbs)))
    (hread : ∀ c entry, entries[c]? = some entry →
      readEntry image (tableEnd c) = entry.toTableEntry)
    (hfits : declared + extent page (payloads dtbs) < 2 ^ 32) {c : Nat}
    (hc : c < dtbs.length) :
    ∃ entry dtb, entries[c]? = some entry ∧ dtbs[entry.blob]? = some dtb ∧
      (readEntry image (tableEnd c)).offset.toNat =
        declared + extent page (payloads (dtbs.take entry.blob)) ∧
      (readEntry image (tableEnd c)).stop =
        declared + extent page (payloads (dtbs.take entry.blob)) +
          roundUp page dtb.payload.length := by
  have hcount := length_of_perm_mapIdx hperm
  have hentry := List.getElem?_eq_getElem (hcount ▸ hc : c < entries.length)
  obtain ⟨dtb, hdtb, hplaced⟩ := entry_eq_placedEntry hperm hentry
  refine ⟨_, dtb, hentry, hdtb, ?_, ?_⟩
  · rw [hread c _ hentry, hplaced]
    exact toNat_placedEntry_offset hfits hdtb
  · rw [TableEntry.stop, hread c _ hentry, hplaced]
    exact congrArg₂ (· + ·) (toNat_placedEntry_offset hfits hdtb)
      (toNat_placedEntry_size hfits hdtb)

theorem sound_extents {image : Bytes} (hpos : 0 < page)
    (hperm : entries.Perm (dtbs.mapIdx (placedEntry page declared dtbs)))
    (hread : ∀ c entry, entries[c]? = some entry →
      readEntry image (tableEnd c) = entry.toTableEntry)
    (hlength : image.length = declared + extent page (payloads dtbs))
    (hdeclared : declared = roundUp page (declaredEnd dtbs.length)) (hne : dtbs ≠ [])
    (hfits : declared + extent page (payloads dtbs) < 2 ^ 32) :
    SoundExtents page dtbs image := by
  constructor
  · rw [hlength, hdeclared]
  · refine ⟨entries.map DtEntry.blob, map_blob_perm hperm, ?_⟩
    intro c index hindex
    rw [List.getElem?_map] at hindex
    obtain ⟨entry, hentry, rfl⟩ := Option.map_eq_some_iff.mp hindex
    obtain ⟨dtb, hdtb, hplaced⟩ := entry_eq_placedEntry hperm hentry
    refine ⟨dtb, hdtb, ?_⟩
    rw [hread c entry hentry, hplaced]
    exact ⟨rfl, rfl, rfl, toNat_placedEntry_size hfits hdtb⟩
  · intro c hc
    obtain ⟨entry, dtb, -, -, hoffset, -⟩ := read_placed hperm hread hfits hc
    rw [hoffset, hdeclared]
    exact Nat.dvd_add (Nat.dvd_mul_left page _) (dvd_extent page _)
  · intro c hc d hd hcd
    obtain ⟨left, leftDtb, hleft, hleftDtb, hleftOffset, hleftStop⟩ :=
      read_placed hperm hread hfits hc
    obtain ⟨right, rightDtb, hright, hrightDtb, hrightOffset, hrightStop⟩ :=
      read_placed hperm hread hfits hd
    rw [hleftOffset, hleftStop, hrightOffset, hrightStop]
    rcases Nat.lt_or_gt_of_ne (blob_ne hperm hleft hright hcd) with hlt | hgt
    · have hbefore := extent_take_add_le_take page hlt hleftDtb
      left
      omega
    · have hbefore := extent_take_add_le_take page hgt hrightDtb
      right
      omega
  · intro c hc
    obtain ⟨entry, dtb, -, -, hoffset, -⟩ := read_placed hperm hread hfits hc
    have htable := tableEnd_le_declaredEnd (List.length_pos_iff.mpr hne)
    have hround := le_roundUp hpos (declaredEnd dtbs.length)
    omega
  · intro c hc
    obtain ⟨entry, dtb, -, hdtb, -, hstop⟩ := read_placed hperm hread hfits hc
    have hle := extent_take_add_le page hdtb
    omega

end Entries

/-- **Bounds.**  On every page size that mkbootimg accepts the copies stay inside
the block, which is returned, and its table declares sound extents. -/
theorem block_extents_sound (fdt : Libfdt)
    (qsort : (DtEntry → DtEntry → Int) → List DtEntry → List DtEntry)
    (hqsort : ∀ cmp entries, (qsort cmp entries).Perm entries)
    (listing : List DirEntry) (dtbs : List Dtb)
    (haccepted : acceptedDtbs fdt listing = .ok dtbs) (hne : dtbs ≠ [])
    (pagesize : UInt32) (hpagesize : pagesize ∈ pagesizes)
    (hsums : roundUp pagesize.toNat (declaredEnd dtbs.length) +
      extent pagesize.toNat (payloads dtbs) < 2 ^ 32) :
    ∃ block, loadDtbhBlock fdt qsort (some listing) pagesize = .ok (some block) ∧
      SoundExtents pagesize.toNat dtbs block.image := by
  obtain ⟨bits, hbits, hpage⟩ := exists_two_pow_of_mem_pagesizes hpagesize
  have hpos := toNat_page_pos hpage
  have hcount : 0 < dtbs.length := List.length_pos_iff.mpr hne
  obtain ⟨entries, hperm, blobs, hblock⟩ :=
    loadDtbhBlock_eq hqsort haccepted hne (by omega) hpage hsums
  refine ⟨_, hblock, ?_⟩
  refine sound_extents hpos hperm (fun c entry hc => readEntry_blockImage _ _ _ hc) ?_ rfl hne
    hsums
  refine length_blockImage hpos _ _ _ ?_
  rw [length_of_perm_mapIdx hperm]
  exact roundUp_mono (tableEnd_le_declaredEnd hcount)

/-- Eleven dtbs, whose blobs are not where the table says, still have sound extents. -/
theorem block_extents_sound_eleven :
    ∃ block, loadDtbhBlock sampleFdt sampleSort
        (some (List.replicate 11 sampleEntry)) 2048 = .ok (some block) ∧
      SoundExtents 2048 (List.replicate 11 ⟨sampleDtb, 9810, 0, 255⟩) block.image :=
  block_extents_sound sampleFdt sampleSort (fun _ _ => List.mergeSort_perm _ _)
    (List.replicate 11 sampleEntry) _ (acceptedDtbs_replicate 11) (by simp) 2048 (by decide)
    (sums_samples (by decide))

end Exynos9810.Dtbhtool
