import Exynos9810.Dtbhtool.DtbimgImage

/-!
# Does a table entry lead to its dtb?

Offsets are counted from the header size that the directory loop accounts for;
the blobs are copied behind the table as it is written.  The two agree exactly
while the accounted header fits in one page.
-/
namespace Exynos9810.Dtbhtool

open ByteString Paging

/-- The eight words that a reader of the image finds at `offset`. -/
def readEntry (image : Bytes) (offset : Nat) : TableEntry :=
  { chip := word32 image offset
    platform := word32 image (offset + 4)
    subtype := word32 image (offset + 8)
    hwRev := word32 image (offset + 12)
    hwRevEnd := word32 image (offset + 16)
    offset := word32 image (offset + 20)
    size := word32 image (offset + 24)
    space := word32 image (offset + 28) }

theorem readEntry_middle (left : Bytes) (entry : TableEntry) (right : Bytes) :
    readEntry (left ++ entryBytes entry ++ right) left.length = entry := by
  have hword (front : Bytes) (word : UInt32) (back : Bytes)
      (hsplit : entryBytes entry = front ++ le32 word ++ back) :
      word32 (left ++ entryBytes entry ++ right) (left.length + front.length) = word := by
    rw [hsplit, ← List.length_append]
    simpa only [List.append_assoc] using word32_middle (left ++ front) word (back ++ right)
  cases entry with
  | mk chip platform subtype hwRev hwRevEnd offset size space =>
    unfold readEntry
    congr 1
    · exact hword [] chip _ rfl
    · exact hword (le32 chip) platform _ rfl
    · exact hword (le32 chip ++ le32 platform) subtype _ rfl
    · exact hword (le32 chip ++ le32 platform ++ le32 subtype) hwRev _ rfl
    · exact hword (le32 chip ++ le32 platform ++ le32 subtype ++ le32 hwRev) hwRevEnd _ rfl
    · exact hword (le32 chip ++ le32 platform ++ le32 subtype ++ le32 hwRev ++
        le32 hwRevEnd) offset _ rfl
    · exact hword (le32 chip ++ le32 platform ++ le32 subtype ++ le32 hwRev ++
        le32 hwRevEnd ++ le32 offset) size _ rfl
    · exact hword (le32 chip ++ le32 platform ++ le32 subtype ++ le32 hwRev ++
        le32 hwRevEnd ++ le32 offset ++ le32 size) space [] (by rw [List.append_nil]; rfl)

/-- An entry carries the identification of a dtb and leads to its bytes,
followed by zeros up to the size it declares. -/
structure Locates (image : Bytes) (entry : TableEntry) (dtb : Dtb) : Prop where
  chip : entry.chip = dtb.chip
  hwRev : entry.hwRev = dtb.hwRev
  hwRevEnd : entry.hwRevEnd = dtb.hwRevEnd
  fits : dtb.payload.length ≤ entry.size.toNat
  payload : slice image entry.offset.toNat dtb.payload.length = dtb.payload
  rest : ∀ index, dtb.payload.length ≤ index → index < entry.size.toNat →
    image[entry.offset.toNat + index]? = some 0

def EveryEntryLocates (dtbs : List Dtb) (block : DtbhBlock) : Prop :=
  block.entries.length = dtbs.length ∧
    ∀ c entry, block.entries[c]? = some entry →
      ∃ dtb, dtbs[entry.blob]? = some dtb ∧
        Locates block.image (readEntry block.image (tableEnd c)) dtb

/-- `fdt_check_header` looks for one of the two magic numbers of libfdt. -/
def Libfdt.ChecksMagic (fdt : Libfdt) : Prop :=
  ∀ dtb, fdt.checkHeader dtb = 0 →
    dtb.take 4 = [0xd0, 0x0d, 0xfe, 0xed] ∨ dtb.take 4 = [0x2f, 0xf2, 0x01, 0x12]

theorem reads_of_filterDtb {fdt : Libfdt} {dtb : Bytes}
    {memory : Option Nat × Int → Except Stop Bytes} {taken : Dtb}
    (h : filterDtb fdt dtb memory = .ok (some taken)) :
    taken.payload = dtb ∧
      (∀ row ∈ [("model_info-platform", dtbhPlatform), ("model_info-subtype", dtbhSubtype)],
        ∃ value, memory (fdt.getprop dtb row.1.toList) = .ok value ∧
          propMatches value row.2 = .ok true) ∧
      ∀ name ∈ ["model_info-chip", "model_info-hw_rev", "model_info-hw_rev_end"],
        ∃ value word, memory (fdt.getprop dtb name.toList) = .ok value ∧
          propWord value = .ok word := by
  unfold filterDtb at h
  dsimp only at h
  split at h
  · cases h
  obtain ⟨platform, hplatform, h⟩ := bind_eq_ok h
  obtain ⟨isPlatform, hisPlatform, h⟩ := bind_eq_ok h
  split at h
  · cases h
  obtain ⟨subtype, hsubtype, h⟩ := bind_eq_ok h
  obtain ⟨isSubtype, hisSubtype, h⟩ := bind_eq_ok h
  split at h
  · cases h
  split at h
  · cases h
  split at h
  · cases h
  obtain ⟨chip, hchip, h⟩ := bind_eq_ok h
  obtain ⟨chipWord, hchipWord, h⟩ := bind_eq_ok h
  obtain ⟨hwRev, hhwRev, h⟩ := bind_eq_ok h
  obtain ⟨hwRevWord, hhwRevWord, h⟩ := bind_eq_ok h
  obtain ⟨hwRevEnd, hhwRevEnd, h⟩ := bind_eq_ok h
  obtain ⟨hwRevEndWord, hhwRevEndWord, h⟩ := bind_eq_ok h
  cases h
  have htrue {same : Bool} (hsame : ¬(!same) = true) : same = true := by simpa using hsame
  rw [htrue ‹¬(!isPlatform) = true›] at hisPlatform
  rw [htrue ‹¬(!isSubtype) = true›] at hisSubtype
  simp only [List.forall_mem_cons, List.not_mem_nil, false_imp_iff, implies_true, and_true]
  exact ⟨trivial, ⟨⟨platform, hplatform, hisPlatform⟩, subtype, hsubtype, hisSubtype⟩,
    ⟨chip, chipWord, hchip, hchipWord⟩, ⟨hwRev, hwRevWord, hhwRev, hhwRevWord⟩,
    hwRevEnd, hwRevEndWord, hhwRevEnd, hhwRevEndWord⟩

theorem examine_accepts {fdt : Libfdt} {de : DirEntry} {dtb : Dtb}
    (h : examine fdt de = .ok (some dtb)) : fdt.checkHeader dtb.payload = 0 := by
  unfold examine at h
  split at h
  · cases h
  · split at h
    · cases h
    · split at h
      · cases h
      · rename_i hheader
        rw [(reads_of_filterDtb h).1]
        exact not_not.mp hheader

theorem checkHeader_of_mem_acceptedDtbs {fdt : Libfdt} {listing : List DirEntry}
    {dtbs : List Dtb} (h : acceptedDtbs fdt listing = .ok dtbs) {dtb : Dtb}
    (hdtb : dtb ∈ dtbs) : fdt.checkHeader dtb.payload = 0 := by
  induction listing generalizing dtbs with
  | nil =>
    cases h
    simp at hdtb
  | cons de rest ih =>
    obtain ⟨verdict, hexamine, h⟩ := bind_eq_ok h
    cases verdict with
    | none => exact ih h hdtb
    | some accepted =>
      obtain ⟨tail, hrest, h⟩ := bind_eq_ok h
      cases h
      rcases List.mem_cons.mp hdtb with rfl | hdtb
      · exact examine_accepts hexamine
      · exact ih hrest hdtb

theorem Libfdt.ChecksMagic.getD_zero_ne {fdt : Libfdt} (hmagic : fdt.ChecksMagic)
    {payload : Bytes} (h : fdt.checkHeader payload = 0) : payload.getD 0 0 ≠ 0 := by
  have hhead : payload.getD 0 0 = (payload.take 4).getD 0 0 := by
    cases payload <;> rfl
  rw [hhead]
  rcases hmagic payload h with htake | htake
  · rw [htake]
    decide
  · rw [htake]
    decide

section Geometry

variable {page : Nat}

/-- The accounted header and the written table need the same pages exactly
when the accounted header fits in one page. -/
theorem roundUp_declaredEnd_eq_iff (hpage : 2048 ≤ page) {count : Nat} (hcount : 0 < count) :
    roundUp page (declaredEnd count) = roundUp page (tableEnd count) ↔
      declaredEnd count ≤ page := by
  have hpos : 0 < page := by omega
  have hdeclared := le_roundUp hpos (declaredEnd count)
  have htable := roundUp_lt hpos (tableEnd count)
  have honePage {size : Nat} (hsize : 0 < size) (hle : size ≤ page) :
      roundUp page size = page :=
    roundUp_eq_of_dvd hpos (Nat.dvd_refl page) hle (by omega)
  constructor
  · intro heq
    by_contra hmany
    by_cases hone : tableEnd count ≤ page
    · rw [honePage (by simp only [tableEnd]; omega) hone] at heq
      omega
    · have hgrowth : tableEnd count + page ≤ declaredEnd count := by
        simp only [tableEnd, declaredEnd] at hone ⊢
        nlinarith
      omega
  · intro hone
    rw [honePage (by simp only [declaredEnd]; omega) hone,
      honePage (by simp only [tableEnd]; omega)
        ((tableEnd_le_declaredEnd hcount).trans hone)]

def blockHead (page : Nat) (entryCount : UInt32) (entries : List DtEntry) : Bytes :=
  headerBytes entryCount ++ tableBytes entries ++
    zeros (padding page (tableEnd entries.length))

theorem length_blockHead (hpos : 0 < page) (entryCount : UInt32) (entries : List DtEntry) :
    (blockHead page entryCount entries).length =
      roundUp page (tableEnd entries.length) := by
  rw [← add_padding hpos]
  simp [blockHead, tableEnd, Nat.add_assoc]

theorem blockImage_eq (declared : Nat) (entryCount : UInt32) (entries : List DtEntry)
    (dtbs : List Dtb) :
    blockImage page declared entryCount entries dtbs =
      blockHead page entryCount entries ++ (payloads dtbs).flatMap (padded page) ++
        zeros (declared - roundUp page (tableEnd entries.length)) := rfl

theorem eq_take_append_cons {items : List α} {index : Nat} {item : α}
    (h : items[index]? = some item) :
    items = items.take index ++ item :: items.drop (index + 1) := by
  obtain ⟨hindex, rfl⟩ := List.getElem?_eq_some_iff.mp h
  rw [← List.drop_eq_getElem_cons hindex, List.take_append_drop]

theorem payloads_split {dtbs : List Dtb} {index : Nat} {dtb : Dtb}
    (h : dtbs[index]? = some dtb) :
    payloads dtbs = payloads (dtbs.take index) ++ dtb.payload ::
      payloads (dtbs.drop (index + 1)) := by
  conv_lhs => rw [eq_take_append_cons h]
  simp only [payloads, List.map_append, List.map_cons]

/-- Each blob stands at the extent of those before it, counted from the page
after the table. -/
theorem slice_blockImage (hpos : 0 < page) (declared : Nat) (entryCount : UInt32)
    (entries : List DtEntry) {dtbs : List Dtb} {index : Nat} {dtb : Dtb}
    (h : dtbs[index]? = some dtb) :
    slice (blockImage page declared entryCount entries dtbs)
        (roundUp page (tableEnd entries.length) +
          extent page (payloads (dtbs.take index)))
        (roundUp page dtb.payload.length) =
      padded page dtb.payload := by
  rw [blockImage_eq, payloads_split h, ← length_blockHead hpos entryCount]
  exact slice_flatMap_padded hpos _ _ _ _ _

theorem readEntry_table (entryCount : UInt32) {entries : List DtEntry} (rest : Bytes) {c : Nat}
    {entry : DtEntry} (h : entries[c]? = some entry) :
    readEntry (headerBytes entryCount ++ tableBytes entries ++ rest) (tableEnd c) =
      entry.toTableEntry := by
  obtain ⟨hc, -⟩ := List.getElem?_eq_some_iff.mp h
  have hlength : tableEnd c =
      (headerBytes entryCount ++ tableBytes (entries.take c)).length := by
    simp [tableEnd, Nat.min_eq_left hc.le]
  have hsplit : tableBytes entries = tableBytes (entries.take c) ++
      entryBytes entry.toTableEntry ++ tableBytes (entries.drop (c + 1)) := by
    conv_lhs => rw [eq_take_append_cons h]
    simp only [tableBytes, List.flatMap_append, List.flatMap_cons, List.append_assoc]
  rw [hsplit, hlength]
  simpa only [List.append_assoc] using readEntry_middle
    (headerBytes entryCount ++ tableBytes (entries.take c)) entry.toTableEntry _

theorem readEntry_laidOut (start declared : Nat) (entryCount : UInt32)
    {entries : List DtEntry} (dtbs : List Dtb) {c : Nat} {entry : DtEntry}
    (h : entries[c]? = some entry) :
    readEntry (laidOut page start declared entryCount entries dtbs) (tableEnd c) =
      entry.toTableEntry := by
  rw [laidOut, List.append_assoc _ (zeros _), List.append_assoc _ _ (zeros _)]
  exact readEntry_table entryCount _ h

theorem readEntry_blockImage (declared : Nat) (entryCount : UInt32)
    {entries : List DtEntry} (dtbs : List Dtb) {c : Nat} {entry : DtEntry}
    (h : entries[c]? = some entry) :
    readEntry (blockImage page declared entryCount entries dtbs) (tableEnd c) =
      entry.toTableEntry := by
  rw [← laidOut_roundUp]
  exact readEntry_laidOut _ _ entryCount dtbs h

end Geometry

section Placed

variable {page : Nat} {dtbs : List Dtb}

theorem extent_take_add_le (page : Nat) {index : Nat} {dtb : Dtb}
    (h : dtbs[index]? = some dtb) :
    extent page (payloads (dtbs.take index)) + roundUp page dtb.payload.length ≤
      extent page (payloads dtbs) := by
  rw [payloads_split h, extent_append, extent_cons]
  omega

theorem entry_eq_placedEntry {declared : Nat} {entries : List DtEntry}
    (hperm : entries.Perm (dtbs.mapIdx (placedEntry page declared dtbs))) {c : Nat}
    {entry : DtEntry} (hc : entries[c]? = some entry) :
    ∃ dtb, dtbs[entry.blob]? = some dtb ∧
      entry = placedEntry page declared dtbs entry.blob dtb := by
  obtain ⟨index, hindex⟩ :=
    List.mem_iff_getElem?.mp (hperm.mem_iff.mp (List.mem_of_getElem? hc))
  rw [List.getElem?_mapIdx] at hindex
  obtain ⟨dtb, hdtb, rfl⟩ := Option.map_eq_some_iff.mp hindex
  exact ⟨dtb, hdtb, rfl⟩

theorem toNat_placedEntry_offset {declared : Nat}
    (hfits : declared + extent page (payloads dtbs) < 2 ^ 32) {index : Nat} {dtb : Dtb}
    (h : dtbs[index]? = some dtb) :
    (placedEntry page declared dtbs index dtb).offset.toNat =
      declared + extent page (payloads (dtbs.take index)) := by
  have hle := extent_take_add_le page h
  exact UInt32.toNat_ofNat_of_lt' (by simp only [UInt32.size]; omega)

theorem toNat_placedEntry_size {declared : Nat}
    (hfits : declared + extent page (payloads dtbs) < 2 ^ 32) {index : Nat} {dtb : Dtb}
    (h : dtbs[index]? = some dtb) :
    (placedEntry page declared dtbs index dtb).size.toNat =
      roundUp page dtb.payload.length := by
  have hle := extent_take_add_le page h
  exact UInt32.toNat_ofNat_of_lt' (by simp only [UInt32.size]; omega)

/-- With offsets counted from where the blobs really start, an entry leads to
its dtb. -/
theorem placedEntry_locates (hpos : 0 < page) (entryCount : UInt32) (entries : List DtEntry)
    (hfits : roundUp page (tableEnd entries.length) + extent page (payloads dtbs) < 2 ^ 32)
    {index : Nat} {dtb : Dtb} (h : dtbs[index]? = some dtb) :
    Locates (blockImage page (roundUp page (tableEnd entries.length)) entryCount entries dtbs)
      (placedEntry page (roundUp page (tableEnd entries.length)) dtbs index dtb).toTableEntry
      dtb where
  chip := rfl
  hwRev := rfl
  hwRevEnd := rfl
  fits := by
    rw [toNat_placedEntry_size hfits h]
    exact le_roundUp hpos _
  payload := by
    have hslice := slice_blockImage hpos (roundUp page (tableEnd entries.length)) entryCount
      entries h
    have htake := congrArg (List.take dtb.payload.length) hslice
    rw [toNat_placedEntry_offset hfits h]
    rw [slice, List.take_take, Nat.min_eq_left (le_roundUp hpos _)] at htake
    rw [slice, htake, padded, List.take_left]
  rest := by
    intro position hlow hhigh
    rw [toNat_placedEntry_size hfits h] at hhigh
    rw [toNat_placedEntry_offset hfits h, ← getElem?_slice _ _ _ _ hhigh,
      slice_blockImage hpos _ entryCount entries h, padded, List.getElem?_append_right hlow]
    have hpad := add_padding hpos dtb.payload.length
    rw [zeros, List.getElem?_replicate, if_pos (by omega)]

/-- With offsets counted from further on, the last dtb is not found: its entry
points into its own bytes or into the zeros behind them. -/
theorem placedEntry_not_locates (hpos : 0 < page) {declared : Nat} (entryCount : UInt32)
    (entries : List DtEntry) (hfits : declared + extent page (payloads dtbs) < 2 ^ 32)
    (hshift : roundUp page (tableEnd entries.length) < declared) (front : List Dtb) (dtb : Dtb)
    (hdtbs : dtbs = front ++ [dtb]) (hmagic : dtb.payload.getD 0 0 ≠ 0) :
    ¬Locates (blockImage page declared entryCount entries dtbs)
      (placedEntry page declared dtbs front.length dtb).toTableEntry dtb := by
  intro hlocates
  have hindex : dtbs[front.length]? = some dtb := by
    rw [hdtbs, List.getElem?_concat_length]
  have htake : dtbs.take front.length = front := by
    rw [hdtbs, List.take_left]
  have hpayload := hlocates.payload
  rw [toNat_placedEntry_offset hfits hindex, htake] at hpayload
  have himage : blockImage page declared entryCount entries dtbs =
      (blockHead page entryCount entries ++ (payloads front).flatMap (padded page)) ++
        (dtb.payload ++ zeros (padding page dtb.payload.length +
          (declared - roundUp page (tableEnd entries.length)))) := by
    rw [blockImage_eq, hdtbs, zeros_add]
    simp [payloads, padded]
  have hstart : declared + extent page (payloads front) =
      (blockHead page entryCount entries ++
        (payloads front).flatMap (padded page)).length +
          (declared - roundUp page (tableEnd entries.length)) := by
    rw [List.length_append, length_blockHead hpos, length_flatMap_padded hpos]
    omega
  rw [himage, hstart, slice, ← List.drop_drop, List.drop_left, ← slice] at hpayload
  exact hmagic (getD_eq_zero_of_slice_shift (by omega) hpayload 0)

end Placed

section Main

variable {fdt : Libfdt} {qsort : (DtEntry → DtEntry → Int) → List DtEntry → List DtEntry}
  {listing : List DirEntry} {dtbs : List Dtb} {pagesize : UInt32}

theorem le_pagesize (hpagesize : pagesize ∈ pagesizes) : 2048 ≤ pagesize.toNat := by
  obtain ⟨bits, hbits, hpage⟩ := exists_two_pow_of_mem_pagesizes hpagesize
  rw [hpage]
  exact Nat.pow_le_pow_right Nat.two_pos hbits

theorem every_entry_locates (hqsort : ∀ cmp entries, (qsort cmp entries).Perm entries)
    (haccepted : acceptedDtbs fdt listing = .ok dtbs) (hne : dtbs ≠ [])
    (hpagesize : pagesize ∈ pagesizes)
    (hsums : roundUp pagesize.toNat (declaredEnd dtbs.length) +
      extent pagesize.toNat (payloads dtbs) < 2 ^ 32)
    (hone : declaredEnd dtbs.length ≤ pagesize.toNat) :
    ∃ block, loadDtbhBlock fdt qsort (some listing) pagesize = .ok (some block) ∧
      EveryEntryLocates dtbs block := by
  obtain ⟨bits, hbits, hpage⟩ := exists_two_pow_of_mem_pagesizes hpagesize
  have hlarge := le_pagesize hpagesize
  have hcount : 0 < dtbs.length := List.length_pos_iff.mpr hne
  have heq := (roundUp_declaredEnd_eq_iff hlarge hcount).mpr hone
  obtain ⟨entries, hperm, blobs, hblock⟩ :=
    loadDtbhBlock_eq hqsort haccepted hne (by omega) hpage hsums
  have hentries := length_of_perm_mapIdx hperm
  refine ⟨_, hblock, hentries, ?_⟩
  intro c entry hc
  obtain ⟨dtb, hdtb, hplaced⟩ := entry_eq_placedEntry hperm hc
  refine ⟨dtb, hdtb, ?_⟩
  dsimp only
  rw [readEntry_blockImage _ _ _ hc, hplaced]
  rw [← hentries] at heq hsums
  rw [heq] at hsums
  rw [← hentries, heq]
  exact placedEntry_locates (by omega) _ entries hsums hdtb

theorem not_every_entry_locates (hmagic : fdt.ChecksMagic)
    (hqsort : ∀ cmp entries, (qsort cmp entries).Perm entries)
    (haccepted : acceptedDtbs fdt listing = .ok dtbs) (hne : dtbs ≠ [])
    (hpagesize : pagesize ∈ pagesizes)
    (hsums : roundUp pagesize.toNat (declaredEnd dtbs.length) +
      extent pagesize.toNat (payloads dtbs) < 2 ^ 32)
    (hmany : ¬declaredEnd dtbs.length ≤ pagesize.toNat) :
    ¬∃ block, loadDtbhBlock fdt qsort (some listing) pagesize = .ok (some block) ∧
      EveryEntryLocates dtbs block := by
  rintro ⟨block, hload, -, hlocates⟩
  obtain ⟨bits, hbits, hpage⟩ := exists_two_pow_of_mem_pagesizes hpagesize
  have hlarge := le_pagesize hpagesize
  have hcount : 0 < dtbs.length := List.length_pos_iff.mpr hne
  obtain ⟨entries, hperm, blobs, hblock⟩ :=
    loadDtbhBlock_eq hqsort haccepted hne (by omega) hpage hsums
  rw [hblock] at hload
  cases hload
  have hshift : roundUp pagesize.toNat (tableEnd entries.length) <
      roundUp pagesize.toNat (declaredEnd dtbs.length) := by
    rw [length_of_perm_mapIdx hperm]
    refine lt_of_le_of_ne (roundUp_mono (tableEnd_le_declaredEnd hcount)) ?_
    intro heq
    exact hmany ((roundUp_declaredEnd_eq_iff hlarge hcount).mp heq.symm)
  obtain ⟨front, dtb, hdtbs⟩ := (List.eq_nil_or_concat dtbs).resolve_left hne
  rw [List.concat_eq_append] at hdtbs
  have hlast : dtbs[front.length]? = some dtb := by
    rw [hdtbs, List.getElem?_concat_length]
  have hmem : placedEntry pagesize.toNat
      (roundUp pagesize.toNat (declaredEnd dtbs.length)) dtbs front.length dtb ∈ entries := by
    rw [hperm.mem_iff, List.mem_iff_getElem?]
    exact ⟨front.length, by rw [List.getElem?_mapIdx, hlast, Option.map_some]⟩
  obtain ⟨c, hc⟩ := List.mem_iff_getElem?.mp hmem
  obtain ⟨own, hown, hlocated⟩ := hlocates c _ hc
  rw [readEntry_blockImage _ _ _ hc] at hlocated
  change dtbs[front.length]? = some own at hown
  rw [hlast] at hown
  cases hown
  have hheader := checkHeader_of_mem_acceptedDtbs haccepted (List.mem_of_getElem? hlast)
  exact placedEntry_not_locates (by omega) _ entries hsums hshift front dtb hdtbs
    (hmagic.getD_zero_ne hheader) hlocated

end Main

/-- **Entries and blobs.**  Every table entry of the block leads to its own dtb
if and only if the header as the directory loop accounts for it, `16 n (n + 1)`
bytes and 16 more for `n` dtbs, fits in one page. -/
theorem every_entry_locates_iff (fdt : Libfdt) (hmagic : fdt.ChecksMagic)
    (qsort : (DtEntry → DtEntry → Int) → List DtEntry → List DtEntry)
    (hqsort : ∀ cmp entries, (qsort cmp entries).Perm entries)
    (listing : List DirEntry) (dtbs : List Dtb)
    (haccepted : acceptedDtbs fdt listing = .ok dtbs) (hne : dtbs ≠ [])
    (pagesize : UInt32) (hpagesize : pagesize ∈ pagesizes)
    (hsums : roundUp pagesize.toNat (declaredEnd dtbs.length) +
      extent pagesize.toNat (payloads dtbs) < 2 ^ 32) :
    (∃ block, loadDtbhBlock fdt qsort (some listing) pagesize = .ok (some block) ∧
        EveryEntryLocates dtbs block) ↔
      16 + 16 * dtbs.length * (dtbs.length + 1) ≤ pagesize.toNat := by
  constructor
  · intro hlocates
    by_contra hmany
    exact not_every_entry_locates hmagic hqsort haccepted hne hpagesize hsums hmany hlocates
  · exact every_entry_locates hqsort haccepted hne hpagesize hsums

section Samples

def sampleDtb : Bytes :=
  ([0xd00dfeed, 255, 56, 160, 40, 17, 16, 0, 95, 104,
    0, 0, 0, 0,
    1, 0,
    3, 4, 0, 9810,
    3, 8, 16, 0x616e6472, 0x6f696400,
    3, 8, 36, 0x73616d73, 0x756e6700,
    3, 4, 55, 0,
    3, 4, 73, 255,
    2, 9] : List UInt32).flatMap (fun word => (le32 word).reverse) ++
  ascii "model_info-chip" ++ [0] ++ ascii "model_info-platform" ++ [0] ++
  ascii "model_info-subtype" ++ [0] ++ ascii "model_info-hw_rev" ++ [0] ++
  ascii "model_info-hw_rev_end" ++ [0]

def sampleFdt : Libfdt where
  checkHeader dtb := if dtb.take 4 = [0xd0, 0x0d, 0xfe, 0xed] then 0 else -9
  getprop _ name :=
    if name = "model_info-chip".toList then (some 76, 4)
    else if name = "model_info-platform".toList then (some 92, 8)
    else if name = "model_info-subtype".toList then (some 112, 8)
    else if name = "model_info-hw_rev".toList then (some 132, 4)
    else if name = "model_info-hw_rev_end".toList then (some 148, 4)
    else (none, -1)

def sampleSort (cmp : DtEntry → DtEntry → Int) (entries : List DtEntry) : List DtEntry :=
  entries.mergeSort fun a b => cmp a b ≤ 0

def sampleEntry : DirEntry :=
  { dName := "exynos9810.dtb".toList, contents := some sampleDtb }

theorem sampleFdt_checksMagic : sampleFdt.ChecksMagic := by
  intro dtb h
  left
  simp only [sampleFdt] at h
  split at h
  · assumption
  · cases h

theorem examine_sampleEntry :
    examine sampleFdt sampleEntry = .ok (some ⟨sampleDtb, 9810, 0, 255⟩) := by
  decide +kernel

theorem acceptedDtbs_replicate (count : Nat) :
    acceptedDtbs sampleFdt (List.replicate count sampleEntry) =
      .ok (List.replicate count ⟨sampleDtb, 9810, 0, 255⟩) := by
  induction count with
  | zero => rfl
  | succ count ih =>
    rw [List.replicate_succ, acceptedDtbs, examine_sampleEntry, ok_bind]
    dsimp only
    rw [ih]
    rfl

theorem length_sampleDtb : sampleDtb.length = 255 := by
  decide +kernel

theorem extent_samples (count : Nat) :
    extent 2048 (payloads (List.replicate count ⟨sampleDtb, 9810, 0, 255⟩)) = count * 2048 := by
  have hpage : roundUp 2048 255 = 2048 := by decide
  simp [extent, payloads, length_sampleDtb, hpage]

theorem sums_samples {count : Nat}
    (h : roundUp 2048 (declaredEnd count) + count * 2048 < 2 ^ 32) :
    roundUp (2048 : UInt32).toNat
        (declaredEnd (List.replicate count (⟨sampleDtb, 9810, 0, 255⟩ : Dtb)).length) +
      extent (2048 : UInt32).toNat
        (payloads (List.replicate count ⟨sampleDtb, 9810, 0, 255⟩)) < 2 ^ 32 := by
  have hpage : (2048 : UInt32).toNat = 2048 := rfl
  rw [hpage, extent_samples, List.length_replicate]
  exact h

end Samples

theorem every_entry_locates_ten :
    ∃ block, loadDtbhBlock sampleFdt sampleSort
        (some (List.replicate 10 sampleEntry)) 2048 = .ok (some block) ∧
      EveryEntryLocates (List.replicate 10 ⟨sampleDtb, 9810, 0, 255⟩) block := by
  refine (every_entry_locates_iff sampleFdt sampleFdt_checksMagic sampleSort
    (fun _ _ => List.mergeSort_perm _ _) (List.replicate 10 sampleEntry) _
    (acceptedDtbs_replicate 10) (by simp) 2048 (by decide)
    (sums_samples (by decide))).mpr ?_
  rw [List.length_replicate]
  decide

/-- Eleven dtbs on pages of 2048 bytes: the accounted header takes two pages,
the table one. -/
theorem every_entry_locates_fails_eleven :
    acceptedDtbs sampleFdt (List.replicate 11 sampleEntry) =
        .ok (List.replicate 11 ⟨sampleDtb, 9810, 0, 255⟩) ∧
      ¬∃ block, loadDtbhBlock sampleFdt sampleSort
          (some (List.replicate 11 sampleEntry)) 2048 = .ok (some block) ∧
        EveryEntryLocates (List.replicate 11 ⟨sampleDtb, 9810, 0, 255⟩) block := by
  refine ⟨acceptedDtbs_replicate 11, not_every_entry_locates sampleFdt_checksMagic
    (fun _ _ => List.mergeSort_perm _ _) (acceptedDtbs_replicate 11) (by simp) (by decide)
    (sums_samples (by decide)) ?_⟩
  rw [List.length_replicate]
  decide

end Exynos9810.Dtbhtool
