import Exynos9810.Dtbhtool.Dtbimg
import Mathlib.Data.List.Induction
import Mathlib.Tactic.Linarith
import Mathlib.Tactic.Ring

/-!
# The block in closed form

The directory loop, the two placement loops and the copy loops are run once and
for all here.  Afterwards the block is a plain concatenation and its entries
are plain functions of the accepted dtbs.
-/
namespace Exynos9810.Dtbhtool

open ByteString Paging

/-- The accepted dtbs in `readdir` order, as far as the loop gets. -/
def acceptedDtbs (fdt : Libfdt) : List DirEntry → Except Stop (List Dtb)
  | [] => .ok []
  | de :: rest => do
    match ← examine fdt de with
    | none => acceptedDtbs fdt rest
    | some dtb => return dtb :: (← acceptedDtbs fdt rest)

theorem gather_eq_foldl {fdt : Libfdt} {listing : List DirEntry} {dtbs : List Dtb}
    (h : acceptedDtbs fdt listing = .ok dtbs) (pagesize : UInt32) (g : Gathered) :
    gather fdt pagesize g listing = .ok (dtbs.foldl (Gathered.add pagesize) g) := by
  induction listing generalizing dtbs g with
  | nil =>
    cases h
    rfl
  | cons de rest ih =>
    simp only [acceptedDtbs, gather] at h ⊢
    cases hexamine : examine fdt de with
    | error stop =>
      rw [hexamine] at h
      cases h
    | ok verdict =>
      rw [hexamine] at h
      cases verdict with
      | none => exact ih h g
      | some dtb =>
        cases hrest : acceptedDtbs fdt rest with
        | error stop =>
          rw [hrest] at h
          cases h
        | ok tail =>
          rw [hrest] at h
          cases h
          exact ih hrest (g.add pagesize dtb)

def blobOf (offset : UInt32) (dtb : Dtb) : DtBlob :=
  { size := UInt32.ofNat dtb.payload.length, offset := offset, payload := dtb.payload }

def entryOf (index : Nat) (dtb : Dtb) : DtEntry :=
  { chip := dtb.chip, platform := dtbhPlatformCode, subtype := dtbhSubtypeCode
    hwRev := dtb.hwRev, hwRevEnd := dtb.hwRevEnd, offset := 0, size := 0
    space := 0x20, blob := index }

section Loop

variable (pagesize : UInt32)

def gathered (dtbs : List Dtb) : Gathered :=
  dtbs.foldl (Gathered.add pagesize) Gathered.start

theorem gathered_append (dtbs : List Dtb) (dtb : Dtb) :
    gathered pagesize (dtbs ++ [dtb]) = (gathered pagesize dtbs).add pagesize dtb := by
  simp [gathered]

theorem gathered_blobs (dtbs : List Dtb) :
    (gathered pagesize dtbs).blobs = dtbs.map (blobOf 0) := by
  induction dtbs using List.reverseRecOn with
  | nil => rfl
  | append_singleton dtbs dtb ih =>
    rw [gathered_append, List.map_append, ← ih]
    rfl

theorem gathered_entries (dtbs : List Dtb) :
    (gathered pagesize dtbs).entries = dtbs.mapIdx entryOf := by
  induction dtbs using List.reverseRecOn with
  | nil => rfl
  | append_singleton dtbs dtb ih =>
    rw [gathered_append, List.mapIdx_append, ← ih]
    simp [Gathered.add, entryOf, gathered_blobs]

theorem gathered_entryCount (dtbs : List Dtb) :
    (gathered pagesize dtbs).entryCount = UInt32.ofNat dtbs.length := by
  induction dtbs using List.reverseRecOn with
  | nil => rfl
  | append_singleton dtbs dtb ih =>
    rw [gathered_append, List.length_append, UInt32.ofNat_add, ← ih]
    rfl

theorem gathered_hdrSz (dtbs : List Dtb) :
    (gathered pagesize dtbs).hdrSz =
      UInt32.ofNat (12 + 16 * dtbs.length * (dtbs.length + 1)) := by
  induction dtbs using List.reverseRecOn with
  | nil => rfl
  | append_singleton dtbs dtb ih =>
    have hnext : 12 + 16 * (dtbs.length + 1) * (dtbs.length + 1 + 1) =
        12 + 16 * dtbs.length * (dtbs.length + 1) + (dtbs.length + 1) * 32 := by
      ring
    have hcount : (gathered pagesize dtbs).entryCount + 1 =
        UInt32.ofNat (dtbs.length + 1) := by
      rw [gathered_entryCount, UInt32.ofNat_add]
      rfl
    rw [gathered_append, List.length_append, List.length_singleton, hnext,
      UInt32.ofNat_add, UInt32.ofNat_mul, ← ih, ← hcount]
    rfl

end Loop

section Placement

variable {pagesize : UInt32} {bits : Nat}

def payloads (dtbs : List Dtb) : List Bytes :=
  dtbs.map Dtb.payload

theorem gathered_blobSz (hpage : pagesize.toNat = 2 ^ bits) (dtbs : List Dtb)
    (hfits : extent pagesize.toNat (payloads dtbs) < 2 ^ 32) :
    (gathered pagesize dtbs).blobSz =
      UInt32.ofNat (extent pagesize.toNat (payloads dtbs)) := by
  induction dtbs using List.reverseRecOn with
  | nil => rfl
  | append_singleton dtbs dtb ih =>
    simp only [payloads, List.map_append, List.map_cons, List.map_nil, extent_append,
      extent_cons, extent_nil, Nat.add_zero] at hfits ih ⊢
    rw [gathered_append, UInt32.ofNat_add, ← ih (by omega),
      ← maskUp_ofNat hpage (by omega)]
    rfl

theorem placeBlobs_getElem? (hpage : pagesize.toNat = 2 ^ bits) (start : Nat)
    (dtbs : List Dtb) (hfits : start + extent pagesize.toNat (payloads dtbs) < 2 ^ 32)
    (index : Nat) :
    (placeBlobs pagesize (UInt32.ofNat start) (dtbs.map (blobOf 0)))[index]? =
      dtbs[index]?.map (blobOf (UInt32.ofNat
        (start + extent pagesize.toNat (payloads (dtbs.take index))))) := by
  induction dtbs generalizing start index with
  | nil => simp [placeBlobs]
  | cons dtb dtbs ih =>
    simp only [payloads, List.map_cons, extent_cons] at hfits
    cases index with
    | zero =>
      simp only [List.map_cons, placeBlobs, List.getElem?_cons_zero, List.take_zero,
        payloads, List.map_nil, extent_nil, Nat.add_zero, Option.map_some]
      rfl
    | succ index =>
      have hnext : UInt32.ofNat start + maskUp pagesize (blobOf 0 dtb).size =
          UInt32.ofNat (start + roundUp pagesize.toNat dtb.payload.length) := by
        rw [UInt32.ofNat_add, ← maskUp_ofNat hpage (by omega)]
        rfl
      simp only [List.map_cons, placeBlobs, List.getElem?_cons_succ, List.take_succ_cons,
        payloads, extent_cons, hnext]
      rw [ih _ (by simp only [payloads]; omega), payloads, Nat.add_assoc]

theorem placeBlobs_copied (offset : UInt32) (blobs : List DtBlob) :
    (placeBlobs pagesize offset blobs).map
        (fun blob => (blob.payload, maskUp pagesize blob.size)) =
      blobs.map fun blob => (blob.payload, maskUp pagesize blob.size) := by
  induction blobs generalizing offset with
  | nil => rfl
  | cons blob blobs ih => simp only [placeBlobs, List.map_cons, ih]

end Placement

section Copying

theorem memcpy_append_zeros (used source : Bytes) (free : Nat)
    (hused : used.length < 2 ^ 32) (h : source.length ≤ free) :
    memcpy (used ++ zeros free) (UInt32.ofNat used.length) source =
      .ok (used ++ source ++ zeros (free - source.length)) := by
  rw [memcpy, UInt32.toNat_ofNat_of_lt' hused, overwrite_append_zeros used source free h]

/-- The bytes that `copyAll` leaves for its items: each with the gap to the next. -/
def spaced (items : List (Bytes × UInt32)) : Bytes :=
  items.flatMap fun item => item.1 ++ zeros (item.2.toNat - item.1.length)

def strides (items : List (Bytes × UInt32)) : Nat :=
  (items.map fun item => item.2.toNat).sum

theorem copyAll_append_zeros (items : List (Bytes × UInt32))
    (hitems : ∀ item ∈ items, item.1.length ≤ item.2.toNat) (used : Bytes) (free : Nat)
    (hroom : strides items ≤ free) (hsmall : used.length + strides items < 2 ^ 32) :
    copyAll (used ++ zeros free) (UInt32.ofNat used.length) items =
      .ok (used ++ spaced items ++ zeros (free - strides items),
        UInt32.ofNat (used.length + strides items)) := by
  induction items generalizing used free with
  | nil => simp [copyAll, spaced, strides]
  | cons item items ih =>
    obtain ⟨source, stride⟩ := item
    have hsource : source.length ≤ stride.toNat := hitems (source, stride) (by simp)
    simp only [strides, List.map_cons, List.sum_cons] at hroom hsmall
    have hgap : zeros (free - source.length) =
        zeros (stride.toNat - source.length) ++ zeros (free - stride.toNat) := by
      rw [← zeros_add]
      congr 1
      omega
    have hused : (used ++ source ++ zeros (stride.toNat - source.length)).length =
        used.length + stride.toNat := by
      simp only [List.length_append, length_zeros]
      omega
    have hnext : UInt32.ofNat used.length + stride =
        UInt32.ofNat (used ++ source ++ zeros (stride.toNat - source.length)).length := by
      rw [hused, UInt32.ofNat_add, UInt32.ofNat_toNat]
    rw [copyAll, memcpy_append_zeros used source free (by omega) (by omega)]
    change copyAll _ (UInt32.ofNat used.length + stride) items = _
    rw [hgap, ← List.append_assoc, hnext,
      ih (fun item hitem => hitems item (by simp [hitem])) _ _
        (by simp only [strides]; omega) (by rw [hused]; simp only [strides]; omega), hused]
    simp only [spaced, strides, List.flatMap_cons, List.map_cons, List.sum_cons,
      List.append_assoc, Nat.add_assoc, Nat.sub_sub]

end Copying

section Assembly

variable {pagesize : UInt32} {bits : Nat}

def headerBytes (entryCount : UInt32) : Bytes :=
  dtbhMagic ++ le32 dtbhVersion ++ le32 entryCount

def tableBytes (entries : List DtEntry) : Bytes :=
  entries.flatMap fun entry => entryBytes entry.toTableEntry

/-- Bytes of the header and of a table with `count` entries. -/
def tableEnd (count : Nat) : Nat :=
  12 + 32 * count

@[simp] theorem length_headerBytes (entryCount : UInt32) :
    (headerBytes entryCount).length = 12 := rfl

@[simp] theorem length_entryBytes (entry : TableEntry) : (entryBytes entry).length = 32 := rfl

@[simp] theorem length_tableBytes (entries : List DtEntry) :
    (tableBytes entries).length = 32 * entries.length := by
  simp [tableBytes, List.length_flatMap, Nat.mul_comm]

theorem spaced_entries (entries : List DtEntry) :
    spaced (entries.map fun entry => (entryBytes entry.toTableEntry, dtEntryPhysSize)) =
      tableBytes entries := by
  have hgap : dtEntryPhysSize.toNat - 32 = 0 := rfl
  simp [spaced, tableBytes, List.flatMap_map, hgap]

theorem strides_entries (entries : List DtEntry) :
    strides (entries.map fun entry => (entryBytes entry.toTableEntry, dtEntryPhysSize)) =
      32 * entries.length := by
  have hstride : dtEntryPhysSize.toNat = 32 := rfl
  simp [strides, hstride, Function.comp_def, Nat.mul_comm]

def blobItems (pagesize : UInt32) (dtbs : List Dtb) : List (Bytes × UInt32) :=
  dtbs.map fun dtb =>
    (dtb.payload, UInt32.ofNat (roundUp pagesize.toNat dtb.payload.length))

theorem placeBlobs_items (hpage : pagesize.toNat = 2 ^ bits) (offset : UInt32)
    (dtbs : List Dtb) (hfits : extent pagesize.toNat (payloads dtbs) < 2 ^ 32) :
    (placeBlobs pagesize offset (dtbs.map (blobOf 0))).map
        (fun blob => (blob.payload, maskUp pagesize blob.size)) =
      blobItems pagesize dtbs := by
  rw [placeBlobs_copied, List.map_map, blobItems]
  apply List.map_congr_left
  intro dtb hdtb
  have hle : roundUp pagesize.toNat dtb.payload.length ≤
      extent pagesize.toNat (payloads dtbs) :=
    roundUp_le_extent (List.mem_map_of_mem hdtb)
  simp only [Function.comp_apply, blobOf, maskUp_ofNat hpage (hle.trans_lt hfits)]

theorem strides_blobItems (dtbs : List Dtb)
    (hfits : extent pagesize.toNat (payloads dtbs) < 2 ^ 32) :
    strides (blobItems pagesize dtbs) = extent pagesize.toNat (payloads dtbs) := by
  induction dtbs with
  | nil => rfl
  | cons dtb dtbs ih =>
    simp only [payloads, List.map_cons, extent_cons] at hfits ih ⊢
    rw [← ih (by omega)]
    simp only [blobItems, strides, List.map_cons, List.sum_cons]
    rw [UInt32.toNat_ofNat_of_lt' (by simp only [UInt32.size]; omega)]

theorem spaced_blobItems (dtbs : List Dtb)
    (hfits : extent pagesize.toNat (payloads dtbs) < 2 ^ 32) :
    spaced (blobItems pagesize dtbs) =
      (payloads dtbs).flatMap (padded pagesize.toNat) := by
  induction dtbs with
  | nil => rfl
  | cons dtb dtbs ih =>
    simp only [payloads, List.map_cons, extent_cons] at hfits ih ⊢
    rw [List.flatMap_cons, ← ih (by omega)]
    simp only [blobItems, spaced, List.map_cons, List.flatMap_cons, padded, padding]
    rw [UInt32.toNat_ofNat_of_lt' (by simp only [UInt32.size]; omega)]

/-- Where the cursor stands after `offset += pagesize - (offset & pagemask)`: a
whole page behind the table if that ends on a page boundary. -/
def blobStart (page count : Nat) : Nat :=
  tableEnd count + (page - tableEnd count % page)

/-- From pages of 8 bytes on the table never ends on a page boundary, so the
padding after it is the ordinary one and not a whole extra page. -/
theorem blobStart_eq_roundUp (hbits : 3 ≤ bits) (count : Nat) :
    blobStart (2 ^ bits) count = roundUp (2 ^ bits) (tableEnd count) := by
  have hpos : 0 < 2 ^ bits := Nat.two_pow_pos bits
  have hne : tableEnd count % 2 ^ bits ≠ 0 := by
    intro hzero
    have hdvd : 8 ∣ tableEnd count :=
      (Nat.pow_dvd_pow 2 hbits).trans (Nat.dvd_of_mod_eq_zero hzero)
    simp only [tableEnd] at hdvd
    omega
  rw [blobStart, ← padding_of_mod_ne_zero hpos hne, add_padding hpos]

theorem cursor_after_table (hpage : pagesize.toNat = 2 ^ bits) {count : Nat}
    (hfits : blobStart pagesize.toNat count < 2 ^ 32) :
    UInt32.ofNat (tableEnd count) +
        (pagesize - (UInt32.ofNat (tableEnd count) &&& (pagesize - 1))) =
      UInt32.ofNat (blobStart pagesize.toNat count) := by
  have hpos := toNat_page_pos hpage
  have hmod := Nat.mod_lt (tableEnd count) hpos
  have hend : (UInt32.ofNat (tableEnd count)).toNat = tableEnd count :=
    UInt32.toNat_ofNat_of_lt' ((Nat.le_add_right _ _).trans_lt hfits)
  have hand := toNat_and_mask hpage (UInt32.ofNat (tableEnd count))
  rw [hend] at hand
  rw [← UInt32.toNat_inj, UInt32.toNat_add, UInt32.toNat_sub_of_le _ _
    (by rw [UInt32.le_iff_toNat_le, hand]; exact hmod.le), hand, hend, UInt32.toNat_ofNat']
  rfl

theorem copy_header (entryCount : UInt32) {total : Nat} (h : 12 ≤ total) :
    writeHeader (zeros total) entryCount =
      .ok (headerBytes entryCount ++ zeros (total - 12)) := by
  have hmagic : memcpy (zeros total) 0 dtbhMagic =
      .ok (dtbhMagic ++ zeros (total - 4)) :=
    memcpy_append_zeros [] dtbhMagic total (by decide) (by change 4 ≤ total; omega)
  have hversion : memcpy (dtbhMagic ++ zeros (total - 4)) 4 (le32 dtbhVersion) =
      .ok (dtbhMagic ++ le32 dtbhVersion ++ zeros (total - 8)) :=
    memcpy_append_zeros dtbhMagic (le32 dtbhVersion) (total - 4) (by decide)
      (by rw [length_le32]; omega)
  have hcount : memcpy (dtbhMagic ++ le32 dtbhVersion ++ zeros (total - 8)) 8
      (le32 entryCount) = .ok (headerBytes entryCount ++ zeros (total - 12)) :=
    memcpy_append_zeros (dtbhMagic ++ le32 dtbhVersion) (le32 entryCount) (total - 8)
      (by decide) (by rw [length_le32]; omega)
  rw [writeHeader, hmagic, ok_bind, hversion, ok_bind, hcount]

theorem copy_table (entryCount : UInt32) (entries : List DtEntry) {total : Nat}
    (hroom : tableEnd entries.length ≤ total) (hfits : tableEnd entries.length < 2 ^ 32) :
    copyAll (headerBytes entryCount ++ zeros (total - 12)) dtHeaderPhysSize
        (entries.map fun entry => (entryBytes entry.toTableEntry, dtEntryPhysSize)) =
      .ok (headerBytes entryCount ++ tableBytes entries ++
          zeros (total - tableEnd entries.length),
        UInt32.ofNat (tableEnd entries.length)) := by
  simp only [tableEnd] at hroom hfits ⊢
  have hcopy := copyAll_append_zeros
    (entries.map fun entry => (entryBytes entry.toTableEntry, dtEntryPhysSize))
    (by
      intro item hitem
      obtain ⟨entry, -, rfl⟩ := List.mem_map.mp hitem
      exact le_rfl)
    (headerBytes entryCount) (total - 12)
    (by rw [strides_entries]; omega)
    (by rw [strides_entries, length_headerBytes]; omega)
  rw [strides_entries, spaced_entries, length_headerBytes, Nat.sub_sub] at hcopy
  exact hcopy

theorem copy_blobs {page : UInt32} (hpos : 0 < page.toNat) (used : Bytes) (free : Nat)
    (dtbs : List Dtb) (hroom : extent page.toNat (payloads dtbs) ≤ free)
    (hfits : used.length + extent page.toNat (payloads dtbs) < 2 ^ 32) :
    copyAll (used ++ zeros free) (UInt32.ofNat used.length) (blobItems page dtbs) =
      .ok (used ++ (payloads dtbs).flatMap (padded page.toNat) ++
          zeros (free - extent page.toNat (payloads dtbs)),
        UInt32.ofNat (used.length + extent page.toNat (payloads dtbs))) := by
  have hextent : extent page.toNat (payloads dtbs) < 2 ^ 32 := by omega
  have hcopy := copyAll_append_zeros (blobItems page dtbs)
    (by
      intro item hitem
      obtain ⟨dtb, hdtb, rfl⟩ := List.mem_map.mp hitem
      have hle : roundUp page.toNat dtb.payload.length ≤
          extent page.toNat (payloads dtbs) :=
        roundUp_le_extent (List.mem_map_of_mem hdtb)
      rw [UInt32.toNat_ofNat_of_lt' (hle.trans_lt hextent)]
      exact le_roundUp hpos _)
    used free
    (by rw [strides_blobItems dtbs hextent]; exact hroom)
    (by rw [strides_blobItems dtbs hextent]; exact hfits)
  rw [strides_blobItems dtbs hextent, spaced_blobItems dtbs hextent] at hcopy
  exact hcopy

/-- The block as a concatenation.  `declared` is the header size from which the
offsets are counted; the blobs themselves stand where the table ends. -/
def blockImage (page declared : Nat) (entryCount : UInt32) (entries : List DtEntry)
    (dtbs : List Dtb) : Bytes :=
  headerBytes entryCount ++ tableBytes entries ++
    zeros (padding page (tableEnd entries.length)) ++
    (payloads dtbs).flatMap (padded page) ++
    zeros (declared - roundUp page (tableEnd entries.length))

def laidOut (page start declared : Nat) (entryCount : UInt32) (entries : List DtEntry)
    (dtbs : List Dtb) : Bytes :=
  headerBytes entryCount ++ tableBytes entries ++ zeros (start - tableEnd entries.length) ++
    (payloads dtbs).flatMap (padded page) ++ zeros (declared - start)

theorem laidOut_roundUp (page declared : Nat) (entryCount : UInt32) (entries : List DtEntry)
    (dtbs : List Dtb) :
    laidOut page (roundUp page (tableEnd entries.length)) declared entryCount entries dtbs =
      blockImage page declared entryCount entries dtbs := rfl

theorem assemble_eq (hpage : pagesize.toNat = 2 ^ bits)
    (declared : Nat) (entryCount offset : UInt32) (entries : List DtEntry) (dtbs : List Dtb)
    (hdeclared : blobStart pagesize.toNat entries.length ≤ declared)
    (hfits : declared + extent pagesize.toNat (payloads dtbs) < 2 ^ 32) :
    assemble pagesize (UInt32.ofNat declared)
        (UInt32.ofNat (extent pagesize.toNat (payloads dtbs))) entryCount entries
        (placeBlobs pagesize offset (dtbs.map (blobOf 0))) =
      .ok (laidOut pagesize.toNat (blobStart pagesize.toNat entries.length) declared entryCount
        entries dtbs) := by
  have hpos := toNat_page_pos hpage
  have htable : tableEnd entries.length = 12 + 32 * entries.length := rfl
  have hcursor := cursor_after_table hpage (by omega : blobStart pagesize.toNat
    entries.length < 2 ^ 32)
  have hend : tableEnd entries.length ≤ blobStart pagesize.toNat entries.length :=
    Nat.le_add_right _ _
  generalize blobStart pagesize.toNat entries.length = start at hdeclared hcursor hend ⊢
  generalize htotal : declared + extent pagesize.toNat (payloads dtbs) = total at hfits
  have hsize : (UInt32.ofNat declared +
      UInt32.ofNat (extent pagesize.toNat (payloads dtbs))).toNat = total := by
    rw [← UInt32.ofNat_add, htotal, UInt32.toNat_ofNat_of_lt' hfits]
  have hgap : zeros (total - tableEnd entries.length) =
      zeros (start - tableEnd entries.length) ++ zeros (total - start) := by
    rw [← zeros_add]
    congr 1
    omega
  have hused : (headerBytes entryCount ++ tableBytes entries ++
      zeros (start - tableEnd entries.length)).length = start := by
    simp only [List.length_append, length_headerBytes, length_tableBytes, length_zeros]
    omega
  have hblobs := copy_blobs hpos
    (headerBytes entryCount ++ tableBytes entries ++ zeros (start - tableEnd entries.length))
    (total - start) dtbs (by omega) (by omega)
  rw [hused] at hblobs
  have htail : total - start - extent pagesize.toNat (payloads dtbs) = declared - start := by
    omega
  rw [assemble, hsize, copy_header entryCount (by omega), ok_bind,
    copy_table entryCount entries (by omega) (by omega), ok_bind]
  dsimp only
  rw [hcursor, hgap, ← List.append_assoc, placeBlobs_items hpage offset dtbs (by omega), hblobs,
    ok_bind, htail]
  rfl

end Assembly

section Block

variable {pagesize : UInt32} {bits : Nat}

def declaredEnd (count : Nat) : Nat :=
  16 + 16 * count * (count + 1)

theorem tableEnd_le_declaredEnd {count : Nat} (h : 0 < count) :
    tableEnd count ≤ declaredEnd count := by
  simp only [tableEnd, declaredEnd]
  nlinarith

/-- The entry of the dtb at `index` after both placement loops. -/
def placedEntry (page declared : Nat) (dtbs : List Dtb) (index : Nat) (dtb : Dtb) : DtEntry :=
  { entryOf index dtb with
    offset := UInt32.ofNat (declared + extent page (payloads (dtbs.take index)))
    size := UInt32.ofNat (roundUp page dtb.payload.length) }

theorem length_of_perm_mapIdx {make : Nat → Dtb → DtEntry} {dtbs : List Dtb}
    {entries : List DtEntry} (hperm : entries.Perm (dtbs.mapIdx make)) :
    entries.length = dtbs.length := by
  rw [hperm.length_eq, List.length_mapIdx]

theorem roundUp_payload_le (page : Nat) {dtbs : List Dtb} {index : Nat} {dtb : Dtb}
    (h : dtbs[index]? = some dtb) :
    roundUp page dtb.payload.length ≤ extent page (payloads dtbs) :=
  roundUp_le_extent (List.mem_map_of_mem (List.mem_of_getElem? h))

theorem updateEntry_entryOf (hpage : pagesize.toNat = 2 ^ bits) (declared : Nat)
    (dtbs : List Dtb) (hfits : declared + extent pagesize.toNat (payloads dtbs) < 2 ^ 32)
    {index : Nat} {dtb : Dtb} (h : dtbs[index]? = some dtb) :
    updateEntry pagesize
        (placeBlobs pagesize (UInt32.ofNat declared) (dtbs.map (blobOf 0)))
        (entryOf index dtb) =
      placedEntry pagesize.toNat declared dtbs index dtb := by
  have hblob : (placeBlobs pagesize (UInt32.ofNat declared)
      (dtbs.map (blobOf 0)))[(entryOf index dtb).blob]? =
        some (blobOf (UInt32.ofNat (declared +
          extent pagesize.toNat (payloads (dtbs.take index)))) dtb) := by
    rw [entryOf, placeBlobs_getElem? hpage declared dtbs hfits, h, Option.map_some]
  have hround := roundUp_payload_le pagesize.toNat h
  rw [updateEntry, hblob]
  dsimp only [blobOf]
  rw [maskUp_ofNat hpage (by omega)]
  rfl

theorem map_updateEntry_perm (hpage : pagesize.toNat = 2 ^ bits) (declared : Nat)
    (dtbs : List Dtb) (hfits : declared + extent pagesize.toNat (payloads dtbs) < 2 ^ 32)
    {sorted : List DtEntry} (hsorted : sorted.Perm (dtbs.mapIdx entryOf)) :
    (sorted.map (updateEntry pagesize
      (placeBlobs pagesize (UInt32.ofNat declared) (dtbs.map (blobOf 0))))).Perm
        (dtbs.mapIdx (placedEntry pagesize.toNat declared dtbs)) := by
  have hplaced : (dtbs.mapIdx entryOf).map (updateEntry pagesize
      (placeBlobs pagesize (UInt32.ofNat declared) (dtbs.map (blobOf 0)))) =
        dtbs.mapIdx (placedEntry pagesize.toNat declared dtbs) := by
    apply List.ext_getElem?
    intro index
    rw [List.getElem?_map, List.getElem?_mapIdx, List.getElem?_mapIdx]
    cases hdtb : dtbs[index]? with
    | none => rfl
    | some dtb =>
      simp only [Option.map_some]
      rw [updateEntry_entryOf hpage declared dtbs hfits hdtb]
  rw [← hplaced]
  exact hsorted.map _

/-- The copy cursor never gets past the accounted header.  On pages of up to four
bytes the table ends on a boundary; the end marker, which is accounted for and
not written, makes room for the extra page. -/
theorem blobStart_le {count : Nat} (hcount : 0 < count) :
    blobStart (2 ^ bits) count ≤ roundUp (2 ^ bits) (declaredEnd count) := by
  by_cases hbits : 3 ≤ bits
  · rw [blobStart_eq_roundUp hbits]
    exact roundUp_mono (tableEnd_le_declaredEnd hcount)
  · have hpage : 2 ^ bits ≤ 4 := Nat.pow_le_pow_right Nat.two_pos (by omega : bits ≤ 2)
    have hmarker : tableEnd count + 4 ≤ declaredEnd count := by
      simp only [tableEnd, declaredEnd]
      nlinarith
    calc blobStart (2 ^ bits) count ≤ tableEnd count + 4 :=
          Nat.add_le_add_left ((Nat.sub_le _ _).trans hpage) _
      _ ≤ declaredEnd count := hmarker
      _ ≤ roundUp (2 ^ bits) (declaredEnd count) := le_roundUp (Nat.two_pow_pos bits) _

theorem loadDtbhBlock_laidOut {fdt : Libfdt}
    {qsort : (DtEntry → DtEntry → Int) → List DtEntry → List DtEntry}
    (hqsort : ∀ cmp entries, (qsort cmp entries).Perm entries)
    {listing : List DirEntry} {dtbs : List Dtb}
    (haccepted : acceptedDtbs fdt listing = .ok dtbs) (hne : dtbs ≠ [])
    (hpage : pagesize.toNat = 2 ^ bits)
    (hfits : roundUp pagesize.toNat (declaredEnd dtbs.length) +
      extent pagesize.toNat (payloads dtbs) < 2 ^ 32) :
    ∃ entries : List DtEntry,
      entries.Perm (dtbs.mapIdx (placedEntry pagesize.toNat
        (roundUp pagesize.toNat (declaredEnd dtbs.length)) dtbs)) ∧
      ∃ blobs, loadDtbhBlock fdt qsort (some listing) pagesize =
        .ok (some
          { entries := entries, blobs := blobs
            image := laidOut pagesize.toNat (blobStart pagesize.toNat dtbs.length)
              (roundUp pagesize.toNat (declaredEnd dtbs.length))
              (UInt32.ofNat dtbs.length) entries dtbs }) := by
  have hpos := toNat_page_pos hpage
  have hcount : 0 < dtbs.length := List.length_pos_iff.mpr hne
  have htable := tableEnd_le_declaredEnd hcount
  have hdeclared := le_roundUp hpos (declaredEnd dtbs.length)
  have hlength : tableEnd dtbs.length = 12 + 32 * dtbs.length := rfl
  have hnonzero : UInt32.ofNat dtbs.length ≠ 0 := by
    rw [ne_eq, ← UInt32.toNat_inj,
      UInt32.toNat_ofNat_of_lt' (by simp only [UInt32.size]; omega)]
    exact hcount.ne'
  have hhdrSz : maskUp pagesize ((gathered pagesize dtbs).hdrSz + 4) =
      UInt32.ofNat (roundUp pagesize.toNat (declaredEnd dtbs.length)) := by
    have hsum : UInt32.ofNat (12 + 16 * dtbs.length * (dtbs.length + 1)) + 4 =
        UInt32.ofNat (declaredEnd dtbs.length) := by
      rw [declaredEnd, show 16 + 16 * dtbs.length * (dtbs.length + 1) =
        12 + 16 * dtbs.length * (dtbs.length + 1) + 4 by omega, UInt32.ofNat_add _ 4]
      rfl
    rw [gathered_hdrSz, hsum, maskUp_ofNat hpage (by omega)]
  have hentries := map_updateEntry_perm hpage
    (roundUp pagesize.toNat (declaredEnd dtbs.length)) dtbs hfits
    (hqsort dtEntryCmp (dtbs.mapIdx entryOf))
  refine ⟨_, hentries, placeBlobs pagesize (UInt32.ofNat
    (roundUp pagesize.toNat (declaredEnd dtbs.length))) (dtbs.map (blobOf 0)), ?_⟩
  have hentriesLength := length_of_perm_mapIdx hentries
  have hgather := gather_eq_foldl haccepted pagesize Gathered.start
  rw [← gathered] at hgather
  simp only [loadDtbhBlock, hgather, ok_bind, hhdrSz,
    gathered_blobs, gathered_entries, gathered_entryCount,
    gathered_blobSz hpage dtbs (by omega)]
  rw [assemble_eq hpage _ _ _ _ dtbs
    (by rw [hentriesLength, hpage]; exact blobStart_le hcount) hfits, ok_bind,
    if_neg hnonzero, hentriesLength]
  rfl

theorem loadDtbhBlock_eq {fdt : Libfdt}
    {qsort : (DtEntry → DtEntry → Int) → List DtEntry → List DtEntry}
    (hqsort : ∀ cmp entries, (qsort cmp entries).Perm entries)
    {listing : List DirEntry} {dtbs : List Dtb}
    (haccepted : acceptedDtbs fdt listing = .ok dtbs) (hne : dtbs ≠ [])
    (hbits : 3 ≤ bits) (hpage : pagesize.toNat = 2 ^ bits)
    (hfits : roundUp pagesize.toNat (declaredEnd dtbs.length) +
      extent pagesize.toNat (payloads dtbs) < 2 ^ 32) :
    ∃ entries : List DtEntry,
      entries.Perm (dtbs.mapIdx (placedEntry pagesize.toNat
        (roundUp pagesize.toNat (declaredEnd dtbs.length)) dtbs)) ∧
      ∃ blobs, loadDtbhBlock fdt qsort (some listing) pagesize =
        .ok (some
          { entries := entries, blobs := blobs
            image := blockImage pagesize.toNat
              (roundUp pagesize.toNat (declaredEnd dtbs.length))
              (UInt32.ofNat dtbs.length) entries dtbs }) := by
  obtain ⟨entries, hperm, blobs, hblock⟩ :=
    loadDtbhBlock_laidOut hqsort haccepted hne hpage hfits
  have hlength := length_of_perm_mapIdx hperm
  rw [hpage, blobStart_eq_roundUp hbits, ← hpage, ← hlength, laidOut_roundUp, hlength] at hblock
  exact ⟨entries, hperm, blobs, hblock⟩

end Block

end Exynos9810.Dtbhtool
