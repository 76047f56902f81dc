import Exynos9810.Dtbhtool.Host
import Exynos9810.Library.Paging

/-!
# `dtbimg.c`: building the DTBH device tree block

`load_dtbh_block` reads every dtb of a directory, records one table entry for
each, and assembles header, table and blobs in one zeroed buffer.  libfdt and
`qsort` are not part of the repository and stay parameters.
-/
namespace Exynos9810.Dtbhtool

open ByteString Paging

def dtbhMagic : Bytes := ascii "DTBH"
def dtbhVersion : UInt32 := 2
def dtbhPlatform : Bytes := ascii "android"
def dtbhSubtype : Bytes := ascii "samsung"
def dtbhPlatformCode : UInt32 := 0x000050a6
def dtbhSubtypeCode : UInt32 := 0x217584da
def dtHeaderPhysSize : UInt32 := 12
def dtEntryPhysSize : UInt32 := 32

/-- `fdt_check_header`, and `fdt_getprop` at the root node: a pointer into the
dtb (none for `NULL`) and the value stored through `lenp`. -/
structure Libfdt where
  checkHeader : Bytes → Int
  getprop : Bytes → CString → Option Nat × Int

/-- A name in the directory and what opening the file yields. -/
structure DirEntry where
  dName : CString
  contents : Option Bytes
  deriving DecidableEq

/-- A dtb that passed the filter, with the properties its entry takes over. -/
structure Dtb where
  payload : Bytes
  chip : UInt32
  hwRev : UInt32
  hwRevEnd : UInt32
  deriving DecidableEq

structure DtBlob where
  size : UInt32
  offset : UInt32
  payload : Bytes
  deriving DecidableEq

/-- The eight words of an entry that go to the file. -/
structure TableEntry where
  chip : UInt32
  platform : UInt32
  subtype : UInt32
  hwRev : UInt32
  hwRevEnd : UInt32
  offset : UInt32
  size : UInt32
  space : UInt32
  deriving DecidableEq

/-- An entry in memory.  The pointer to its blob is a position in `blob_list`. -/
structure DtEntry extends TableEntry where
  blob : Nat
  deriving DecidableEq

/-- The unsigned difference is returned as an `int`. -/
def dtEntryCmp (a b : DtEntry) : Int :=
  if a.chip ≠ b.chip then (a.chip - b.chip).toInt32.toInt
  else (a.hwRev - b.hwRev).toInt32.toInt

/-- The memory from a property on, which the program reaches through the pointer. -/
def propMemory (dtb : Bytes) (prop : Option Nat × Int) : Except Stop Bytes :=
  match prop.1 with
  | none => .error .undefined
  | some offset => .ok (dtb.drop offset)

/-- `ntohl(prop[0])`. -/
def propWord : Bytes → Except Stop UInt32
  | b0 :: b1 :: b2 :: b3 :: _ => .ok (ofLe32 b3 b2 b1 b0)
  | _ => .error .undefined

/-- Compare a string property; on a mismatch the warning prints it with `%s`,
which needs a terminator. -/
def propMatches (memory text : Bytes) : Except Stop Bool := do
  if ← strcmpEq memory text then .ok true
  else if 0 ∈ memory then .ok false
  else .error .undefined

/-- The filter of the directory loop and the reads for the entry: `none` is each
`continue`.  A missing property has a negative length, which the unsigned remainder
turns into a residue.  `memory` is how the bytes of a property are reached. -/
def filterDtb (fdt : Libfdt) (dtb : Bytes) (memory : Option Nat × Int → Except Stop Bytes) :
    Except Stop (Option Dtb) := do
  let chip := fdt.getprop dtb "model_info-chip".toList
  if chip.2 % 4 ≠ 0 then return none
  let platform := fdt.getprop dtb "model_info-platform".toList
  if !(← propMatches (← memory platform) dtbhPlatform) then return none
  let subtype := fdt.getprop dtb "model_info-subtype".toList
  if !(← propMatches (← memory subtype) dtbhSubtype) then return none
  let hwRev := fdt.getprop dtb "model_info-hw_rev".toList
  if hwRev.2 % 4 ≠ 0 then return none
  let hwRevEnd := fdt.getprop dtb "model_info-hw_rev_end".toList
  if hwRevEnd.2 % 4 ≠ 0 then return none
  return some
    { payload := dtb
      chip := ← propWord (← memory chip)
      hwRev := ← propWord (← memory hwRev)
      hwRevEnd := ← propWord (← memory hwRevEnd) }

/-- One turn of the directory loop up to the allocation of the blob. -/
def examine (fdt : Libfdt) (de : DirEntry) : Except Stop (Option Dtb) := do
  if !(".dtb".toList).isSuffixOf de.dName then return none
  match loadFile de.contents with
  | none => .error (.exit 1)
  | some dtb =>
    if fdt.checkHeader dtb ≠ 0 then return none
    filterDtb fdt dtb (propMemory dtb)

/-- The accumulators of the directory loop. -/
structure Gathered where
  blobs : List DtBlob
  entries : List DtEntry
  entryCount : UInt32
  hdrSz : UInt32
  blobSz : UInt32

def Gathered.start : Gathered :=
  { blobs := [], entries := [], entryCount := 0, hdrSz := dtHeaderPhysSize, blobSz := 0 }

/-- The rest of the loop body for an accepted dtb.  `hdr_sz` grows by the whole
table so far, not by one entry. -/
def Gathered.add (pagesize : UInt32) (g : Gathered) (dtb : Dtb) : Gathered :=
  let size := UInt32.ofNat dtb.payload.length
  let entryCount := g.entryCount + 1
  { blobs := g.blobs ++ [{ size := size, offset := 0, payload := dtb.payload }]
    entries := g.entries ++
      [{ chip := dtb.chip, platform := dtbhPlatformCode, subtype := dtbhSubtypeCode
         hwRev := dtb.hwRev, hwRevEnd := dtb.hwRevEnd, offset := 0, size := 0
         space := 0x20, blob := g.blobs.length }]
    entryCount := entryCount
    hdrSz := g.hdrSz + entryCount * dtEntryPhysSize
    blobSz := g.blobSz + maskUp pagesize size }

def gather (fdt : Libfdt) (pagesize : UInt32) :
    Gathered → List DirEntry → Except Stop Gathered
  | g, [] => .ok g
  | g, de :: rest => do
    match ← examine fdt de with
    | none => gather fdt pagesize g rest
    | some dtb => gather fdt pagesize (g.add pagesize dtb) rest

/-- Blob offsets count up from the size of the header. -/
def placeBlobs (pagesize : UInt32) : UInt32 → List DtBlob → List DtBlob
  | _, [] => []
  | offset, blob :: rest =>
    { blob with offset := offset } ::
      placeBlobs pagesize (offset + maskUp pagesize blob.size) rest

def updateEntry (pagesize : UInt32) (blobs : List DtBlob) (entry : DtEntry) : DtEntry :=
  match blobs[entry.blob]? with
  | some blob =>
    { entry with offset := blob.offset, size := maskUp pagesize blob.size }
  | none => entry

/-- The first eight words of the structure, as `memcpy` takes them. -/
def entryBytes (entry : TableEntry) : Bytes :=
  le32 entry.chip ++ le32 entry.platform ++ le32 entry.subtype ++ le32 entry.hwRev ++
    le32 entry.hwRevEnd ++ le32 entry.offset ++ le32 entry.size ++ le32 entry.space

/-- Copy items one after another, each at the cursor, which then moves by the
item's stride. -/
def copyAll : Bytes → UInt32 → List (Bytes × UInt32) → Except Stop (Bytes × UInt32)
  | buffer, offset, [] => .ok (buffer, offset)
  | buffer, offset, (source, stride) :: rest => do
    let buffer ← memcpy buffer offset source
    copyAll buffer (offset + stride) rest

def writeHeader (dtbh : Bytes) (entryCount : UInt32) : Except Stop Bytes := do
  let dtbh ← memcpy dtbh 0 dtbhMagic
  let dtbh ← memcpy dtbh 4 (le32 dtbhVersion)
  memcpy dtbh 8 (le32 entryCount)

def assemble (pagesize hdrSz blobSz entryCount : UInt32) (entries : List DtEntry)
    (blobs : List DtBlob) : Except Stop Bytes := do
  let dtbh ← writeHeader (zeros (hdrSz + blobSz).toNat) entryCount
  let (dtbh, offset) ← copyAll dtbh dtHeaderPhysSize
    (entries.map fun entry => (entryBytes entry.toTableEntry, dtEntryPhysSize))
  let offset := offset + (pagesize - (offset &&& (pagesize - 1)))
  let (dtbh, _) ← copyAll dtbh offset
    (blobs.map fun blob => (blob.payload, maskUp pagesize blob.size))
  return dtbh

/-- The block that `load_dtbh_block` returns, with its arrays of entries and
blobs as they stand at the end. -/
structure DtbhBlock where
  entries : List DtEntry
  blobs : List DtBlob
  image : Bytes

def loadDtbhBlock (fdt : Libfdt)
    (qsort : (DtEntry → DtEntry → Int) → List DtEntry → List DtEntry)
    (dir : Option (List DirEntry)) (pagesize : UInt32) :
    Except Stop (Option DtbhBlock) := do
  match dir with
  | none => .error (.exit 1)
  | some listing =>
    let g ← gather fdt pagesize Gathered.start listing
    if g.entryCount = 0 then return none
    let hdrSz := maskUp pagesize (g.hdrSz + 4)
    let sorted := qsort dtEntryCmp g.entries
    let blobs := placeBlobs pagesize hdrSz g.blobs
    let entries := sorted.map (updateEntry pagesize blobs)
    let image ← assemble pagesize hdrSz g.blobSz g.entryCount entries blobs
    return some { entries := entries, blobs := blobs, image := image }

theorem length_memcpy {buffer source result : Bytes} {offset : UInt32}
    (h : memcpy buffer offset source = .ok result) : result.length = buffer.length := by
  unfold memcpy at h
  split at h
  · cases h
    exact length_overwrite ‹_›
  · cases h

theorem length_copyAll {items : List (Bytes × UInt32)} {buffer : Bytes} {offset : UInt32}
    {result : Bytes × UInt32} (h : copyAll buffer offset items = .ok result) :
    result.1.length = buffer.length := by
  induction items generalizing buffer offset with
  | nil =>
    cases h
    rfl
  | cons item items ih =>
    obtain ⟨copied, hcopy, hrest⟩ := bind_eq_ok h
    rw [ih hrest, length_memcpy hcopy]

theorem length_assemble {pagesize hdrSz blobSz entryCount : UInt32} {entries : List DtEntry}
    {blobs : List DtBlob} {image : Bytes}
    (h : assemble pagesize hdrSz blobSz entryCount entries blobs = .ok image) :
    image.length = (hdrSz + blobSz).toNat := by
  obtain ⟨header, hheader, h⟩ := bind_eq_ok h
  obtain ⟨magic, hmagic, hheader⟩ := bind_eq_ok hheader
  obtain ⟨version, hversion, hcount⟩ := bind_eq_ok hheader
  obtain ⟨table, htable, h⟩ := bind_eq_ok h
  obtain ⟨block, hblock, h⟩ := bind_eq_ok h
  cases h
  rw [length_copyAll hblock, length_copyAll htable, length_memcpy hcount,
    length_memcpy hversion, length_memcpy hmagic, length_zeros]

theorem length_image_lt {fdt : Libfdt}
    {qsort : (DtEntry → DtEntry → Int) → List DtEntry → List DtEntry}
    {dir : Option (List DirEntry)} {pagesize : UInt32} {block : DtbhBlock}
    (h : loadDtbhBlock fdt qsort dir pagesize = .ok (some block)) :
    block.image.length < 2 ^ 32 := by
  cases dir with
  | none => cases h
  | some listing =>
    obtain ⟨g, hg, h⟩ := bind_eq_ok h
    dsimp only at h
    split at h
    · cases h
    · obtain ⟨image, himage, h⟩ := bind_eq_ok h
      cases h
      rw [length_assemble himage]
      exact UInt32.toNat_lt _

end Exynos9810.Dtbhtool
