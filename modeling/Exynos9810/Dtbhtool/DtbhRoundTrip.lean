import Exynos9810.Dtbhtool.DtbimgExtents
import Exynos9810.Dtbhtool.MkbootimgLayout
import Exynos9810.Dtbhtool.UnpackdtbhimgFiles

/-!
# From the dtbs of a directory through a DTBH image to files

`mkdtbimg` writes the image and `unpackdtbhimg` takes it apart.  The unpacker
follows the offsets of the table, so that the dtbs come back exactly when the
entries lead to them.
-/
namespace Exynos9810.Dtbhtool.Unpackdtbhimg

open ByteString Paging

def revision (dtb : Dtb) : UInt32 × UInt32 × UInt32 :=
  (dtb.chip, dtb.hwRev, dtb.hwRevEnd)

def dtbFile (outputDir : CString) (dtb : Dtb) : CString :=
  destFile outputDir (entryOf 0 dtb).toTableEntry

/-- The program has ended normally, and its output files are the packed dtbs,
each filled up to whole pages. -/
structure RoundTrip (outputDir : CString) (page : Nat) (dtbs : List Dtb)
    (result : Except Stop Int × Stdio) : Prop where
  returns : result.1 = .ok 0
  written : ∀ dtb ∈ dtbs,
    result.2.files (dtbFile outputDir dtb) = some (padded page dtb.payload)
  noOthers : ∀ name, (result.2.files name).isSome → ∃ dtb ∈ dtbs, name = dtbFile outputDir dtb

section Entries

variable {page declared : Nat} {dtbs : List Dtb} {entries : List DtEntry} {image : Bytes}

/-- An entry of the right size leads to its dtb exactly when its interval holds
the dtb and the fill. -/
theorem locates_iff {entry : TableEntry} {dtb : Dtb} (hpos : 0 < page)
    (hdescribes : Describes page entry dtb) :
    Locates image entry dtb ↔
      slice image entry.offset.toNat entry.size.toNat = padded page dtb.payload := by
  have hle : dtb.payload.length ≤ entry.size.toNat := by
    rw [hdescribes.size]
    exact le_roundUp hpos _
  have hpad : (padded page dtb.payload).length = entry.size.toNat := by
    rw [length_padded hpos, hdescribes.size]
  constructor
  · intro hlocates
    apply List.ext_getElem?
    intro index
    by_cases hindex : index < entry.size.toNat
    · rw [getElem?_slice _ _ _ _ hindex]
      by_cases hpayload : index < dtb.payload.length
      · rw [padded, List.getElem?_append_left hpayload, ← getElem?_slice _ _ _ _ hpayload,
          hlocates.payload]
      · rw [hlocates.rest index (by omega) hindex, padded,
          List.getElem?_append_right (by omega), zeros, List.getElem?_replicate, if_pos]
        rw [padded, List.length_append, length_zeros] at hpad
        omega
    · rw [List.getElem?_eq_none (by rw [length_slice]; omega),
        List.getElem?_eq_none (by rw [hpad]; omega)]
  · intro hslice
    refine ⟨hdescribes.chip, hdescribes.hwRev, hdescribes.hwRevEnd, hle, ?_, ?_⟩
    · have htake := congrArg (List.take dtb.payload.length) hslice
      rwa [slice, List.take_take, Nat.min_eq_left hle, padded, List.take_left, ← slice] at htake
    · intro index hlow hhigh
      rw [← getElem?_slice _ _ _ _ hhigh, hslice, padded, List.getElem?_append_right hlow, zeros,
        List.getElem?_replicate, if_pos]
      rw [padded, List.length_append, length_zeros] at hpad
      omega

theorem exists_position (hperm : entries.Perm (dtbs.mapIdx (placedEntry page declared dtbs)))
    {index : Nat} {dtb : Dtb} (hdtb : dtbs[index]? = some dtb) :
    ∃ c < dtbs.length, entries[c]? = some (placedEntry page declared dtbs index dtb) := by
  have hmem : placedEntry page declared dtbs index dtb ∈ entries := by
    rw [hperm.mem_iff, List.mem_iff_getElem?]
    exact ⟨index, by rw [List.getElem?_mapIdx, hdtb, Option.map_some]⟩
  obtain ⟨c, hc⟩ := List.mem_iff_getElem?.mp hmem
  obtain ⟨hlt, -⟩ := List.getElem?_eq_some_iff.mp hc
  rw [length_of_perm_mapIdx hperm] at hlt
  exact ⟨c, hlt, hc⟩

theorem distinct_of_nodup
    (hperm : entries.Perm (dtbs.mapIdx (placedEntry page declared dtbs)))
    (hnodup : (dtbs.map revision).Nodup) {c d : Nat} {left right : DtEntry}
    (hc : entries[c]? = some left) (hd : entries[d]? = some right)
    (hsame : identity left.toTableEntry = identity right.toTableEntry) : c = d := by
  obtain ⟨leftDtb, hleftDtb, hleft⟩ := entry_eq_placedEntry hperm hc
  obtain ⟨rightDtb, hrightDtb, hright⟩ := entry_eq_placedEntry hperm hd
  have hrevision : revision leftDtb = revision rightDtb := by
    rw [hleft, hright] at hsame
    simp only [identity, placedEntry, entryOf, Prod.mk.injEq, true_and] at hsame
    simp only [revision, hsame]
  have hleftKey : (dtbs.map revision)[left.blob]? = some (revision leftDtb) := by
    rw [List.getElem?_map, hleftDtb, Option.map_some]
  have hrightKey : (dtbs.map revision)[right.blob]? = some (revision rightDtb) := by
    rw [List.getElem?_map, hrightDtb, Option.map_some]
  obtain ⟨hlt, -⟩ := List.getElem?_eq_some_iff.mp hleftKey
  rw [hrevision, ← hrightKey] at hleftKey
  by_contra hne
  exact blob_ne hperm hc hd hne ((List.getElem?_inj hlt hnodup).mp hleftKey)

end Entries

section Image

/-- The image for `dtbs` with `entries` as its table. -/
def packedImage (page : Nat) (entries : List DtEntry) (dtbs : List Dtb) : Bytes :=
  blockImage page (roundUp page (declaredEnd dtbs.length)) (UInt32.ofNat dtbs.length) entries dtbs

variable {page : Nat} {dtbs : List Dtb} {entries : List DtEntry}

theorem packedImage_eq (page : Nat) (entries : List DtEntry) (dtbs : List Dtb) :
    ∃ rest, packedImage page entries dtbs =
      dtbhMagic ++ (le32 dtbhVersion ++ (le32 (UInt32.ofNat dtbs.length) ++ rest)) := by
  rw [packedImage, blockImage, headerBytes]
  simp only [List.append_assoc]
  exact ⟨_, rfl⟩

theorem version_packedImage : word32 (packedImage page entries dtbs) 4 = dtbhVersion := by
  obtain ⟨rest, himage⟩ := packedImage_eq page entries dtbs
  rw [himage, ← List.append_assoc]
  exact word32_middle dtbhMagic dtbhVersion _

theorem entryCount_packedImage (hcount : dtbs.length < 2 ^ 32) :
    entryCount (packedImage page entries dtbs) = dtbs.length := by
  obtain ⟨rest, himage⟩ := packedImage_eq page entries dtbs
  have hword := word32_middle (dtbhMagic ++ le32 dtbhVersion) (UInt32.ofNat dtbs.length) rest
  rw [List.append_assoc, List.append_assoc] at hword
  rw [entryCount, himage]
  change (word32 _ (dtbhMagic ++ le32 dtbhVersion).length).toNat = _
  rw [hword, UInt32.toNat_ofNat_of_lt' hcount]

theorem length_lt_of_sums (hpos : 0 < page) (hne : dtbs ≠ [])
    (hsums : roundUp page (declaredEnd dtbs.length) + extent page (payloads dtbs) < 2 ^ 32) :
    dtbs.length < 2 ^ 32 := by
  have htable := tableEnd_le_declaredEnd (List.length_pos_iff.mpr hne)
  have hround := le_roundUp hpos (declaredEnd dtbs.length)
  simp only [tableEnd] at htable
  omega

variable (hpos : 0 < page) (hne : dtbs ≠ [])
  (hperm : entries.Perm (dtbs.mapIdx
    (placedEntry page (roundUp page (declaredEnd dtbs.length)) dtbs)))
  (hsums : roundUp page (declaredEnd dtbs.length) + extent page (payloads dtbs) < 2 ^ 32)

include hpos hne hperm hsums

theorem packedImage_extents : SoundExtents page dtbs (packedImage page entries dtbs) := by
  refine sound_extents hpos hperm (fun c entry hc => readEntry_blockImage _ _ _ hc) ?_ rfl hne
    hsums
  refine length_blockImage hpos _ _ _ ?_
  rw [length_of_perm_mapIdx hperm]
  exact roundUp_mono (tableEnd_le_declaredEnd (List.length_pos_iff.mpr hne))

theorem le_length_packedImage : page ≤ (packedImage page entries dtbs).length := by
  have hextents := packedImage_extents hpos hne hperm hsums
  have hcount := List.length_pos_iff.mpr hne
  have hbehind := hextents.behindTable 0 hcount
  have hinside := hextents.inside 0 hcount
  have hoffset : 12 ≤ (readEntry (packedImage page entries dtbs) (tableEnd 0)).offset.toNat :=
    (Nat.le_add_right 12 _).trans hbehind
  have hpage := Nat.le_of_dvd (by omega) (hextents.aligned 0 hcount)
  rw [TableEntry.stop] at hinside
  omega

theorem packedImage_wellFormed (hnodup : (dtbs.map revision).Nodup) :
    WellFormed page (packedImage page entries dtbs) := by
  have hextents := packedImage_extents hpos hne hperm hsums
  have hcount : entryCount (packedImage page entries dtbs) = dtbs.length :=
    entryCount_packedImage (length_lt_of_sums hpos hne hsums)
  have hcount_pos := List.length_pos_iff.mpr hne
  constructor
  · rfl
  · exact version_packedImage
  · have hbehind := hextents.behindTable 0 hcount_pos
    have hinside := hextents.inside 0 hcount_pos
    rw [TableEntry.stop] at hinside
    rw [hcount]
    omega
  · intro c hc
    exact hextents.aligned c (hcount ▸ hc)
  · intro c hc
    exact hextents.inside c (hcount ▸ hc)
  · intro c hc d hd hsame
    rw [hcount, ← length_of_perm_mapIdx hperm] at hc hd
    have hleft := List.getElem?_eq_getElem hc
    have hright := List.getElem?_eq_getElem hd
    rw [packedImage, readEntry_blockImage _ _ _ hleft, readEntry_blockImage _ _ _ hright] at hsame
    exact distinct_of_nodup hperm hnodup hleft hright hsame

/-- Once the table has been unpacked, the dtbs are back exactly if the entries
lead to them. -/
theorem roundTrip_iff_locates {outputDir : CString} {result : Except Stop Int × Stdio}
    (hunpacked : Unpacked outputDir (packedImage page entries dtbs) result)
    (blobs : List DtBlob) :
    RoundTrip outputDir page dtbs result ↔
      EveryEntryLocates dtbs { entries, blobs, image := packedImage page entries dtbs } := by
  have hcount : entryCount (packedImage page entries dtbs) = dtbs.length :=
    entryCount_packedImage (length_lt_of_sums hpos hne hsums)
  have hlength := length_of_perm_mapIdx hperm
  have hread {c : Nat} {entry : DtEntry} (hc : entries[c]? = some entry) :
      readEntry (packedImage page entries dtbs) (tableEnd c) = entry.toTableEntry :=
    readEntry_blockImage _ _ _ hc
  -- Both sides say of every position what the unpacker has read there.
  have hposition {c index : Nat} {dtb : Dtb} (hdtb : dtbs[index]? = some dtb)
      (hc : entries[c]? = some (placedEntry page (roundUp page (declaredEnd dtbs.length)) dtbs
        index dtb)) :
      result.2.files (dtbFile outputDir dtb) = some (padded page dtb.payload) ↔
        Locates (packedImage page entries dtbs)
          (readEntry (packedImage page entries dtbs) (tableEnd c)) dtb := by
    obtain ⟨hlt, -⟩ := List.getElem?_eq_some_iff.mp hc
    have hwritten := hunpacked.written c (by omega)
    rw [hread hc] at hwritten ⊢
    rw [locates_iff hpos ⟨rfl, rfl, rfl, toNat_placedEntry_size hsums hdtb⟩]
    change result.2.files (dtbFile outputDir dtb) = _ at hwritten
    rw [hwritten, Option.some_inj]
  constructor
  · intro hround
    refine ⟨hlength, ?_⟩
    intro c entry hc
    obtain ⟨dtb, hdtb, hplaced⟩ := entry_eq_placedEntry hperm hc
    refine ⟨dtb, hdtb, ?_⟩
    rw [hplaced] at hc
    exact (hposition hdtb hc).mp (hround.written dtb (List.mem_of_getElem? hdtb))
  · rintro ⟨-, hlocates⟩
    refine ⟨hunpacked.returns, ?_, ?_⟩
    · intro dtb hmem
      obtain ⟨index, hdtb⟩ := List.mem_iff_getElem?.mp hmem
      obtain ⟨c, -, hc⟩ := exists_position hperm hdtb
      obtain ⟨own, hown, hlocated⟩ := hlocates c _ hc
      change dtbs[index]? = some own at hown
      rw [hdtb] at hown
      cases hown
      exact (hposition hdtb hc).mpr hlocated
    · intro name hname
      obtain ⟨c, hc, rfl⟩ := hunpacked.noOthers name hname
      rw [hcount, ← hlength] at hc
      have hentry := List.getElem?_eq_getElem hc
      obtain ⟨dtb, hdtb, hplaced⟩ := entry_eq_placedEntry hperm hentry
      refine ⟨dtb, List.mem_of_getElem? hdtb, ?_⟩
      rw [hread hentry, hplaced]
      rfl

end Image

section Tools

variable {lib : Libraries} {host : HostFiles} {isDir : CString → Bool} {argv : List CString}
  {job : Mkdtbimg.Job} {listing : List DirEntry}

theorem loadDtBuffer_ok {block : DtbhBlock} {pagesize : UInt32}
    (h : loadDtbhBlock lib.fdt lib.qsort (some listing) pagesize = .ok (some block)) :
    ∃ dt, loadDtBuffer lib (some listing) pagesize = .ok dt ∧ dt.data = block.image := by
  unfold loadDtBuffer
  split
  next heq =>
    rw [h] at heq
    cases heq
    exact ⟨_, rfl, rfl⟩
  next heq => rw [h] at heq; cases heq
  next heq => rw [h] at heq; cases heq

theorem mkdtbimg_ok (haccept : Mkdtbimg.acceptArgs isDir argv = .ok job)
    (hlisting : host.listing job.dtDir = some listing) (hcreates : host.creates job.dtimg = true)
    {block : DtbhBlock}
    (h : loadDtbhBlock lib.fdt lib.qsort (some listing) job.pagesize = .ok (some block)) :
    Mkdtbimg.mkdtbimg lib host isDir argv = .ok block.image := by
  obtain ⟨dt, hdt, hdata⟩ := loadDtBuffer_ok h
  rw [Mkdtbimg.mkdtbimg, haccept, ok_bind, hlisting, hdt, ok_bind, if_pos hcreates, write_eq,
    List.nil_append, hdata]

/-- `unpackdtbhimg` on an image with a first page: the whole table, or a read
behind that page. -/
theorem unpack_of_wellFormed {image : Bytes} {page : Nat} {creates : CString → Bool}
    (memory : Memory) {outputDir : CString} {pageSize : Int32} (hpage : pageSize.toInt = page)
    (hpos : 0 < page) (hlength : page ≤ image.length) (hformed : WellFormed page image)
    (hcreates : ∀ entry, creates (destFile outputDir entry) = true) :
    (tableEnd (entryCount image) ≤ page ∧ Unpacked outputDir image
        ((unpackFile creates memory outputDir pageSize image).run Stdio.start)) ∨
      (page < tableEnd (entryCount image) ∧
        ((unpackFile creates memory outputDir pageSize image).run Stdio.start).1 =
          .error .undefined) := by
  rw [unpackFile_run hpage hpos hlength rfl]
  rcases le_or_gt (tableEnd (entryCount image)) page with htable | htable
  · exact Or.inl ⟨htable, run_unpacked hformed hcreates htable hlength fun _ => rfl⟩
  · exact Or.inr ⟨htable, run_undefined hformed hcreates htable hlength _⟩

end Tools

/-- **Round trip.**  The dtbs of a directory that `mkdtbimg` packs, no two with the
same chip and revisions, come back from `unpackdtbhimg` with the same page size, and
nothing else does, if and only if the header as the directory loop accounts for it,
`16 n (n + 1)` bytes and 16 more for `n` dtbs, fits in one page. -/
theorem dtbs_round_trip_iff (lib : Libraries) (hmagic : lib.fdt.ChecksMagic)
    (hqsort : ∀ cmp entries, (lib.qsort cmp entries).Perm entries) (host : HostFiles)
    (isDir : CString → Bool) (argv : List CString) (job : Mkdtbimg.Job)
    (haccept : Mkdtbimg.acceptArgs isDir argv = .ok job) (hpagesize : job.pagesize ∈ pagesizes)
    (listing : List DirEntry) (hlisting : host.listing job.dtDir = some listing)
    (hdtimg : host.creates job.dtimg = true) (dtbs : List Dtb)
    (haccepted : acceptedDtbs lib.fdt listing = .ok dtbs) (hne : dtbs ≠ [])
    (hnodup : (dtbs.map revision).Nodup)
    (hsums : roundUp job.pagesize.toNat (declaredEnd dtbs.length) +
      extent job.pagesize.toNat (payloads dtbs) < 2 ^ 32) :
    ∃ image, Mkdtbimg.mkdtbimg lib host isDir argv = .ok image ∧
      ∀ (contents : CString → Option Bytes) (creates : CString → Bool) (memory : Memory)
        (unpackArgv : List CString) (options : Options) (dtbhimg outputDir : CString),
        parseArgs {} unpackArgv = .ok options → options.dtbhimg = some dtbhimg →
        options.outputDir = some outputDir → contents dtbhimg = some image →
        (∀ entry, creates (destFile outputDir entry) = true) →
        options.pageSize.toInt = job.pagesize.toNat →
        (RoundTrip outputDir job.pagesize.toNat dtbs
            (unpackdtbhimg contents creates memory unpackArgv) ↔
          16 + 16 * dtbs.length * (dtbs.length + 1) ≤ job.pagesize.toNat) := by
  obtain ⟨bits, hbits, hpage⟩ := exists_two_pow_of_mem_pagesizes hpagesize
  have hpos := toNat_page_pos hpage
  have hcount := List.length_pos_iff.mpr hne
  obtain ⟨entries, hperm, blobs, hblock⟩ :=
    loadDtbhBlock_eq hqsort haccepted hne (by omega) hpage hsums
  refine ⟨packedImage job.pagesize.toNat entries dtbs,
    mkdtbimg_ok haccept hlisting hdtimg hblock, ?_⟩
  intro contents creates memory unpackArgv options dtbhimg outputDir hargs hdtbhimg houtputDir
    himage hcreates hpageSize
  have hformed := packedImage_wellFormed hpos hne hperm hsums hnodup
  have hlength := le_length_packedImage hpos hne hperm hsums
  rw [unpackdtbhimg_run creates memory hargs hdtbhimg houtputDir himage]
  rcases unpack_of_wellFormed memory hpageSize hpos hlength hformed hcreates with
    ⟨-, hunpacked⟩ | ⟨htable, hundefined⟩
  · rw [roundTrip_iff_locates hpos hne hperm hsums hunpacked blobs]
    constructor
    · intro hlocates
      by_contra hmany
      exact not_every_entry_locates hmagic hqsort haccepted hne hpagesize hsums hmany
        ⟨_, hblock, hlocates⟩
    · intro hone
      obtain ⟨block, hload, hlocates⟩ :=
        every_entry_locates hqsort haccepted hne hpagesize hsums hone
      rw [hblock] at hload
      cases hload
      exact hlocates
  · constructor
    · intro hround
      have hreturns := hround.returns
      rw [hundefined] at hreturns
      cases hreturns
    · intro hone
      have hdeclared := tableEnd_le_declaredEnd hcount
      rw [entryCount_packedImage (length_lt_of_sums hpos hne hsums)] at htable
      simp only [declaredEnd] at hdeclared
      omega

theorem dtbs_round_trip_one :
    ∃ image, Mkdtbimg.mkdtbimg sampleLibraries
        { contents := fun _ => none, listing := fun _ => some (List.replicate 1 sampleEntry)
          creates := fun _ => true } (fun _ => true)
        ["-o".toList, "dt.img".toList, "-s".toList, "0".toList, "--dt_dir".toList,
          "dtbs".toList] = .ok image ∧
      RoundTrip "out".toList 2048 (List.replicate 1 ⟨sampleDtb, 9810, 0, 255⟩)
        (unpackdtbhimg (fun _ => some image) (fun _ => true) sampleMemory sampleArgv) := by
  have hsums := @sums_samples 1 (by decide)
  obtain ⟨image, hmake, hround⟩ := dtbs_round_trip_iff sampleLibraries sampleFdt_checksMagic
    (fun _ _ => List.mergeSort_perm _ _)
    { contents := fun _ => none, listing := fun _ => some (List.replicate 1 sampleEntry)
      creates := fun _ => true } (fun _ => true)
    ["-o".toList, "dt.img".toList, "-s".toList, "0".toList, "--dt_dir".toList, "dtbs".toList]
    ⟨"dt.img".toList, "dtbs".toList, 2048⟩ rfl (by decide) _ rfl rfl _
    (acceptedDtbs_replicate 1) (by simp) (by simp) (by dsimp only; exact hsums)
  exact ⟨image, hmake, (hround (fun _ => some image) (fun _ => true) sampleMemory sampleArgv
    sampleOptions "dt.img".toList "out".toList parseArgs_sampleArgv rfl rfl rfl (fun _ => rfl)
    rfl).mpr (by decide)⟩

end Exynos9810.Dtbhtool.Unpackdtbhimg
