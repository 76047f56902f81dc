import Exynos9810.Dtbhtool.UnpackbootimgBounds

/-!
# Reading a documented image

`unpackbootimg` on images as `bootimg.h` lays them out, with anything in front of
them that is not too long and has no magic of its own.
-/
namespace Exynos9810.Dtbhtool

open ByteString Paging

structure PagedSection (page : Nat) where
  data : Bytes
  fill : Bytes
  whole : fill.length = padding page data.length

def PagedSection.bytes (paged : PagedSection page) : Bytes :=
  paged.data ++ paged.fill

structure BootImage where
  hdr : BootImgHdr
  header : PagedSection hdr.pageSize.toNat
  kernel : PagedSection hdr.pageSize.toNat
  ramdisk : PagedSection hdr.pageSize.toNat
  second : PagedSection hdr.pageSize.toNat
  dt : PagedSection hdr.pageSize.toNat
  signature : Bytes
  magic : hdr.magic.val = bootMagic
  headerData : header.data = hdr.bytes
  kernelSize : hdr.kernelSize.toNat = kernel.data.length
  ramdiskSize : hdr.ramdiskSize.toNat = ramdisk.data.length
  secondSize : hdr.secondSize.toNat = second.data.length
  dtSize : hdr.dtSize.toNat = dt.data.length
  signatureSize : signature.length = 256

namespace BootImage

variable (image : BootImage)

def bytes : Bytes :=
  image.header.bytes ++ (image.kernel.bytes ++ (image.ramdisk.bytes ++
    (image.second.bytes ++ (image.dt.bytes ++ image.signature))))

/-- The kernel and the ramdisk are in their files, and the other sections are what was
handed to the closed stream. -/
structure Recovered (directory filename : CString) (final : Stdio) : Prop where
  kernel : final.files (outputName directory filename "-zImage") = some image.kernel.data
  ramdisk : ∃ suffix, ramdiskSuffix image.ramdisk.data = .ok suffix ∧
    final.files (outputName directory filename suffix) = some image.ramdisk.data
  rest : final.lost = [image.second.data, image.dt.data, image.signature]

/-- The run has ended without meaning at the second stage: the device tree and the signature
are not read. -/
structure StopsAtSecond (directory filename : CString) (result : Except Stop Int × Stdio) :
    Prop where
  stop : result.1 = .error .undefined
  kernel : result.2.files (outputName directory filename "-zImage") = some image.kernel.data
  ramdisk : ∃ suffix, ramdiskSuffix image.ramdisk.data = .ok suffix ∧
    result.2.files (outputName directory filename suffix) = some image.ramdisk.data
  second : result.2.files (outputName directory filename "-second") = some []
  dt : result.2.files (outputName directory filename "-dt") = none
  signature : result.2.files (outputName directory filename "-signature") = none

end BootImage

section Reads

variable {u : Unpacking} {io : Stdio} {page bits : Nat} {paged : PagedSection page}
  {itemsize : UInt32} {front back : Bytes}

theorem read_run (number : Nat) (hfile : u.file = front ++ (paged.bytes ++ back))
    (hsize : itemsize.toNat = paged.data.length) (hposition : io.position = front.length) :
    (fread u.file (u.memory number itemsize.toNat).val).run io =
      (.ok paged.data, { io with position := front.length + paged.data.length }) := by
  rw [PagedSection.bytes, List.append_assoc] at hfile
  rw [← hposition]
  exact fread_run hfile hposition ((CharArray.length_val _).trans hsize)

theorem skip_fill_run (hpagesize : u.pagesize.toNat = page) (hpage : page = 2 ^ bits)
    (hint : page < 2 ^ 31) (hfile : u.file = front ++ (paged.bytes ++ back))
    (hsize : itemsize.toNat = paged.data.length)
    (hposition : io.position = front.length + paged.data.length) :
    (u.skip itemsize).run io =
      (.ok (), { io with position := (front ++ paged.bytes).length }) := by
  subst hpagesize
  rw [PagedSection.bytes, List.append_assoc] at hfile
  exact skip_run hpage hint front paged.data paged.fill back hfile paged.whole hsize hposition

end Reads

/-- What the program asks of an image beyond the layout: a page size that is positive as
an `int`, a terminated command line, and the bytes it looks for in the ramdisk. -/
structure BootImage.Plain (image : BootImage) : Prop where
  pagesize : image.hdr.pageSize.toNat < 2 ^ 31
  cmdline : 0 ∈ image.hdr.cmdline.val
  ramdisk : image.ramdisk.data ≠ [] ∧ image.ramdisk.data ≠ [0x02]

section Image

variable {u : Unpacking} {io : Stdio} {bits : Nat} {image : BootImage} {front : Bytes}
  {directory : CString}

theorem run_image_to_rest (hfile : u.file = front ++ image.bytes)
    (hheader : u.header = image.hdr) (hpagesize : u.pagesize = image.hdr.pageSize)
    (hpage : image.hdr.pageSize.toNat = 2 ^ bits) (hplain : image.Plain)
    (hfit : NamesFit directory u.filename) (hdirectory : u.directory = some directory)
    (hposition : io.position = front.length + 608) (hfiles : io.files = fun _ => none) :
    ∃ suffix r before, ramdiskSuffix image.ramdisk.data = .ok suffix ∧
      u.run.run io = (u.rest r).run before ∧ before.streams[r]? = some none ∧
      before.position =
        (front ++ image.header.bytes ++ image.kernel.bytes ++ image.ramdisk.bytes).length ∧
      before.lenient = io.lenient ∧ before.lost = io.lost ∧
      before.files (outputName directory u.filename "-zImage") = some image.kernel.data ∧
      before.files (outputName directory u.filename suffix) = some image.ramdisk.data ∧
      ∀ other ∈ ["-dt", "-signature"],
        before.files (outputName directory u.filename other) = none := by
  have hsize : u.pagesize.toNat = image.hdr.pageSize.toNat := by rw [hpagesize]
  have hint := hplain.pagesize
  obtain ⟨suffix, hsuffix⟩ := exists_ramdiskSuffix_iff.mpr hplain.ramdisk
  have hfile₁ : u.file = front ++ image.header.bytes ++ (image.kernel.bytes ++
      (image.ramdisk.bytes ++ (image.second.bytes ++ (image.dt.bytes ++ image.signature)))) := by
    simp only [hfile, BootImage.bytes, List.append_assoc]
  have hfile₂ : u.file = front ++ image.header.bytes ++ image.kernel.bytes ++
      (image.ramdisk.bytes ++ (image.second.bytes ++ (image.dt.bytes ++ image.signature))) := by
    simp only [hfile₁, List.append_assoc]
  have hheaderSize : BootImgHdr.sizeof.toNat = image.header.data.length := by
    rw [image.headerData, BootImgHdr.length_bytes]
    rfl
  have hkernelSize : u.header.kernelSize.toNat = image.kernel.data.length := by
    rw [hheader, image.kernelSize]
  have hramdiskSize : u.header.ramdiskSize.toNat = image.ramdisk.data.length := by
    rw [hheader, image.ramdiskSize]
  have hcmdline : cString u.header.cmdline.val = .ok (image.hdr.cmdline.val.takeWhile (· ≠ 0)) := by
    rw [hheader, cString, if_pos hplain.cmdline]
  obtain ⟨r, before, hrun, hclosed, hbefore, hmode, hlost, hzImage, hramdisk, hother⟩ :=
    run_to_rest hfit hdirectory hcmdline
      (skip_fill_run hsize hpage hint hfile hheaderSize (by rw [hposition, ← hheaderSize]; rfl))
      (read_run 1 hfile₁ hkernelSize rfl)
      (skip_fill_run hsize hpage hint hfile₁ hkernelSize rfl)
      (read_run 2 hfile₂ hramdiskSize rfl) hsuffix
      (skip_fill_run hsize hpage hint hfile₂ hramdiskSize rfl)
  refine ⟨suffix, r, before, hsuffix, hrun, hclosed, hbefore, hmode, hlost, hzImage, hramdisk, ?_⟩
  have hnew : ∀ other ∈ ["-dt", "-signature"], other ∉ ["-zImage", suffix] ∧
      ∀ cmdline, ∀ text ∈ headerTexts u.header cmdline, other ≠ text.1 := by
    rcases ramdiskSuffix_cases hsuffix with rfl | rfl <;> simp [headerTexts]
  intro other hmem
  rw [hother other ((hnew other hmem).2 _) (hnew other hmem).1, hfiles]

theorem run_recovers (hfile : u.file = front ++ image.bytes) (hheader : u.header = image.hdr)
    (hpagesize : u.pagesize = image.hdr.pageSize) (hpage : image.hdr.pageSize.toNat = 2 ^ bits)
    (hplain : image.Plain) (hfit : NamesFit directory u.filename)
    (hdirectory : u.directory = some directory) (hposition : io.position = front.length + 608)
    (hfiles : io.files = fun _ => none) (hlost : io.lost = []) (hlenient : io.lenient = true) :
    ∃ final, u.run.run io = (.ok 0, final) ∧ image.Recovered directory u.filename final := by
  obtain ⟨suffix, r, before, hsuffix, hrun, hclosed, hbefore, hmode, hlost', hzImage, hramdisk,
    -⟩ := run_image_to_rest hfile hheader hpagesize hpage hplain hfit hdirectory hposition hfiles
  have hsize : u.pagesize.toNat = image.hdr.pageSize.toNat := by rw [hpagesize]
  have hint := hplain.pagesize
  let f₃ := front ++ image.header.bytes ++ image.kernel.bytes ++ image.ramdisk.bytes
  let f₄ := f₃ ++ image.second.bytes
  let f₅ := f₄ ++ image.dt.bytes
  have hfile₃ : u.file = f₃ ++ (image.second.bytes ++ (image.dt.bytes ++ image.signature)) := by
    simp only [f₃, hfile, BootImage.bytes, List.append_assoc]
  have hfile₄ : u.file = f₄ ++ (image.dt.bytes ++ image.signature) := by
    simp only [f₄, hfile₃, List.append_assoc]
  have hfile₅ : u.file = f₅ ++ (image.signature ++ []) := by
    simp only [f₅, hfile₄, List.append_assoc, List.append_nil]
  have hsecondSize : u.header.secondSize.toNat = image.second.data.length := by
    rw [hheader, image.secondSize]
  have hdtSize : u.header.dtSize.toNat = image.dt.data.length := by
    rw [hheader, image.dtSize]
  obtain ⟨final, hfinal, hdata, hkept⟩ := rest_lenient_run hfit hdirectory hclosed
    (hmode.trans hlenient) (read_run 3 hfile₃ hsecondSize hbefore)
    (skip_fill_run hsize hpage hint hfile₃ hsecondSize rfl)
    (read_run 4 hfile₄ hdtSize rfl)
    (skip_fill_run hsize hpage hint hfile₄ hdtSize rfl)
    (fread_run hfile₅ rfl ((CharArray.length_val _).trans image.signatureSize.symm))
  refine ⟨final, hrun.trans hfinal, ?_, ⟨suffix, hsuffix, ?_⟩, ?_⟩
  · rw [hkept "-zImage" (by decide), hzImage]
  · rw [hkept suffix (by rcases ramdiskSuffix_cases hsuffix with rfl | rfl <;> decide), hramdisk]
  · rw [hdata, hlost', hlost, List.nil_append]

theorem run_stopsAtSecond (hfile : u.file = front ++ image.bytes) (hheader : u.header = image.hdr)
    (hpagesize : u.pagesize = image.hdr.pageSize) (hpage : image.hdr.pageSize.toNat = 2 ^ bits)
    (hplain : image.Plain) (hfit : NamesFit directory u.filename)
    (hdirectory : u.directory = some directory) (hposition : io.position = front.length + 608)
    (hfiles : io.files = fun _ => none) (hstrict : io.lenient = false) :
    image.StopsAtSecond directory u.filename (u.run.run io) := by
  obtain ⟨suffix, r, before, hsuffix, hrun, hclosed, -, hmode, -, hzImage, hramdisk, hnone⟩ :=
    run_image_to_rest hfile hheader hpagesize hpage hplain hfit hdirectory hposition hfiles
  obtain ⟨final, hfinal, hopened⟩ := rest_run hfit hdirectory rfl r before hclosed
    (hmode.trans hstrict)
  have hkept {other : String} (h : other ≠ "-second") :
      final.files (outputName directory u.filename other) =
        before.files (outputName directory u.filename other) := by
    rw [hopened]
    exact if_neg (outputName_inj.not.mpr h)
  rw [hrun, hfinal]
  refine ⟨rfl, ?_, ⟨suffix, hsuffix, ?_⟩, ?_, ?_, ?_⟩
  · rw [hkept (by decide), hzImage]
  · rw [hkept (by rcases ramdiskSuffix_cases hsuffix with rfl | rfl <;> decide), hramdisk]
  · rw [hopened]
    exact if_pos rfl
  · rw [hkept (by decide), hnone _ (by decide)]
  · rw [hkept (by decide), hnone _ (by decide)]

theorem paddingCount_eq {pagesize itemsize : UInt32} (hpage : pagesize.toNat = 2 ^ bits) :
    paddingCount itemsize pagesize = padding pagesize.toNat itemsize.toNat := by
  unfold paddingCount
  split
  · rename_i hzero
    rw [padding_of_and_mask_eq_zero hpage hzero]
  · rename_i hrest
    rw [toNat_sub_and_mask hpage hrest]

/-- The header never fills its page and the image goes on behind it, so that there is
padding to be read. -/
theorem pagesize_lt_of_paddingFits (hbits : 11 ≤ bits)
    (hpage : image.hdr.pageSize.toNat = 2 ^ bits)
    (h : PaddingFits (front ++ image.bytes) image.hdr.pageSize
      (BootImgHdr.sizeof, front.length + 608)) :
    image.hdr.pageSize.toNat < 2 ^ 31 := by
  rcases h with hzero | hfits | hend
  · have hmod := toNat_and_mask hpage BootImgHdr.sizeof
    have hlarge : 2 ^ 11 ≤ 2 ^ bits := Nat.pow_le_pow_right (by decide) hbits
    have hsizeof : BootImgHdr.sizeof.toNat = 608 := rfl
    rw [hzero, hsizeof, hpage, Nat.mod_eq_of_lt (by omega)] at hmod
    cases hmod
  · exact hfits.2
  · have hsignature := image.signatureSize
    have hlength := image.hdr.length_bytes
    rw [← image.headerData] at hlength
    simp only [BootImage.bytes, PagedSection.bytes, List.length_append] at hend
    omega

theorem ramdiskBuffer_image (hfile : u.file = front ++ image.bytes)
    (hheader : u.header = image.hdr) (hpagesize : u.pagesize = image.hdr.pageSize)
    (hpage : image.hdr.pageSize.toNat = 2 ^ bits) :
    u.ramdiskBuffer (front.length + 608) = image.ramdisk.data := by
  have hplace : u.ramdiskPlace (front.length + 608) =
      (front ++ (image.header.bytes ++ image.kernel.bytes)).length := by
    have hlength := image.hdr.length_bytes
    have hsizeof : BootImgHdr.sizeof.toNat = 608 := rfl
    have hfill := image.header.whole
    have hkernel := image.kernel.whole
    rw [image.headerData, hlength] at hfill
    simp only [Unpacking.ramdiskPlace, Unpacking.kernelPlace, hheader, hpagesize,
      paddingCount_eq hpage, image.kernelSize, hsizeof, PagedSection.bytes, List.length_append,
      image.headerData, hlength, hfill, hkernel]
    omega
  have hsplit : u.file = front ++ (image.header.bytes ++ image.kernel.bytes) ++
      image.ramdisk.data ++ (image.ramdisk.fill ++ (image.second.bytes ++
        (image.dt.bytes ++ image.signature))) := by
    simp only [hfile, BootImage.bytes, PagedSection.bytes, List.append_assoc]
  rw [Unpacking.ramdiskBuffer, hplace, hsplit]
  refine filled_middle _ _ _ _ ?_
  rw [CharArray.length_val, hheader, image.ramdiskSize]

end Image

section File

variable {options : UnpackOptions} (filename : CString) (memory : Memory) {bits : Nat}
  {image : BootImage} {front : Bytes}

theorem BootImage.exists_bytes (image : BootImage) :
    ∃ rest, image.bytes = image.hdr.bytes ++ rest := by
  refine ⟨image.header.fill ++ (image.kernel.bytes ++ (image.ramdisk.bytes ++
    (image.second.bytes ++ (image.dt.bytes ++ image.signature)))), ?_⟩
  rw [BootImage.bytes, PagedSection.bytes, image.headerData, List.append_assoc]

theorem BootImage.le_length (image : BootImage) (front : Bytes) :
    front.length + 608 ≤ (front ++ image.bytes).length := by
  obtain ⟨rest, hbytes⟩ := image.exists_bytes
  have hlength := image.hdr.length_bytes
  simp only [hbytes, List.length_append]
  omega

theorem findMagic_image (hfront : front.length ≤ 512)
    (hbefore : ∀ i < front.length, slice (front ++ image.bytes) i bootMagicSize ≠ bootMagic) :
    findMagic (front ++ image.bytes) 513 0 (memory 6 bootMagicSize).val = some front.length := by
  obtain ⟨rest, hbytes⟩ := image.exists_bytes
  have hle := image.le_length front
  have hsize : bootMagicSize = 8 := rfl
  refine findMagic_eq_some (Nat.zero_le _) (by omega) (CharArray.length_val _) (by omega)
    (fun i _ hi => hbefore i hi) ?_
  rw [hbytes]
  exact slice_magic image.hdr image.magic front rest

theorem ofFile_image (image : BootImage) (front : Bytes) :
    BootImgHdr.ofFile (slice (front ++ image.bytes) front.length 608) = image.hdr := by
  obtain ⟨rest, hbytes⟩ := image.exists_bytes
  rw [hbytes]
  exact ofFile_slice image.hdr front rest

theorem plain_of_unpackFile (image : BootImage) (front : Bytes)
    (hoptions : options.pagesize = 0) (hbits : 11 ≤ bits)
    (hpage : image.hdr.pageSize.toNat = 2 ^ bits) (hfront : front.length ≤ 512)
    (hbefore : ∀ i < front.length, slice (front ++ image.bytes) i bootMagicSize ≠ bootMagic)
    (h : (unpackFile options filename (front ++ image.bytes) memory).Succeeds
      Stdio.lenientStart) : image.Plain := by
  let u := unpackingAt options filename (front ++ image.bytes) memory image.hdr
  have hpagesize : u.pagesize = image.hdr.pageSize := if_pos hoptions
  obtain ⟨-, hcmdline, hpadding, hramdisk⟩ := (unpackFile_succeeds_iff (u := u) options filename
    (findMagic_image memory hfront hbefore) (image.le_length front) (ofFile_image image front)
    rfl).mp h
  rw [ramdiskBuffer_image rfl rfl hpagesize hpage] at hramdisk
  rw [hpagesize] at hpadding
  exact ⟨pagesize_lt_of_paddingFits hbits hpage (hpadding _ List.mem_cons_self), hcmdline,
    hramdisk⟩

theorem unpackFile_of_plain (hoptions : options.pagesize = 0)
    (hpage : image.hdr.pageSize.toNat = 2 ^ bits) (hfront : front.length ≤ 512)
    (hbefore : ∀ i < front.length, slice (front ++ image.bytes) i bootMagicSize ≠ bootMagic)
    {directory : CString} (hdirectory : options.directory = some directory)
    (hfit : NamesFit directory filename) (hplain : image.Plain) :
    (∃ final, (unpackFile options filename (front ++ image.bytes) memory).run
        Stdio.lenientStart = (.ok 0, final) ∧ image.Recovered directory filename final) ∧
      image.StopsAtSecond directory filename
        ((unpackFile options filename (front ++ image.bytes) memory).run Stdio.start) := by
  have hrun := unpackFile_run options filename (findMagic_image memory hfront hbefore)
    (image.le_length front)
  rw [ofFile_image] at hrun
  rw [hrun, hrun]
  let u := unpackingAt options filename (front ++ image.bytes) memory image.hdr
  exact ⟨run_recovers (u := u) rfl rfl (if_pos hoptions) hpage hplain hfit hdirectory rfl rfl rfl
      rfl,
    run_stopsAtSecond (u := u) rfl rfl (if_pos hoptions) hpage hplain hfit hdirectory rfl rfl
      rfl⟩

end File

/-- The search stops at the image.  With a library that takes the writes to the closed stream
the five sections are what is read exactly when the image is `Plain`; in C the run of such an
image has no meaning from the second stage on, and the last two are not read.  Without a magic
in the first 513 places nothing is written and 1 is returned. -/
theorem sections_read_iff (options : UnpackOptions) (hoptions : options.pagesize = 0)
    (directory filename : CString) (hdirectory : options.directory = some directory)
    (hfit : NamesFit directory filename) (memory : Memory) :
    (∀ (image : BootImage) (front : Bytes) (bits : Nat), 11 ≤ bits →
      image.hdr.pageSize.toNat = 2 ^ bits → front.length ≤ 512 →
      (∀ i < front.length, slice (front ++ image.bytes) i bootMagicSize ≠ bootMagic) →
      findMagic (front ++ image.bytes) 513 0 (memory 6 bootMagicSize).val = some front.length ∧
      ((∃ final, (unpackFile options filename (front ++ image.bytes) memory).run
          Stdio.lenientStart = (.ok 0, final) ∧ image.Recovered directory filename final) ↔
        image.Plain) ∧
      (image.Plain → image.StopsAtSecond directory filename
        ((unpackFile options filename (front ++ image.bytes) memory).run Stdio.start))) ∧
    ∀ file : Bytes, 520 ≤ file.length →
      (∀ i ≤ 512, slice file i bootMagicSize ≠ bootMagic) →
      ∀ io, (unpackFile options filename file memory).run io = (.ok 1, io) := by
  refine ⟨?_, ?_⟩
  · intro image front bits hbits hpage hfront hbefore
    refine ⟨findMagic_image memory hfront hbefore, ⟨?_, ?_⟩, ?_⟩
    · rintro ⟨final, hrun, -⟩
      exact plain_of_unpackFile filename memory image front hoptions hbits hpage hfront hbefore
        ⟨0, final, hrun⟩
    · intro hplain
      exact (unpackFile_of_plain filename memory hoptions hpage hfront hbefore hdirectory hfit
        hplain).1
    · intro hplain
      exact (unpackFile_of_plain filename memory hoptions hpage hfront hbefore hdirectory hfit
        hplain).2
  · intro file hlength hmiss io
    have hsize : bootMagicSize = 8 := rfl
    have hnone : findMagic file 513 0 (memory 6 bootMagicSize).val = none :=
      findMagic_eq_none (CharArray.length_val _) (by omega) fun i _ hi => hmiss i (by omega)
    rw [unpackFile, hnone]
    rfl

section Samples

def PagedSection.ofData (page : Nat) (data : Bytes) : PagedSection page where
  data := data
  fill := zeros (padding page data.length)
  whole := length_zeros _

def smallHeader (pageSize : UInt32) : BootImgHdr :=
  { bareHeader 2 pageSize [] with kernelSize := 1, secondSize := 0, dtSize := 0 }

def smallImage (pageSize : UInt32) : BootImage where
  hdr := smallHeader pageSize
  header := .ofData _ (smallHeader pageSize).bytes
  kernel := .ofData _ [1]
  ramdisk := .ofData _ [0x02, 0x21]
  second := .ofData _ []
  dt := .ofData _ []
  signature := zeros 256
  magic := rfl
  headerData := rfl
  kernelSize := rfl
  ramdiskSize := rfl
  secondSize := rfl
  dtSize := rfl
  signatureSize := length_zeros _

def smallFront : Bytes := [7, 8, 9]

theorem noMagic_smallFront (rest : Bytes) :
    ∀ i < smallFront.length, slice (smallFront ++ rest) i bootMagicSize ≠ bootMagic := by
  intro i hi heq
  have hlt : i < 3 := hi
  obtain rfl | rfl | rfl : i = 0 ∨ i = 1 ∨ i = 2 := by omega
  all_goals exact absurd (List.cons.inj heq).1 (by decide)

theorem terminator_smallImage (pageSize : UInt32) : 0 ∈ (smallImage pageSize).hdr.cmdline.val :=
  List.mem_append_right _ (List.mem_replicate.mpr ⟨by decide, rfl⟩)

end Samples

theorem sections_read_small :
    ∃ final, (unpackFile sampleOptions "boot.img".toList (smallFront ++ (smallImage 2048).bytes)
        sampleMemory).run Stdio.lenientStart = (.ok 0, final) ∧
      (smallImage 2048).Recovered "out".toList "boot.img".toList final := by
  have hpage : (smallImage 2048).hdr.pageSize.toNat = 2 ^ 11 := by decide
  have hplain : (smallImage 2048).Plain :=
    ⟨by rw [hpage]; decide, terminator_smallImage 2048, by decide, by decide⟩
  exact ((sections_read_iff sampleOptions rfl "out".toList "boot.img".toList rfl namesFit_sample
    sampleMemory).1 (smallImage 2048) smallFront 11 le_rfl hpage (by decide)
    (noMagic_smallFront _)).2.1.mpr hplain

/-- A page size of `2 ^ 31` is negative as an `int`: the buffer for the padding does not
exist.  On small pages the device tree and the signature are not read in C. -/
theorem sections_not_read_huge :
    ((smallImage 0x80000000).hdr.pageSize.toNat = 2 ^ 31 ∧
      ¬(unpackFile sampleOptions "boot.img".toList (smallImage 0x80000000).bytes
        sampleMemory).Succeeds Stdio.lenientStart) ∧
    (smallImage 2048).StopsAtSecond "out".toList "boot.img".toList
      ((unpackFile sampleOptions "boot.img".toList (smallFront ++ (smallImage 2048).bytes)
        sampleMemory).run Stdio.start) := by
  have hpage : (smallImage 0x80000000).hdr.pageSize.toNat = 2 ^ 31 := by decide
  refine ⟨⟨hpage, ?_⟩, ?_⟩
  · intro hsucceeds
    have hplain := plain_of_unpackFile _ _ (smallImage 0x80000000) [] rfl (by decide) hpage
      (by decide) (by simp) hsucceeds
    exact absurd hplain.pagesize (by rw [hpage]; decide)
  · have hsmall : (smallImage 2048).hdr.pageSize.toNat = 2 ^ 11 := by decide
    exact (unpackFile_of_plain _ sampleMemory rfl hsmall (by decide) (noMagic_smallFront _) rfl
      namesFit_sample ⟨by rw [hsmall]; decide, terminator_smallImage 2048, by decide,
        by decide⟩).2

end Exynos9810.Dtbhtool
