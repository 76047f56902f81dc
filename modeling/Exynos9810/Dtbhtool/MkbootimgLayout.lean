import Exynos9810.Dtbhtool.DtbimgLocate
import Exynos9810.Dtbhtool.Mkbootimg

namespace Exynos9810.Dtbhtool

open ByteString Paging

def dataOf (section? : Option Buffer) : Bytes :=
  (section?.getD Buffer.empty).data

/-- The layout of `bootimg.h`, with its numbers of pages `n`, `m`, `o`, `p`. -/
structure Documented (pagesize : UInt32) (hdr : BootImgHdr) (sections : Sections)
    (file : Bytes) : Prop where
  header : StoredAt pagesize.toNat file 0 hdr.bytes
  kernel : StoredAt pagesize.toNat file 1 sections.kernel.data
  ramdisk :
    let n := pageCount pagesize.toNat sections.kernel.data.length
    StoredAt pagesize.toNat file (1 + n) sections.ramdisk.data
  second :
    let n := pageCount pagesize.toNat sections.kernel.data.length
    let m := pageCount pagesize.toNat sections.ramdisk.data.length
    StoredAt pagesize.toNat file (1 + n + m) (dataOf sections.second)
  dt :
    let n := pageCount pagesize.toNat sections.kernel.data.length
    let m := pageCount pagesize.toNat sections.ramdisk.data.length
    let o := pageCount pagesize.toNat (dataOf sections.second).length
    StoredAt pagesize.toNat file (1 + n + m + o) (dataOf sections.dt)
  signature :
    let n := pageCount pagesize.toNat sections.kernel.data.length
    let m := pageCount pagesize.toNat sections.ramdisk.data.length
    let o := pageCount pagesize.toNat (dataOf sections.second).length
    let p := pageCount pagesize.toNat (dataOf sections.dt).length
    file.drop ((1 + n + m + o + p) * pagesize.toNat) = (dataOf sections.signature).take 256

def pagedSections (hdr : BootImgHdr) (sections : Sections) : List Bytes :=
  [hdr.bytes, sections.kernel.data, sections.ramdisk.data, dataOf sections.second,
    dataOf sections.dt]

def documentedImage (page : Nat) (hdr : BootImgHdr) (sections : Sections) : Bytes :=
  (pagedSections hdr sections).flatMap (padded page) ++ (dataOf sections.signature).take 256

section Pagesize

variable {pagesize : UInt32} (hpage : pagesize ∈ pagesizes)
include hpage

theorem pagesize_pos : 0 < pagesize.toNat := by
  obtain ⟨bits, -, hbits⟩ := exists_two_pow_of_mem_pagesizes hpage
  exact toNat_page_pos hbits

theorem pagesize_le : pagesize.toNat ≤ 131072 := by
  simp only [pagesizes, List.mem_cons, List.not_mem_nil, or_false] at hpage
  rcases hpage with rfl | rfl | rfl | rfl | rfl | rfl | rfl <;> decide

theorem pageCount_header : pageCount pagesize.toNat 608 = 1 := by
  simp only [pagesizes, List.mem_cons, List.not_mem_nil, or_false] at hpage
  rcases hpage with rfl | rfl | rfl | rfl | rfl | rfl | rfl <;> rfl

theorem documented_iff_eq (hdr : BootImgHdr) (sections : Sections) (file : Bytes) :
    Documented pagesize hdr sections file ↔
      file = documentedImage pagesize.toNat hdr sections := by
  have hheader := pageCount_header hpage
  rw [documentedImage, eq_flatMap_padded_iff (pagesize_pos hpage)]
  simp only [pagedSections, StoredFrom, pages_cons, pages_nil, BootImgHdr.length_bytes,
    hheader, Nat.zero_add, Nat.add_zero, ← Nat.add_assoc, and_true]
  constructor
  · rintro ⟨hhdr, hkernel, hramdisk, hsecond, hdt, hsignature⟩
    exact ⟨⟨hhdr, hkernel, hramdisk, hsecond, hdt⟩, hsignature⟩
  · rintro ⟨⟨hhdr, hkernel, hramdisk, hsecond, hdt⟩, hsignature⟩
    exact ⟨hhdr, hkernel, hramdisk, hsecond, hdt, hsignature⟩

theorem writePadding_eq (file : Bytes) (itemsize : UInt32) :
    writePadding file pagesize itemsize =
      .ok (file ++ zeros (padding pagesize.toNat itemsize.toNat)) := by
  obtain ⟨bits, -, hbits⟩ := exists_two_pow_of_mem_pagesizes hpage
  unfold writePadding
  by_cases hzero : itemsize &&& (pagesize - 1) = 0
  · rw [if_pos hzero, padding_of_and_mask_eq_zero hbits hzero, zeros_zero, List.append_nil]
  · have hle := (padding_lt (pagesize_pos hpage) itemsize.toNat).le.trans (pagesize_le hpage)
    rw [if_neg hzero, write, toNat_sub_and_mask hbits hzero, length_zeros, if_pos hle,
      take_zeros, Nat.min_eq_left hle]

end Pagesize

theorem write_eq (file : Bytes) (buffer : Buffer) :
    write file buffer.data buffer.size = .ok (file ++ buffer.data) := by
  rw [write, Buffer.toNat_size, if_pos le_rfl, List.take_length]

def secondBytes (page : Nat) (sections : Sections) : Bytes :=
  match sections.second with
  | some second => second.data ++ zeros (padding page sections.ramdisk.data.length)
  | none => []

def writtenImage (page : Nat) (hdr : BootImgHdr) (sections : Sections) : Bytes :=
  padded page hdr.bytes ++ padded page sections.kernel.data ++
    padded page sections.ramdisk.data ++ secondBytes page sections ++
    padded page (dataOf sections.dt) ++ (dataOf sections.signature).take 256

section Writing

variable {pagesize : UInt32} (hpage : pagesize ∈ pagesizes)
include hpage

theorem write_padded (file : Bytes) (buffer : Buffer) (next : Bytes → Except Stop α) :
    (do
      let file ← write file buffer.data buffer.size
      let file ← writePadding file pagesize buffer.size
      next file) = next (file ++ padded pagesize.toNat buffer.data) := by
  rw [write_eq, ok_bind, writePadding_eq hpage, ok_bind, Buffer.toNat_size, padded,
    List.append_assoc]

theorem write_header (hdr : BootImgHdr) (next : Bytes → Except Stop α) :
    (do
      let file ← write [] hdr.bytes BootImgHdr.sizeof
      let file ← writePadding file pagesize BootImgHdr.sizeof
      next file) = next (padded pagesize.toNat hdr.bytes) := by
  have h := write_padded hpage [] ⟨hdr.bytes, by rw [BootImgHdr.length_bytes]; decide⟩ next
  simp only [Buffer.size, BootImgHdr.length_bytes, List.nil_append] at h
  exact h

theorem writeSecond_eq (file : Bytes) (lib : Libraries) (job : Job) (sections : Sections) :
    writeSecond file pagesize (makeHeader lib job sections) sections.second =
      .ok (file ++ secondBytes pagesize.toNat sections) := by
  unfold secondBytes
  cases hsecond : sections.second with
  | none => simp [writeSecond]
  | some second =>
    have hsize : (makeHeader lib job sections).secondSize = second.size := by
      simp only [makeHeader, sizeOf, hsecond, Option.getD_some]
    have hramdisk : (makeHeader lib job sections).ramdiskSize = sections.ramdisk.size := rfl
    rw [writeSecond, hsize, hramdisk, write_eq, ok_bind, writePadding_eq hpage,
      Buffer.toNat_size, List.append_assoc]

theorem writeDt_eq (file : Bytes) (lib : Libraries) (job : Job) (sections : Sections) :
    writeDt file pagesize (makeHeader lib job sections) sections.dt =
      .ok (file ++ padded pagesize.toNat (dataOf sections.dt)) := by
  cases hdt : sections.dt with
  | none => simp [writeDt, dataOf, Buffer.empty, padded_nil (pagesize_pos hpage)]
  | some dt =>
    have hsize : (makeHeader lib job sections).dtSize = dt.size := by
      simp only [makeHeader, sizeOf, hdt, Option.getD_some]
    rw [writeDt, hsize, write_eq, ok_bind, writePadding_eq hpage, Buffer.toNat_size,
      List.append_assoc]
    rfl

omit hpage in
theorem writeSignature_eq (file : Bytes) (signature? : Option Buffer)
    (hsignature : ∀ signature ∈ signature?, 256 ≤ signature.data.length) :
    writeSignature file signature? = .ok (file ++ (dataOf signature?).take 256) := by
  cases signature? with
  | none => simp [writeSignature, dataOf, Buffer.empty]
  | some signature => exact if_pos (hsignature signature rfl)

theorem writeImage_eq_writeSignature (lib : Libraries) (job : Job) (sections : Sections) :
    writeImage pagesize (makeHeader lib job sections) sections =
      writeSignature (padded pagesize.toNat (makeHeader lib job sections).bytes ++
        padded pagesize.toNat sections.kernel.data ++
        padded pagesize.toNat sections.ramdisk.data ++ secondBytes pagesize.toNat sections ++
        padded pagesize.toNat (dataOf sections.dt)) sections.signature := by
  have hkernel : (makeHeader lib job sections).kernelSize = sections.kernel.size := rfl
  have hramdisk : (makeHeader lib job sections).ramdiskSize = sections.ramdisk.size := rfl
  rw [writeImage, hkernel, hramdisk, write_header hpage, write_padded hpage,
    write_padded hpage, writeSecond_eq hpage, ok_bind, writeDt_eq hpage, ok_bind]

theorem writeImage_eq (lib : Libraries) (job : Job) (sections : Sections)
    (hsignature : ∀ signature ∈ sections.signature, 256 ≤ signature.data.length) :
    writeImage pagesize (makeHeader lib job sections) sections =
      .ok (writtenImage pagesize.toNat (makeHeader lib job sections) sections) := by
  rw [writeImage_eq_writeSignature hpage, writeSignature_eq _ _ hsignature, writtenImage]

/-- The written image is the documented one exactly when the padding after the
second stage happens to be right. -/
theorem writtenImage_eq_documentedImage_iff (hdr : BootImgHdr) (sections : Sections) :
    writtenImage pagesize.toNat hdr sections = documentedImage pagesize.toNat hdr sections ↔
      ∀ second ∈ sections.second,
        sections.ramdisk.data.length % pagesize.toNat =
          second.data.length % pagesize.toNat := by
  have hpos := pagesize_pos hpage
  have hdocumented : documentedImage pagesize.toNat hdr sections =
      padded pagesize.toNat hdr.bytes ++ padded pagesize.toNat sections.kernel.data ++
        padded pagesize.toNat sections.ramdisk.data ++
        padded pagesize.toNat (dataOf sections.second) ++
        padded pagesize.toNat (dataOf sections.dt) ++
        (dataOf sections.signature).take 256 := by
    simp [documentedImage, pagedSections]
  rw [hdocumented, writtenImage, List.append_left_inj, List.append_left_inj,
    List.append_right_inj]
  cases hsecond : sections.second with
  | none => simp [secondBytes, hsecond, dataOf, Buffer.empty, padded_nil hpos]
  | some second =>
    simp only [secondBytes, hsecond, dataOf, Option.getD_some, padded, List.append_right_inj,
      Option.mem_def, Option.some.injEq, forall_eq']
    rw [← padding_eq_iff hpos]
    constructor
    · intro h
      simpa using congrArg List.length h
    · intro h
      rw [h]

end Writing

theorem mkbootimg_eq_writeImage {lib : Libraries} {host : HostFiles} {argv : List CString}
    {job : Job} {sections : Sections} (hprepare : prepare lib host argv = .ok (job, sections))
    (hcreates : host.creates job.bootimg = true) :
    mkbootimg lib host argv =
      writeImage job.pagesize.val (makeHeader lib job sections) sections := by
  simp only [mkbootimg, hprepare, ok_bind, hcreates, if_true]

theorem mkbootimg_eq {lib : Libraries} {host : HostFiles} {argv : List CString}
    {job : Job} {sections : Sections} (hprepare : prepare lib host argv = .ok (job, sections))
    (hcreates : host.creates job.bootimg = true)
    (hsignature : ∀ signature ∈ sections.signature, 256 ≤ signature.data.length) :
    mkbootimg lib host argv =
      .ok (writtenImage job.pagesize.val.toNat (makeHeader lib job sections) sections) := by
  rw [mkbootimg_eq_writeImage hprepare hcreates]
  exact writeImage_eq job.pagesize.property lib job sections hsignature

/-- The tool writes a file for every input it accepts.  That file has the
documented layout exactly when there is no second stage or the ramdisk ends at
the same place of a page as the second stage. -/
theorem mkbootimg_documented_iff {lib : Libraries} {host : HostFiles} {argv : List CString}
    {job : Job} {sections : Sections} (hprepare : prepare lib host argv = .ok (job, sections))
    (hcreates : host.creates job.bootimg = true)
    (hsignature : ∀ signature ∈ sections.signature, 256 ≤ signature.data.length) :
    ∃ file, mkbootimg lib host argv = .ok file ∧
      (Documented job.pagesize.val (makeHeader lib job sections) sections file ↔
        ∀ second ∈ sections.second,
          sections.ramdisk.data.length % job.pagesize.val.toNat =
            second.data.length % job.pagesize.val.toNat) := by
  have hpage := job.pagesize.property
  refine ⟨_, mkbootimg_eq hprepare hcreates hsignature, ?_⟩
  rw [documented_iff_eq hpage, writtenImage_eq_documentedImage_iff hpage]

section Samples

def sampleLibraries : Libraries where
  fdt := sampleFdt
  qsort := sampleSort
  sha1 := CharArray.ofBytes 20

def sampleSignature : Bytes := List.replicate 256 0x5a

theorem length_sampleSignature : sampleSignature.length = 256 :=
  List.length_replicate

def sampleHost (kernel ramdisk second : Bytes) : HostFiles where
  contents := fun fn =>
    if fn = "kernel".toList then some kernel
    else if fn = "ramdisk".toList then some ramdisk
    else if fn = "second".toList then some second
    else if fn = "signature".toList then some sampleSignature
    else none
  listing := fun _ => none
  creates := fun _ => true

def sampleArgv : List CString :=
  ["--kernel", "kernel", "--ramdisk", "ramdisk", "--second", "second",
    "--signature", "signature", "-o", "boot.img"].map String.toList

def sampleJob : Job where
  kernelFn := "kernel".toList
  ramdiskFn := "ramdisk".toList
  secondFn := some "second".toList
  bootimg := "boot.img".toList
  dtDir := none
  dtFn := none
  sigFn := some "signature".toList
  pagesize := ⟨2048, List.mem_cons_self⟩
  kernelAddr := 0x10008000
  ramdiskAddr := 0x11000000
  secondAddr := 0x10f00000
  tagsAddr := 0x10000100
  board := ⟨[], Nat.succ_pos _⟩
  cmdline := ⟨[], Nat.zero_le _⟩

def sampleSections (kernel ramdisk second : Buffer) : Sections where
  kernel := kernel
  ramdisk := ramdisk
  second := some second
  dt := none
  signature := some ⟨sampleSignature, by rw [length_sampleSignature]; decide⟩

theorem sampleSections_signature (kernel ramdisk second : Buffer) :
    ∀ signature ∈ (sampleSections kernel ramdisk second).signature,
      256 ≤ signature.data.length := by
  intro signature h
  cases Option.some.inj h
  exact Nat.le_of_eq length_sampleSignature.symm

theorem loadBuffer_of_length_lt {bytes : Bytes} (h : bytes.length < 2 ^ 31) :
    loadBuffer (some bytes) = .ok ⟨bytes, Nat.lt_trans h (by decide)⟩ := by
  unfold loadBuffer
  split
  · rename_i data hdata
    rw [loadFile_of_length_lt h] at hdata
    cases hdata
    rfl
  · rename_i hnone
    rw [loadFile_of_length_lt h] at hnone
    cases hnone

theorem loadOptional_of_length_lt {host : HostFiles} {fn : CString} {bytes : Bytes}
    (hfn : host.contents fn = some bytes) (h : bytes.length < 2 ^ 31) :
    loadOptional host (some fn) = .ok (some ⟨bytes, Nat.lt_trans h (by decide)⟩) := by
  rw [loadOptional, hfn, loadBuffer_of_length_lt h]
  rfl

theorem loadSections_sample {kernel ramdisk second : Bytes} (hkernel : kernel.length < 2 ^ 31)
    (hramdisk : ramdisk.length < 2 ^ 31) (hsecond : second.length < 2 ^ 31) :
    loadSections sampleLibraries (sampleHost kernel ramdisk second) sampleJob =
      .ok (sampleSections ⟨kernel, Nat.lt_trans hkernel (by decide)⟩
        ⟨ramdisk, Nat.lt_trans hramdisk (by decide)⟩
        ⟨second, Nat.lt_trans hsecond (by decide)⟩) := by
  have hsignature : sampleSignature.length < 2 ^ 31 := by
    rw [length_sampleSignature]
    decide
  have hload (fn : CString) (bytes : Bytes)
      (hfn : (sampleHost kernel ramdisk second).contents fn = some bytes)
      (h : bytes.length < 2 ^ 31) := loadOptional_of_length_lt hfn h
  rw [loadSections,
    show (sampleHost kernel ramdisk second).contents sampleJob.kernelFn = some kernel from rfl,
    show (sampleHost kernel ramdisk second).contents sampleJob.ramdiskFn = some ramdisk from rfl,
    show sampleJob.secondFn = some "second".toList from rfl,
    show sampleJob.sigFn = some "signature".toList from rfl,
    loadBuffer_of_length_lt hkernel, loadBuffer_of_length_lt hramdisk,
    hload _ second rfl hsecond, hload _ sampleSignature rfl hsignature]
  rfl

theorem prepare_sample {kernel ramdisk second : Bytes} (hkernel : kernel.length < 2 ^ 31)
    (hramdisk : ramdisk.length < 2 ^ 31) (hsecond : second.length < 2 ^ 31) :
    prepare sampleLibraries (sampleHost kernel ramdisk second) sampleArgv =
      .ok (sampleJob, sampleSections ⟨kernel, Nat.lt_trans hkernel (by decide)⟩
        ⟨ramdisk, Nat.lt_trans hramdisk (by decide)⟩
        ⟨second, Nat.lt_trans hsecond (by decide)⟩) := by
  have hprepare : prepare sampleLibraries (sampleHost kernel ramdisk second) sampleArgv =
      (loadSections sampleLibraries (sampleHost kernel ramdisk second) sampleJob >>=
        fun sections => .ok (sampleJob, sections)) := by rfl
  rw [hprepare, loadSections_sample hkernel hramdisk hsecond, ok_bind]

end Samples

theorem mkbootimg_documented_two_two :
    ∃ file, mkbootimg sampleLibraries (sampleHost [1, 2, 3] [0x02, 0x21] [4, 5]) sampleArgv =
        .ok file ∧
      Documented 2048 (makeHeader sampleLibraries sampleJob (sampleSections
          ⟨[1, 2, 3], by decide⟩ ⟨[0x02, 0x21], by decide⟩ ⟨[4, 5], by decide⟩))
        (sampleSections ⟨[1, 2, 3], by decide⟩ ⟨[0x02, 0x21], by decide⟩ ⟨[4, 5], by decide⟩)
        file := by
  obtain ⟨file, hfile, hiff⟩ := mkbootimg_documented_iff
    (prepare_sample (show [1, 2, 3].length < 2 ^ 31 by decide)
      (show [0x02, 0x21].length < 2 ^ 31 by decide) (show [4, 5].length < 2 ^ 31 by decide))
    rfl (sampleSections_signature _ _ _)
  exact ⟨file, hfile, hiff.mpr (by
    intro second h
    cases Option.some.inj h
    rfl)⟩

/-- A ramdisk of two bytes and a second stage of three: the fill after the
second stage is one byte too long, so the file has not the documented length. -/
theorem mkbootimg_documented_fails_two_three :
    ∃ file, mkbootimg sampleLibraries (sampleHost [1, 2, 3] [0x02, 0x21] [4, 5, 6]) sampleArgv =
        .ok file ∧
      ¬Documented 2048 (makeHeader sampleLibraries sampleJob (sampleSections
          ⟨[1, 2, 3], by decide⟩ ⟨[0x02, 0x21], by decide⟩ ⟨[4, 5, 6], by decide⟩))
        (sampleSections ⟨[1, 2, 3], by decide⟩ ⟨[0x02, 0x21], by decide⟩
          ⟨[4, 5, 6], by decide⟩)
        file := by
  refine ⟨_, mkbootimg_eq
    (prepare_sample (show [1, 2, 3].length < 2 ^ 31 by decide)
      (show [0x02, 0x21].length < 2 ^ 31 by decide) (show [4, 5, 6].length < 2 ^ 31 by decide))
    rfl (sampleSections_signature _ _ _), ?_⟩
  have hpage : (2048 : UInt32) ∈ pagesizes := by decide
  rw [documented_iff_eq hpage]
  intro h
  have hmod := (writtenImage_eq_documentedImage_iff hpage _ _).mp h ⟨[4, 5, 6], by decide⟩ rfl
  revert hmod
  decide

end Exynos9810.Dtbhtool
