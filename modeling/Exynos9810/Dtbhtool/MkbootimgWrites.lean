import Exynos9810.Dtbhtool.MkbootimgLayout

namespace Exynos9810.Dtbhtool

open ByteString Paging

inductive Source where
  | header
  | kernel
  | ramdisk
  | second
  | dt
  | signature
  | padding

def Source.bytes (hdr : BootImgHdr) (sections : Sections) : Source → Bytes
  | .header => hdr.bytes
  | .kernel => sections.kernel.data
  | .ramdisk => sections.ramdisk.data
  | .second => dataOf sections.second
  | .dt => dataOf sections.dt
  | .signature => dataOf sections.signature
  | .padding => zeros 131072

structure WriteCall where
  source : Source
  count : UInt32

namespace WriteCall

variable (hdr : BootImgHdr) (sections : Sections)

def run (file : Bytes) (call : WriteCall) : Except Stop Bytes :=
  write file (call.source.bytes hdr sections) call.count

def InBounds (call : WriteCall) : Prop :=
  call.count.toNat ≤ (call.source.bytes hdr sections).length

/-- How much a call takes of its buffer. -/
def Takes (call : WriteCall) : Prop :=
  match call.source with
  | .padding => call.count.toNat ≤ 131072
  | .signature => call.count = 256
  | source => call.count.toNat = (source.bytes hdr sections).length

end WriteCall

def paddingCalls (pagesize itemsize : UInt32) : List WriteCall :=
  let pagemask := pagesize - 1
  if itemsize &&& pagemask = 0 then []
  else [⟨.padding, pagesize - (itemsize &&& pagemask)⟩]

def secondCalls (pagesize : UInt32) (hdr : BootImgHdr) : Option Buffer → List WriteCall
  | some _ => ⟨.second, hdr.secondSize⟩ :: paddingCalls pagesize hdr.ramdiskSize
  | none => []

def dtCalls (pagesize : UInt32) (hdr : BootImgHdr) : Option Buffer → List WriteCall
  | some _ => ⟨.dt, hdr.dtSize⟩ :: paddingCalls pagesize hdr.dtSize
  | none => []

def signatureCalls : Option Buffer → List WriteCall
  | some _ => [⟨.signature, 256⟩]
  | none => []

def sectionCalls (pagesize : UInt32) (hdr : BootImgHdr) (sections : Sections) :
    List WriteCall :=
  ⟨.header, BootImgHdr.sizeof⟩ :: paddingCalls pagesize BootImgHdr.sizeof ++
    ⟨.kernel, hdr.kernelSize⟩ :: paddingCalls pagesize hdr.kernelSize ++
    ⟨.ramdisk, hdr.ramdiskSize⟩ :: paddingCalls pagesize hdr.ramdiskSize ++
    secondCalls pagesize hdr sections.second ++ dtCalls pagesize hdr sections.dt

/-- The calls in the order in which they are issued. -/
def writeCalls (pagesize : UInt32) (hdr : BootImgHdr) (sections : Sections) : List WriteCall :=
  sectionCalls pagesize hdr sections ++ signatureCalls sections.signature

section Calls

variable (pagesize : UInt32) (hdr : BootImgHdr) (sections : Sections)

theorem foldlM_paddingCalls (file : Bytes) (itemsize : UInt32) :
    (paddingCalls pagesize itemsize).foldlM (WriteCall.run hdr sections) file =
      writePadding file pagesize itemsize := by
  unfold paddingCalls writePadding
  dsimp only
  split
  · rfl
  · rw [List.foldlM_cons]
    exact bind_pure _

theorem foldlM_secondCalls (file : Bytes) :
    (secondCalls pagesize hdr sections.second).foldlM (WriteCall.run hdr sections) file =
      writeSecond file pagesize hdr sections.second := by
  cases hsecond : sections.second with
  | none => rfl
  | some second =>
    simp only [secondCalls, List.foldlM_cons, foldlM_paddingCalls, writeSecond, WriteCall.run,
      Source.bytes, dataOf, hsecond, Option.getD_some]

theorem foldlM_dtCalls (file : Bytes) :
    (dtCalls pagesize hdr sections.dt).foldlM (WriteCall.run hdr sections) file =
      writeDt file pagesize hdr sections.dt := by
  cases hdt : sections.dt with
  | none => rfl
  | some dt =>
    simp only [dtCalls, List.foldlM_cons, foldlM_paddingCalls, writeDt, WriteCall.run,
      Source.bytes, dataOf, hdt, Option.getD_some]

theorem foldlM_signatureCalls (file : Bytes) :
    (signatureCalls sections.signature).foldlM (WriteCall.run hdr sections) file =
      writeSignature file sections.signature := by
  cases hsignature : sections.signature with
  | none => rfl
  | some signature =>
    simp only [signatureCalls, List.foldlM_cons, List.foldlM_nil, bind_pure, writeSignature,
      WriteCall.run, Source.bytes, dataOf, hsignature, Option.getD_some]

theorem writeImage_eq_foldlM :
    writeImage pagesize hdr sections =
      (writeCalls pagesize hdr sections).foldlM (WriteCall.run hdr sections) [] := by
  simp only [writeCalls, sectionCalls, List.cons_append, List.foldlM_cons, List.foldlM_append,
    foldlM_paddingCalls, foldlM_secondCalls, foldlM_dtCalls, foldlM_signatureCalls,
    List.append_assoc]
  rfl

end Calls

section Bounds

variable {pagesize : UInt32} {hdr : BootImgHdr} {sections : Sections}

def WriteCall.Sized (hdr : BootImgHdr) (sections : Sections) (call : WriteCall) : Prop :=
  call.source ≠ .signature ∧ call.Takes hdr sections

theorem WriteCall.Sized.inBounds {call : WriteCall} (h : call.Sized hdr sections) :
    call.InBounds hdr sections := by
  obtain ⟨hsource, htakes⟩ := h
  obtain ⟨source, count⟩ := call
  cases source with
  | signature => exact absurd rfl hsource
  | padding =>
    rw [WriteCall.InBounds, Source.bytes, length_zeros]
    exact htakes
  | header => exact Nat.le_of_eq htakes
  | kernel => exact Nat.le_of_eq htakes
  | ramdisk => exact Nat.le_of_eq htakes
  | second => exact Nat.le_of_eq htakes
  | dt => exact Nat.le_of_eq htakes

theorem sized_paddingCalls (hpage : pagesize ∈ pagesizes) (itemsize : UInt32) :
    ∀ call ∈ paddingCalls pagesize itemsize, call.Sized hdr sections := by
  intro call hcall
  obtain ⟨bits, -, hbits⟩ := exists_two_pow_of_mem_pagesizes hpage
  unfold paddingCalls at hcall
  dsimp only at hcall
  split at hcall
  · cases hcall
  · rename_i hzero
    rw [List.mem_singleton.mp hcall]
    refine ⟨nofun, ?_⟩
    have hlt := padding_lt (pagesize_pos hpage) itemsize.toNat
    have hle := pagesize_le hpage
    rw [WriteCall.Takes, toNat_sub_and_mask hbits hzero]
    omega

theorem sized_sectionCalls (hpage : pagesize ∈ pagesizes) (lib : Libraries) (job : Job)
    (sections : Sections) :
    ∀ call ∈ sectionCalls pagesize (makeHeader lib job sections) sections,
      call.Sized (makeHeader lib job sections) sections := by
  have hpadding : ∀ itemsize, ∀ call ∈ paddingCalls pagesize itemsize,
      call.Sized (makeHeader lib job sections) sections := sized_paddingCalls hpage
  simp only [sectionCalls, List.cons_append, List.append_assoc, List.forall_mem_cons,
    List.forall_mem_append]
  refine ⟨⟨nofun, (BootImgHdr.length_bytes _).symm⟩, hpadding _,
    ⟨nofun, sections.kernel.toNat_size⟩, hpadding _,
    ⟨nofun, sections.ramdisk.toNat_size⟩, hpadding _, ?_, ?_⟩
  · cases sections.second with
    | none => simp [secondCalls]
    | some second =>
      rw [secondCalls, List.forall_mem_cons]
      exact ⟨⟨nofun, Buffer.toNat_size _⟩, hpadding _⟩
  · cases sections.dt with
    | none => simp [dtCalls]
    | some dt =>
      rw [dtCalls, List.forall_mem_cons]
      exact ⟨⟨nofun, Buffer.toNat_size _⟩, hpadding _⟩

theorem takes_signatureCalls (signature? : Option Buffer) :
    ∀ call ∈ signatureCalls signature?, call.Takes hdr sections := by
  cases signature? with
  | none => simp [signatureCalls]
  | some signature =>
    intro call hcall
    rw [List.mem_singleton.mp hcall]
    rfl

theorem inBounds_signatureCalls_iff :
    (∀ call ∈ signatureCalls sections.signature, call.InBounds hdr sections) ↔
      ∀ signature ∈ sections.signature, 256 ≤ signature.data.length := by
  cases hsignature : sections.signature with
  | none => simp [signatureCalls]
  | some signature =>
    simp only [signatureCalls, List.forall_mem_singleton, WriteCall.InBounds, Source.bytes, dataOf,
      hsignature, Option.getD_some, Option.mem_def, Option.some.injEq, forall_eq']
    rfl

end Bounds

/-- A section that comes from a file holds all of it, unless the file is too long for an
`int`. -/
def LoadedFrom (host : HostFiles) (fn : Option CString) (section? : Option Buffer) : Prop :=
  match fn with
  | none => section? = none
  | some fn => ∃ buffer, section? = some buffer ∧
      ∀ bytes, host.contents fn = some bytes → bytes.length < 2 ^ 31 → buffer.data = bytes

/-- Where the sections come from. -/
structure Loaded (host : HostFiles) (job : Job) (sections : Sections) : Prop where
  kernel : LoadedFrom host (some job.kernelFn) (some sections.kernel)
  ramdisk : job.ramdiskFn ≠ "NONE".toList →
    LoadedFrom host (some job.ramdiskFn) (some sections.ramdisk)
  noRamdisk : job.ramdiskFn = "NONE".toList → sections.ramdisk.data = []
  second : LoadedFrom host job.secondFn sections.second
  dt : job.dtDir = none ∨ job.dtFn.isSome → LoadedFrom host job.dtFn sections.dt
  signature : LoadedFrom host job.sigFn sections.signature

section Loading

variable {host : HostFiles}

theorem loadedFrom_of_loadBuffer {fn : CString} {buffer : Buffer}
    (h : loadBuffer (host.contents fn) = .ok buffer) :
    LoadedFrom host (some fn) (some buffer) := by
  refine ⟨buffer, rfl, ?_⟩
  intro bytes hbytes hlength
  rw [hbytes, loadBuffer_of_length_lt hlength] at h
  cases h
  rfl

theorem loadedFrom_of_loadOptional {fn : Option CString} {section? : Option Buffer}
    (h : loadOptional host fn = .ok section?) : LoadedFrom host fn section? := by
  cases fn with
  | none =>
    cases h
    rfl
  | some fn =>
    obtain ⟨buffer, hbuffer, h⟩ := bind_eq_ok h
    cases h
    exact loadedFrom_of_loadBuffer hbuffer

def loadRamdisk (host : HostFiles) (job : Job) : Except Stop Buffer :=
  if job.ramdiskFn = "NONE".toList then .ok Buffer.empty
  else loadBuffer (host.contents job.ramdiskFn)

def loadDtDir (lib : Libraries) (host : HostFiles) (job : Job) : Except Stop (Option Buffer) :=
  match job.dtDir with
  | some dir => do pure (some (← loadDtBuffer lib (host.listing dir) job.pagesize.val))
  | none => .ok none

theorem loadSections_eq_bind (lib : Libraries) (host : HostFiles) (job : Job) :
    loadSections lib host job = (do
      let kernel ← loadBuffer (host.contents job.kernelFn)
      let ramdisk ← loadRamdisk host job
      let second ← loadOptional host job.secondFn
      let dtOfDir ← loadDtDir lib host job
      let dtOfFile ← loadOptional host job.dtFn
      let signature ← loadOptional host job.sigFn
      return { kernel, ramdisk, second, dt := dtOfFile.or dtOfDir, signature }) := by
  cases hdir : job.dtDir <;> by_cases hname : job.ramdiskFn = "NONE".toList <;>
    simp only [loadSections, loadRamdisk, loadDtDir, hdir, hname, if_true, if_false, ok_bind,
      bind_assoc, pure_bind]

theorem loaded_of_loadSections {lib : Libraries} {job : Job} {sections : Sections}
    (h : loadSections lib host job = .ok sections) : Loaded host job sections := by
  rw [loadSections_eq_bind] at h
  obtain ⟨kernel, hkernel, h⟩ := bind_eq_ok h
  obtain ⟨ramdisk, hramdisk, h⟩ := bind_eq_ok h
  obtain ⟨second, hsecond, h⟩ := bind_eq_ok h
  obtain ⟨dtOfDir, hdir, h⟩ := bind_eq_ok h
  obtain ⟨dtOfFile, hfile, h⟩ := bind_eq_ok h
  obtain ⟨signature, hsignature, h⟩ := bind_eq_ok h
  cases h
  refine ⟨loadedFrom_of_loadBuffer hkernel, ?_, ?_, loadedFrom_of_loadOptional hsecond, ?_,
    loadedFrom_of_loadOptional hsignature⟩
  · intro hname
    rw [loadRamdisk, if_neg hname] at hramdisk
    exact loadedFrom_of_loadBuffer hramdisk
  · intro hname
    rw [loadRamdisk, if_pos hname] at hramdisk
    cases hramdisk
    rfl
  · intro hsource
    have hdt := loadedFrom_of_loadOptional hfile
    cases hfn : job.dtFn with
    | some fn =>
      rw [hfn] at hdt
      obtain ⟨buffer, rfl, hbytes⟩ := hdt
      exact ⟨buffer, rfl, hbytes⟩
    | none =>
      rw [hfn] at hdt hsource
      rcases hsource with hsource | hsource
      · rw [loadDtDir, hsource] at hdir
        cases hdir
        cases hdt
        rfl
      · cases hsource

end Loading

/-- Every write but the one of the signature takes what its buffer holds: sections as a
whole, padding at most the array.  So all of them stay within their buffers exactly
when a signature that is given has at least 256 bytes. -/
theorem mkbootimg_writes_inBounds_iff {lib : Libraries} {host : HostFiles}
    {argv : List CString} {job : Job} {sections : Sections}
    (hprepare : prepare lib host argv = .ok (job, sections)) :
    let hdr := makeHeader lib job sections
    let calls := writeCalls job.pagesize.val hdr sections
    (host.creates job.bootimg = true →
      mkbootimg lib host argv = calls.foldlM (WriteCall.run hdr sections) []) ∧
    Loaded host job sections ∧
    (∀ call ∈ calls, call.Takes hdr sections) ∧
    ((∀ call ∈ calls, call.InBounds hdr sections) ↔
      ∀ signature ∈ sections.signature, 256 ≤ signature.data.length) := by
  intro hdr calls
  have hsized := sized_sectionCalls job.pagesize.property lib job sections
  refine ⟨?_, ?_, ?_, ?_⟩
  · intro hcreates
    rw [mkbootimg_eq_writeImage hprepare hcreates]
    exact writeImage_eq_foldlM job.pagesize.val hdr sections
  · obtain ⟨options, -, hprepare⟩ := bind_eq_ok hprepare
    obtain ⟨job', -, hprepare⟩ := bind_eq_ok hprepare
    obtain ⟨sections', hload, hprepare⟩ := bind_eq_ok hprepare
    cases hprepare
    exact loaded_of_loadSections hload
  · simp only [calls, writeCalls, List.forall_mem_append]
    exact ⟨fun call hcall => (hsized call hcall).2, takes_signatureCalls _⟩
  · simp only [calls, writeCalls, List.forall_mem_append, inBounds_signatureCalls_iff]
    exact and_iff_right fun call hcall => (hsized call hcall).inBounds

def signedSections : Sections :=
  sampleSections ⟨[1], by decide⟩ ⟨[2], by decide⟩ ⟨[3], by decide⟩

theorem mkbootimg_writes_inBounds_sample :
    prepare sampleLibraries (sampleHost [1] [2] [3]) sampleArgv =
        .ok (sampleJob, signedSections) ∧
      ∀ call ∈ writeCalls 2048 (makeHeader sampleLibraries sampleJob signedSections)
          signedSections,
        call.InBounds (makeHeader sampleLibraries sampleJob signedSections) signedSections := by
  have hprepare : prepare sampleLibraries (sampleHost [1] [2] [3]) sampleArgv =
      .ok (sampleJob, signedSections) :=
    prepare_sample (show [1].length < 2 ^ 31 by decide) (show [2].length < 2 ^ 31 by decide)
      (show [3].length < 2 ^ 31 by decide)
  exact ⟨hprepare,
    (mkbootimg_writes_inBounds_iff hprepare).2.2.2.mpr (sampleSections_signature _ _ _)⟩

section ShortSignature

theorem writeImage_of_short {pagesize : UInt32} (hpage : pagesize ∈ pagesizes) (lib : Libraries)
    (job : Job) {sections : Sections} {signature : Buffer}
    (hsignature : sections.signature = some signature) (hshort : signature.data.length < 256) :
    writeImage pagesize (makeHeader lib job sections) sections = .error .undefined := by
  rw [writeImage_eq_writeSignature hpage, hsignature]
  exact if_neg (Nat.not_le.mpr hshort)

def shortHost : HostFiles where
  contents := fun fn =>
    if fn = "signature".toList then some [7, 8, 9]
    else (sampleHost [1] [2] [3]).contents fn
  listing := fun _ => none
  creates := fun _ => true

def shortSections : Sections where
  kernel := ⟨[1], by decide⟩
  ramdisk := ⟨[2], by decide⟩
  second := some ⟨[3], by decide⟩
  dt := none
  signature := some ⟨[7, 8, 9], by decide⟩

theorem prepare_short : prepare sampleLibraries shortHost sampleArgv =
    .ok (sampleJob, shortSections) := rfl

end ShortSignature

/-- A signature of three bytes is accepted, and 256 bytes are written from its buffer. -/
theorem mkbootimg_reads_beyond_signature :
    prepare sampleLibraries shortHost sampleArgv = .ok (sampleJob, shortSections) ∧
      ⟨.signature, 256⟩ ∈ writeCalls 2048 (makeHeader sampleLibraries sampleJob shortSections)
        shortSections ∧
      (Source.signature.bytes (makeHeader sampleLibraries sampleJob shortSections)
        shortSections).length = 3 ∧
      mkbootimg sampleLibraries shortHost sampleArgv = .error .undefined := by
  refine ⟨prepare_short, ?_, rfl, ?_⟩
  · exact List.mem_append_right _ (List.mem_singleton_self _)
  · rw [mkbootimg_eq_writeImage prepare_short rfl]
    exact writeImage_of_short sampleJob.pagesize.property sampleLibraries sampleJob rfl (by decide)

end Exynos9810.Dtbhtool
