import Exynos9810.Dtbhtool.DtbimgLocate
import Exynos9810.Dtbhtool.Mkbootimg

/-!
# `mkdtbimg.c`: writing the DTBH block to a file

The option loop takes two arguments at a time, without looking whether the
second is there.  The page size is 0 until an `-s` is met.
-/
namespace Exynos9810.Dtbhtool

open ByteString Paging

/-- `strtol` of an LP64 host, base 10, which saturates. -/
def strtol (text : CString) : Int64 :=
  let signed (value : Nat) : Int64 :=
    if 2 ^ 63 ≤ value then Int64.maxValue else Int64.ofNat value
  match text.dropWhile isSpace with
  | '-' :: rest =>
    if 2 ^ 63 ≤ magnitude 10 rest then Int64.minValue else -Int64.ofNat (magnitude 10 rest)
  | '+' :: rest => signed (magnitude 10 rest)
  | rest => signed (magnitude 10 rest)

namespace Mkdtbimg

structure Options where
  dtimg : Option CString := none
  dtDir : Option CString := none
  pagesize : UInt32 := 0

def defaultPagesize : UInt32 := 2048

/-- `strtol` converted to an `unsigned`. -/
def pagesizeWord (val : CString) : UInt32 :=
  (strtol val).toUInt64.toUInt32

def pagesizeOf (val : CString) : UInt32 :=
  if pagesizeWord val = 0 then defaultPagesize else pagesizeWord val

/-- One turn of the option loop.  `val` is the null pointer behind the last argument. -/
def setOption (isDir : CString → Bool) (options : Options) (arg : CString)
    (val : Option CString) : Except Stop Options :=
  if arg = "--output".toList ∨ arg = "-o".toList then .ok { options with dtimg := val }
  else if arg = "--dt_dir".toList then .ok { options with dtDir := val }
  else if arg = "-p".toList then .ok options
  else if arg = "-s".toList then
    match val with
    | some val => .ok { options with pagesize := pagesizeOf val }
    | none => .error .undefined
  else if isDir arg then .ok { options with dtDir := some arg }
  else .error (.exit 1)

def parseArgs (isDir : CString → Bool) : Options → List CString → Except Stop Options
  | options, [] => .ok options
  | options, [arg] => setOption isDir options arg none
  | options, arg :: val :: rest => do
    parseArgs isDir (← setOption isDir options arg (some val)) rest

/-- What `main` knows when it calls `load_dtbh_block`. -/
structure Job where
  dtimg : CString
  dtDir : CString
  pagesize : UInt32
  deriving DecidableEq

def acceptArgs (isDir : CString → Bool) (argv : List CString) : Except Stop Job := do
  let options ← parseArgs isDir {} argv
  let some dtimg := options.dtimg | .error (.exit 1)
  let some dtDir := options.dtDir | .error (.exit 1)
  return { dtimg, dtDir, pagesize := options.pagesize }

/-- `main`: the bytes of the output file. -/
def mkdtbimg (lib : Libraries) (host : HostFiles) (isDir : CString → Bool)
    (argv : List CString) : Except Stop Bytes := do
  let job ← acceptArgs isDir argv
  let dt ← loadDtBuffer lib (host.listing job.dtDir) job.pagesize
  if host.creates job.dtimg then write [] dt.data dt.size else .error (.exit 1)

/-- The value of the last `-s` in an option position. -/
def lastPagesize : List CString → Option CString
  | [] => none
  | [_] => none
  | arg :: val :: rest =>
    (lastPagesize rest).or (if arg = "-s".toList then some val else none)

section Arguments

variable {isDir : CString → Bool} {options options' : Options}

theorem setOption_pagesize {arg : CString} {val : Option CString}
    (h : setOption isDir options arg val = .ok options') :
    options'.pagesize =
      if arg = "-s".toList then (val.map pagesizeOf).getD options.pagesize
      else options.pagesize := by
  unfold setOption at h
  split_ifs at h with houtput hdir hp hs hisDir
  · cases h
    rcases houtput with rfl | rfl <;> rfl
  · cases h
    subst hdir
    rfl
  · cases h
    subst hp
    rfl
  · rw [if_pos hs]
    cases val with
    | none => cases h
    | some val =>
      cases h
      rfl
  · cases h
    rw [if_neg hs]

theorem parseArgs_pagesize {argv : List CString}
    (h : parseArgs isDir options argv = .ok options') :
    options'.pagesize = ((lastPagesize argv).map pagesizeOf).getD options.pagesize := by
  induction argv using lastPagesize.induct generalizing options with
  | case1 =>
    cases h
    rfl
  | case2 arg =>
    rw [setOption_pagesize h]
    split <;> rfl
  | case3 arg val rest ih =>
    obtain ⟨next, hnext, hrest⟩ := bind_eq_ok h
    rw [ih hrest, setOption_pagesize hnext, lastPagesize]
    cases lastPagesize rest with
    | some last => rfl
    | none => split <;> rfl

theorem acceptArgs_pagesize {argv : List CString} {job : Job}
    (h : acceptArgs isDir argv = .ok job) :
    job.pagesize = ((lastPagesize argv).map pagesizeOf).getD 0 := by
  obtain ⟨options, hparse, h⟩ := bind_eq_ok h
  have hpagesize := parseArgs_pagesize hparse
  cases hdtimg : options.dtimg with
  | none =>
    rw [hdtimg] at h
    cases h
  | some dtimg =>
    cases hdtDir : options.dtDir with
    | none =>
      rw [hdtimg, hdtDir] at h
      cases h
    | some dtDir =>
      rw [hdtimg, hdtDir] at h
      cases h
      exact hpagesize

end Arguments

section NoPagesize

variable {fdt : Libfdt} {qsort : (DtEntry → DtEntry → Int) → List DtEntry → List DtEntry}
  {listing : List DirEntry} {dtbs : List Dtb}

theorem maskUp_zero (size : UInt32) : maskUp 0 size = 0 := by
  have hmask : ~~~((0 : UInt32) - 1) = 0 := by decide
  rw [maskUp, hmask, UInt32.and_zero]

theorem gathered_blobSz_zero (dtbs : List Dtb) : (gathered 0 dtbs).blobSz = 0 := by
  induction dtbs using List.reverseRecOn with
  | nil => rfl
  | append_singleton dtbs dtb ih =>
    rw [gathered_append]
    change (gathered 0 dtbs).blobSz + maskUp 0 _ = 0
    rw [ih, maskUp_zero, UInt32.add_zero]

theorem loadDtbhBlock_zero (haccepted : acceptedDtbs fdt listing = .ok dtbs) (hne : dtbs ≠ [])
    (hcount : dtbs.length < 2 ^ 32) :
    loadDtbhBlock fdt qsort (some listing) 0 = .error .undefined := by
  have hpos := List.length_pos_iff.mpr hne
  have hnonzero : UInt32.ofNat dtbs.length ≠ 0 := by
    rw [ne_eq, ← UInt32.toNat_inj, UInt32.toNat_ofNat_of_lt' hcount]
    exact hpos.ne'
  have hgather := gather_eq_foldl haccepted 0 Gathered.start
  rw [← gathered] at hgather
  simp only [loadDtbhBlock, hgather, ok_bind, gathered_entryCount, if_neg hnonzero, maskUp_zero,
    gathered_blobSz_zero]
  rfl

end NoPagesize

/-- The page size is a power of two, the mask rounds up to whole pages, and the
copies for any accepted dtbs stay inside the block while no sum wraps. -/
structure Paged (pagesize : UInt32) : Prop where
  powerOfTwo : ∃ bits, pagesize.toNat = 2 ^ bits
  rounds : ∀ size : UInt32, roundUp pagesize.toNat size.toNat < 2 ^ 32 →
    (maskUp pagesize size).toNat = roundUp pagesize.toNat size.toNat
  inBounds : ∀ (fdt : Libfdt)
    (qsort : (DtEntry → DtEntry → Int) → List DtEntry → List DtEntry)
    (listing : List DirEntry) (dtbs : List Dtb),
    (∀ cmp entries, (qsort cmp entries).Perm entries) →
    acceptedDtbs fdt listing = .ok dtbs → dtbs ≠ [] →
    roundUp pagesize.toNat (declaredEnd dtbs.length) +
      extent pagesize.toNat (payloads dtbs) < 2 ^ 32 →
    ∃ block, loadDtbhBlock fdt qsort (some listing) pagesize = .ok (some block)

theorem paged_of_two_pow {pagesize : UInt32} {bits : Nat} (hpage : pagesize.toNat = 2 ^ bits) :
    Paged pagesize where
  powerOfTwo := ⟨bits, hpage⟩
  rounds := fun size hfits => toNat_maskUp hpage size hfits
  inBounds := by
    intro fdt qsort listing dtbs hqsort haccepted hne hfits
    obtain ⟨entries, -, blobs, hblock⟩ :=
      loadDtbhBlock_laidOut hqsort haccepted hne hpage hfits
    exact ⟨_, hblock⟩

theorem paged_pagesizeOf_iff (val : CString) :
    Paged (pagesizeOf val) ↔
      pagesizeWord val = 0 ∨ ∃ bits, (pagesizeWord val).toNat = 2 ^ bits := by
  unfold pagesizeOf
  split
  next hzero =>
    have hdefault : defaultPagesize.toNat = 2 ^ 11 := rfl
    exact ⟨fun _ => Or.inl hzero, fun _ => paged_of_two_pow hdefault⟩
  next hne =>
    constructor
    · intro hpaged
      exact Or.inr hpaged.powerOfTwo
    · rintro (hzero | ⟨bits, hbits⟩)
      · exact absurd hzero hne
      · exact paged_of_two_pow hbits

theorem not_paged_zero : ¬Paged 0 := by
  intro hpaged
  obtain ⟨bits, hbits⟩ := hpaged.powerOfTwo
  exact (Nat.two_pow_pos bits).ne hbits

theorem loadDtBuffer_error {lib : Libraries} {dir : Option (List DirEntry)} {pagesize : UInt32}
    {stop : Stop} (h : loadDtbhBlock lib.fdt lib.qsort dir pagesize = .error stop) :
    loadDtBuffer lib dir pagesize = .error stop := by
  unfold loadDtBuffer
  split
  next heq => rw [h] at heq; cases heq
  next heq => rw [h] at heq; cases heq
  next heq => rw [h] at heq; cases heq; rfl

theorem mkdtbimg_undefined {lib : Libraries} {host : HostFiles} {isDir : CString → Bool}
    {argv : List CString} {job : Job} (haccept : acceptArgs isDir argv = .ok job)
    (hlast : lastPagesize argv = none) {listing : List DirEntry} {dtbs : List Dtb}
    (hlisting : host.listing job.dtDir = some listing)
    (haccepted : acceptedDtbs lib.fdt listing = .ok dtbs) (hne : dtbs ≠ [])
    (hcount : dtbs.length < 2 ^ 32) :
    mkdtbimg lib host isDir argv = .error .undefined := by
  have hpagesize : job.pagesize = 0 := by
    rw [acceptArgs_pagesize haccept, hlast]
    rfl
  rw [mkdtbimg, haccept, ok_bind, hlisting, hpagesize,
    loadDtBuffer_error (loadDtbhBlock_zero haccepted hne hcount)]
  rfl

/-- **Page size.**  What an accepted command line hands to `load_dtbh_block` is a
sound page size if and only if it has an `-s`, and the last one gives zero or a
power of two.  Without an `-s` no dtb gets into the output file. -/
theorem pagesize_sound_iff (isDir : CString → Bool) (argv : List CString) (job : Job)
    (haccept : acceptArgs isDir argv = .ok job) :
    (Paged job.pagesize ↔
      ∃ val, lastPagesize argv = some val ∧
        (pagesizeWord val = 0 ∨ ∃ bits, (pagesizeWord val).toNat = 2 ^ bits)) ∧
    (lastPagesize argv = none → ∀ (lib : Libraries) (host : HostFiles) listing dtbs,
      host.listing job.dtDir = some listing → acceptedDtbs lib.fdt listing = .ok dtbs →
      dtbs ≠ [] → dtbs.length < 2 ^ 32 → mkdtbimg lib host isDir argv = .error .undefined) := by
  refine ⟨?_, fun hlast _ _ _ _ => mkdtbimg_undefined haccept hlast⟩
  rw [acceptArgs_pagesize haccept]
  cases lastPagesize argv with
  | none =>
    constructor
    · intro hpaged
      exact absurd hpaged not_paged_zero
    · rintro ⟨val, hval, -⟩
      cases hval
  | some last =>
    constructor
    · intro hpaged
      exact ⟨last, rfl, (paged_pagesizeOf_iff last).mp hpaged⟩
    · rintro ⟨val, hval, hpower⟩
      cases hval
      exact (paged_pagesizeOf_iff last).mpr hpower

def sampleArgs : List CString :=
  ["-o".toList, "dt.img".toList, "-s".toList, "512".toList, "--dt_dir".toList, "dtbs".toList]

theorem pagesize_sound_512 :
    acceptArgs (fun _ => true) sampleArgs = .ok ⟨"dt.img".toList, "dtbs".toList, 512⟩ ∧
      Paged 512 :=
  ⟨rfl, (pagesize_sound_iff (fun _ => true) sampleArgs ⟨"dt.img".toList, "dtbs".toList, 512⟩
    rfl).1.mpr ⟨"512".toList, rfl, Or.inr ⟨9, by decide⟩⟩⟩

/-- Without an `-s` the page size is 0, and a directory with one dtb makes the
copies run out of bounds. -/
theorem pagesize_unsound_without_option :
    acceptArgs (fun _ => true)
        ["-o".toList, "dt.img".toList, "--dt_dir".toList, "dtbs".toList] =
      .ok ⟨"dt.img".toList, "dtbs".toList, 0⟩ ∧
    ¬Paged 0 ∧
    loadDtbhBlock sampleFdt sampleSort (some (List.replicate 1 sampleEntry)) 0 =
      .error .undefined :=
  ⟨rfl, not_paged_zero, loadDtbhBlock_zero (acceptedDtbs_replicate 1) (by simp) (by simp)⟩

end Mkdtbimg

end Exynos9810.Dtbhtool
