import Exynos9810.Dtbhtool.BootImgHdr
import Exynos9810.Dtbhtool.Dtbimg

/-!
# `mkbootimg.c`: packing a boot image

From the command line to the bytes of the output file.  The file system of the
build host and the libraries the tool links against are parameters.
-/
namespace Exynos9810.Dtbhtool

open ByteString Paging

/-- A page size that the option parser lets through. -/
abbrev Pagesize := { size : UInt32 // size ∈ pagesizes }

/-- Loaded data whose size is kept in an `unsigned`. -/
structure Buffer where
  data : Bytes
  fits : data.length < 2 ^ 32

def Buffer.empty : Buffer :=
  ⟨[], by decide⟩

def Buffer.size (buffer : Buffer) : UInt32 :=
  UInt32.ofNat buffer.data.length

@[ext] theorem Buffer.ext {left right : Buffer} (h : left.data = right.data) : left = right := by
  cases left
  cases right
  cases h
  rfl

@[simp] theorem Buffer.toNat_size (buffer : Buffer) :
    buffer.size.toNat = buffer.data.length :=
  UInt32.toNat_ofNat_of_lt' buffer.fits

/-- libfdt, `qsort` and the one-shot form of `SHA1_Init`, `SHA1_Update`, `SHA1_Final`. -/
structure Libraries where
  fdt : Libfdt
  qsort : (DtEntry → DtEntry → Int) → List DtEntry → List DtEntry
  sha1 : Bytes → CharArray 20

structure HostFiles where
  contents : CString → Option Bytes
  listing : CString → Option (List DirEntry)
  creates : CString → Bool

section Strtoul

/-- The characters that `isspace` accepts in the C locale. -/
def isSpace (c : Char) : Bool :=
  c = ' ' || (9 ≤ c.toNat && c.toNat ≤ 13)

def digitValue (base : Nat) (c : Char) : Option Nat :=
  let value :=
    if c.isDigit then c.toNat - '0'.toNat
    else if c.isLower then c.toNat - 'a'.toNat + 10
    else if c.isUpper then c.toNat - 'A'.toNat + 10
    else base
  if value < base then some value else none

def digitsValue (base : Nat) : Nat → CString → Nat
  | value, [] => value
  | value, c :: rest =>
    match digitValue base c with
    | some digit => digitsValue base (value * base + digit) rest
    | none => value

/-- Base 16 allows `0x` when a digit follows it. -/
def skipRadix (base : Nat) (text : CString) : CString :=
  match text with
  | '0' :: x :: c :: rest =>
    if base = 16 && (x = 'x' || x = 'X') && (digitValue 16 c).isSome then c :: rest else text
  | _ => text

def magnitude (base : Nat) (text : CString) : Nat :=
  digitsValue base 0 (skipRadix base text)

/-- `strtoul` of an LP64 host.  A magnitude out of range yields `ULONG_MAX`
whatever its sign. -/
def strtoul (text : CString) (base : Nat) : UInt64 :=
  let signed (value : Nat) (negative : Bool) : UInt64 :=
    if 2 ^ 64 ≤ value then 0xffffffffffffffff
    else if negative then 0 - UInt64.ofNat value else UInt64.ofNat value
  match text.dropWhile isSpace with
  | '-' :: rest => signed (magnitude base rest) true
  | '+' :: rest => signed (magnitude base rest) false
  | rest => signed (magnitude base rest) false

end Strtoul

structure Options where
  kernelFn : Option CString := none
  ramdiskFn : Option CString := none
  secondFn : Option CString := none
  cmdline : CString := []
  bootimg : Option CString := none
  board : CString := []
  dtDir : Option CString := none
  dtFn : Option CString := none
  sigFn : Option CString := none
  pagesize : Pagesize := ⟨2048, by decide⟩
  base : UInt32 := 0x10000000
  kernelOffset : UInt32 := 0x00008000
  ramdiskOffset : UInt32 := 0x01000000
  secondOffset : UInt32 := 0x00f00000
  tagsOffset : UInt32 := 0x00000100

def setOption (options : Options) (arg val : CString) : Except Stop Options :=
  if arg = "--output".toList ∨ arg = "-o".toList then .ok { options with bootimg := some val }
  else if arg = "--kernel".toList then .ok { options with kernelFn := some val }
  else if arg = "--ramdisk".toList then .ok { options with ramdiskFn := some val }
  else if arg = "--second".toList then .ok { options with secondFn := some val }
  else if arg = "--cmdline".toList then .ok { options with cmdline := val }
  else if arg = "--base".toList then .ok { options with base := (strtoul val 16).toUInt32 }
  else if arg = "--kernel_offset".toList then
    .ok { options with kernelOffset := (strtoul val 16).toUInt32 }
  else if arg = "--ramdisk_offset".toList then
    .ok { options with ramdiskOffset := (strtoul val 16).toUInt32 }
  else if arg = "--second_offset".toList then
    .ok { options with secondOffset := (strtoul val 16).toUInt32 }
  else if arg = "--tags_offset".toList then
    .ok { options with tagsOffset := (strtoul val 16).toUInt32 }
  else if arg = "--board".toList then .ok { options with board := val }
  else if arg = "--pagesize".toList then
    let pagesize := (strtoul val 10).toUInt32
    if h : pagesize ∈ pagesizes then .ok { options with pagesize := ⟨pagesize, h⟩ }
    else .error (.exit (-1))
  else if arg = "--dt_dir".toList then .ok { options with dtDir := some val }
  else if arg = "--dt".toList then .ok { options with dtFn := some val }
  else if arg = "--signature".toList then .ok { options with sigFn := some val }
  else .error (.exit 1)

def parseArgs : Options → List CString → Except Stop Options
  | options, [] => .ok options
  | _, [_] => .error (.exit 1)
  | options, arg :: val :: rest => do parseArgs (← setOption options arg val) rest

structure Job where
  kernelFn : CString
  ramdiskFn : CString
  secondFn : Option CString
  bootimg : CString
  dtDir : Option CString
  dtFn : Option CString
  sigFn : Option CString
  pagesize : Pagesize
  kernelAddr : UInt32
  ramdiskAddr : UInt32
  secondAddr : UInt32
  tagsAddr : UInt32
  board : { board : CString // board.length < bootNameSize }
  cmdline : { cmdline : CString // cmdline.length ≤ bootArgsSize - 1 }

def checkOptions (options : Options) : Except Stop Job := do
  if options.dtDir.isSome && options.dtFn.isSome then .error (.exit 1)
  else
    let some bootimg := options.bootimg | .error (.exit 1)
    let some kernelFn := options.kernelFn | .error (.exit 1)
    let some ramdiskFn := options.ramdiskFn | .error (.exit 1)
    if hboard : options.board.length < bootNameSize then
      if hcmdline : options.cmdline.length ≤ bootArgsSize - 1 then
        .ok
          { kernelFn, ramdiskFn, bootimg
            secondFn := options.secondFn, dtDir := options.dtDir
            dtFn := options.dtFn, sigFn := options.sigFn
            pagesize := options.pagesize
            kernelAddr := options.base + options.kernelOffset
            ramdiskAddr := options.base + options.ramdiskOffset
            secondAddr := options.base + options.secondOffset
            tagsAddr := options.base + options.tagsOffset
            board := ⟨options.board, hboard⟩, cmdline := ⟨options.cmdline, hcmdline⟩ }
      else .error (.exit 1)
    else .error (.exit 1)

/-- The data that goes into the image.  No ramdisk (`NONE`) is an empty one. -/
structure Sections where
  kernel : Buffer
  ramdisk : Buffer
  second : Option Buffer
  dt : Option Buffer
  signature : Option Buffer

/-- `load_file` and the check that follows each of its calls. -/
def loadBuffer (contents : Option Bytes) : Except Stop Buffer :=
  match h : loadFile contents with
  | some data => .ok ⟨data, Nat.lt_trans (length_lt_of_loadFile h) (by decide)⟩
  | none => .error (.exit 1)

def loadDtBuffer (lib : Libraries) (dir : Option (List DirEntry)) (pagesize : UInt32) :
    Except Stop Buffer :=
  match h : loadDtbhBlock lib.fdt lib.qsort dir pagesize with
  | .ok (some block) => .ok ⟨block.image, length_image_lt h⟩
  | .ok none => .error (.exit 1)
  | .error stop => .error stop

def loadOptional (host : HostFiles) : Option CString → Except Stop (Option Buffer)
  | some fn => do return some (← loadBuffer (host.contents fn))
  | none => .ok none

def loadSections (lib : Libraries) (host : HostFiles) (job : Job) : Except Stop Sections := do
  let kernel ← loadBuffer (host.contents job.kernelFn)
  let ramdisk ←
    if job.ramdiskFn = "NONE".toList then .ok Buffer.empty
    else loadBuffer (host.contents job.ramdiskFn)
  let second ← loadOptional host job.secondFn
  let dtOfDir ←
    match job.dtDir with
    | some dir => do pure (some (← loadDtBuffer lib (host.listing dir) job.pagesize.val))
    | none => .ok none
  let dtOfFile ← loadOptional host job.dtFn
  let signature ← loadOptional host job.sigFn
  return { kernel, ramdisk, second, dt := dtOfFile.or dtOfDir, signature }

def sizeOf (section? : Option Buffer) : UInt32 :=
  (section?.getD Buffer.empty).size

/-- The bytes that the `SHA1_Update` calls feed to the digest. -/
def digestInput (sections : Sections) : Bytes :=
  let update (buffer : Buffer) : Bytes := buffer.data ++ le32 buffer.size
  update sections.kernel ++ update sections.ramdisk ++
    update (sections.second.getD Buffer.empty) ++
    match sections.dt with
    | some dt => update dt
    | none => []

def stringBytes (text : CString) : Bytes :=
  text.map fun c => UInt8.ofNat c.toNat

def makeHeader (lib : Libraries) (job : Job) (sections : Sections) : BootImgHdr where
  magic := CharArray.ofBytes bootMagicSize bootMagic
  kernelSize := sections.kernel.size
  kernelAddr := job.kernelAddr
  ramdiskSize := sections.ramdisk.size
  ramdiskAddr := job.ramdiskAddr
  secondSize := sizeOf sections.second
  secondAddr := job.secondAddr
  tagsAddr := job.tagsAddr
  pageSize := job.pagesize.val
  dtSize := sizeOf sections.dt
  unused := 0
  name := CharArray.ofBytes bootNameSize (stringBytes job.board.val)
  cmdline := CharArray.ofBytes bootArgsSize (stringBytes job.cmdline.val)
  id := CharArray.ofBytes 32 (lib.sha1 (digestInput sections)).val

/-- `write` of `count` bytes of a buffer to the end of the file. -/
def write (file buffer : Bytes) (count : UInt32) : Except Stop Bytes :=
  if count.toNat ≤ buffer.length then .ok (file ++ buffer.take count.toNat)
  else .error .undefined

def writePadding (file : Bytes) (pagesize itemsize : UInt32) : Except Stop Bytes :=
  let pagemask := pagesize - 1
  if itemsize &&& pagemask = 0 then .ok file
  else write file (zeros 131072) (pagesize - (itemsize &&& pagemask))

/-- The padding is computed from the size of the ramdisk. -/
def writeSecond (file : Bytes) (pagesize : UInt32) (hdr : BootImgHdr) :
    Option Buffer → Except Stop Bytes
  | some second => do
    let file ← write file second.data hdr.secondSize
    writePadding file pagesize hdr.ramdiskSize
  | none => .ok file

def writeDt (file : Bytes) (pagesize : UInt32) (hdr : BootImgHdr) :
    Option Buffer → Except Stop Bytes
  | some dt => do
    let file ← write file dt.data hdr.dtSize
    writePadding file pagesize hdr.dtSize
  | none => .ok file

def writeSignature (file : Bytes) : Option Buffer → Except Stop Bytes
  | some signature => write file signature.data 256
  | none => .ok file

def writeImage (pagesize : UInt32) (hdr : BootImgHdr) (sections : Sections) :
    Except Stop Bytes := do
  let file ← write [] hdr.bytes BootImgHdr.sizeof
  let file ← writePadding file pagesize BootImgHdr.sizeof
  let file ← write file sections.kernel.data hdr.kernelSize
  let file ← writePadding file pagesize hdr.kernelSize
  let file ← write file sections.ramdisk.data hdr.ramdiskSize
  let file ← writePadding file pagesize hdr.ramdiskSize
  let file ← writeSecond file pagesize hdr sections.second
  let file ← writeDt file pagesize hdr sections.dt
  writeSignature file sections.signature

def prepare (lib : Libraries) (host : HostFiles) (argv : List CString) :
    Except Stop (Job × Sections) := do
  let job ← checkOptions (← parseArgs {} argv)
  return (job, ← loadSections lib host job)

/-- `main`: the bytes of the output file. -/
def mkbootimg (lib : Libraries) (host : HostFiles) (argv : List CString) :
    Except Stop Bytes := do
  let (job, sections) ← prepare lib host argv
  if host.creates job.bootimg then
    writeImage job.pagesize.val (makeHeader lib job sections) sections
  else .error (.exit 1)

end Exynos9810.Dtbhtool
