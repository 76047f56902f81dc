import Exynos9810.Dtbhtool.Mkbootimg
import Exynos9810.Dtbhtool.Stdio

namespace Exynos9810.Dtbhtool

open ByteString

/-- What `malloc` gives for the padding: nothing for a page size that is negative as an
`int`. -/
def paddingBuffer (pagesize : UInt32) : Nat :=
  if pagesize.toNat < 2 ^ 31 then pagesize.toNat else 0

def readPadding (file : Bytes) (memory : Memory) (itemsize pagesize : UInt32) : Tool Unit :=
  let pagemask := pagesize - 1
  if itemsize &&& pagemask = 0 then pure ()
  else do
    let count := pagesize - (itemsize &&& pagemask)
    let _ ← freadInto file (paddingBuffer pagesize) (memory 0 count.toNat).val

def writeStringToFile (path : CString) (text : Bytes) : Tool Unit := do
  let f ← fopen path
  fwrite text f
  fwrite [0x0a] f
  fclose f

structure UnpackOptions where
  directory : Option CString := some "./".toList
  filename : Option CString := none
  pagesize : UInt32 := 0

/-- One turn of the option loop; a value that is missing at the end is null.
`none` is the call of `usage`. -/
def setUnpackOption (options : UnpackOptions) (arg : CString) (val : Option CString) :
    Except Stop (Option UnpackOptions) :=
  if arg = "--input".toList ∨ arg = "-i".toList then
    .ok (some { options with filename := val })
  else if arg = "--output".toList ∨ arg = "-o".toList then
    .ok (some { options with directory := val })
  else if arg = "--pagesize".toList ∨ arg = "-p".toList then
    match val with
    | some size => .ok (some { options with pagesize := (strtoul size 16).toUInt32 })
    | none => .error .undefined
  else .ok none

def parseUnpackArgs : UnpackOptions → List CString → Except Stop (Option UnpackOptions)
  | options, [] => .ok (some options)
  | options, [arg] => setUnpackOption options arg none
  | options, arg :: val :: rest => do
    match ← setUnpackOption options arg (some val) with
    | some options => parseUnpackArgs options rest
    | none => return none

def basename (path : CString) : CString :=
  let trimmed := path.reverse.dropWhile (· = '/')
  if path = [] then ".".toList
  else if trimmed = [] then "/".toList
  else (trimmed.takeWhile (· ≠ '/')).reverse

def outputName (directory filename : CString) (suffix : String) : CString :=
  directory ++ '/' :: basename filename ++ suffix.toList

/-- The name as it is built in `tmp[PATH_MAX]`. -/
def tmpName (directory : Option CString) (filename : CString) (suffix : String) : Tool CString :=
  match directory with
  | some directory =>
    let name := outputName directory filename suffix
    if name.length < 4096 then pure name else Tool.stop .undefined
  | none => Tool.stop .undefined

/-- The search for the magic, at most `left` further positions from `i` on. -/
def findMagic (file : Bytes) : Nat → Nat → Bytes → Option Nat
  | 0, _, _ => none
  | left + 1, i, tmp =>
    let tmp := filled file i tmp
    if tmp = bootMagic then some i else findMagic file left (i + 1) tmp

def cString (array : Bytes) : Except Stop Bytes :=
  if 0 ∈ array then .ok (array.takeWhile (· ≠ 0)) else .error .undefined

def hexDigit (value : Nat) : UInt8 :=
  UInt8.ofNat (if value < 10 then '0'.toNat + value else 'a'.toNat + (value - 10))

/-- The format `%08x`. -/
def hex8 (word : UInt32) : Bytes :=
  [7, 6, 5, 4, 3, 2, 1, 0].map fun place => hexDigit (word.toNat / 16 ^ place % 16)

def headerTexts (header : BootImgHdr) (cmdline : Bytes) : List (String × Bytes) :=
  [("-cmdline", cmdline),
    ("-base", hex8 (header.kernelAddr - 0x00008000)),
    ("-ramdisk_offset", hex8 (header.ramdiskAddr - header.kernelAddr + 0x00008000)),
    ("-second_offset", hex8 (header.secondAddr - header.kernelAddr + 0x00008000)),
    ("-tags_offset", hex8 (header.tagsAddr - header.kernelAddr + 0x00008000)),
    ("-pagesize", ascii (toString header.pageSize.toInt32.toInt))]

def writeTexts (directory : Option CString) (filename : CString) : List (String × Bytes) → Tool Unit
  | [] => pure ()
  | (suffix, text) :: rest => do
    writeStringToFile (← tmpName directory filename suffix) text
    writeTexts directory filename rest

/-- The suffix is chosen by the first two bytes, read only as far as needed. -/
def ramdiskSuffix : Bytes → Except Stop String
  | 0x02 :: 0x21 :: _ => .ok "-ramdisk.lz4"
  | [0x02] => .error .undefined
  | [] => .error .undefined
  | _ => .ok "-ramdisk.gz"

/-- What the extraction works with once the header has been read. -/
structure Unpacking where
  directory : Option CString
  filename : CString
  file : Bytes
  memory : Memory
  header : BootImgHdr
  pagesize : UInt32

namespace Unpacking

variable (u : Unpacking)

def skip (itemsize : UInt32) : Tool Unit :=
  readPadding u.file u.memory itemsize u.pagesize

def kernel : Tool Unit := do
  let k ← fopen (← tmpName u.directory u.filename "-zImage")
  let kernel ← fread u.file (u.memory 1 u.header.kernelSize.toNat).val
  fwrite kernel k
  fclose k

/-- Returns the stream, which is closed by then. -/
def ramdisk : Tool Nat := do
  let ramdisk ← fread u.file (u.memory 2 u.header.ramdiskSize.toNat).val
  let suffix ← Tool.ofExcept (ramdiskSuffix ramdisk)
  let r ← fopen (← tmpName u.directory u.filename suffix)
  fwrite ramdisk r
  fclose r
  return r

/-- The second stage, the device tree and the signature: each output is opened,
but the data goes to the stream of the ramdisk. -/
def extract (r : Nat) (suffix : String) (buffer : CharArray size) : Tool Unit := do
  let s ← fopen (← tmpName u.directory u.filename suffix)
  let data ← fread u.file buffer.val
  fwrite data r
  fclose s

def rest (r : Nat) : Tool Int := do
  u.extract r "-second" (u.memory 3 u.header.secondSize.toNat)
  u.skip u.header.secondSize
  u.extract r "-dt" (u.memory 4 u.header.dtSize.toNat)
  u.skip u.header.dtSize
  u.extract r "-signature" (u.memory 5 256)
  return 0

def run : Tool Int := do
  let cmdline ← Tool.ofExcept (cString u.header.cmdline.val)
  writeTexts u.directory u.filename (headerTexts u.header cmdline)
  u.skip BootImgHdr.sizeof
  u.kernel
  u.skip u.header.kernelSize
  let r ← u.ramdisk
  u.skip u.header.ramdiskSize
  u.rest r

end Unpacking

def unpackFile (options : UnpackOptions) (filename : CString) (file : Bytes)
    (memory : Memory) : Tool Int :=
  match findMagic file 513 0 (memory 6 bootMagicSize).val with
  | none => pure 1
  | some i => do
    fseek i
    let header := BootImgHdr.ofFile (← fread file (memory 7 BootImgHdr.sizeof.toNat).val)
    let pagesize := if options.pagesize = 0 then header.pageSize else options.pagesize
    Unpacking.run { directory := options.directory, filename, file, memory, header, pagesize }

def unpackOptions (contents : CString → Option Bytes) (memory : Memory) :
    Option UnpackOptions → Tool Int
  | none => pure 0
  | some options =>
    match options.filename with
    | none => pure 0
    | some filename =>
      match contents filename with
      | none => Tool.stop .undefined
      | some file => unpackFile options filename file memory

/-- `main`: the status and what is on the disk when the program ends. -/
def unpackbootimg (contents : CString → Option Bytes) (memory : Memory) (argv : List CString) :
    Except Stop Int × Stdio :=
  Tool.run (do unpackOptions contents memory (← Tool.ofExcept (parseUnpackArgs {} argv)))
    Stdio.start

end Exynos9810.Dtbhtool
