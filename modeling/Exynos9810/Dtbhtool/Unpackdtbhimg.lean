import Exynos9810.Dtbhtool.Mkdtbimg
import Exynos9810.Dtbhtool.Stdio
import Exynos9810.Library.Numerals

/-!
# `unpackdtbhimg.c`: taking a DTBH image apart

One page of the image is read, and the table is indexed in it as far as the
count in the header says.  The image is not one of the output files.
-/
namespace Exynos9810.Dtbhtool

open ByteString Numerals

namespace Unpackdtbhimg

def atoi (text : CString) : Int32 :=
  (strtol text).toInt32

structure Options where
  dtbhimg : Option CString := none
  outputDir : Option CString := none
  pageSize : Int32 := 2048

/-- One turn of the option loop; other arguments are ignored.  `val` is the null
pointer behind the last argument. -/
def setOption (options : Options) (arg : CString) (val : Option CString) :
    Except Stop Options :=
  if arg = "--input".toList ∨ arg = "-i".toList then .ok { options with dtbhimg := val }
  else if arg = "--output".toList ∨ arg = "-o".toList then .ok { options with outputDir := val }
  else if arg = "--pagesize".toList ∨ arg = "-p".toList then
    match val with
    | some val => .ok { options with pageSize := atoi val }
    | none => .error .undefined
  else .ok options

def parseArgs : Options → List CString → Except Stop Options
  | options, [] => .ok options
  | options, [arg] => setOption options arg none
  | options, arg :: val :: rest => do parseArgs (← setOption options arg (some val)) rest

def dtNameLen : Nat := 64

/-- The format `/chip%u-0x%x-0x%x_rev%u-%u.`, followed by `tail`. -/
def nameStem (entry : TableEntry) (tail : CString) : CString :=
  "/chip".toList ++ (Nat.toDigits 10 entry.chip.toNat ++ '-' ::
    ("0x".toList ++ (Nat.toDigits 16 entry.platform.toNat ++ '-' ::
      ("0x".toList ++ (Nat.toDigits 16 entry.subtype.toNat ++ '_' ::
        ("rev".toList ++ (Nat.toDigits 10 entry.hwRev.toNat ++ '-' ::
          (Nat.toDigits 10 entry.hwRevEnd.toNat ++ '.' :: tail))))))))

/-- The name in `dest_file`, which `snprintf` cuts to the array. -/
def destFile (outputDir : CString) (entry : TableEntry) : CString :=
  (outputDir ++ nameStem entry "dtb".toList).take (dtNameLen + outputDir.length - 1)

/-- `creates` tells which files can be opened for writing. -/
def dumpDtb (creates : CString → Bool) (buffer : Bytes) (dest : CString) : Tool Unit :=
  if creates dest then do
    let output ← fopen dest
    fwrite buffer output
    fclose output
  else pure ()

/-- `header->entries[i]` in a buffer of one page. -/
def entryAt (header : Bytes) (i : Nat) : Except Stop TableEntry :=
  if tableEnd (i + 1) ≤ header.length then .ok (readEntry header (tableEnd i))
  else .error .undefined

/-- What the extraction works with once the header has been read. -/
structure Unpacking where
  file : Bytes
  memory : Memory
  creates : CString → Bool
  outputDir : CString
  header : Bytes

namespace Unpacking

variable (u : Unpacking)

/-- One turn of the extraction loop.  A short `fread` is reported and its buffer
is written all the same. -/
def extract (i : Nat) : Tool Unit := do
  let entry ← Tool.ofExcept (entryAt u.header i)
  fseek entry.offset.toNat
  let (dtBlob, _) ← freadItem u.file (u.memory i entry.size.toNat).val
  dumpDtb u.creates dtBlob (destFile u.outputDir entry)

/-- The loop, with `left` turns left from `i` on. -/
def extractFrom : Nat → Nat → Tool Unit
  | 0, _ => pure ()
  | left + 1, i => do
    u.extract i
    extractFrom left (i + 1)

def run : Tool Int :=
  if u.header.length < tableEnd 0 then Tool.stop .undefined
  else do
    u.extractFrom (word32 u.header 8).toNat 0
    return 0

end Unpacking

/-- From the opened image on.  `calloc` refuses a negative size, and nothing is
read into a page of size 0. -/
def unpackFile (creates : CString → Bool) (memory : Memory) (outputDir : CString)
    (pageSize : Int32) (file : Bytes) : Tool Int :=
  if pageSize.toInt ≤ 0 then pure 1
  else do
    let (header, read) ← freadItem file (zeros pageSize.toInt.toNat)
    if read then Unpacking.run { file, memory, creates, outputDir, header }
    else return 1

/-- `main`: the status and what is on the disk when the program ends. -/
def unpackdtbhimg (contents : CString → Option Bytes) (creates : CString → Bool)
    (memory : Memory) (argv : List CString) : Except Stop Int × Stdio :=
  Tool.run (do
    let options ← Tool.ofExcept (parseArgs {} argv)
    let some dtbhimg := options.dtbhimg | pure 1
    let some outputDir := options.outputDir | pure 1
    let some file := contents dtbhimg | pure 1
    unpackFile creates memory outputDir options.pageSize file) Stdio.start

end Unpackdtbhimg

end Exynos9810.Dtbhtool
