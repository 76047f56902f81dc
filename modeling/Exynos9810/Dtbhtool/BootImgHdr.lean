import Exynos9810.Dtbhtool.Host

namespace Exynos9810.Dtbhtool

open ByteString

/-- An `unsigned char` array of fixed size. -/
abbrev CharArray (size : Nat) := { bytes : Bytes // bytes.length = size }

namespace CharArray

/-- A zeroed array into which `bytes` is copied. -/
def ofBytes (size : Nat) (bytes : Bytes) : CharArray size :=
  ⟨bytes.take size ++ zeros (size - bytes.length), by
    rw [List.length_append, List.length_take, length_zeros]
    omega⟩

@[simp] theorem length_val (array : CharArray size) : array.val.length = size :=
  array.property

@[simp] theorem ofBytes_val (array : CharArray size) : ofBytes size array.val = array := by
  apply Subtype.ext
  simp [ofBytes, List.take_of_length_le (Nat.le_of_eq array.property)]

theorem val_ofBytes_of_length_le {size : Nat} {bytes : Bytes} (h : bytes.length ≤ size) :
    (ofBytes size bytes).val = bytes ++ zeros (size - bytes.length) := by
  simp [ofBytes, List.take_of_length_le h]

end CharArray

def bootMagic : Bytes := ascii "ANDROID!"
def bootMagicSize : Nat := 8
def bootNameSize : Nat := 16
def bootArgsSize : Nat := 512

structure BootImgHdr where
  magic : CharArray bootMagicSize
  kernelSize : UInt32
  kernelAddr : UInt32
  ramdiskSize : UInt32
  ramdiskAddr : UInt32
  secondSize : UInt32
  secondAddr : UInt32
  tagsAddr : UInt32
  pageSize : UInt32
  dtSize : UInt32
  unused : UInt32
  name : CharArray bootNameSize
  cmdline : CharArray bootArgsSize
  id : CharArray 32

namespace BootImgHdr

def words (hdr : BootImgHdr) : List UInt32 :=
  [hdr.kernelSize, hdr.kernelAddr, hdr.ramdiskSize, hdr.ramdiskAddr, hdr.secondSize,
    hdr.secondAddr, hdr.tagsAddr, hdr.pageSize, hdr.dtSize, hdr.unused]

def bytes (hdr : BootImgHdr) : Bytes :=
  hdr.magic.val ++ hdr.words.flatMap le32 ++ hdr.name.val ++ hdr.cmdline.val ++ hdr.id.val

def sizeof : UInt32 := 608

@[simp] theorem length_bytes (hdr : BootImgHdr) : hdr.bytes.length = 608 := by
  simp [bytes, words, bootMagicSize, bootNameSize, bootArgsSize]

/-- The structure after `fread` has filled it from `file`. -/
def ofFile (file : Bytes) : BootImgHdr where
  magic := CharArray.ofBytes bootMagicSize (slice file 0 bootMagicSize)
  kernelSize := word32 file 8
  kernelAddr := word32 file 12
  ramdiskSize := word32 file 16
  ramdiskAddr := word32 file 20
  secondSize := word32 file 24
  secondAddr := word32 file 28
  tagsAddr := word32 file 32
  pageSize := word32 file 36
  dtSize := word32 file 40
  unused := word32 file 44
  name := CharArray.ofBytes bootNameSize (slice file 48 bootNameSize)
  cmdline := CharArray.ofBytes bootArgsSize (slice file 64 bootArgsSize)
  id := CharArray.ofBytes 32 (slice file 576 32)

theorem ofBytes_slice_middle (offset : Nat) (front : Bytes) (array : CharArray size)
    (back : Bytes) (hoffset : front.length = offset) :
    CharArray.ofBytes size (slice (front ++ array.val ++ back) offset size) = array := by
  have hslice := slice_middle front array.val back
  rw [array.length_val, hoffset] at hslice
  rw [hslice, CharArray.ofBytes_val]

theorem word32_bytes (hdr : BootImgHdr) (rest : Bytes) (front : List UInt32) (word : UInt32)
    (back : List UInt32) (hwords : hdr.words = front ++ word :: back) :
    word32 (hdr.bytes ++ rest) (8 + 4 * front.length) = word := by
  have hbytes : hdr.bytes ++ rest = (hdr.magic.val ++ front.flatMap le32) ++ le32 word ++
      (back.flatMap le32 ++ (hdr.name.val ++ (hdr.cmdline.val ++ (hdr.id.val ++ rest)))) := by
    simp only [bytes, hwords, List.flatMap_append, List.flatMap_cons, List.append_assoc]
  have hlength : (hdr.magic.val ++ front.flatMap le32).length = 8 + 4 * front.length := by
    simp [List.length_flatMap, bootMagicSize, Nat.mul_comm]
  rw [hbytes, ← hlength, word32_middle]

theorem ofFile_bytes_append (hdr : BootImgHdr) (rest : Bytes) :
    ofFile (hdr.bytes ++ rest) = hdr := by
  have hmagic : CharArray.ofBytes bootMagicSize
      (slice (hdr.bytes ++ rest) 0 bootMagicSize) = hdr.magic := by
    have h := ofBytes_slice_middle 0 [] hdr.magic (hdr.words.flatMap le32 ++ (hdr.name.val ++
      (hdr.cmdline.val ++ (hdr.id.val ++ rest)))) rfl
    simpa only [bytes, List.append_assoc, List.nil_append] using h
  have hname : CharArray.ofBytes bootNameSize
      (slice (hdr.bytes ++ rest) 48 bootNameSize) = hdr.name := by
    have h := ofBytes_slice_middle 48 (hdr.magic.val ++ hdr.words.flatMap le32) hdr.name
      (hdr.cmdline.val ++ (hdr.id.val ++ rest)) (by simp [words, bootMagicSize])
    simpa only [bytes, List.append_assoc] using h
  have hcmdline : CharArray.ofBytes bootArgsSize
      (slice (hdr.bytes ++ rest) 64 bootArgsSize) = hdr.cmdline := by
    have h := ofBytes_slice_middle 64 (hdr.magic.val ++ hdr.words.flatMap le32 ++ hdr.name.val)
      hdr.cmdline (hdr.id.val ++ rest)
      (by simp [words, bootMagicSize, bootNameSize])
    simpa only [bytes, List.append_assoc] using h
  have hid : CharArray.ofBytes 32 (slice (hdr.bytes ++ rest) 576 32) = hdr.id := by
    have h := ofBytes_slice_middle 576 (hdr.magic.val ++ hdr.words.flatMap le32 ++ hdr.name.val ++
      hdr.cmdline.val) hdr.id rest
      (by simp [words, bootMagicSize, bootNameSize, bootArgsSize])
    simpa only [bytes, List.append_assoc] using h
  have hword (front : List UInt32) (word : UInt32) (back : List UInt32) :=
    word32_bytes hdr rest front word back
  unfold ofFile
  rw [hmagic, hname, hcmdline, hid]
  congr 1
  · exact hword [] _ _ rfl
  · exact hword [_] _ _ rfl
  · exact hword [_, _] _ _ rfl
  · exact hword [_, _, _] _ _ rfl
  · exact hword [_, _, _, _] _ _ rfl
  · exact hword [_, _, _, _, _] _ _ rfl
  · exact hword [_, _, _, _, _, _] _ _ rfl
  · exact hword [_, _, _, _, _, _, _] _ _ rfl
  · exact hword [_, _, _, _, _, _, _, _] _ _ rfl
  · exact hword [_, _, _, _, _, _, _, _, _] _ _ rfl

end BootImgHdr

end Exynos9810.Dtbhtool
