import Mathlib.Data.List.Basic
import Mathlib.Tactic.Ring

/-!
# Byte strings as files and buffers

A file or a buffer is a list of bytes.  A buffer write either fits or has no
meaning, so `overwrite` is partial; everything else is plain list surgery.
-/
namespace ByteString

abbrev Bytes := List UInt8

def zeros (count : Nat) : Bytes :=
  List.replicate count 0

/-- The `count` bytes that start at `offset`, fewer where the string ends. -/
def slice (bytes : Bytes) (offset count : Nat) : Bytes :=
  (bytes.drop offset).take count

/-- Copy `source` over the bytes of `buffer` that start at `offset`. -/
def overwrite (buffer : Bytes) (offset : Nat) (source : Bytes) : Option Bytes :=
  if offset + source.length ≤ buffer.length then
    some (buffer.take offset ++ source ++ buffer.drop (offset + source.length))
  else
    none

@[simp] theorem length_zeros (count : Nat) : (zeros count).length = count :=
  List.length_replicate

@[simp] theorem zeros_zero : zeros 0 = [] := rfl

theorem zeros_add (left right : Nat) :
    zeros (left + right) = zeros left ++ zeros right :=
  List.replicate_add left right 0

theorem take_zeros (count total : Nat) : (zeros total).take count = zeros (min count total) :=
  List.take_replicate

theorem length_slice (bytes : Bytes) (offset count : Nat) :
    (slice bytes offset count).length = min count (bytes.length - offset) := by
  simp [slice]

theorem slice_middle (left bytes right : Bytes) :
    slice (left ++ bytes ++ right) left.length bytes.length = bytes := by
  simp [slice]

theorem getElem?_slice (bytes : Bytes) (offset count index : Nat)
    (h : index < count) :
    (slice bytes offset count)[index]? = bytes[offset + index]? := by
  rw [slice, List.getElem?_take_of_lt h, List.getElem?_drop]

theorem overwrite_append_zeros (used source : Bytes) (free : Nat)
    (h : source.length ≤ free) :
    overwrite (used ++ zeros free) used.length source =
      some (used ++ source ++ zeros (free - source.length)) := by
  have hfits : used.length + source.length ≤ (used ++ zeros free).length := by
    simp only [List.length_append, length_zeros]
    omega
  have hrest : (zeros free).drop source.length = zeros (free - source.length) := by
    simp [zeros]
  rw [overwrite, if_pos hfits, List.take_left, List.drop_append,
    List.drop_of_length_le (by omega), List.nil_append,
    Nat.add_sub_cancel_left, hrest]

theorem length_overwrite {buffer source result : Bytes} {offset : Nat}
    (h : overwrite buffer offset source = some result) : result.length = buffer.length := by
  unfold overwrite at h
  split at h
  · cases Option.some.inj h
    simp only [List.length_append, List.length_take, List.length_drop]
    omega
  · contradiction

theorem getD_append_zeros (bytes : Bytes) (count index : Nat) :
    (bytes ++ zeros count).getD index 0 = bytes.getD index 0 := by
  simp only [List.getD_eq_getElem?_getD, List.getElem?_append]
  split
  · rfl
  · rename_i hindex
    rw [List.getElem?_eq_none (Nat.le_of_not_lt hindex)]
    simp only [zeros, List.getElem?_replicate]
    split <;> rfl

/-- A string that is found again further on in itself, continued by zeros, is
all zero. -/
theorem getD_eq_zero_of_slice_shift {bytes : Bytes} {shift count : Nat} (hshift : 0 < shift)
    (h : slice (bytes ++ zeros count) shift bytes.length = bytes) (index : Nat) :
    bytes.getD index 0 = 0 := by
  have hstep (index : Nat) (hindex : index < bytes.length) :
      bytes.getD index 0 = bytes.getD (shift + index) 0 := by
    have hslice := getElem?_slice (bytes ++ zeros count) shift bytes.length index hindex
    rw [h] at hslice
    rw [← getD_append_zeros bytes count (shift + index), List.getD_eq_getElem?_getD, hslice,
      ← List.getD_eq_getElem?_getD]
  induction hleft : bytes.length - index using Nat.strongRecOn generalizing index with
  | ind left ih =>
    by_cases hindex : index < bytes.length
    · rw [hstep index hindex]
      exact ih (bytes.length - (shift + index)) (by omega) _ rfl
    · rw [List.getD_eq_getElem?_getD, List.getElem?_eq_none (Nat.le_of_not_lt hindex)]
      rfl

def le32 (word : UInt32) : Bytes :=
  [UInt8.ofNat word.toNat, UInt8.ofNat (word.toNat / 2 ^ 8),
    UInt8.ofNat (word.toNat / 2 ^ 16), UInt8.ofNat (word.toNat / 2 ^ 24)]

def ofLe32 (b0 b1 b2 b3 : UInt8) : UInt32 :=
  UInt32.ofNat (b0.toNat + b1.toNat * 2 ^ 8 + b2.toNat * 2 ^ 16 +
    b3.toNat * 2 ^ 24)

/-- The word stored at `offset`; bytes past the end count as zero. -/
def word32 (bytes : Bytes) (offset : Nat) : UInt32 :=
  ofLe32 (bytes.getD offset 0) (bytes.getD (offset + 1) 0)
    (bytes.getD (offset + 2) 0) (bytes.getD (offset + 3) 0)

@[simp] theorem length_le32 (word : UInt32) : (le32 word).length = 4 := rfl

theorem ofLe32_le32 (word : UInt32) :
    ofLe32 (UInt8.ofNat word.toNat) (UInt8.ofNat (word.toNat / 2 ^ 8))
      (UInt8.ofNat (word.toNat / 2 ^ 16)) (UInt8.ofNat (word.toNat / 2 ^ 24)) =
        word := by
  have hword := word.toNat_lt
  rw [← UInt32.toNat_inj]
  simp only [ofLe32, UInt32.toNat_ofNat', UInt8.toNat_ofNat']
  omega

theorem word32_middle (left : Bytes) (word : UInt32) (right : Bytes) :
    word32 (left ++ le32 word ++ right) left.length = word := by
  rw [List.append_assoc]
  simp only [word32, List.getD_eq_getElem?_getD, List.getElem?_append_right,
    Nat.le_add_right, Nat.add_sub_cancel_left, Nat.sub_self, Nat.le_refl]
  exact ofLe32_le32 word

theorem le32_injective : Function.Injective le32 := by
  intro left right h
  have hleft := word32_middle [] left []
  rw [h] at hleft
  exact hleft.symm.trans (word32_middle [] right [])

end ByteString
