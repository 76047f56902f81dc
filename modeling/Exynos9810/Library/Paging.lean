import Exynos9810.Library.Bytes
import Mathlib.Algebra.Order.BigOperators.Group.List
import Mathlib.Data.Nat.Bitwise
import Mathlib.Tactic.Ring

/-!
# Sections laid out in whole pages

`roundUp` and `pageCount` are the mathematical notions.  Machine code obtains
them with masks on 32-bit words; for a page size that is a power of two the
masks compute exactly these values, as long as nothing wraps.
-/
namespace Paging

open ByteString

/-- Number of pages of size `page` that hold `size` bytes. -/
def pageCount (page size : Nat) : Nat :=
  (size + page - 1) / page

def roundUp (page size : Nat) : Nat :=
  pageCount page size * page

def padding (page size : Nat) : Nat :=
  roundUp page size - size

def padded (page : Nat) (bytes : Bytes) : Bytes :=
  bytes ++ zeros (padding page bytes.length)

section Rounding

variable {page : Nat}

theorem le_roundUp (hpage : 0 < page) (size : Nat) : size ≤ roundUp page size := by
  have hdiv := Nat.div_add_mod (size + page - 1) page
  have hmod := Nat.mod_lt (size + page - 1) hpage
  rw [roundUp, pageCount, Nat.mul_comm]
  omega

theorem roundUp_lt (hpage : 0 < page) (size : Nat) :
    roundUp page size < size + page := by
  have hdiv := Nat.div_mul_le_self (size + page - 1) page
  rw [roundUp, pageCount]
  omega

theorem roundUp_mono {small large : Nat} (h : small ≤ large) :
    roundUp page small ≤ roundUp page large :=
  Nat.mul_le_mul_right page (Nat.div_le_div_right (by omega))

theorem roundUp_eq_of_dvd {size total : Nat} (hpage : 0 < page)
    (hdvd : page ∣ total) (hle : size ≤ total) (hlt : total < size + page) :
    roundUp page size = total := by
  obtain ⟨count, rfl⟩ := hdvd
  have hcount : (size + page - 1) / page = count := by
    apply Nat.div_eq_of_lt_le
    · rw [Nat.mul_comm]
      omega
    · rw [Nat.succ_mul, Nat.mul_comm]
      omega
  rw [roundUp, pageCount, hcount, Nat.mul_comm]

theorem add_padding (hpage : 0 < page) (size : Nat) :
    size + padding page size = roundUp page size := by
  have h := le_roundUp hpage size
  rw [padding]
  omega

theorem padding_lt (hpage : 0 < page) (size : Nat) : padding page size < page := by
  have h := roundUp_lt hpage size
  rw [padding]
  omega

theorem padding_of_mod_eq_zero {size : Nat} (hpage : 0 < page)
    (hzero : size % page = 0) : padding page size = 0 := by
  have hround : roundUp page size = size :=
    roundUp_eq_of_dvd hpage (Nat.dvd_of_mod_eq_zero hzero) le_rfl (by omega)
  rw [padding, hround, Nat.sub_self]

theorem padding_of_mod_ne_zero {size : Nat} (hpage : 0 < page)
    (hne : size % page ≠ 0) : padding page size = page - size % page := by
  have hmod := Nat.mod_lt size hpage
  have hsplit := Nat.div_add_mod size page
  have hround : roundUp page size = page * (size / page + 1) :=
    roundUp_eq_of_dvd hpage (Nat.dvd_mul_right _ _) (by rw [Nat.mul_succ]; omega)
      (by rw [Nat.mul_succ]; omega)
  rw [padding, hround, Nat.mul_succ]
  omega

/-- Two sizes need the same fill exactly when they end at the same place in a page. -/
theorem padding_eq_iff (hpage : 0 < page) (left right : Nat) :
    padding page left = padding page right ↔ left % page = right % page := by
  have hleft := Nat.mod_lt left hpage
  have hright := Nat.mod_lt right hpage
  by_cases hl : left % page = 0
  · by_cases hr : right % page = 0
    · simp only [padding_of_mod_eq_zero hpage, hl, hr]
    · rw [padding_of_mod_eq_zero hpage hl, padding_of_mod_ne_zero hpage hr]
      omega
  · by_cases hr : right % page = 0
    · rw [padding_of_mod_ne_zero hpage hl, padding_of_mod_eq_zero hpage hr]
      omega
    · rw [padding_of_mod_ne_zero hpage hl, padding_of_mod_ne_zero hpage hr]
      omega

@[simp] theorem length_padded (hpage : 0 < page) (bytes : Bytes) :
    (padded page bytes).length = roundUp page bytes.length := by
  rw [padded, List.length_append, length_zeros, add_padding hpage]

@[simp] theorem padded_nil (hpage : 0 < page) : padded page [] = [] := by
  have h : roundUp page 0 = 0 :=
    roundUp_eq_of_dvd hpage (Nat.dvd_zero page) le_rfl (by omega)
  simp [padded, padding, h]

end Rounding

section Masks

/-- `(x + pagemask) & ~pagemask` on 32-bit words. -/
def maskUp (page size : UInt32) : UInt32 :=
  (size + (page - 1)) &&& ~~~(page - 1)

variable {page : UInt32} {bits : Nat}

theorem toNat_page_pos (hpage : page.toNat = 2 ^ bits) : 0 < page.toNat := by
  rw [hpage]
  exact Nat.two_pow_pos bits

theorem toNat_sub_one (hpage : page.toNat = 2 ^ bits) :
    (page - 1).toNat = 2 ^ bits - 1 := by
  have hpos : 0 < 2 ^ bits := Nat.two_pow_pos bits
  have hone : (1 : UInt32) ≤ page := by
    rw [UInt32.le_iff_toNat_le, hpage]
    exact hpos
  rw [UInt32.toNat_sub_of_le _ _ hone, hpage]
  rfl

theorem toNat_and_mask (hpage : page.toNat = 2 ^ bits) (size : UInt32) :
    (size &&& (page - 1)).toNat = size.toNat % page.toNat := by
  rw [UInt32.toNat_and, toNat_sub_one hpage, Nat.and_two_pow_sub_one_eq_mod, hpage]

theorem padding_of_and_mask_eq_zero (hpage : page.toNat = 2 ^ bits) {size : UInt32}
    (hzero : size &&& (page - 1) = 0) : padding page.toNat size.toNat = 0 := by
  have hmask := toNat_and_mask hpage size
  rw [hzero] at hmask
  exact padding_of_mod_eq_zero (toNat_page_pos hpage) hmask.symm

theorem toNat_sub_and_mask (hpage : page.toNat = 2 ^ bits) {size : UInt32}
    (hne : size &&& (page - 1) ≠ 0) :
    (page - (size &&& (page - 1))).toNat = padding page.toNat size.toNat := by
  have hpos := toNat_page_pos hpage
  have hmask := toNat_and_mask hpage size
  have hmod := Nat.mod_lt size.toNat hpos
  have hmodne : size.toNat % page.toNat ≠ 0 := by
    rw [← hmask]
    exact fun h => hne (UInt32.toNat_inj.mp h)
  rw [UInt32.toNat_sub_of_le _ _ (by rw [UInt32.le_iff_toNat_le, hmask]; omega), hmask,
    padding_of_mod_ne_zero hpos hmodne]

theorem bits_lt (hpage : page.toNat = 2 ^ bits) : bits < 32 := by
  have hlt := page.toNat_lt
  rw [hpage] at hlt
  exact (Nat.pow_lt_pow_iff_right (by decide)).mp hlt

theorem toNat_and_not_mask (hpage : page.toNat = 2 ^ bits) (size : UInt32) :
    (size &&& ~~~(page - 1)).toNat = size.toNat / page.toNat * page.toNat := by
  have hbits := bits_lt hpage
  have hmask : UInt32.size - 1 - (2 ^ bits - 1) = 2 ^ 32 - (2 ^ bits - 1 + 1) := by
    have hpos : 0 < 2 ^ bits := Nat.two_pow_pos bits
    simp only [UInt32.size]
    omega
  have hfit : 2 ^ bits - 1 < 2 ^ 32 :=
    (Nat.sub_lt (Nat.two_pow_pos bits) Nat.one_pos).trans_le
      (Nat.pow_le_pow_right (by decide) hbits.le)
  rw [hpage]
  apply Nat.eq_of_testBit_eq
  intro bit
  rw [UInt32.toNat_and, UInt32.toNat_not, toNat_sub_one hpage, Nat.testBit_and, hmask,
    Nat.testBit_two_pow_sub_succ hfit, Nat.testBit_two_pow_sub_one,
    Nat.testBit_mul_two_pow, Nat.testBit_div_two_pow]
  by_cases hlow : bits ≤ bit
  · rw [Nat.sub_add_cancel hlow]
    by_cases hhigh : bit < 32
    · simp [hlow, hhigh, Nat.not_lt.mpr hlow]
    · have hzero : size.toNat.testBit bit = false :=
        Nat.testBit_lt_two_pow (size.toNat_lt.trans_le
          (Nat.pow_le_pow_right (by decide) (Nat.le_of_not_lt hhigh)))
      simp [hzero]
  · simp [hlow, Nat.lt_of_not_le hlow]

theorem roundUp_add_page_le (hpage : page.toNat = 2 ^ bits) {size : Nat}
    (hfits : roundUp page.toNat size < 2 ^ 32) :
    roundUp page.toNat size + page.toNat ≤ 2 ^ 32 := by
  have hdvd : page.toNat ∣ 2 ^ 32 := by
    rw [hpage]
    exact Nat.pow_dvd_pow 2 (bits_lt hpage).le
  obtain ⟨total, htotal⟩ := hdvd
  rw [htotal, Nat.mul_comm, roundUp] at hfits ⊢
  rw [← Nat.succ_mul]
  exact Nat.mul_le_mul_right _ (Nat.lt_of_mul_lt_mul_right hfits)

theorem toNat_maskUp (hpage : page.toNat = 2 ^ bits) (size : UInt32)
    (hfits : roundUp page.toNat size.toNat < 2 ^ 32) :
    (maskUp page size).toNat = roundUp page.toNat size.toNat := by
  have hpos := toNat_page_pos hpage
  have hle := le_roundUp hpos size.toNat
  have hroom := roundUp_add_page_le hpage hfits
  have hsum : (size + (page - 1)).toNat = size.toNat + page.toNat - 1 := by
    rw [UInt32.toNat_add, toNat_sub_one hpage, ← hpage, Nat.mod_eq_of_lt (by omega)]
    omega
  rw [maskUp, toNat_and_not_mask hpage, hsum, roundUp, pageCount]

theorem maskUp_ofNat (hpage : page.toNat = 2 ^ bits) {size : Nat}
    (hfits : roundUp page.toNat size < 2 ^ 32) :
    maskUp page (UInt32.ofNat size) = UInt32.ofNat (roundUp page.toNat size) := by
  have hpos := toNat_page_pos hpage
  have hsize : (UInt32.ofNat size).toNat = size :=
    UInt32.toNat_ofNat_of_lt' ((le_roundUp hpos size).trans_lt hfits)
  rw [← UInt32.toNat_inj, toNat_maskUp hpage _ (by rwa [hsize]), hsize,
    UInt32.toNat_ofNat_of_lt' hfits]

end Masks

section Sequences

variable {page : Nat}

def extent (page : Nat) (sections : List Bytes) : Nat :=
  (sections.map fun bytes => roundUp page bytes.length).sum

@[simp] theorem extent_nil : extent page [] = 0 := rfl

@[simp] theorem extent_cons (bytes : Bytes) (sections : List Bytes) :
    extent page (bytes :: sections) = roundUp page bytes.length + extent page sections := by
  simp [extent]

@[simp] theorem extent_append (front back : List Bytes) :
    extent page (front ++ back) = extent page front + extent page back := by
  simp [extent]

theorem roundUp_le_extent {bytes : Bytes} {sections : List Bytes} (h : bytes ∈ sections) :
    roundUp page bytes.length ≤ extent page sections :=
  List.single_le_sum (by simp) _ (List.mem_map_of_mem h)

theorem length_flatMap_padded (hpage : 0 < page) (sections : List Bytes) :
    (sections.flatMap (padded page)).length = extent page sections := by
  simp [extent, List.length_flatMap, length_padded hpage]

theorem slice_flatMap_padded (hpage : 0 < page) (head : Bytes)
    (front : List Bytes) (bytes : Bytes) (back : List Bytes) (tail : Bytes) :
    slice (head ++ (front ++ bytes :: back).flatMap (padded page) ++ tail)
      (head.length + extent page front) (roundUp page bytes.length) =
        padded page bytes := by
  have hstart : head.length + extent page front =
      (head ++ front.flatMap (padded page)).length := by
    rw [List.length_append, length_flatMap_padded hpage]
  have hsplit : head ++ (front ++ bytes :: back).flatMap (padded page) ++ tail =
      (head ++ front.flatMap (padded page)) ++ padded page bytes ++
        (back.flatMap (padded page) ++ tail) := by
    simp only [List.flatMap_append, List.flatMap_cons, List.append_assoc]
  rw [hstart, hsplit, ← length_padded hpage bytes, slice_middle]

def pages (page : Nat) (sections : List Bytes) : Nat :=
  (sections.map fun bytes => pageCount page bytes.length).sum

@[simp] theorem pages_nil : pages page [] = 0 := rfl

@[simp] theorem pages_cons (bytes : Bytes) (sections : List Bytes) :
    pages page (bytes :: sections) = pageCount page bytes.length + pages page sections := by
  simp [pages]

/-- The file holds `bytes` and their zero fill in whole pages from page `index` on. -/
def StoredAt (page : Nat) (file : Bytes) (index : Nat) (bytes : Bytes) : Prop :=
  slice file (index * page) (roundUp page bytes.length) = padded page bytes

/-- The sections are stored in consecutive pages from page `index` on. -/
def StoredFrom (page : Nat) (file : Bytes) : Nat → List Bytes → Prop
  | _, [] => True
  | index, bytes :: rest =>
    StoredAt page file index bytes ∧
      StoredFrom page file (index + pageCount page bytes.length) rest

theorem eq_append_iff_take_drop {bytes front back : Bytes} :
    bytes = front ++ back ↔ bytes.take front.length = front ∧ bytes.drop front.length = back := by
  constructor
  · rintro rfl
    exact ⟨List.take_left, List.drop_left⟩
  · rintro ⟨hfront, hback⟩
    rw [← List.take_append_drop front.length bytes, hfront, hback]

theorem drop_eq_flatMap_padded_iff (hpage : 0 < page) (sections : List Bytes)
    (file tail : Bytes) (index : Nat) :
    file.drop (index * page) = sections.flatMap (padded page) ++ tail ↔
      StoredFrom page file index sections ∧
        file.drop ((index + pages page sections) * page) = tail := by
  induction sections generalizing index with
  | nil => simp [StoredFrom]
  | cons bytes rest ih =>
    have hnext : (file.drop (index * page)).drop (roundUp page bytes.length) =
        file.drop ((index + pageCount page bytes.length) * page) := by
      rw [List.drop_drop, Nat.add_mul, roundUp]
    rw [List.flatMap_cons, List.append_assoc, eq_append_iff_take_drop, length_padded hpage,
      hnext, ih, StoredFrom, StoredAt, slice, pages_cons, Nat.add_assoc, and_assoc]

theorem eq_flatMap_padded_iff (hpage : 0 < page) (sections : List Bytes) (file tail : Bytes) :
    file = sections.flatMap (padded page) ++ tail ↔
      StoredFrom page file 0 sections ∧ file.drop (pages page sections * page) = tail := by
  have h := drop_eq_flatMap_padded_iff hpage sections file tail 0
  rwa [Nat.zero_mul, List.drop_zero, Nat.zero_add] at h

end Sequences

end Paging
