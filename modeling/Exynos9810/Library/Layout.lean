import Mathlib.Data.Fin.Tuple.Basic
import Mathlib.Tactic.Ring

/-!
# Typed members of a block of bytes

A layout says how a value of fixed size is stored, least significant byte first.
A member is a layout at a place inside a block; members of a union may overlap.
-/

structure Layout (A : Type) where
  size : Nat
  encode : A → Fin size → UInt8
  decode : (Fin size → UInt8) → A
  decode_encode : ∀ a, decode (encode a) = a

namespace Layout

variable {A B : Type}

def bits (count : Nat) : Layout (BitVec (8 * count)) where
  size := count
  encode := fun value i => UInt8.ofBitVec (value.extractLsb' (8 * i) 8)
  decode := fun bytes => BitVec.ofNat (8 * count) (Nat.ofBits fun j : Fin (8 * count) =>
    (bytes ⟨j / 8, by omega⟩).toBitVec.getLsbD (j % 8))
  decode_encode := by
    intro value
    apply BitVec.eq_of_getLsbD_eq
    intro i hi
    have hindex : 8 * (i / 8) + i % 8 = i := Nat.div_add_mod i 8
    have hlt : i % 8 < 8 := Nat.mod_lt _ (by decide)
    rw [BitVec.getLsbD_ofNat, Nat.testBit_ofBits_lt _ _ hi, BitVec.getLsbD_extractLsb', hindex]
    simp only [hi, hlt, decide_true, Bool.true_and]

def map (layout : Layout A) (toFun : A → B) (ofFun : B → A) (h : ∀ b, toFun (ofFun b) = b) :
    Layout B where
  size := layout.size
  encode := fun b => layout.encode (ofFun b)
  decode := fun bytes => toFun (layout.decode bytes)
  decode_encode := by
    intro b
    rw [layout.decode_encode, h]

def int8 : Layout Int8 := (bits 1).map Int8.ofBitVec Int8.toBitVec Int8.ofBitVec_toBitVec
def uint8 : Layout UInt8 := (bits 1).map UInt8.ofBitVec UInt8.toBitVec UInt8.ofBitVec_toBitVec
def uint32 : Layout UInt32 := (bits 4).map UInt32.ofBitVec UInt32.toBitVec UInt32.ofBitVec_toBitVec
def uint64 : Layout UInt64 := (bits 8).map UInt64.ofBitVec UInt64.toBitVec UInt64.ofBitVec_toBitVec

/-- Any byte but zero is read as true. -/
def bool : Layout Bool :=
  uint8.map (fun byte => decide (byte ≠ 0)) (fun b => if b then 1 else 0) (by decide)

def array (count : Nat) (layout : Layout A) : Layout (Fin count → A) where
  size := count * layout.size
  encode := fun values i => layout.encode (values i.divNat) i.modNat
  decode := fun bytes i => layout.decode fun j => bytes (Fin.mkDivMod i j)
  decode_encode := by
    intro values
    funext i
    simp only [Fin.divNat_mkDivMod, Fin.modNat_mkDivMod]
    exact layout.decode_encode (values i)

end Layout

/-- A value of type `A` inside a block of `total` bytes. -/
structure Member (total : Nat) (A : Type) where
  layout : Layout A
  offset : Nat
  fits : offset + layout.size ≤ total

namespace Member

variable {total : Nat} {A B : Type}

def get (member : Member total A) (block : Fin total → UInt8) : A :=
  member.layout.decode fun i => block ⟨member.offset + i, by have := member.fits; omega⟩

def set (member : Member total A) (block : Fin total → UInt8) (value : A) : Fin total → UInt8 :=
  fun i =>
    if h : member.offset ≤ i ∧ i - member.offset < member.layout.size then
      member.layout.encode value ⟨i - member.offset, h.2⟩
    else block i

def Apart (left : Member total A) (right : Member total B) : Prop :=
  left.offset + left.layout.size ≤ right.offset ∨
    right.offset + right.layout.size ≤ left.offset

instance (left : Member total A) (right : Member total B) : Decidable (Apart left right) :=
  inferInstanceAs (Decidable (_ ∨ _))

@[simp] theorem get_set_self (member : Member total A) (block : Fin total → UInt8) (value : A) :
    member.get (member.set block value) = value := by
  have hbytes : (fun i : Fin member.layout.size => member.set block value
      ⟨member.offset + i, by have := member.fits; omega⟩) = member.layout.encode value := by
    funext i
    unfold set
    rw [dif_pos ⟨Nat.le_add_right _ _, by simp⟩]
    congr 1
    apply Fin.ext
    simp
  rw [get, hbytes, member.layout.decode_encode]

theorem get_set_of_apart {left : Member total A} {right : Member total B}
    (block : Fin total → UInt8) (value : B) (h : Apart left right) :
    left.get (right.set block value) = left.get block := by
  unfold get set
  congr 1
  funext i
  rw [dif_neg]
  rintro ⟨hle, hlt⟩
  dsimp only at hle hlt
  rcases h with h | h <;> omega

end Member
