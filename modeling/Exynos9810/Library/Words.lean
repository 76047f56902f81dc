import Mathlib.Tactic.Ring

namespace Words

theorem toInt_toInt32 (x : UInt32) : x.toInt32.toInt = (x.toNat : Int).bmod (2 ^ 32) :=
  BitVec.toInt_eq_toNat_bmod _

theorem toNat_toUInt32 (x : Int32) : (x.toUInt32.toNat : Int) = x.toInt % 2 ^ 32 := by
  have hint : x.toInt = (x.toUInt32.toNat : Int).bmod (2 ^ 32) := BitVec.toInt_eq_toNat_bmod _
  have hlt := x.toUInt32.toNat_lt
  rw [hint, Int.bmod_def]
  split <;> omega

theorem toNat_ofInt {x : Int} (hlow : 0 ≤ x) (hhigh : x < 2 ^ 64) :
    ((UInt64.ofInt x).toNat : Int) = x := by
  rw [UInt64.ofInt, UInt64.toNat_ofNat']
  omega

theorem toNat_toUInt64 {x : Int32} (h : 0 ≤ x.toInt) :
    (x.toInt64.toUInt64.toNat : Int) = x.toInt := by
  have hint : x.toInt64.toInt = (x.toInt64.toUInt64.toNat : Int).bmod (2 ^ 64) :=
    BitVec.toInt_eq_toNat_bmod _
  have hlt := x.toInt64.toUInt64.toNat_lt
  have hhigh := x.toInt_lt
  rw [Int32.toInt_toInt64, Int.bmod_def] at hint
  split at hint <;> omega

theorem toInt_sub_of_le {x y : Int32} (hlow : 0 ≤ y.toInt) (hle : y.toInt ≤ x.toInt) :
    (x - y).toInt = x.toInt - y.toInt := by
  have hhigh := x.toInt_lt
  rw [Int32.toInt_sub, Int.bmod_def]
  split <;> omega

end Words
