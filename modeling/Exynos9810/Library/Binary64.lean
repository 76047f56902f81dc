import Mathlib.Data.Int.Notation
import Mathlib.Data.Nat.Log
import Mathlib.Tactic.Ring

/-!
# Integers held in a binary64 number

A `double` keeps 53 significant bits.  An integer, or the exact product of two
integers, is rounded to the nearest such number, ties to even.
-/
namespace Binary64

/-- The distance of neighbouring doubles at the magnitude of `n`, at least 1. -/
def ulp (n : Nat) : Nat :=
  2 ^ (n.log2 - 52)

def roundNat (n : Nat) : Nat :=
  let quotient := n / ulp n
  let remainder := n % ulp n
  if 2 * remainder < ulp n ∨ (2 * remainder = ulp n ∧ quotient % 2 = 0) then
    quotient * ulp n
  else (quotient + 1) * ulp n

def roundInt (x : Int) : Int :=
  if 0 ≤ x then roundNat x.toNat else -roundNat (-x).toNat

def product (left right : Int) : Int :=
  roundInt (roundInt left * roundInt right)

theorem roundNat_of_lt {n : Nat} (h : n < 2 ^ 53) : roundNat n = n := by
  have hulp : ulp n = 1 := by
    have hlog : n.log2 ≤ 52 := by
      rcases Nat.eq_zero_or_pos n with rfl | hpos
      · decide
      · exact Nat.le_of_lt_succ ((Nat.log2_lt hpos.ne').mpr h)
    rw [ulp, Nat.sub_eq_zero_of_le hlog, Nat.pow_zero]
  simp [roundNat, hulp, Nat.mod_one]

theorem roundInt_of_natAbs_lt {x : Int} (h : x.natAbs < 2 ^ 53) : roundInt x = x := by
  unfold roundInt
  split
  · rw [roundNat_of_lt (by omega)]
    omega
  · rw [roundNat_of_lt (by omega)]
    omega

theorem product_eq_mul {left right : Int} (hleft : left.natAbs < 2 ^ 53)
    (hright : right.natAbs < 2 ^ 53) (hproduct : (left * right).natAbs < 2 ^ 53) :
    product left right = left * right := by
  rw [product, roundInt_of_natAbs_lt hleft, roundInt_of_natAbs_lt hright,
    roundInt_of_natAbs_lt hproduct]

end Binary64
