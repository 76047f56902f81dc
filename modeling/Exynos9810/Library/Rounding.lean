import Mathlib.Data.Int.Log
import Mathlib.Data.Rat.Floor
import Mathlib.Tactic.Linarith
import Mathlib.Tactic.Positivity
import Mathlib.Tactic.Ring

/-!
# Rounding of rational numbers

To an integer, ties to even or away from zero, and to a number of significant bits as
binary floating point does.  Exponents are not bounded.
-/
namespace Rounding

def toEven (q : ℚ) : ℤ :=
  if q - ⌊q⌋ < 1 / 2 ∨ q - ⌊q⌋ = 1 / 2 ∧ ⌊q⌋ % 2 = 0 then ⌊q⌋ else ⌊q⌋ + 1

def away (q : ℚ) : ℤ :=
  if 0 ≤ q then ⌊q + 1 / 2⌋ else -⌊-q + 1 / 2⌋

section Integers

theorem floor_le_toEven (q : ℚ) : ⌊q⌋ ≤ toEven q := by
  unfold toEven
  split_ifs <;> omega

theorem toEven_le_floor_succ (q : ℚ) : toEven q ≤ ⌊q⌋ + 1 := by
  unfold toEven
  split_ifs <;> omega

theorem toEven_mono {x y : ℚ} (hxy : x ≤ y) : toEven x ≤ toEven y := by
  rcases (Int.floor_mono hxy).lt_or_eq with hlt | heq
  · exact (toEven_le_floor_succ x).trans (hlt.trans_le (floor_le_toEven y))
  · unfold toEven
    rw [← heq]
    split_ifs with hx hy hy
    · exact le_rfl
    · exact (lt_add_one _).le
    · -- what rounds down does so from below
      exfalso
      rcases hy with hy | ⟨hy, heven⟩
      · exact hx (.inl (by linarith))
      · rcases hxy.lt_or_eq with hlt | hxy
        · exact hx (.inl (by linarith))
        · exact hx (.inr ⟨by linarith, heven⟩)
    · exact le_rfl

@[simp] theorem toEven_intCast (n : ℤ) : toEven n = n := by
  simp [toEven]

theorem away_mono {x y : ℚ} (hxy : x ≤ y) : away x ≤ away y := by
  unfold away
  split_ifs with hx hy hy
  · exact Int.floor_mono (by linarith)
  · exact absurd (hx.trans hxy) hy
  · have hx' : 0 ≤ ⌊-x + 1 / 2⌋ := Int.floor_nonneg.mpr (by linarith)
    have hy' : 0 ≤ ⌊y + 1 / 2⌋ := Int.floor_nonneg.mpr (by linarith)
    omega
  · exact neg_le_neg (Int.floor_mono (by linarith))

end Integers

/-- The weight of the last of `f` bits behind the leading bit of `q`. -/
def ulp (f : ℕ) (q : ℚ) : ℚ :=
  2 ^ (Int.log 2 q - f)

/-- A positive number, to the nearest with `f` bits behind the leading bit. -/
def positive (f : ℕ) (q : ℚ) : ℚ :=
  toEven (q / ulp f q) * ulp f q

/-- The nearest number with `f` bits behind the leading bit, ties to even. -/
def toBits (f : ℕ) (q : ℚ) : ℚ :=
  if 0 < q then positive f q else if q < 0 then -positive f (-q) else 0

section Bits

variable {f : ℕ} {x y : ℚ}

theorem ulp_pos (f : ℕ) (q : ℚ) : 0 < ulp f q :=
  zpow_pos (by norm_num) _

theorem pow_mul_ulp (f : ℕ) (x : ℚ) : 2 ^ f * ulp f x = 2 ^ Int.log 2 x := by
  rw [ulp, ← zpow_natCast, ← zpow_add₀ (by norm_num)]
  congr 1
  ring

theorem pow_log_le_positive (hx : 0 < x) : 2 ^ Int.log 2 x ≤ positive f x := by
  have hlog := Int.zpow_log_le_self (b := 2) (by decide) hx
  rw [Nat.cast_ofNat, ← pow_mul_ulp f x, ← le_div_iff₀ (ulp_pos f x)] at hlog
  have hround := toEven_mono hlog
  rw [← pow_mul_ulp f x, positive]
  refine mul_le_mul_of_nonneg_right ?_ (ulp_pos f x).le
  have hcast : toEven (2 ^ f : ℚ) = 2 ^ f := by
    exact_mod_cast toEven_intCast (2 ^ f)
  rw [hcast] at hround
  exact_mod_cast hround

theorem positive_le_pow_log (x : ℚ) : positive f x ≤ 2 ^ (Int.log 2 x + 1) := by
  have hlog := (Int.lt_zpow_succ_log_self (b := 2) (by decide) x).le
  rw [Nat.cast_ofNat, zpow_add_one₀ (by norm_num), ← pow_mul_ulp f x, mul_right_comm,
    ← div_le_iff₀ (ulp_pos f x)] at hlog
  have hround := toEven_mono hlog
  rw [zpow_add_one₀ (by norm_num), ← pow_mul_ulp f x, mul_right_comm, positive]
  refine mul_le_mul_of_nonneg_right ?_ (ulp_pos f x).le
  have hcast : toEven (2 ^ f * 2 : ℚ) = 2 ^ f * 2 := by
    exact_mod_cast toEven_intCast (2 ^ f * 2)
  rw [hcast] at hround
  exact_mod_cast hround

theorem positive_pos (hx : 0 < x) : 0 < positive f x :=
  (zpow_pos (by norm_num) _).trans_le (pow_log_le_positive hx)

theorem positive_mono (hx : 0 < x) (hxy : x ≤ y) : positive f x ≤ positive f y := by
  rcases (Int.log_mono_right (b := 2) hx hxy).lt_or_eq with hlt | heq
  · calc positive f x ≤ 2 ^ (Int.log 2 x + 1) := positive_le_pow_log x
      _ ≤ 2 ^ Int.log 2 y := zpow_le_zpow_right₀ (by norm_num) hlt
      _ ≤ positive f y := pow_log_le_positive (hx.trans_le hxy)
  · have hulp : ulp f x = ulp f y := by rw [ulp, ulp, heq]
    rw [positive, positive, hulp]
    refine mul_le_mul_of_nonneg_right ?_ (ulp_pos f y).le
    exact_mod_cast toEven_mono (div_le_div_of_nonneg_right hxy (ulp_pos f y).le)

theorem toBits_of_pos (hx : 0 < x) : toBits f x = positive f x :=
  if_pos hx

theorem toBits_of_neg (hx : x < 0) : toBits f x = -positive f (-x) := by
  rw [toBits, if_neg hx.not_gt, if_pos hx]

@[simp] theorem toBits_zero : toBits f 0 = 0 := by
  simp [toBits]

theorem toBits_mono (hxy : x ≤ y) : toBits f x ≤ toBits f y := by
  rcases lt_trichotomy x 0 with hx | rfl | hx
  · rw [toBits_of_neg hx]
    have hnegative := neg_neg_of_pos (positive_pos (f := f) (neg_pos.mpr hx))
    rcases lt_trichotomy y 0 with hy | rfl | hy
    · rw [toBits_of_neg hy]
      exact neg_le_neg (positive_mono (neg_pos.mpr hy) (neg_le_neg hxy))
    · rw [toBits_zero]
      exact hnegative.le
    · rw [toBits_of_pos hy]
      exact (hnegative.trans (positive_pos hy)).le
  · rcases hxy.lt_or_eq with hy | rfl
    · rw [toBits_zero, toBits_of_pos hy]
      exact (positive_pos hy).le
    · exact le_rfl
  · rw [toBits_of_pos hx, toBits_of_pos (hx.trans_le hxy)]
    exact positive_mono hx hxy

end Bits

end Rounding
