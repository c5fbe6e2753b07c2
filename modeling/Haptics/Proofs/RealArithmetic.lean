import Mathlib
import Haptics.Drive.TransferCurve

/-!
# Drive arithmetic over the reals

Read over the reals, the drive arithmetic computes what it approximates on floats.  This file
makes the reals a carrier of it and turns its cube roots, rounding and comparisons into the usual
ones.
-/

namespace Haptics

/-- The cube root, of negative numbers too. -/
noncomputable def cubeRoot (x : ℝ) : ℝ :=
  if x < 0 then -(-x) ^ ((3 : ℕ) : ℝ)⁻¹ else x ^ ((3 : ℕ) : ℝ)⁻¹

/-- The nearest word, halves up, and the end of the range for values beyond it.  No negative value
comes near a word, so halves go away from zero. -/
noncomputable def nearestWord (x : ℝ) : UInt32 :=
  UInt32.ofNat (min (UInt32.size - 1) (round x).toNat)

noncomputable instance : Analytic ℝ where
  decLt := inferInstance
  decLe := inferInstance
  isFinite _ := true
  ofWord word := word.toNat
  roundToWord := nearestWord
  sqrt := Real.sqrt
  cbrt := cubeRoot
  pow := fun x y => x ^ y
  arccos := Real.arccos
  cos := Real.cos
  sin := Real.sin
  log10 := Real.logb 10

/-! ## Cube roots -/

theorem cubeRoot_pow (x : ℝ) : cubeRoot x ^ 3 = x := by
  unfold cubeRoot
  split
  · rename_i h
    rw [Odd.neg_pow (by decide), Real.rpow_inv_natCast_pow (by linarith) (by decide), neg_neg]
  · rename_i h
    exact Real.rpow_inv_natCast_pow (not_lt.1 h) (by decide)

/-- The power that gives the cube root of a number that is not negative. -/
noncomputable def thirdPower (x : ℝ) : ℝ :=
  Analytic.pow x (1.0 / 3.0)

theorem thirdPower_of_nonneg {x : ℝ} (h : 0 ≤ x) : thirdPower x = cubeRoot x := by
  have hthird : (1.0 : ℝ) / 3.0 = ((3 : ℕ) : ℝ)⁻¹ := by norm_num
  rw [thirdPower, hthird, cubeRoot, if_neg (not_lt.2 h)]
  rfl

theorem thirdPower_neg {x : ℝ} (h : x < 0) : thirdPower (-x) = -cubeRoot x := by
  rw [thirdPower_of_nonneg (by linarith), cubeRoot, cubeRoot, if_pos h, if_neg (by linarith),
    neg_neg]

/-! ## Nearest words -/

theorem toNat_nearestWord (x : ℝ) :
    (nearestWord x).toNat = min (UInt32.size - 1) (round x).toNat := by
  have hlt : min (UInt32.size - 1) (round x).toNat < UInt32.size :=
    Nat.lt_of_le_of_lt (Nat.min_le_left _ _) (by decide)
  rw [nearestWord, UInt32.toNat_ofNat_of_lt' hlt]

theorem nearestWord_mono {x y : ℝ} (h : x ≤ y) : nearestWord x ≤ nearestWord y := by
  have hround : round x ≤ round y := by
    rw [round_eq, round_eq]
    exact Int.floor_le_floor (by linarith)
  rw [UInt32.le_iff_toNat_le, toNat_nearestWord, toNat_nearestWord]
  exact min_le_min_left _ (Int.toNat_le_toNat hround)

/-- Only what is less than half a word from zero is rounded away. -/
theorem nearestWord_eq_zero_iff {x : ℝ} : nearestWord x = 0 ↔ x < 1 / 2 := by
  have hround : round x ≤ 0 ↔ x < 1 / 2 := by
    rw [round_eq, ← Int.lt_add_one_iff, Int.floor_lt]
    push_cast
    constructor <;> intro h <;> linarith
  have hsize : 0 < UInt32.size - 1 := by decide
  rw [← UInt32.toNat_inj, toNat_nearestWord, UInt32.toNat_zero, ← hround, ← Int.toNat_eq_zero]
  omega

theorem nearestWord_eq {x : ℝ} {word : UInt32} (hlow : word.toNat - 1 / 2 ≤ x)
    (hhigh : x < word.toNat + 1 / 2) : nearestWord x = word := by
  have hround : round x = (word.toNat : ℤ) :=
    round_eq_iff.2 ⟨by exact_mod_cast hlow, by exact_mod_cast hhigh⟩
  have hlt := word.toNat_lt_size
  rw [← UInt32.toNat_inj, toNat_nearestWord, hround, Int.toNat_natCast]
  omega

/-- Within the range of words it is the word that is less than half a word off. -/
theorem nearestWord_eq_iff {x : ℝ} (hlow : 0 ≤ x) (hhigh : x + 1 / 2 < UInt32.size)
    {word : UInt32} :
    nearestWord x = word ↔ word.toNat - 1 / 2 ≤ x ∧ x < word.toNat + 1 / 2 := by
  refine ⟨?_, fun h => nearestWord_eq h.1 h.2⟩
  rintro rfl
  have hnonneg : 0 ≤ round x := by
    rw [round_eq]
    exact Int.floor_nonneg.2 (by linarith)
  have hsize : round x < (UInt32.size : ℤ) := by
    rw [round_eq, Int.floor_lt]
    exact_mod_cast hhigh
  have hround : round x = ((nearestWord x).toNat : ℤ) := by
    rw [toNat_nearestWord]
    omega
  simpa using round_eq_iff.1 hround

/-! ## Comparisons -/

theorem tolerance_pos : (0 : ℝ) < tolerance := by
  change (0 : ℝ) < 1e-6
  norm_num

theorem nearZero_iff {x : ℝ} : NearZero x ↔ |x| ≤ 1e-6 :=
  abs_le.symm

theorem drivable_iff {level : ℝ} : Drivable level ↔ 1e-6 < level ∧ level ≤ 3.2 :=
  and_iff_right rfl

end Haptics
