import Mathlib
import Haptics.Proofs.CubicRoots

/-!
# Curves of lower degree

Where the leading coefficient counts as zero, a cubic is solved as a parabola or as a line.  The
roots of a parabola are tried in ascending order, whichever of the two formulas gives the lower one,
so the first that can be produced is the least that can (`firstDrivable_least`).
-/

namespace Haptics

/-! ## Ascending levels -/

theorem mem_ascending {x y level : ℝ} : level ∈ ascending x y ↔ level = x ∨ level = y := by
  unfold ascending
  split
  · rw [List.mem_pair, or_comm]
  · rw [List.mem_pair]

theorem pairwise_ascending (x y : ℝ) : (ascending x y).Pairwise (· ≤ ·) := by
  unfold ascending
  split
  · rename_i h
    exact List.pairwise_pair.2 h.le
  · rename_i h
    exact List.pairwise_pair.2 (not_lt.1 h)

/-- Of ascending levels, the first drivable one is the least drivable one. -/
theorem firstDrivable_le {levels : List ℝ} (h : levels.Pairwise (· ≤ ·)) {level : ℝ}
    (hl : level ∈ levels) (hd : Drivable level) : firstDrivable levels ≤ level := by
  induction levels with
  | nil => exact absurd hl List.not_mem_nil
  | cons first rest ih =>
    obtain ⟨hfirst, hrest⟩ := List.pairwise_cons.1 h
    rw [firstDrivable_cons]
    split
    · rcases List.mem_cons.1 hl with rfl | hm
      · exact le_rfl
      · exact hfirst level hm
    · rename_i hnot
      rcases List.mem_cons.1 hl with rfl | hm
      · exact absurd hd hnot
      · exact ih hrest hm

/-- Where ascending levels are all that have a property, the least drivable level that has it is
answered. -/
theorem firstDrivable_least {levels : List ℝ} (h : levels.Pairwise (· ≤ ·)) {Reaches : ℝ → Prop}
    (hroots : ∀ level, Reaches level ↔ level ∈ levels) :
    (firstDrivable levels ≠ 0 →
      IsLeast {level | Drivable level ∧ Reaches level} (firstDrivable levels)) ∧
    (firstDrivable levels = 0 ↔ ∀ level, Drivable level → ¬Reaches level) := by
  rcases firstDrivable_cases levels with ⟨hm, hdrivable⟩ | ⟨hz, hnone⟩
  · refine ⟨fun _ => ⟨⟨hdrivable, (hroots _).2 hm⟩, ?_⟩, ?_⟩
    · rintro level ⟨hd, hl⟩
      exact firstDrivable_le h ((hroots level).1 hl) hd
    · exact ⟨fun he => absurd he hdrivable.ne_zero,
        fun hnot => absurd ((hroots _).2 hm) (hnot _ hdrivable)⟩
  · refine ⟨fun hne => absurd hz hne, fun _ level hd hl => ?_, fun _ => hz⟩
    exact hnone level ((hroots level).1 hl) hd

/-! ## Parabolas and lines -/

section
variable {b c d target : ℝ}

theorem solveLinear_eq (hc : ¬NearZero c) :
    solveLinear c d target =
      if Drivable ((target - d) / c) then (target - d) / c else 0 := by
  rw [solveLinear, if_neg hc]
  exact firstDrivable_singleton _

theorem parabola_eq_iff (hb : b ≠ 0) {root : ℝ}
    (hroot : root ^ 2 = c ^ 2 - 4 * b * (d - target)) (level : ℝ) :
    b * level ^ 2 + c * level + d = target ↔
      level ∈ ascending ((-c - root) / (2 * b)) ((-c + root) / (2 * b)) := by
  have hdiscrim : discrim b c (d - target) = root * root := by
    rw [discrim, ← hroot]
    ring
  rw [mem_ascending, or_comm, ← quadratic_eq_zero_iff hb hdiscrim level]
  constructor <;> intro h <;> linarith

theorem parabola_ne (hd : c ^ 2 - 4 * b * (d - target) < 0) (level : ℝ) :
    b * level ^ 2 + c * level + d ≠ target := by
  have hsquare : ∀ root : ℝ, discrim b c (d - target) ≠ root ^ 2 := by
    intro root he
    have hpos := sq_nonneg root
    rw [← he, discrim] at hpos
    linarith
  intro h
  refine quadratic_ne_zero_of_discrim_ne_sq hsquare level ?_
  linarith

theorem solveQuadratic_of_nonneg (hd : 0 ≤ c ^ 2 - 4 * b * (d - target)) :
    solveQuadratic b c d target =
      firstDrivable (ascending ((-c - √(c ^ 2 - 4 * b * (d - target))) / (2 * b))
        ((-c + √(c ^ 2 - 4 * b * (d - target))) / (2 * b))) := by
  have hdiscriminant : c * c - (4.0 : ℝ) * b * (d - target) = c ^ 2 - 4 * b * (d - target) := by
    norm_num
    ring
  have htwo : (2.0 : ℝ) * b = 2 * b := by norm_num
  have hkept : (if (0.0 : ℝ) < c * c - (4.0 : ℝ) * b * (d - target) then
      c * c - (4.0 : ℝ) * b * (d - target) else 0.0) = c ^ 2 - 4 * b * (d - target) := by
    rw [hdiscriminant]
    split
    · rfl
    · linarith
  have hnonneg : ¬c * c - (4.0 : ℝ) * b * (d - target) < -tolerance := by
    have ht := tolerance_pos
    rw [hdiscriminant]
    linarith
  rw [← hkept, ← htwo]
  exact if_neg hnonneg

theorem solveQuadratic_of_neg (hd : c ^ 2 - 4 * b * (d - target) < -tolerance) :
    solveQuadratic b c d target = 0 := by
  have hdiscriminant : c * c - (4.0 : ℝ) * b * (d - target) < -tolerance := by
    norm_num
    linarith
  have hz : (0.0 : ℝ) = 0 := by norm_num
  rw [← hz]
  exact if_pos hdiscriminant

end

/-! ## Answers -/

/-- **Of a parabola the least level is answered, of a line the only one.**  Where the leading
coefficient counts as zero and the next one does not, the least level that can be produced and
reaches the target is answered, and zero exactly if there is none; this if the discriminant is not
negative, or negative beyond the tolerance.  Where both count as zero and the slope does not, the
level at which the line reaches the target is answered if it can be produced. -/
theorem least_level_answered {p : Cubic ℝ} {target : ℝ} (ha : NearZero p.a) :
    (¬NearZero p.b →
      (0 ≤ p.c ^ 2 - 4 * p.b * (p.d - target) ∨
        p.c ^ 2 - 4 * p.b * (p.d - target) < -tolerance) →
      (solveCubic p target ≠ 0 →
        IsLeast {level | Drivable level ∧ p.b * level ^ 2 + p.c * level + p.d = target}
          (solveCubic p target)) ∧
      (solveCubic p target = 0 ↔
        ∀ level, Drivable level → p.b * level ^ 2 + p.c * level + p.d ≠ target)) ∧
    (NearZero p.b → ¬NearZero p.c →
      solveCubic p target =
        if Drivable ((target - p.d) / p.c) then (target - p.d) / p.c else 0) := by
  rw [solveCubic, if_pos ha]
  refine ⟨fun hb hd => ?_, fun hb hc => ?_⟩
  · rw [if_neg hb]
    rcases hd with hd | hd
    · rw [solveQuadratic_of_nonneg hd]
      exact firstDrivable_least (pairwise_ascending _ _)
        (parabola_eq_iff (ne_zero_of_not_nearZero hb) (Real.sq_sqrt hd))
    · rw [solveQuadratic_of_neg hd]
      have hneg : p.c ^ 2 - 4 * p.b * (p.d - target) < 0 := by
        have ht := tolerance_pos
        linarith
      exact ⟨fun hne => absurd rfl hne, fun _ level _ => parabola_ne hneg level, fun _ => rfl⟩
  · rw [if_pos hb]
    exact solveLinear_eq hc

/-- `-level² + 3·level` reaches 2 at one and at two, and its formulas give two first; half a unit
per volt over a tenth reaches 0.6 at one. -/
theorem least_of_opening_down :
    solveCubic (⟨0, -1, 3, 0⟩ : Cubic ℝ) 2 = 1 ∧
      solveCubic (⟨0, 0, 0.5, 0.1⟩ : Cubic ℝ) 0.6 = 1 := by
  have hone : Drivable (1 : ℝ) := by norm_num [drivable_iff]
  refine ⟨?_, ?_⟩
  · have hb : ¬NearZero (-1 : ℝ) := by norm_num [nearZero_iff]
    have hd : 0 ≤ (3 : ℝ) ^ 2 - 4 * -1 * (0 - 2) := by norm_num
    obtain ⟨hleast, hnone⟩ :=
      (@least_level_answered ⟨0, -1, 3, 0⟩ 2 nearZero_zero).1 hb (.inl hd)
    have hne : solveCubic (⟨0, -1, 3, 0⟩ : Cubic ℝ) 2 ≠ 0 :=
      fun he => hnone.1 he 1 hone (by norm_num)
    refine (hleast hne).unique ⟨⟨hone, by norm_num⟩, ?_⟩
    rintro level ⟨-, hl⟩
    have hroots : (level - 1) * (level - 2) = 0 := by linear_combination -hl
    rcases mul_eq_zero.1 hroots with h | h <;> linarith
  · have hc : ¬NearZero (0.5 : ℝ) := by norm_num [nearZero_iff]
    have hline :=
      (@least_level_answered ⟨0, 0, 0.5, 0.1⟩ 0.6 nearZero_zero).2 nearZero_zero hc
    have hlevel : ((0.6 : ℝ) - 0.1) / 0.5 = 1 := by norm_num
    rw [hline, hlevel, if_pos hone]

end Haptics
