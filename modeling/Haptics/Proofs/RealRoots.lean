import Mathlib
import Haptics.Proofs.CubicRoots

/-!
# Roots told apart

Where the discriminant is clearly of one sign, the closed forms are exact.  In `z = 3a·level + b` a
cubic loses its square term (`Cubic.value_eq_depressed`), and the sign of its discriminant compares
the square of what remains constant, the offset, with a cube (`Cubic.sq_offset`).

* Positive: the radicands have distinct cube roots, and the negated sum of these is the only real
  root (`Cubic.value_eq_iff_plainRoot`).  The four ways in which it is written, by the signs of the
  radicands, agree (`Cubic.singleRoot_eq`).
* Negative: the offset is a cosine scaled by `2·first·√first`, and a third of its angle gives three
  distinct roots (`Cubic.value_eq_iff_rootsAt`, `Cubic.nodup_rootsAt`).

So a level is answered exactly where one of the roots is drivable (`single_root_answered`,
`three_roots_answered`).
-/

namespace Haptics
namespace Cubic

section
variable (p : Cubic ℝ) (r : Resolvent ℝ) (target : ℝ)

/-! ## The cubic without its square term -/

/-- The constant term of the cubic in `3a·level + b`. -/
noncomputable def offset : ℝ :=
  2.0 * r.first * p.b - 3.0 * p.a * r.second

theorem offset_eq : p.offset r = 2 * r.first * p.b - 3 * p.a * r.second := by
  rw [offset]
  norm_num

theorem value_eq_depressed (level : ℝ) :
    27 * p.a ^ 2 * (p.value level - target) =
      (3 * p.a * level + p.b) ^ 3 - 3 * (p.resolvent target).first * (3 * p.a * level + p.b) +
        p.offset (p.resolvent target) := by
  rw [offset_eq, resolvent_first, resolvent_second, value]
  ring

theorem scaled_eq_zero_iff (ha : p.a ≠ 0) (level : ℝ) :
    27 * p.a ^ 2 * (p.value level - target) = 0 ↔ p.value level = target := by
  have hscale : 27 * p.a ^ 2 ≠ 0 := by positivity
  rw [mul_eq_zero, or_iff_right hscale, sub_eq_zero]

theorem sq_offset :
    p.offset (p.resolvent target) ^ 2 =
      4 * (p.resolvent target).first ^ 3 + 9 * p.a ^ 2 * (p.resolvent target).discriminant := by
  rw [offset_eq, resolvent_discriminant, resolvent_first, resolvent_second]
  ring

/-! ## One real root -/

/-- A number whose cube root is a summand of the single root, for either square root of the
discriminant. -/
noncomputable def radicand (root : ℝ) : ℝ :=
  r.first * p.b + 3.0 * p.a * (-r.second + root) / 2.0

theorem radicand_eq (root : ℝ) :
    p.radicand r root = r.first * p.b + 3 * p.a * (-r.second + root) / 2 := by
  rw [radicand]
  norm_num

noncomputable def summand (root : ℝ) : ℝ :=
  cubeRoot (p.radicand r root)

/-- The single root, whatever the signs of the radicands. -/
noncomputable def plainRoot : ℝ :=
  (-p.b - (p.summand r √r.discriminant + p.summand r (-√r.discriminant))) / (3.0 * p.a)

theorem plainRoot_eq :
    p.plainRoot r =
      (-p.b - (p.summand r √r.discriminant + p.summand r (-√r.discriminant))) / (3 * p.a) := by
  rw [plainRoot]
  norm_num

/-- The numerator of the single root as it is written by the signs of the radicands. -/
noncomputable def signedNumerator (b y₁ y₂ : ℝ) : ℝ :=
  if y₁ < -tolerance ∧ tolerance < y₂ then -b + thirdPower (-y₁) - thirdPower y₂
  else if tolerance < y₁ ∧ y₂ < -tolerance then -b - thirdPower y₁ + thirdPower (-y₂)
  else if y₁ < -tolerance ∧ y₂ < -tolerance then -b + thirdPower (-y₁) + thirdPower (-y₂)
  else -b - cubeRoot y₁ - cubeRoot y₂

/-- All four ways come to the same: a power is taken of a negated radicand only where that is
negative, and is then its negated cube root. -/
theorem signedNumerator_eq (b y₁ y₂ : ℝ) :
    signedNumerator b y₁ y₂ = -b - (cubeRoot y₁ + cubeRoot y₂) := by
  have ht := tolerance_pos
  unfold signedNumerator
  split_ifs with hrising hfalling hnegative
  · rw [thirdPower_neg (by linarith), thirdPower_of_nonneg (by linarith)]
    ring
  · rw [thirdPower_of_nonneg (by linarith), thirdPower_neg (by linarith)]
    ring
  · rw [thirdPower_neg (by linarith), thirdPower_neg (by linarith)]
    ring
  · ring

theorem singleRoot_eq : p.singleRoot r = p.plainRoot r := by
  have hsecond : r.first * p.b + 3.0 * p.a * (-r.second - √r.discriminant) / 2.0 =
      p.radicand r (-√r.discriminant) := by
    rw [radicand, ← sub_eq_add_neg]
  rw [plainRoot, summand, summand, ← signedNumerator_eq, ← hsecond]
  rfl

section
variable (root : ℝ)

theorem summand_cubes_add : p.summand r root ^ 3 + p.summand r (-root) ^ 3 = p.offset r := by
  rw [summand, summand, cubeRoot_pow, cubeRoot_pow, radicand_eq, radicand_eq, offset_eq]
  ring

theorem summand_cubes_sub :
    p.summand r root ^ 3 - p.summand r (-root) ^ 3 = 3 * p.a * root := by
  rw [summand, summand, cubeRoot_pow, cubeRoot_pow, radicand_eq, radicand_eq]
  ring

end

section
variable {p target} {root : ℝ} (hroot : root ^ 2 = (p.resolvent target).discriminant)
include hroot

theorem summand_mul :
    p.summand (p.resolvent target) root * p.summand (p.resolvent target) (-root) =
      (p.resolvent target).first := by
  have hadd := p.summand_cubes_add (p.resolvent target) root
  have hsub := p.summand_cubes_sub (p.resolvent target) root
  have hoffset := p.sq_offset target
  generalize p.summand (p.resolvent target) root = u at *
  generalize p.summand (p.resolvent target) (-root) = v at *
  -- the product of the radicands is a quarter of the difference of two squares
  have hcubes : (u * v) ^ 3 = (p.resolvent target).first ^ 3 := by
    calc (u * v) ^ 3 = ((u ^ 3 + v ^ 3) ^ 2 - (u ^ 3 - v ^ 3) ^ 2) / 4 := by ring
      _ = (p.resolvent target).first ^ 3 := by
        rw [hadd, hsub, hoffset, ← hroot]
        ring
  exact (Odd.pow_inj (by decide)).1 hcubes

/-- A cubic as the product of a line and a parabola that has a root only if the summands are
equal. -/
theorem value_eq_summands (level : ℝ) :
    27 * p.a ^ 2 * (p.value level - target) =
      (3 * p.a * level + p.b +
          (p.summand (p.resolvent target) root + p.summand (p.resolvent target) (-root))) *
        ((3 * p.a * level + p.b -
            (p.summand (p.resolvent target) root + p.summand (p.resolvent target) (-root)) / 2) ^ 2 +
          3 / 4 * (p.summand (p.resolvent target) root -
            p.summand (p.resolvent target) (-root)) ^ 2) := by
  rw [value_eq_depressed, ← summand_mul hroot, ← p.summand_cubes_add (p.resolvent target) root]
  ring

end
end

section
variable {p : Cubic ℝ} {target : ℝ} (ha : p.a ≠ 0)
include ha

theorem value_eq_iff_plainRoot (hd : 0 < (p.resolvent target).discriminant) (level : ℝ) :
    p.value level = target ↔ level = p.plainRoot (p.resolvent target) := by
  have hroot : √(p.resolvent target).discriminant ^ 2 = (p.resolvent target).discriminant :=
    Real.sq_sqrt hd.le
  have hpos : 0 < √(p.resolvent target).discriminant := Real.sqrt_pos.2 hd
  have hvalue := value_eq_summands hroot level
  have hsub := p.summand_cubes_sub (p.resolvent target) √(p.resolvent target).discriminant
  rw [plainRoot_eq]
  generalize p.summand (p.resolvent target) √(p.resolvent target).discriminant = u at *
  generalize p.summand (p.resolvent target) (-√(p.resolvent target).discriminant) = v at *
  have hdistinct : u - v ≠ 0 := by
    intro he
    rw [sub_eq_zero.1 he, sub_self] at hsub
    exact mul_ne_zero (mul_ne_zero three_ne_zero ha) hpos.ne' hsub.symm
  -- the parabola does not touch zero
  have hparabola : (3 * p.a * level + p.b - (u + v) / 2) ^ 2 + 3 / 4 * (u - v) ^ 2 ≠ 0 := by
    positivity
  calc p.value level = target ↔ 27 * p.a ^ 2 * (p.value level - target) = 0 :=
        (p.scaled_eq_zero_iff target ha level).symm
    _ ↔ 3 * p.a * level + p.b + (u + v) = 0 := by
        rw [hvalue, mul_eq_zero, or_iff_left hparabola]
    _ ↔ level = (-p.b - (u + v)) / (3 * p.a) := by
        rw [eq_div_iff (mul_ne_zero three_ne_zero ha)]
        constructor <;> intro h <;> linarith

end

/-! ## Three real roots -/

section
variable (p : Cubic ℝ) (r : Resolvent ℝ) (target : ℝ)

/-- The cosine of the angle whose third gives the three roots, before it is limited. -/
noncomputable def cosine : ℝ :=
  p.offset r / (2.0 * r.first * √r.first)

theorem cosine_eq : p.cosine r = p.offset r / (2 * r.first * √r.first) := by
  rw [cosine]
  norm_num

theorem offset_eq_cosine (hfirst : 0 < r.first) :
    p.offset r = 2 * √r.first ^ 3 * p.cosine r := by
  have hroot : √r.first ^ 2 = r.first := Real.sq_sqrt hfirst.le
  have hpos : 0 < √r.first := Real.sqrt_pos.2 hfirst
  rw [cosine_eq, pow_succ, hroot]
  field_simp

/-- The three roots for a third of the angle. -/
noncomputable def rootsAt (angle : ℝ) : List ℝ :=
  [(-p.b - 2.0 * √r.first * Real.cos angle) / (3.0 * p.a),
   (-p.b + √r.first * (Real.cos angle + √3.0 * Real.sin angle)) / (3.0 * p.a),
   (-p.b + √r.first * (Real.cos angle - √3.0 * Real.sin angle)) / (3.0 * p.a)]

theorem rootsAt_eq (angle : ℝ) :
    p.rootsAt r angle =
      [(-p.b - 2 * √r.first * Real.cos angle) / (3 * p.a),
       (-p.b + √r.first * (Real.cos angle + √3 * Real.sin angle)) / (3 * p.a),
       (-p.b + √r.first * (Real.cos angle - √3 * Real.sin angle)) / (3 * p.a)] := by
  have htwo : (2.0 : ℝ) = 2 := by norm_num
  have hthree : (3.0 : ℝ) = 3 := by norm_num
  rw [rootsAt, htwo, hthree]

theorem threeRoots_eq :
    p.threeRoots r = p.rootsAt r (Real.arccos (limitToUnit (p.cosine r)) / 3) := by
  have hthree : (3.0 : ℝ) = 3 := by norm_num
  rw [← hthree]
  rfl

end

/-- The product of the distances to three numbers is a cubic without a square term. -/
theorem depressed_eq_prod (s angle z : ℝ) :
    z ^ 3 - 3 * s ^ 2 * z + 2 * s ^ 3 * Real.cos (3 * angle) =
      (z + 2 * s * Real.cos angle) * (z - s * (Real.cos angle + √3 * Real.sin angle)) *
        (z - s * (Real.cos angle - √3 * Real.sin angle)) := by
  have hthree : √(3 : ℝ) ^ 2 = 3 := Real.sq_sqrt (by norm_num)
  have htrig := Real.sin_sq_add_cos_sq angle
  rw [Real.cos_three_mul]
  linear_combination
    (z + 2 * s * Real.cos angle) * s ^ 2 * Real.sin angle ^ 2 * hthree +
      3 * (z + 2 * s * Real.cos angle) * s ^ 2 * htrig

theorem limitToUnit_of_abs_le {x : ℝ} (h : |x| ≤ 1) : limitToUnit x = x := by
  have hone : (1.0 : ℝ) = 1 := by norm_num
  have hlow : ¬x < -(1.0 : ℝ) := by
    rw [hone]
    exact (abs_le.1 h).1.not_gt
  have hhigh : ¬(1.0 : ℝ) < x := by
    rw [hone]
    exact (abs_le.1 h).2.not_gt
  exact (if_neg hlow).trans (if_neg hhigh)

section
variable {p : Cubic ℝ} {target : ℝ} (ha : p.a ≠ 0)
include ha

/-- With a negative discriminant the offset stays below what it is divided by. -/
theorem abs_cosine_lt_one (hd : (p.resolvent target).discriminant < 0)
    (hfirst : 0 < (p.resolvent target).first) : |p.cosine (p.resolvent target)| < 1 := by
  have hroot : √(p.resolvent target).first ^ 2 = (p.resolvent target).first :=
    Real.sq_sqrt hfirst.le
  have hpos : 0 < √(p.resolvent target).first := Real.sqrt_pos.2 hfirst
  have hscale : 0 < 2 * (p.resolvent target).first * √(p.resolvent target).first := by positivity
  have hlt : p.offset (p.resolvent target) ^ 2 <
      (2 * (p.resolvent target).first * √(p.resolvent target).first) ^ 2 := by
    calc p.offset (p.resolvent target) ^ 2
        = 4 * (p.resolvent target).first ^ 3 +
            9 * p.a ^ 2 * (p.resolvent target).discriminant := p.sq_offset target
      _ < 4 * (p.resolvent target).first ^ 3 := by
          have hneg : 9 * p.a ^ 2 * (p.resolvent target).discriminant < 0 :=
            mul_neg_of_pos_of_neg (by positivity) hd
          linarith
      _ = (2 * (p.resolvent target).first * √(p.resolvent target).first) ^ 2 := by
          rw [mul_pow, hroot]
          ring
  rw [cosine_eq, abs_div, abs_of_pos hscale, div_lt_one hscale]
  exact abs_lt_of_sq_lt_sq hlt hscale.le

/-- The roots lie apart: the product of their distances is a multiple of the angle's sine. -/
theorem nodup_rootsAt {r : Resolvent ℝ} (hfirst : 0 < r.first) {angle : ℝ}
    (hangle : Real.sin (3 * angle) ≠ 0) : (p.rootsAt r angle).Nodup := by
  have hpos : √r.first ≠ 0 := (Real.sqrt_pos.2 hfirst).ne'
  have hthree : √(3 : ℝ) ^ 2 = 3 := Real.sq_sqrt (by norm_num)
  have hsqrt : √(3 : ℝ) ≠ 0 := by positivity
  have htrig := Real.sin_sq_add_cos_sq angle
  have hscale : 3 * p.a ≠ 0 := mul_ne_zero three_ne_zero ha
  rw [rootsAt_eq]
  generalize hx : -p.b - 2 * √r.first * Real.cos angle = x
  generalize hy : -p.b + √r.first * (Real.cos angle + √3 * Real.sin angle) = y
  generalize hz : -p.b + √r.first * (Real.cos angle - √3 * Real.sin angle) = z
  have hproduct : (x - y) * (x - z) * (y - z) =
      6 * √r.first ^ 3 * √3 * Real.sin (3 * angle) := by
    rw [← hx, ← hy, ← hz, Real.sin_three_mul]
    linear_combination
      2 * √r.first ^ 3 * √3 * Real.sin angle * (9 * htrig - Real.sin angle ^ 2 * hthree)
  have hne : (x - y) * (x - z) * (y - z) ≠ 0 := by
    rw [hproduct]
    exact mul_ne_zero (mul_ne_zero (mul_ne_zero (by norm_num) (pow_ne_zero 3 hpos)) hsqrt) hangle
  obtain ⟨⟨hxy, hxz⟩, hyz⟩ := mul_ne_zero_iff.1 hne |>.imp_left mul_ne_zero_iff.1
  simp only [List.nodup_cons, List.mem_cons, List.not_mem_nil, or_false, not_or,
    div_left_inj' hscale, not_false_eq_true, List.nodup_nil, and_true]
  exact ⟨⟨sub_ne_zero.1 hxy, sub_ne_zero.1 hxz⟩, sub_ne_zero.1 hyz⟩

theorem value_eq_iff_rootsAt (hfirst : 0 < (p.resolvent target).first) {angle : ℝ}
    (hangle : Real.cos (3 * angle) = p.cosine (p.resolvent target)) (level : ℝ) :
    p.value level = target ↔ level ∈ p.rootsAt (p.resolvent target) angle := by
  have hroot : √(p.resolvent target).first ^ 2 = (p.resolvent target).first :=
    Real.sq_sqrt hfirst.le
  have hscale : 3 * p.a ≠ 0 := mul_ne_zero three_ne_zero ha
  have hvalue : 27 * p.a ^ 2 * (p.value level - target) =
    (level * (3 * p.a) - (-p.b - 2 * √(p.resolvent target).first * Real.cos angle)) *
      (level * (3 * p.a) - (-p.b + √(p.resolvent target).first *
        (Real.cos angle + √3 * Real.sin angle))) *
      (level * (3 * p.a) - (-p.b + √(p.resolvent target).first *
        (Real.cos angle - √3 * Real.sin angle))) := by
    rw [value_eq_depressed, p.offset_eq_cosine _ hfirst, ← hangle]
    nth_rewrite 1 [← hroot]
    linear_combination
      depressed_eq_prod √(p.resolvent target).first angle (3 * p.a * level + p.b)
  calc p.value level = target ↔ 27 * p.a ^ 2 * (p.value level - target) = 0 :=
        (p.scaled_eq_zero_iff target ha level).symm
    _ ↔ level ∈ p.rootsAt (p.resolvent target) angle := by
        rw [hvalue, rootsAt_eq, mul_eq_zero, mul_eq_zero, sub_eq_zero, sub_eq_zero, sub_eq_zero,
          ← eq_div_iff hscale, ← eq_div_iff hscale, ← eq_div_iff hscale, or_assoc]
        simp only [List.mem_cons, List.not_mem_nil, or_false]

end

/-! ## Branches -/

section
variable {p : Cubic ℝ} {target : ℝ} (ha : ¬NearZero p.a)
  (h : ¬(NearZero (p.resolvent target).first ∧ NearZero (p.resolvent target).second))
include ha h

theorem solveCubic_single (hd : tolerance < (p.resolvent target).discriminant) :
    solveCubic p target = firstDrivable [p.singleRoot (p.resolvent target)] := by
  rw [solveCubic, if_neg ha]
  exact (if_neg h).trans (if_pos hd)

theorem solveCubic_three (hd : (p.resolvent target).discriminant < -tolerance)
    (hfirst : tolerance < (p.resolvent target).first) :
    solveCubic p target = firstDrivable (p.threeRoots (p.resolvent target)) := by
  have hpos : ¬tolerance < (p.resolvent target).discriminant := by
    have ht := tolerance_pos
    linarith
  rw [solveCubic, if_neg ha]
  exact (if_neg h).trans ((if_neg hpos).trans ((if_pos hd).trans (if_neg hfirst.not_ge)))

end
end Cubic

/-! ## Answers -/

/-- **A single real root is found.**  Where the discriminant is positive beyond the tolerance, a
curve reaches the target at one level, which every way to write the single root computes.  This
level is answered if it can be produced, and zero if not. -/
theorem single_root_answered {p : Cubic ℝ} {target : ℝ} (ha : ¬NearZero p.a)
    (hr : ¬(NearZero (p.resolvent target).first ∧ NearZero (p.resolvent target).second))
    (hd : tolerance < (p.resolvent target).discriminant) :
    (∀ level, p.value level = target ↔ level = p.singleRoot (p.resolvent target)) ∧
      p.singleRoot (p.resolvent target) = p.plainRoot (p.resolvent target) ∧
      solveCubic p target =
        if Drivable (p.singleRoot (p.resolvent target)) then p.singleRoot (p.resolvent target)
        else 0 := by
  have hpos : 0 < (p.resolvent target).discriminant := tolerance_pos.trans hd
  refine ⟨fun level => ?_, p.singleRoot_eq _, ?_⟩
  · rw [Cubic.singleRoot_eq]
    exact Cubic.value_eq_iff_plainRoot (ne_zero_of_not_nearZero ha) hpos level
  · rw [Cubic.solveCubic_single ha hr hd]
    exact firstDrivable_singleton _

/-- `(level - 3)(level² + 1)` has two negative radicands. -/
theorem root_of_negative_radicands : solveCubic (⟨1, -3, 1, 0⟩ : Cubic ℝ) 3 = 3 := by
  have ha : ¬NearZero (1 : ℝ) := by norm_num [nearZero_iff]
  have hfirst : ((⟨1, -3, 1, 0⟩ : Cubic ℝ).resolvent 3).first = 6 := by
    rw [Cubic.resolvent_first]
    norm_num
  have hr : ¬NearZero ((⟨1, -3, 1, 0⟩ : Cubic ℝ).resolvent 3).first := by
    rw [hfirst, nearZero_iff]
    norm_num
  have hd : tolerance < ((⟨1, -3, 1, 0⟩ : Cubic ℝ).resolvent 3).discriminant := by
    rw [Cubic.resolvent_discriminant, Cubic.resolvent_first, Cubic.resolvent_second]
    change (1e-6 : ℝ) < _
    norm_num
  obtain ⟨hroot, -, hanswer⟩ := single_root_answered ha (fun h => hr h.1) hd
  have hthree := (hroot 3).1 (by norm_num [Cubic.value])
  have hdrivable : Drivable (3 : ℝ) := by norm_num [drivable_iff]
  rw [hanswer, ← hthree, if_pos hdrivable]

/-- **Three real roots are found.**  Where the discriminant is negative beyond the tolerance and
`first` positive beyond it, the cosine needs no limiting, and a curve reaches the target at three
levels, those that are computed from a third of the angle.  One of them that can be produced is
answered, and zero only if there is none. -/
theorem three_roots_answered {p : Cubic ℝ} {target : ℝ} (ha : ¬NearZero p.a)
    (hd : (p.resolvent target).discriminant < -tolerance)
    (hfirst : tolerance < (p.resolvent target).first) :
    (|p.cosine (p.resolvent target)| ≤ 1 ∧
      p.threeRoots (p.resolvent target) =
        p.rootsAt (p.resolvent target) (Real.arccos (p.cosine (p.resolvent target)) / 3)) ∧
    ((p.threeRoots (p.resolvent target)).Nodup ∧
      ∀ level, p.value level = target ↔ level ∈ p.threeRoots (p.resolvent target)) ∧
    (solveCubic p target = 0 ↔ ∀ level ∈ p.threeRoots (p.resolvent target), ¬Drivable level) ∧
    (solveCubic p target ≠ 0 →
      solveCubic p target ∈ p.threeRoots (p.resolvent target) ∧ Drivable (solveCubic p target)) := by
  have ht := tolerance_pos
  have hne := ne_zero_of_not_nearZero ha
  have hpos : 0 < (p.resolvent target).first := ht.trans hfirst
  have hcosine := Cubic.abs_cosine_lt_one hne (by linarith) hpos
  obtain ⟨hlow, hhigh⟩ := abs_lt.1 hcosine
  have hthree : p.threeRoots (p.resolvent target) =
      p.rootsAt (p.resolvent target) (Real.arccos (p.cosine (p.resolvent target)) / 3) := by
    rw [Cubic.threeRoots_eq, Cubic.limitToUnit_of_abs_le hcosine.le]
  have hangle : 3 * (Real.arccos (p.cosine (p.resolvent target)) / 3) =
      Real.arccos (p.cosine (p.resolvent target)) := by ring
  refine ⟨⟨hcosine.le, hthree⟩, ⟨?_, fun level => ?_⟩, ?_⟩
  · rw [hthree]
    refine Cubic.nodup_rootsAt hne hpos ?_
    have hsquare : p.cosine (p.resolvent target) ^ 2 < 1 := (sq_lt_one_iff_abs_lt_one _).2 hcosine
    rw [hangle, Real.sin_arccos]
    exact Real.sqrt_ne_zero'.2 (sub_pos.2 hsquare)
  · rw [hthree]
    refine Cubic.value_eq_iff_rootsAt hne hpos ?_ level
    rw [hangle, Real.cos_arccos hlow.le hhigh.le]
  · rw [Cubic.solveCubic_three ha (fun h => h.1.2.not_gt hfirst) hd hfirst]
    rcases firstDrivable_cases (p.threeRoots (p.resolvent target)) with ⟨hm, hdrivable⟩ | ⟨hz, hnone⟩
    · exact ⟨⟨fun he => absurd he hdrivable.ne_zero, fun h => absurd hdrivable (h _ hm)⟩,
        fun _ => ⟨hm, hdrivable⟩⟩
    · exact ⟨⟨fun _ => hnone, fun _ => hz⟩, fun h => absurd hz h⟩

/-- `-(level - 1)(level - 2)(level - 3)` falls through the target first. -/
theorem root_of_falling_cubic :
    solveCubic (⟨-1, 6, -11, 0⟩ : Cubic ℝ) (-6) ≠ 0 ∧
      Cubic.value ⟨-1, 6, -11, 0⟩ (solveCubic (⟨-1, 6, -11, 0⟩ : Cubic ℝ) (-6)) = -6 := by
  have ha : ¬NearZero (-1 : ℝ) := by norm_num [nearZero_iff]
  have hd : ((⟨-1, 6, -11, 0⟩ : Cubic ℝ).resolvent (-6)).discriminant < -tolerance := by
    rw [Cubic.resolvent_discriminant, Cubic.resolvent_first, Cubic.resolvent_second]
    change _ < -(1e-6 : ℝ)
    norm_num
  have hfirst : tolerance < ((⟨-1, 6, -11, 0⟩ : Cubic ℝ).resolvent (-6)).first := by
    rw [Cubic.resolvent_first]
    change (1e-6 : ℝ) < _
    norm_num
  obtain ⟨-, ⟨-, hroots⟩, hnone, hsome⟩ := three_roots_answered ha hd hfirst
  have hone := (hroots 1).1 (by norm_num [Cubic.value])
  have hdrivable : Drivable (1 : ℝ) := by norm_num [drivable_iff]
  have hne : solveCubic (⟨-1, 6, -11, 0⟩ : Cubic ℝ) (-6) ≠ 0 :=
    fun he => hnone.1 he 1 hone hdrivable
  exact ⟨hne, (hroots _).2 (hsome hne).1⟩

end Haptics
