import Mathlib
import Haptics.Proofs.RealArithmetic
import Haptics.Proofs.AnsweredLevels

/-!
# Roots decided by tolerance

Where parts of its resolvent count as zero, the solver takes the roots that the cubic would have if
they were zero.  About these levels the cubic is its leading term and a rest that the resolvent
bounds (`Cubic.value_eq_triple`, `Cubic.value_eq_double`), so that an answer misses the target by
no more than the tolerance allows, and not at all where the roots do coincide
(`solveCubic_of_negligible`).  The tolerance does not shrink with the coefficients: on nearly
straight curves the answer may be far from every root, or missing (`nearly_straight_curves_missed`).
-/

namespace Haptics

/-! ## Levels -/

section
variable {level : ℝ}

/-- The first drivable level is one of the levels, and zero if none is drivable. -/
theorem firstDrivable_cases (levels : List ℝ) :
    (firstDrivable levels ∈ levels ∧ Drivable (firstDrivable levels)) ∨
      (firstDrivable levels = 0 ∧ ∀ level ∈ levels, ¬Drivable level) := by
  have hz : (0.0 : ℝ) = 0 := by norm_num
  rcases firstDrivable_mem_or levels with hm | ⟨he, hnone⟩
  · exact .inl hm
  · exact .inr ⟨he.trans hz, hnone⟩

theorem firstDrivable_nil : firstDrivable ([] : List ℝ) = 0 := by
  change (0.0 : ℝ) = 0
  norm_num

theorem firstDrivable_singleton (level : ℝ) :
    firstDrivable [level] = if Drivable level then level else 0 := by
  rw [firstDrivable_cons, firstDrivable_nil]

theorem Drivable.ne_zero (h : Drivable level) : level ≠ 0 := by
  rw [drivable_iff] at h
  intro he
  norm_num [he] at h

end

/-! ## The resolvent -/

namespace Cubic

def value (p : Cubic ℝ) (level : ℝ) : ℝ :=
  p.a * level ^ 3 + p.b * level ^ 2 + p.c * level + p.d

section
variable (p : Cubic ℝ) (target : ℝ)

theorem resolvent_first : (p.resolvent target).first = p.b ^ 2 - 3 * p.a * p.c := by
  change p.b * p.b - (3.0 : ℝ) * p.a * p.c = _
  norm_num
  ring

theorem resolvent_second :
    (p.resolvent target).second = p.b * p.c - 9 * p.a * (p.d - target) := by
  change p.b * p.c - (9.0 : ℝ) * p.a * (p.d - target) = _
  norm_num

theorem resolvent_discriminant :
    (p.resolvent target).discriminant =
      (p.resolvent target).second ^ 2 -
        4 * (p.resolvent target).first * (p.c ^ 2 - 3 * p.b * (p.d - target)) := by
  change (p.resolvent target).second * (p.resolvent target).second -
    (4.0 : ℝ) * (p.resolvent target).first * (p.c * p.c - (3.0 : ℝ) * p.b * (p.d - target)) = _
  norm_num
  ring

/-- A cubic as if all its roots coincided, and what the rest of the resolvent makes of it. -/
theorem value_eq_triple (ha : p.a ≠ 0) (level : ℝ) :
    p.value level - target = p.a * (level - -p.b / (3 * p.a)) ^ 3 -
      ((p.resolvent target).first * (3 * level - -p.b / (3 * p.a)) +
        (p.resolvent target).second) / (9 * p.a) := by
  rw [resolvent_first, resolvent_second, value]
  field_simp
  ring

/-- A cubic as if two of its roots coincided, and what the discriminant makes of it. -/
theorem value_eq_double (ha : p.a ≠ 0) (hr : (p.resolvent target).first ≠ 0) (level : ℝ) :
    p.value level - target =
      p.a * (level - (-p.b / p.a + (p.resolvent target).second / (p.resolvent target).first)) *
          (level - -((p.resolvent target).second / (p.resolvent target).first) / 2) ^ 2 +
        (p.resolvent target).discriminant * (9 * p.a * level + p.b +
          3 * p.a * ((p.resolvent target).second / (p.resolvent target).first)) /
            (12 * (p.resolvent target).first ^ 2) := by
  rw [resolvent_discriminant, value]
  have hfirst := p.resolvent_first target
  have hsecond := p.resolvent_second target
  generalize (p.resolvent target).first = first at *
  generalize (p.resolvent target).second = second at *
  -- the last two coefficients in terms of the others and the resolvent
  have hc : p.c = (p.b ^ 2 - first) / (3 * p.a) := by
    rw [hfirst]
    field_simp
    ring
  have hd : p.d = target + (p.b * p.c - second) / (9 * p.a) := by
    rw [hsecond]
    field_simp
    ring
  rw [hd, hc]
  field_simp
  ring

/-! ## Branches -/

theorem doubleRoots_eq (r : Resolvent ℝ) :
    p.doubleRoots r = [-p.b / p.a + r.second / r.first, -(r.second / r.first) / 2] := by
  change [-p.b / p.a + r.second / r.first, -(r.second / r.first) / (2.0 : ℝ)] = _
  norm_num

variable {p target} (ha : ¬NearZero p.a)
include ha

theorem solveCubic_triple (h : NearZero (p.resolvent target).first ∧
    NearZero (p.resolvent target).second) :
    solveCubic p target = firstDrivable [-p.b / (3 * p.a)] := by
  have he : -p.b / ((3.0 : ℝ) * p.a) = -p.b / (3 * p.a) := by norm_num
  rw [solveCubic, if_neg ha, ← he]
  exact if_pos h

section
variable (h : ¬(NearZero (p.resolvent target).first ∧ NearZero (p.resolvent target).second))
  (hd : NearZero (p.resolvent target).discriminant)
include h hd

theorem solveCubic_of_discriminant :
    solveCubic p target =
      if NearZero (p.resolvent target).first then 0
      else firstDrivable (p.doubleRoots (p.resolvent target)) := by
  have hz : (0.0 : ℝ) = 0 := by norm_num
  rw [solveCubic, if_neg ha, ← hz]
  exact (if_neg h).trans ((if_neg hd.2.not_gt).trans (if_neg hd.1.not_gt))

end

end

/-! ## Residuals -/

section
variable {p : Cubic ℝ} {target level : ℝ}

/-- By how much the value at an answered level may miss the target. -/
noncomputable def deviation (p : Cubic ℝ) (target level : ℝ) : ℝ :=
  let r := p.resolvent target
  if NearZero r.first ∧ NearZero r.second then 1e-6 * (1 + 2 * |level|) / (9 * |p.a|)
  else 1e-6 * |p.b + 3 * p.a * level| / (3 * r.first ^ 2)

theorem triple_residual (ha : p.a ≠ 0) (hfirst : |(p.resolvent target).first| ≤ 1e-6)
    (hsecond : |(p.resolvent target).second| ≤ 1e-6) (hl : level = -p.b / (3 * p.a)) :
    |p.value level - target| ≤ 1e-6 * (1 + 2 * |level|) / (9 * |p.a|) := by
  have hv := p.value_eq_triple target ha level
  rw [← hl] at hv
  have hres : p.value level - target =
      -(2 * level * (p.resolvent target).first + (p.resolvent target).second) / (9 * p.a) := by
    rw [hv]
    ring
  have hsum : |2 * level * (p.resolvent target).first + (p.resolvent target).second| ≤
      1e-6 * (1 + 2 * |level|) := by
    calc |2 * level * (p.resolvent target).first + (p.resolvent target).second|
        ≤ |2 * level * (p.resolvent target).first| + |(p.resolvent target).second| :=
          abs_add_le _ _
      _ = 2 * |level| * |(p.resolvent target).first| + |(p.resolvent target).second| := by
          rw [abs_mul, abs_mul, abs_two]
      _ ≤ 2 * |level| * 1e-6 + 1e-6 := by gcongr
      _ = 1e-6 * (1 + 2 * |level|) := by ring
  rw [hres, abs_div, abs_neg, abs_mul, abs_of_pos (by norm_num : (0 : ℝ) < 9)]
  gcongr

theorem double_residual (ha : p.a ≠ 0) (hfirst : (p.resolvent target).first ≠ 0)
    (hd : |(p.resolvent target).discriminant| ≤ 1e-6)
    (hl : level ∈ p.doubleRoots (p.resolvent target)) :
    |p.value level - target| ≤
      1e-6 * |p.b + 3 * p.a * level| / (3 * (p.resolvent target).first ^ 2) := by
  have hv := p.value_eq_double target ha hfirst level
  rw [doubleRoots_eq] at hl
  generalize (p.resolvent target).second / (p.resolvent target).first = k at hv hl
  generalize (p.resolvent target).discriminant = discriminant at hv hd
  have hpos : 0 < (p.resolvent target).first ^ 2 := by positivity
  generalize (p.resolvent target).first ^ 2 = square at hv hpos
  -- the simple root misses by four times as much as the double one
  obtain ⟨weight, hweight, hres⟩ : ∃ weight : ℝ, 3 ≤ weight ∧
      p.value level - target = discriminant * (p.b + 3 * p.a * level) / (weight * square) := by
    simp only [List.mem_cons, List.not_mem_nil, or_false] at hl
    rcases hl with rfl | rfl
    · refine ⟨3, le_rfl, ?_⟩
      rw [hv]
      field_simp
      ring
    · refine ⟨12, by norm_num, ?_⟩
      rw [hv]
      ring
  have hw : 0 < weight := by linarith
  rw [hres, abs_div, abs_mul, abs_of_pos (mul_pos hw hpos)]
  gcongr

/-! ## Exact roots -/

theorem value_eq_iff_of_triple (ha : p.a ≠ 0) (hfirst : (p.resolvent target).first = 0)
    (hsecond : (p.resolvent target).second = 0) :
    p.value level = target ↔ level = -p.b / (3 * p.a) := by
  have hv := p.value_eq_triple target ha level
  have hcube : p.value level - target = p.a * (level - -p.b / (3 * p.a)) ^ 3 := by
    rw [hv, hfirst, hsecond]
    ring
  rw [← sub_eq_zero, hcube, mul_eq_zero, or_iff_right ha, pow_eq_zero_iff (by decide),
    sub_eq_zero]

theorem value_eq_iff_of_double (ha : p.a ≠ 0) (hfirst : (p.resolvent target).first ≠ 0)
    (hd : (p.resolvent target).discriminant = 0) :
    p.value level = target ↔ level ∈ p.doubleRoots (p.resolvent target) := by
  have hv := p.value_eq_double target ha hfirst level
  rw [hd, zero_mul, zero_div, add_zero] at hv
  rw [← sub_eq_zero, hv, doubleRoots_eq, mul_eq_zero, mul_eq_zero, or_iff_right ha,
    pow_eq_zero_iff (by decide), sub_eq_zero, sub_eq_zero]
  simp

/-- The first drivable level of all roots is a root, and is missing only if no root is drivable. -/
theorem firstDrivable_of_roots {levels : List ℝ}
    (h : ∀ level, p.value level = target ↔ level ∈ levels) :
    (firstDrivable levels ≠ 0 → p.value (firstDrivable levels) = target) ∧
      (firstDrivable levels = 0 → ∀ level, Drivable level → p.value level ≠ target) := by
  rcases firstDrivable_cases levels with ⟨hm, hdrivable⟩ | ⟨hz, hnone⟩
  · exact ⟨fun _ => (h _).2 hm, fun hz => absurd hz hdrivable.ne_zero⟩
  · exact ⟨fun hne => absurd hz hne, fun _ level hl hv => hnone level ((h level).1 hv) hl⟩

end
end Cubic

/-! ## Answers -/

namespace Resolvent

/-- What decides about the roots counts as zero. -/
def Negligible (r : Resolvent ℝ) : Prop :=
  (NearZero r.first ∧ NearZero r.second) ∨ NearZero r.discriminant

/-- The roots do coincide: all three, or two that are told from the third. -/
def Repeated (r : Resolvent ℝ) : Prop :=
  (r.first = 0 ∧ r.second = 0) ∨ (r.discriminant = 0 ∧ ¬NearZero r.first)

end Resolvent

theorem nearZero_zero : NearZero (0 : ℝ) := by
  rw [nearZero_iff]
  norm_num

theorem ne_zero_of_not_nearZero {x : ℝ} (h : ¬NearZero x) : x ≠ 0 :=
  fun e => h (e ▸ nearZero_zero)

/-- **What the solver answers where it takes roots to coincide.**  A level that it answers can be
produced, and misses the target by no more than `Cubic.deviation`.  Where roots do coincide the
level reaches the target, and no level is answered only if none that reaches the target can be
produced. -/
theorem solveCubic_of_negligible {p : Cubic ℝ} {target : ℝ} (ha : ¬NearZero p.a)
    (hr : (p.resolvent target).Negligible) :
    (solveCubic p target ≠ 0 → Drivable (solveCubic p target) ∧
      |p.value (solveCubic p target) - target| ≤ p.deviation target (solveCubic p target)) ∧
    ((p.resolvent target).Repeated →
      (solveCubic p target ≠ 0 → p.value (solveCubic p target) = target) ∧
      (solveCubic p target = 0 → ∀ level, Drivable level → p.value level ≠ target)) := by
  have hne := ne_zero_of_not_nearZero ha
  by_cases ht : NearZero (p.resolvent target).first ∧ NearZero (p.resolvent target).second
  · rw [Cubic.solveCubic_triple ha ht]
    refine ⟨fun hz => ?_, fun hrep => ?_⟩
    · rcases firstDrivable_cases [-p.b / (3 * p.a)] with ⟨hm, hdrivable⟩ | ⟨he, -⟩
      · refine ⟨hdrivable, ?_⟩
        rw [Cubic.deviation, if_pos ht]
        exact Cubic.triple_residual hne (nearZero_iff.1 ht.1) (nearZero_iff.1 ht.2)
          (List.mem_singleton.1 hm)
      · exact absurd he hz
    · rcases hrep with ⟨hfirst, hsecond⟩ | ⟨-, hfirst⟩
      · refine Cubic.firstDrivable_of_roots fun level => ?_
        rw [Cubic.value_eq_iff_of_triple hne hfirst hsecond, List.mem_singleton]
      · exact absurd ht.1 hfirst
  · have hd : NearZero (p.resolvent target).discriminant := hr.resolve_left ht
    rw [Cubic.solveCubic_of_discriminant ha ht hd]
    refine ⟨fun hz => ?_, fun hrep => ?_⟩
    · split at hz
      · exact absurd rfl hz
      · rename_i hfirst
        rw [if_neg hfirst]
        rcases firstDrivable_cases (p.doubleRoots (p.resolvent target)) with
          ⟨hm, hdrivable⟩ | ⟨he, -⟩
        · refine ⟨hdrivable, ?_⟩
          rw [Cubic.deviation, if_neg ht]
          exact Cubic.double_residual hne (ne_zero_of_not_nearZero hfirst) (nearZero_iff.1 hd) hm
        · exact absurd he hz
    · rcases hrep with ⟨hfirst, hsecond⟩ | ⟨hzero, hfirst⟩
      · exact absurd ⟨hfirst ▸ nearZero_zero, hsecond ▸ nearZero_zero⟩ ht
      · rw [if_neg hfirst]
        exact Cubic.firstDrivable_of_roots fun level =>
          Cubic.value_eq_iff_of_double hne (ne_zero_of_not_nearZero hfirst) hzero

theorem double_root_solved :
    solveCubic (⟨1, -4, 5, -2⟩ : Cubic ℝ) 0 ≠ 0 ∧
      Cubic.value ⟨1, -4, 5, -2⟩ (solveCubic (⟨1, -4, 5, -2⟩ : Cubic ℝ) 0) = 0 := by
  have ha : ¬NearZero (1 : ℝ) := by
    rw [nearZero_iff]
    norm_num
  have hfirst : ((⟨1, -4, 5, -2⟩ : Cubic ℝ).resolvent 0).first = 1 := by
    rw [Cubic.resolvent_first]
    norm_num
  have hd : ((⟨1, -4, 5, -2⟩ : Cubic ℝ).resolvent 0).discriminant = 0 := by
    rw [Cubic.resolvent_discriminant, Cubic.resolvent_first, Cubic.resolvent_second]
    norm_num
  have hnegligible : NearZero ((⟨1, -4, 5, -2⟩ : Cubic ℝ).resolvent 0).discriminant := by
    rw [hd]
    exact nearZero_zero
  have hrepeated : ¬NearZero ((⟨1, -4, 5, -2⟩ : Cubic ℝ).resolvent 0).first := by
    rw [hfirst]
    exact ha
  obtain ⟨hroot, hnone⟩ :=
    (solveCubic_of_negligible ha (.inr hnegligible)).2 (.inr ⟨hd, hrepeated⟩)
  have htwo : Drivable (2 : ℝ) := by
    rw [drivable_iff]
    norm_num
  have hne : solveCubic (⟨1, -4, 5, -2⟩ : Cubic ℝ) 0 ≠ 0 := by
    intro hz
    refine hnone hz 2 htwo ?_
    norm_num [Cubic.value]
  exact ⟨hne, hroot hne⟩

/-- A target between the values at two levels is reached between them. -/
theorem Cubic.exists_value_eq (p : Cubic ℝ) {low high target : ℝ} (h : low ≤ high)
    (hlow : p.value low ≤ target) (hhigh : target ≤ p.value high) :
    ∃ level, low ≤ level ∧ level ≤ high ∧ p.value level = target := by
  have hcont : Continuous p.value := by
    unfold value
    fun_prop
  obtain ⟨level, ⟨hl, hh⟩, he⟩ := intermediate_value_Icc h hcont.continuousOn ⟨hlow, hhigh⟩
  exact ⟨level, hl, hh, he⟩

/-- A curve through zero that is a straight line but for its cubic part. -/
def Cubic.straight (a c : ℝ) : Cubic ℝ := ⟨a, 0, c, 0⟩

theorem Cubic.resolvent_straight (a c target : ℝ) :
    ((straight a c).resolvent target).first = -3 * a * c ∧
      ((straight a c).resolvent target).second = 9 * a * target ∧
      ((straight a c).resolvent target).discriminant =
        81 * a ^ 2 * target ^ 2 + 12 * a * c ^ 3 := by
  rw [resolvent_discriminant, resolvent_first, resolvent_second, straight]
  refine ⟨?_, ?_, ?_⟩ <;> ring

/-- A rising curve reaches a target before its straight part does. -/
theorem Cubic.level_lt_of_straight {a c target level : ℝ} (ha : 0 < a) (hc : 0 < c)
    (ht : 0 < target) (h : (straight a c).value level = target) : level < target / c := by
  have hv : a * level ^ 3 + c * level = target := by
    rw [← h, straight, value]
    ring
  rw [lt_div_iff₀ hc]
  by_contra hge
  have hpos : 0 < level := by
    by_contra hneg
    have hcl : c * level ≤ 0 := mul_nonpos_of_nonneg_of_nonpos hc.le (not_lt.1 hneg)
    linarith
  have hcube : 0 < a * level ^ 3 := by positivity
  linarith

/-- Two nearly straight curves of a tenth of a unit per volt, at a target that one and a half volts
reach: one is answered by more than two volts, the other is not answered at all. -/
theorem nearly_straight_curves_missed :
    (¬NearZero (5e-5 : ℝ) ∧ ((Cubic.straight 5e-5 0.1).resolvent 0.15).Negligible ∧
      solveCubic (Cubic.straight 5e-5 0.1) 0.15 = 2.25 ∧
      ∀ level, (Cubic.straight 5e-5 0.1).value level = 0.15 → level < 1.5) ∧
    (¬NearZero (3e-6 : ℝ) ∧ ((Cubic.straight 3e-6 0.1).resolvent 0.15).Negligible ∧
      solveCubic (Cubic.straight 3e-6 0.1) 0.15 = 0 ∧
      ∃ level, Drivable level ∧ (Cubic.straight 3e-6 0.1).value level = 0.15) := by
  refine ⟨?_, ?_⟩
  · obtain ⟨hfirst, hsecond, hdisc⟩ := Cubic.resolvent_straight 5e-5 0.1 0.15
    have ha : ¬NearZero (5e-5 : ℝ) := by norm_num [nearZero_iff]
    have hd : NearZero ((Cubic.straight 5e-5 0.1).resolvent 0.15).discriminant := by
      rw [hdisc, nearZero_iff]
      norm_num [abs_le]
    have hf : ¬NearZero ((Cubic.straight 5e-5 0.1).resolvent 0.15).first := by
      rw [hfirst, nearZero_iff]
      norm_num
    have hroots : (Cubic.straight 5e-5 0.1).doubleRoots
        ((Cubic.straight 5e-5 0.1).resolvent 0.15) = [-4.5, 2.25] := by
      rw [Cubic.doubleRoots_eq, hfirst, hsecond, Cubic.straight]
      norm_num
    have hout : ¬Drivable (-4.5 : ℝ) := by norm_num [drivable_iff]
    have hin : Drivable (2.25 : ℝ) := by norm_num [drivable_iff]
    refine ⟨ha, .inr hd, ?_, fun level hl => ?_⟩
    · rw [Cubic.solveCubic_of_discriminant ha (fun h => hf h.1) hd, if_neg hf, hroots,
        firstDrivable_cons, if_neg hout, firstDrivable_cons, if_pos hin]
    · have hlt := Cubic.level_lt_of_straight (by norm_num) (by norm_num) (by norm_num) hl
      norm_num at hlt ⊢
      exact hlt
  · obtain ⟨hfirst, hsecond, hdisc⟩ := Cubic.resolvent_straight 3e-6 0.1 0.15
    have ha : ¬NearZero (3e-6 : ℝ) := by norm_num [nearZero_iff]
    have hd : NearZero ((Cubic.straight 3e-6 0.1).resolvent 0.15).discriminant := by
      rw [hdisc, nearZero_iff]
      norm_num [abs_le]
    have hf : NearZero ((Cubic.straight 3e-6 0.1).resolvent 0.15).first := by
      rw [hfirst, nearZero_iff]
      norm_num [abs_le]
    have hs : ¬NearZero ((Cubic.straight 3e-6 0.1).resolvent 0.15).second := by
      rw [hsecond, nearZero_iff]
      norm_num
    obtain ⟨level, hone, htwo, hl⟩ := (Cubic.straight 3e-6 0.1).exists_value_eq
      (show (1 : ℝ) ≤ 2 by norm_num) (show _ ≤ (0.15 : ℝ) by norm_num [Cubic.straight, Cubic.value])
      (by norm_num [Cubic.straight, Cubic.value])
    refine ⟨ha, .inr hd, ?_, level, drivable_iff.2 ⟨?_, ?_⟩, hl⟩
    · rw [Cubic.solveCubic_of_discriminant ha (fun h => hs h.2) hd, if_pos hf]
    · linarith
    · linarith

end Haptics
