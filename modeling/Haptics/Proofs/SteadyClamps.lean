import Mathlib
import Haptics.Proofs.Ceilings
import Haptics.Proofs.RealArithmetic

/-!
# The clamp of steady vibration

An actuator that is shaken more than wanted at the ceiling is driven at a part of the ceiling,
rounded to a clamp, but not below the floor and not above the ceiling.  Over the reals the part is
the target over what the ceiling reaches, which counts only from the target on (`countedReach`); so
the whole ceiling is the part of an actuator at or below the target, and of one that was never
measured, and there is no jump where the scaling sets in (`steadyClamp_eq`).  The clamp follows the
part and the ceiling, each in its own direction (`steadyClamp_le_steadyClamp`).
-/

namespace Haptics

/-! ## Scaling -/

theorem steadyTarget_eq : (steadyTarget : ℝ) = 1.2 := rfl

theorem steadyTarget_pos : (0 : ℝ) < steadyTarget := by
  rw [steadyTarget_eq]
  norm_num

/-- What an actuator reaches at the ceiling, as far as it counts: no less than the target, and just
the target where it was not measured. -/
noncomputable def countedReach (reached : Option ℝ) : ℝ :=
  max steadyTarget (reached.getD steadyTarget)

section
variable {reached other : Option ℝ} {ceiling higher : UInt32}

theorem countedReach_pos (reached : Option ℝ) : 0 < countedReach reached :=
  steadyTarget_pos.trans_le (le_max_left _ _)

theorem countedReach_mono {x y : ℝ} (h : x ≤ y) : countedReach (some x) ≤ countedReach (some y) :=
  max_le_max_left steadyTarget h

theorem countedReach_of_le {x : ℝ} (h : x ≤ steadyTarget) :
    countedReach (some x) = countedReach none := by
  unfold countedReach
  rw [Option.getD_some, Option.getD_none, max_eq_left h, max_self]

/-- The part of the ceiling that is wanted of it. -/
noncomputable def wantedClamp (reached : Option ℝ) (ceiling : UInt32) : ℝ :=
  steadyTarget / countedReach reached * ceiling.toNat

/-- Where what is reached does not count, the whole ceiling is wanted, and is a word. -/
theorem nearestWord_wantedClamp (h : countedReach reached = steadyTarget) :
    nearestWord (wantedClamp reached ceiling) = ceiling := by
  have hpos := countedReach_pos reached
  have hwhole : wantedClamp reached ceiling = ceiling.toNat := by
    rw [wantedClamp, h, div_self (h ▸ hpos).ne', one_mul]
  rw [hwhole]
  apply nearestWord_eq <;> linarith

/-- The part that is wanted, rounded, within floor and ceiling. -/
theorem steadyClamp_eq (reached : Option ℝ) (ceiling : UInt32) :
    steadyClamp reached ceiling =
      min (max (nearestWord (wantedClamp reached ceiling)) Thermal.floorClamp) ceiling := by
  -- the whole ceiling is not touched by floor and ceiling
  have hwhole (h : countedReach reached = steadyTarget) :
      min (max (nearestWord (wantedClamp reached ceiling)) Thermal.floorClamp) ceiling =
        ceiling := by
    rw [nearestWord_wantedClamp h, ← UInt32.toNat_inj, toNat_min, toNat_max]
    omega
  cases reached with
  | none => exact (hwhole (max_self _)).symm
  | some x =>
    by_cases h : steadyTarget < x
    · have hreach : countedReach (some x) = x := max_eq_right h.le
      rw [wantedClamp, hreach]
      exact if_pos h
    · have hreach : countedReach (some x) = steadyTarget := max_eq_left (not_lt.1 h)
      rw [hwhole hreach]
      exact if_neg h

theorem wantedClamp_le (hr : countedReach other ≤ countedReach reached) (hc : ceiling ≤ higher) :
    wantedClamp reached ceiling ≤ wantedClamp other higher := by
  have hpart : steadyTarget / countedReach reached ≤ steadyTarget / countedReach other :=
    div_le_div_of_nonneg_left steadyTarget_pos.le (countedReach_pos other) hr
  have hwords : (ceiling.toNat : ℝ) ≤ higher.toNat := by
    exact_mod_cast UInt32.le_iff_toNat_le.1 hc
  have hnonneg : 0 ≤ steadyTarget / countedReach other :=
    div_nonneg steadyTarget_pos.le (countedReach_pos other).le
  exact mul_le_mul hpart hwords (Nat.cast_nonneg _) hnonneg

/-- Less reach and more ceiling is no lower a clamp. -/
theorem steadyClamp_le_steadyClamp (hr : countedReach other ≤ countedReach reached)
    (hc : ceiling ≤ higher) : steadyClamp reached ceiling ≤ steadyClamp other higher := by
  have hword := nearestWord_mono (wantedClamp_le hr hc)
  rw [steadyClamp_eq, steadyClamp_eq]
  simp only [UInt32.le_iff_toNat_le, toNat_min, toNat_max] at hword hc ⊢
  omega

end

namespace Record

/-- The setting for steady vibration of an actuator that reaches so much at the ceiling. -/
def steadySettingOn {α : Type} [Scalar α] (record : Record) (reached : Option α) : DriveSetting :=
  { shape := record.steadyShape.getD .square
    clamps := [steadyClamp reached record.longVoltageMax]
    period := record.lraPeriod }

/-- The setting of a record is that for its own measurement. -/
theorem steadySetting_eq_steadySettingOn (record : Record) :
    record.steadySetting =
      record.steadySettingOn (record.steadyAmplitude.map Float32.toFloat) :=
  rfl

theorem steadySettingOn_clampAt {α : Type} [Scalar α] (record : Record) (reached : Option α) :
    (record.steadySettingOn reached).clampAt 0 = steadyClamp reached record.longVoltageMax :=
  rfl

/-- **The clamp of steady vibration keeps between floor and ceiling, falls with what is reached and
rises with the ceiling.**  The setting of a record is that for its own measurement.  Whatever is
reached, and however inexact the arithmetic, the clamp is at most the ceiling, and at least 90 or
the ceiling.  Read over the reals, more reach is no higher a clamp, also from below to above 1.2 g;
up to there it is that of an actuator that was not measured; and a higher ceiling is no lower a
clamp. -/
theorem steady_clamp_follows_reach_and_ceiling (record : Record) :
    record.steadySetting =
      record.steadySettingOn (record.steadyAmplitude.map Float32.toFloat) ∧
    (∀ (α : Type) [Scalar α] (reached : Option α),
      min 90 record.longVoltageMax ≤ (record.steadySettingOn reached).clampAt 0 ∧
        (record.steadySettingOn reached).clampAt 0 ≤ record.longVoltageMax) ∧
    (∀ x y : ℝ, x ≤ y →
      (record.steadySettingOn (some y)).clampAt 0 ≤
        (record.steadySettingOn (some x)).clampAt 0) ∧
    (∀ x : ℝ, x ≤ 1.2 →
      (record.steadySettingOn (some x)).clampAt 0 =
        (record.steadySettingOn (none : Option ℝ)).clampAt 0) ∧
    ∀ (reached : Option ℝ) (higher : UInt32), record.longVoltageMax ≤ higher →
      (record.steadySettingOn reached).clampAt 0 ≤
        ({ record with longVoltageMax := higher }.steadySettingOn reached).clampAt 0 := by
  refine ⟨record.steadySetting_eq_steadySettingOn, fun α _ reached => ?_, fun x y h => ?_,
    fun x h => ?_, fun reached higher h => ?_⟩
  · exact steadyClamp_between reached record.longVoltageMax
  · exact steadyClamp_le_steadyClamp (countedReach_mono h) (UInt32.le_refl _)
  · have hreach := countedReach_of_le (x := x) (by rwa [steadyTarget_eq])
    rw [steadySettingOn_clampAt, steadySettingOn_clampAt, steadyClamp_eq, steadyClamp_eq,
      wantedClamp, wantedClamp, hreach]
  · exact steadyClamp_le_steadyClamp le_rfl h

/-- At the default ceiling of 107, an actuator that reaches 1.25 g is driven at 103, and one that
reaches 2.4 g at the floor of 90. -/
theorem stronger_actuator_clamped_lower :
    (1.25 : ℝ) ≤ 2.4 ∧ uncalibrated.longVoltageMax = 107 ∧
      (uncalibrated.steadySettingOn (some (1.25 : ℝ))).clampAt 0 = 103 ∧
      (uncalibrated.steadySettingOn (some (2.4 : ℝ))).clampAt 0 ≤ 103 ∧
      90 ≤ (uncalibrated.steadySettingOn (some (2.4 : ℝ))).clampAt 0 ∧
      (uncalibrated.steadySettingOn (some (1.2 : ℝ))).clampAt 0 =
        (uncalibrated.steadySettingOn (none : Option ℝ)).clampAt 0 := by
  have hceiling : uncalibrated.longVoltageMax = 107 := rfl
  have hle : (1.25 : ℝ) ≤ 2.4 := by norm_num
  obtain ⟨-, hbounds, hfalls, hwhole, -⟩ := steady_clamp_follows_reach_and_ceiling uncalibrated
  have hfirst : (uncalibrated.steadySettingOn (some (1.25 : ℝ))).clampAt 0 = 103 := by
    have hreach : countedReach (some 1.25) = 1.25 :=
      max_eq_right (by rw [steadyTarget_eq, Option.getD_some]; norm_num)
    have hword : nearestWord (wantedClamp (some 1.25) 107) = 103 := by
      have hfrom : (107 : UInt32).toNat = 107 := rfl
      have hto : (103 : UInt32).toNat = 103 := rfl
      rw [wantedClamp, hreach, steadyTarget_eq, hfrom]
      apply nearestWord_eq <;> rw [hto] <;> norm_num
    rw [steadySettingOn_clampAt, hceiling, steadyClamp_eq, hword]
    rfl
  refine ⟨hle, hceiling, hfirst, ?_, (hbounds ℝ (some 2.4)).1, hwhole 1.2 le_rfl⟩
  rw [← hfirst]
  exact hfalls 1.25 2.4 hle

end Record
end Haptics
