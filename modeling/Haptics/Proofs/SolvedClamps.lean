import Mathlib
import Haptics.Proofs.LowerDegree
import Haptics.Proofs.Ceilings

/-!
# Solved clamps

Where the frequency of a period leaves time to drive, a clamp code is the level in units of
`codeVolts`, rounded (`clampCode_eq`); it is zero for all levels below half a unit and not just for
no level.  The clamp of a slot takes a code of zero for a target that no level reaches.  So the
ceiling stands for a target out of reach, and as well for one that is reached at a level too low to
be rounded to a code (`ceiling_for_unreached_or_faint`): a curve steep enough has its faintest
effects driven the hardest (`steep_curve_clamped_at_ceiling`).
-/

namespace Haptics

/-! ## Clamp codes -/

/-- The part of a drive cycle that is left for driving at a period. -/
noncomputable def driveTime (period : UInt32) : ℝ :=
  1.0 - (freqPeriod period).toNat * 8.0 / 10000.0

/-- The volts that a step of the clamp code stands for at a period. -/
noncomputable def codeVolts (period : UInt32) : ℝ :=
  voltsPerCode * √(driveTime period)

section
variable {period : UInt32} {level other : ℝ}

theorem tolerance_lt_driveTime_iff : tolerance < driveTime period ↔ freqPeriod period < 1250 := by
  have htolerance : (tolerance : ℝ) = 1e-6 := rfl
  have hlimit : (1250 : UInt32).toNat = 1250 := rfl
  rw [htolerance, driveTime, UInt32.lt_iff_toNat_lt, hlimit]
  generalize (freqPeriod period).toNat = frequency
  constructor
  · intro h
    have hreal : (frequency : ℝ) < 1250 := by
      norm_num at h
      linarith
    exact_mod_cast hreal
  · intro h
    have hreal : (frequency : ℝ) ≤ 1249 := by exact_mod_cast Nat.le_of_lt_succ h
    norm_num
    linarith

theorem voltsPerCode_eq : (voltsPerCode : ℝ) = 0.02132 := by
  change (21.32 : ℝ) / 1000.0 = 0.02132
  norm_num

theorem codeVolts_pos (hf : freqPeriod period < 1250) : 0 < codeVolts period := by
  have htime : 0 < driveTime period := tolerance_pos.trans (tolerance_lt_driveTime_iff.2 hf)
  rw [codeVolts, voltsPerCode_eq]
  exact mul_pos (by norm_num) (Real.sqrt_pos.2 htime)

theorem clampCode_of_no_time (hf : ¬freqPeriod period < 1250) (level : ℝ) :
    clampCode level period = 0 := by
  have htime : driveTime period ≤ tolerance := not_lt.1 fun h => hf (tolerance_lt_driveTime_iff.1 h)
  exact if_pos (.inl htime)

/-- The code of a level is the nearest number of steps. -/
theorem clampCode_eq (hf : freqPeriod period < 1250) (level : ℝ) :
    clampCode level period = nearestWord (level / codeVolts period) := by
  have htime : ¬driveTime period ≤ tolerance := not_le.2 (tolerance_lt_driveTime_iff.2 hf)
  have hz : (0.0 : ℝ) = 0 := by norm_num
  by_cases hl : level ≤ 0
  · -- what is not positive is rounded to zero anyway
    have hsmall : level / codeVolts period < 1 / 2 :=
      (div_nonpos_of_nonpos_of_nonneg hl (codeVolts_pos hf).le).trans_lt (by norm_num)
    rw [nearestWord_eq_zero_iff.2 hsmall]
    exact if_pos (.inr (hz ▸ hl))
  · exact if_neg fun h => h.elim htime fun h => hl (hz ▸ h)

theorem clampCode_mono (h : level ≤ other) : clampCode level period ≤ clampCode other period := by
  by_cases hf : freqPeriod period < 1250
  · rw [clampCode_eq hf, clampCode_eq hf]
    exact nearestWord_mono (div_le_div_of_nonneg_right h (codeVolts_pos hf).le)
  · rw [clampCode_of_no_time hf, clampCode_of_no_time hf]
    exact UInt32.le_refl _

theorem clampCode_eq_zero_iff (hf : freqPeriod period < 1250) :
    clampCode level period = 0 ↔ level < codeVolts period / 2 := by
  rw [clampCode_eq hf, nearestWord_eq_zero_iff, div_lt_iff₀ (codeVolts_pos hf)]
  ring_nf

end

/-! ## Levels on a line -/

/-- A line gives the level at which it reaches the target, if that can be produced. -/
theorem TransferCurve.levelFor_line {p : Haptics.Cubic ℝ} (hline : NearZero p.c ∧ NearZero p.d)
    (ha : ¬NearZero p.a) (target : ℝ) :
    (TransferCurve.ofCoefficients p).levelFor target =
      if Drivable ((target - p.b) / p.a) then (target - p.b) / p.a else 0 := by
  rw [ofCoefficients, if_pos hline]
  exact solveLinear_eq ha

theorem TransferCurve.levelFor_of_drivable {p : Haptics.Cubic ℝ} {target level : ℝ}
    (hline : NearZero p.c ∧ NearZero p.d) (ha : ¬NearZero p.a) (hd : Drivable level)
    (h : p.a * level + p.b = target) :
    (TransferCurve.ofCoefficients p).levelFor target = level := by
  have hne : p.a ≠ 0 := ne_zero_of_not_nearZero ha
  have hlevel : (target - p.b) / p.a = level := by
    rw [← h]
    field_simp
    ring
  rw [levelFor_line hline ha, hlevel, if_pos hd]

/-! ## Clamps of slots -/

section
variable {α : Type} [Analytic α] {curve : TransferCurve α} {period ceiling : UInt32} {slot : Slot}

theorem effectClamp_of_code_eq_zero (h : clampCode (curve.levelFor slot.target) period = 0) :
    effectClamp (some curve) period ceiling slot = ceiling := by
  have hsolved : solvedClamp (some curve) period ceiling slot = ceiling := if_pos h
  simp only [effectClamp, hsolved, ite_self]
  exact if_pos (UInt32.le_refl _)

theorem effectClamp_of_code_ne_zero (h : clampCode (curve.levelFor slot.target) period ≠ 0)
    (hs : slot ≠ .top) :
    effectClamp (some curve) period ceiling slot =
      min (clampCode (curve.levelFor slot.target) period) ceiling := by
  have hsolved : solvedClamp (some curve) period ceiling slot =
      clampCode (curve.levelFor slot.target) period := if_neg h
  simp only [effectClamp, hsolved, hs, false_and, if_false]

end

namespace Record

/-- The setting for effects whose clamps are solved from a curve. -/
def effectSettingOn {α : Type} [Analytic α] (record : Record) (curve : TransferCurve α) :
    DriveSetting :=
  { shape := record.effectShape.getD .sine
    clamps := Slot.all.map (effectClamp (some curve) record.lraPeriod record.shortVoltageMax)
    period := record.lraPeriod }

/-- The setting of a record is solved from the curve of its coefficients. -/
theorem effectSetting_eq_effectSettingOn {record : Record} {curve : TransferCurve Float}
    (h : record.curve = some curve) : record.effectSetting = record.effectSettingOn curve := by
  rw [effectSetting, h]
  rfl

theorem effectSettingOn_clampAt {α : Type} [Analytic α] (record : Record)
    (curve : TransferCurve α) (slot : Slot) :
    (record.effectSettingOn curve).clampAt slot.index =
      effectClamp (some curve) record.lraPeriod record.shortVoltageMax slot := by
  cases slot <;> rfl

end Record

/-! ## The ceiling -/

section
variable (record : Record) (p : Haptics.Cubic ℝ) {slot : Slot} {level : ℝ}

/-- **The ceiling stands for a target out of reach and for a level too low for a code.**  The
setting of a record is the one that is solved from its own curve.  Where the frequency leaves time
to drive, take a slot below the strongest and the level that the curve gives for its target.
Without a level the slot's clamp is the ceiling.  A level of at least half a step of the code has a
code, and the clamp is the code, as far as the ceiling allows.  A lower one has none, and the clamp
is the ceiling again; so the clamp is no more than the code, or one, exactly if the level is at
least half a step or the ceiling no more than one. -/
theorem ceiling_for_unreached_or_faint (hf : freqPeriod record.lraPeriod < 1250)
    (hs : slot ≠ .top) (hl : (TransferCurve.ofCoefficients p).levelFor slot.target = level) :
    (∀ curve, record.curve = some curve →
      record.effectSetting = record.effectSettingOn curve) ∧
    (level = 0 →
      (record.effectSettingOn (.ofCoefficients p)).clampAt slot.index = record.shortVoltageMax) ∧
    (level ≠ 0 →
      (codeVolts record.lraPeriod / 2 ≤ level →
        clampCode level record.lraPeriod ≠ 0 ∧
          (record.effectSettingOn (.ofCoefficients p)).clampAt slot.index =
            min (clampCode level record.lraPeriod) record.shortVoltageMax) ∧
      (level < codeVolts record.lraPeriod / 2 →
        clampCode level record.lraPeriod = 0 ∧
          (record.effectSettingOn (.ofCoefficients p)).clampAt slot.index =
            record.shortVoltageMax) ∧
      ((record.effectSettingOn (.ofCoefficients p)).clampAt slot.index ≤
          max 1 (clampCode level record.lraPeriod) ↔
        codeVolts record.lraPeriod / 2 ≤ level ∨ record.shortVoltageMax ≤ 1)) := by
  have hpos := codeVolts_pos hf
  have hcoded : codeVolts record.lraPeriod / 2 ≤ level →
      clampCode level record.lraPeriod ≠ 0 ∧
        effectClamp (some (.ofCoefficients p)) record.lraPeriod record.shortVoltageMax slot =
          min (clampCode level record.lraPeriod) record.shortVoltageMax := by
    intro h
    have hne : clampCode level record.lraPeriod ≠ 0 :=
      fun he => h.not_gt ((clampCode_eq_zero_iff hf).1 he)
    rw [← hl] at hne ⊢
    exact ⟨hne, effectClamp_of_code_ne_zero hne hs⟩
  have hfaint : level < codeVolts record.lraPeriod / 2 →
      clampCode level record.lraPeriod = 0 ∧
        effectClamp (some (.ofCoefficients p)) record.lraPeriod record.shortVoltageMax slot =
          record.shortVoltageMax := by
    intro h
    have he : clampCode level record.lraPeriod = 0 := (clampCode_eq_zero_iff hf).2 h
    refine ⟨he, effectClamp_of_code_eq_zero ?_⟩
    rw [hl, he]
  rw [record.effectSettingOn_clampAt]
  refine ⟨fun _ => Record.effectSetting_eq_effectSettingOn,
    fun hz => (hfaint (by linarith)).2, fun _ => ⟨hcoded, hfaint, ?_⟩⟩
  simp only [UInt32.le_iff_toNat_le, toNat_max, UInt32.toNat_one]
  by_cases h : codeVolts record.lraPeriod / 2 ≤ level
  · obtain ⟨hne, hclamp⟩ := hcoded h
    rw [hclamp, toNat_min]
    have hle : min (clampCode level record.lraPeriod).toNat record.shortVoltageMax.toNat ≤
        max 1 (clampCode level record.lraPeriod).toNat := by omega
    exact iff_of_true hle (.inl h)
  · obtain ⟨hcode, hclamp⟩ := hfaint (not_le.1 h)
    rw [hclamp, hcode]
    simp [h]

end

/-! ## Codes at the default period -/

/-- At the default period a step of the code is a little less than 20 mV. -/
theorem codeVolts_uncalibrated :
    0.0199 < codeVolts Record.uncalibrated.lraPeriod ∧
      codeVolts Record.uncalibrated.lraPeriod < 0.02 := by
  have hfrequency : (freqPeriod Record.uncalibrated.lraPeriod).toNat = 155 := by decide
  have htime : driveTime Record.uncalibrated.lraPeriod = 0.876 := by
    rw [driveTime, hfrequency]
    norm_num
  have hlow : (0.935 : ℝ) < √0.876 := Real.lt_sqrt_of_sq_lt (by norm_num)
  have hhigh : √0.876 < (0.936 : ℝ) := (Real.sqrt_lt' (by norm_num)).2 (by norm_num)
  rw [codeVolts, voltsPerCode_eq, htime]
  constructor <;> linarith

/-- So a level is rounded to a code if it is well within half a step of it. -/
theorem clampCode_uncalibrated {level : ℝ} {code : UInt32} (hcode : 1 ≤ code.toNat)
    (hlow : 0.02 * (code.toNat - 1 / 2) ≤ level) (hhigh : level < 0.0199 * (code.toNat + 1 / 2)) :
    clampCode level Record.uncalibrated.lraPeriod = code := by
  have hf : freqPeriod Record.uncalibrated.lraPeriod < 1250 := by decide
  obtain ⟨hfrom, hto⟩ := codeVolts_uncalibrated
  have hreal : (1 : ℝ) ≤ code.toNat := by exact_mod_cast hcode
  rw [clampCode_eq hf]
  refine nearestWord_eq ?_ ?_
  · rw [le_div_iff₀ (codeVolts_pos hf), mul_comm]
    exact (mul_le_mul_of_nonneg_right hto.le (by linarith)).trans hlow
  · rw [div_lt_iff₀ (codeVolts_pos hf), mul_comm]
    exact hhigh.trans_le (mul_le_mul_of_nonneg_right hfrom.le (by linarith))

/-! ## Two lines -/

/-- At half a unit per volt a texture tick is reached at 0.3 volts, which is code 15. -/
theorem gentle_line_clamped_at_code :
    freqPeriod Record.uncalibrated.lraPeriod < 1250 ∧
      (TransferCurve.ofCoefficients (⟨0.5, 0, 0, 0⟩ : Haptics.Cubic ℝ)).levelFor
        Slot.textureTick.target = 0.3 ∧
      (Record.uncalibrated.effectSettingOn
        (.ofCoefficients (⟨0.5, 0, 0, 0⟩ : Haptics.Cubic ℝ))).clampAt Slot.textureTick.index =
          15 := by
  have hslope : ¬NearZero (0.5 : ℝ) := by norm_num [nearZero_iff]
  have hdrivable : Drivable (0.3 : ℝ) := by norm_num [drivable_iff]
  have hlevel := @TransferCurve.levelFor_of_drivable ⟨0.5, 0, 0, 0⟩ Slot.textureTick.target 0.3
    ⟨nearZero_zero, nearZero_zero⟩ hslope hdrivable (by change (0.5 : ℝ) * 0.3 + 0 = 0.15; norm_num)
  have hf : freqPeriod Record.uncalibrated.lraPeriod < 1250 := by decide
  have hcode : clampCode (0.3 : ℝ) Record.uncalibrated.lraPeriod = 15 := by
    have hword : (15 : UInt32).toNat = 15 := rfl
    apply clampCode_uncalibrated <;> norm_num [hword]
  have hne : (0.3 : ℝ) ≠ 0 := by norm_num
  have hhalf : codeVolts Record.uncalibrated.lraPeriod / 2 ≤ 0.3 := by
    have hhigh := codeVolts_uncalibrated.2
    norm_num at hhigh ⊢
    linarith
  obtain ⟨-, hclamp⟩ := ((ceiling_for_unreached_or_faint Record.uncalibrated _ hf
    (by decide : Slot.textureTick ≠ .top) hlevel).2.2 hne).1 hhalf
  rw [hcode] at hclamp
  exact ⟨hf, hlevel, hclamp⟩

/-- At 50 units per volt a texture tick is reached at 3 mV, which is no code, and its clamp is the
ceiling of 107. -/
theorem steep_curve_clamped_at_ceiling :
    freqPeriod Record.uncalibrated.lraPeriod < 1250 ∧
      (TransferCurve.ofCoefficients (⟨50, 0, 0, 0⟩ : Haptics.Cubic ℝ)).levelFor
        Slot.textureTick.target = 0.003 ∧
      clampCode (0.003 : ℝ) Record.uncalibrated.lraPeriod = 0 ∧
      (Record.uncalibrated.effectSettingOn
        (.ofCoefficients (⟨50, 0, 0, 0⟩ : Haptics.Cubic ℝ))).clampAt Slot.textureTick.index =
          107 := by
  have hslope : ¬NearZero (50 : ℝ) := by norm_num [nearZero_iff]
  have hdrivable : Drivable (0.003 : ℝ) := by norm_num [drivable_iff]
  have hlevel := @TransferCurve.levelFor_of_drivable ⟨50, 0, 0, 0⟩ Slot.textureTick.target 0.003
    ⟨nearZero_zero, nearZero_zero⟩ hslope hdrivable
    (by change (50 : ℝ) * 0.003 + 0 = 0.15; norm_num)
  have hf : freqPeriod Record.uncalibrated.lraPeriod < 1250 := by decide
  have hcode : clampCode (0.003 : ℝ) Record.uncalibrated.lraPeriod = 0 := by
    have hlow := codeVolts_uncalibrated.1
    rw [clampCode_eq_zero_iff hf]
    norm_num at hlow ⊢
    linarith
  refine ⟨hf, hlevel, hcode, ?_⟩
  rw [Record.effectSettingOn_clampAt, effectClamp_of_code_eq_zero (by rw [hlevel, hcode])]
  rfl

end Haptics
