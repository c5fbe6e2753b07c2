import Haptics.Proofs.Shaping

/-!
# Ceilings of clamps

A record limits the clamps of effects and those of steady vibration by a ceiling each.  Whatever
the factory measured, and also where it is no number at all, no clamp that reaches the driver is
above its ceiling, and none is zero unless its ceiling is.  Nothing is needed of the arithmetic:
every solved clamp passes through a comparison with the ceiling last.
-/

namespace Haptics

/-! ## Words -/

theorem toNat_min (a b : UInt32) : (min a b).toNat = min a.toNat b.toNat := by
  rw [show min a b = if a ≤ b then a else b from rfl]
  split <;> rename_i h <;> rw [UInt32.le_iff_toNat_le] at h <;> omega

theorem toNat_max (a b : UInt32) : (max a b).toNat = max a.toNat b.toNat := by
  rw [show max a b = if a ≤ b then b else a from rfl]
  split <;> rename_i h <;> rw [UInt32.le_iff_toNat_le] at h <;> omega

/-! ## Ceilings -/

/-- A clamp that keeps to a ceiling, and is not zero unless the ceiling is. -/
def WithinCeiling (ceiling clamp : UInt32) : Prop :=
  clamp ≤ ceiling ∧ (1 ≤ ceiling → 1 ≤ clamp)

theorem withinCeiling_min {ceiling clamp : UInt32} (h : 1 ≤ ceiling → 1 ≤ clamp) :
    WithinCeiling ceiling (min clamp ceiling) :=
  ⟨Std.min_le_right, fun hc => Std.le_min_iff.2 ⟨h hc, hc⟩⟩

/-! ## Solved clamps -/

section
variable {α : Type}

theorem one_le_solvedClamp [Analytic α] (curve : Option (TransferCurve α)) {period ceiling : UInt32}
    (slot : Slot) (h : 1 ≤ ceiling) : 1 ≤ solvedClamp curve period ceiling slot := by
  unfold solvedClamp
  split
  · exact h
  · simp only
    split
    · exact h
    · rename_i hcode
      grind

theorem effectClamp_within [Analytic α] (curve : Option (TransferCurve α))
    (period ceiling : UInt32) (slot : Slot) :
    WithinCeiling ceiling (effectClamp curve period ceiling slot) := by
  refine withinCeiling_min fun h => ?_
  split
  · exact h
  · exact one_le_solvedClamp curve slot h

/-- Whatever the arithmetic makes of the scaling, the clamp is between the floor, or the ceiling if
that is lower, and the ceiling. -/
theorem steadyClamp_between [Scalar α] (reached : Option α) (ceiling : UInt32) :
    min Thermal.floorClamp ceiling ≤ steadyClamp reached ceiling ∧
      steadyClamp reached ceiling ≤ ceiling := by
  have hwhole : min Thermal.floorClamp ceiling ≤ ceiling ∧ ceiling ≤ ceiling :=
    ⟨Std.min_le_right, UInt32.le_refl _⟩
  unfold steadyClamp
  split
  · exact hwhole
  · split
    · simp only [UInt32.le_iff_toNat_le, toNat_min, toNat_max]
      omega
    · exact hwhole

theorem steadyClamp_within [Scalar α] (reached : Option α) (ceiling : UInt32) :
    WithinCeiling ceiling (steadyClamp reached ceiling) := by
  obtain ⟨hfloor, hceiling⟩ := steadyClamp_between reached ceiling
  refine ⟨hceiling, fun h => ?_⟩
  exact UInt32.le_trans (Std.le_min_iff.2 ⟨by decide, h⟩) hfloor

end

/-! ## Settings -/

namespace Record
variable (record : Record)

/-- There is a clamp for each slot, at the slot's own position. -/
theorem effectSetting_clamps (slot : Slot) :
    record.effectSetting.clamps[slot.index]? =
      some (effectClamp record.curve record.lraPeriod record.shortVoltageMax slot) := by
  cases slot <;> rfl

theorem effectSetting_clampAt (slot : Slot) :
    record.effectSetting.clampAt slot.index =
      effectClamp record.curve record.lraPeriod record.shortVoltageMax slot := by
  simp only [DriveSetting.clampAt, effectSetting_clamps]

theorem steadySetting_within :
    WithinCeiling record.longVoltageMax (record.steadySetting.clampAt 0) :=
  steadyClamp_within _ _

/-- The derated clamp is the floor unless the nominal one is lower. -/
theorem derated_clampAt :
    record.thermal.derated.clampAt 0 = min Thermal.floorClamp (record.steadySetting.clampAt 0) :=
  rfl

theorem derated_within :
    WithinCeiling record.longVoltageMax (record.thermal.derated.clampAt 0) := by
  obtain ⟨hle, hone⟩ := record.steadySetting_within
  rw [derated_clampAt]
  exact ⟨UInt32.le_trans Std.min_le_right hle,
    fun h => Std.le_min_iff.2 ⟨by decide, hone h⟩⟩

/-- The ceiling of the clamps that a request may write. -/
def ceiling? : Request → Option UInt32
  | .on _ => some record.longVoltageMax
  | .effect _ _ => some record.shortVoltageMax
  | _ => none

end Record

/-! ## Runs -/

namespace Vibrator
variable {σ : Type} [Device σ] {device : σ} {record : Record} {state : ThermalState}
  {v : Vibrator σ}

/-- In any thermal state steady vibration has the nominal or the derated setting. -/
theorem Settled.activeSteady_cases (h : Settled device record state v) {setting : DriveSetting}
    (ha : v.activeSteady = some setting) :
    setting = record.steadySetting ∨ setting = record.thermal.derated := by
  rw [h.activeSteady] at ha
  split at ha
  · obtain rfl := Option.some.inj ha
    split
    · cases state
      · exact .inl rfl
      · exact .inr rfl
    · exact .inl rfl
  · cases ha

theorem Settled.clamp_within (h : Settled device record state v) {request : Request}
    {value : RegisterValue} {outcome : Except Fault Unit}
    (hw : .write .odClamp value outcome ∈ v.accesses request) :
    ∃ clamp ceiling, value = .ofWord clamp ∧ record.ceiling? request = some ceiling ∧
      WithinCeiling ceiling clamp := by
  have ht := mem_accesses_shaping hw (by decide)
  cases request with
  | on duration =>
    obtain ⟨setting, ha, ht⟩ := ht
    refine ⟨setting.clampAt 0, _, (Option.some.inj ht).symm, rfl, ?_⟩
    rcases (settled_on h duration).activeSteady_cases ha with rfl | rfl
    · exact record.steadySetting_within
    · exact record.derated_within
  | effect effect strength =>
    obtain ⟨plan, setting, -, ha, ht⟩ := ht
    refine ⟨setting.clampAt plan.slot.index, _, (Option.some.inj ht).symm, rfl, ?_⟩
    rw [h.effectSetting] at ha
    split at ha
    · obtain rfl := Option.some.inj ha
      rw [record.effectSetting_clampAt]
      exact effectClamp_within _ _ _ _
    · cases ha
  | off | amplitude | external | supportsAmplitude | supportsExternal | report => exact ht.elim

/-- **No clamp above its ceiling**: in every run from bring-up on, whatever the record holds and
the device answers, each clamp that a request writes keeps to the ceiling of its kind, and no
request but steady vibration and effects writes one.  The setting for effects has five clamps, of
which the slot of any plan selects its own. -/
theorem written_clamps_within_ceiling (up : bringUp device record = .ok v)
    (requests : List Request) :
    (∀ request accesses value outcome, (request, accesses) ∈ v.history requests →
      .write .odClamp value outcome ∈ accesses →
        ∃ clamp ceiling, value = .ofWord clamp ∧ record.ceiling? request = some ceiling ∧
          clamp ≤ ceiling ∧ (1 ≤ ceiling → 1 ≤ clamp)) ∧
    record.effectSetting.clamps.length = 5 ∧
    ∀ plan : Plan,
      record.effectSetting.clamps[plan.slot.index]? =
          some (effectClamp record.curve record.lraPeriod record.shortVoltageMax plan.slot) ∧
        record.effectSetting.clampAt plan.slot.index =
          effectClamp record.curve record.lraPeriod record.shortVoltageMax plan.slot := by
  refine ⟨fun request accesses value outcome hmem hw => ?_, rfl, fun plan =>
    ⟨record.effectSetting_clamps plan.slot, record.effectSetting_clampAt plan.slot⟩⟩
  obtain ⟨before, -, -, rfl⟩ := mem_history hmem
  obtain ⟨_, h⟩ := settled_serveAll (settled_bringUp up) before
  exact h.clamp_within hw

theorem uncalibrated_clamp_within_ceiling :
    ∃ v clamp outcome, bringUp Simulated.hot .uncalibrated = .ok v ∧
      .write .odClamp (.ofWord clamp) outcome ∈ v.accesses (.on 20) ∧ clamp ≤ 107 ∧ 1 ≤ clamp := by
  obtain ⟨v, up⟩ : ∃ v, bringUp Simulated.hot .uncalibrated = .ok v := ⟨_, rfl⟩
  obtain ⟨value, outcome, hw⟩ :
      ∃ value outcome, .write .odClamp value outcome ∈ v.accesses (.on 20) := by
    cases up
    exact ⟨_, _, List.mem_of_getElem? (i := 6) rfl⟩
  obtain ⟨clamp, ceiling, rfl, hc, hle, hone⟩ :=
    (written_clamps_within_ceiling up [.on 20]).1 _ _ _ _ List.mem_cons_self hw
  obtain rfl : 107 = ceiling := Option.some.inj hc
  exact ⟨v, clamp, outcome, up, hw, hle, hone (by decide)⟩

end Vibrator
end Haptics
