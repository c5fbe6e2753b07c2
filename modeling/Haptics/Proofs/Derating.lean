import Haptics.Proofs.Hysteresis
import Haptics.Proofs.Periods

/-!
# Derated vibration

Derating may only spare the actuator.  Whatever frequency shift a record asks for, the derated
setting keeps the nominal shape, its clamp is at most the nominal one and its period at least the
nominal one (`settingIn_gentler`), and so is all that reaches the driver while the thermal state
is derated.
-/

namespace Haptics

namespace DriveSetting

/-- Whether a steady setting drives no harder and no faster than another, in the same shape. -/
structure Gentler (gentle setting : DriveSetting) : Prop where
  shape_eq : gentle.shape = setting.shape
  clamp_le : gentle.clampAt 0 ≤ setting.clampAt 0
  period_le : setting.period ≤ gentle.period
  freq_le : freqPeriod gentle.period ≤ freqPeriod setting.period

theorem Gentler.rfl {setting : DriveSetting} : setting.Gentler setting :=
  ⟨Eq.refl _, UInt32.le_refl _, UInt32.le_refl _, UInt32.le_refl _⟩

/-- A lower clamp at a lowered frequency is gentler. -/
theorem withDrive_gentler (setting : DriveSetting) (floor shift : UInt32) :
    (setting.withDrive (min floor (setting.clampAt 0))
      (shiftedPeriod setting.period shift)).Gentler setting where
  shape_eq := Eq.refl _
  clamp_le := Std.min_le_right
  period_le := le_shiftedPeriod setting.period shift
  freq_le := freqPeriod_shiftedPeriod_le setting.period shift

end DriveSetting

namespace Vibrator

/-- In no thermal state is the drive harder or faster than the nominal one. -/
theorem settingIn_gentler (record : Record) (state : ThermalState) :
    (settingIn record state).Gentler record.steadySetting := by
  cases state with
  | nominal => exact .rfl
  | derated =>
    exact record.steadySetting.withDrive_gentler Thermal.floorClamp record.longFrequencyShift

variable {σ : Type} [Device σ] {device : σ} {record : Record} {v : Vibrator σ}

/-- **Derating never drives harder or faster.**  After any run, steady vibration that leaves the
thermal state derated tells the driver a clamp of at most the nominal one and of at most 90, a
period of at least the nominal one at no higher a frequency, and the nominal wave shape. -/
theorem derated_never_harder_or_faster (up : bringUp device record = .ok v)
    (requests : List Request) (duration : UInt32) {thermal : Thermal}
    (ht : ((v.serveAll requests).2.serve (.on duration)).2.thermal = some thermal)
    (hd : thermal.state = .derated) {channel : Channel} {value : RegisterValue}
    {outcome : Except Fault Unit}
    (hw : .write channel value outcome ∈ (v.serveAll requests).2.accesses (.on duration)) :
    (channel = .odClamp → ∃ clamp, value = .ofWord clamp ∧
      clamp ≤ record.steadySetting.clampAt 0 ∧ clamp ≤ 90) ∧
    (channel = .lraPeriod → ∃ period, value = .ofWord period ∧ record.lraPeriod ≤ period ∧
      (record.lraPeriod ≠ 0 → period ≠ 0) ∧ freqPeriod period ≤ freqPeriod record.lraPeriod) ∧
    (channel = .waveShape → value = record.steadySetting.shape.register) := by
  obtain ⟨state, hs⟩ := settled_serveAll (settled_bringUp up) requests
  have ha := settled_on hs duration
  obtain ⟨hk, hstate⟩ := ha.tracked_of_thermal ht
  rw [← hstate, hd] at ha
  have hg := settingIn_gentler record .derated
  refine ⟨?_, ?_, ?_⟩
  · rintro rfl
    have hv := ha.told_on hk (by decide) hw
    exact ⟨_, (Option.some.inj hv).symm, hg.clamp_le, Std.min_le_left⟩
  · rintro rfl
    have hv := ha.told_on hk (by decide) hw
    refine ⟨_, (Option.some.inj hv).symm, hg.period_le, fun hp h0 => ?_, hg.freq_le⟩
    have hle := hg.period_le
    rw [h0] at hle
    exact hp (UInt32.le_antisymm hle UInt32.zero_le)
  · rintro rfl
    have hv := ha.told_on hk (by decide) hw
    rw [← hg.shape_eq]
    exact (Option.some.inj hv).symm

theorem hot_period_not_shorter :
    ∃ v thermal period outcome, bringUp Simulated.hot .uncalibrated = .ok v ∧
      ((v.serveAll [.off]).2.serve (.on 20)).2.thermal = some thermal ∧ thermal.state = .derated ∧
      .write .lraPeriod (.ofWord period) outcome ∈ (v.serveAll [.off]).2.accesses (.on 20) ∧
      262 ≤ period ∧ freqPeriod period ≤ freqPeriod 262 := by
  obtain ⟨v, up⟩ : ∃ v, bringUp Simulated.hot .uncalibrated = .ok v := ⟨_, rfl⟩
  obtain ⟨thermal, ht, hd⟩ : ∃ thermal,
      ((v.serveAll [.off]).2.serve (.on 20)).2.thermal = some thermal ∧
        thermal.state = .derated := by
    cases up
    exact ⟨_, rfl, rfl⟩
  obtain ⟨value, outcome, hw⟩ : ∃ value outcome,
      .write .lraPeriod value outcome ∈ (v.serveAll [.off]).2.accesses (.on 20) := by
    cases up
    exact ⟨_, _, List.mem_of_getElem? (i := 7) rfl⟩
  obtain ⟨period, rfl, hp, -, hf⟩ :=
    (derated_never_harder_or_faster up [.off] 20 ht hd hw).2.1 rfl
  exact ⟨v, thermal, period, outcome, up, ht, hd, hw, hp, hf⟩

end Vibrator
end Haptics
