import Haptics.Calibration.Record
import Haptics.Drive.Level
import Haptics.Drive.Thermal

/-!
# Solved drive settings

The clamps that a calibration record gives: for each effect slot the one whose level reaches the
slot's acceleration, for steady vibration the ceiling scaled down to the wanted acceleration.  No
clamp is above the ceiling of its kind.
-/

namespace Haptics

section
variable {α : Type}

/-- The peak acceleration (g) that a slot is to reach. -/
def Slot.target [Scalar α] : Slot → α
  | .textureTick => 0.15
  | .tick => 0.15
  | .click => 0.27
  | .heavyClick => 0.43
  | .top => 0.57

/-- The clamp of the strongest slot beyond which a solution is not trusted. -/
def trustedClamp : UInt32 := 161

/-- The clamp whose level reaches the acceleration of a slot, or the ceiling where no curve is
known or no level reaches it. -/
def solvedClamp [Analytic α] (curve : Option (TransferCurve α)) (period ceiling : UInt32)
    (slot : Slot) : UInt32 :=
  match curve with
  | none => ceiling
  | some curve =>
    let code := clampCode (curve.levelFor slot.target) period
    if code = 0 then ceiling else code

/-- The clamp of a slot: the solved one, which for the strongest slot must be trusted, limited by
the ceiling. -/
def effectClamp [Analytic α] (curve : Option (TransferCurve α)) (period ceiling : UInt32)
    (slot : Slot) : UInt32 :=
  let solved := solvedClamp curve period ceiling slot
  let trusted := if slot = .top ∧ trustedClamp < solved then ceiling else solved
  min trusted ceiling

/-- The acceleration (g) that steady vibration is to reach. -/
def steadyTarget [Scalar α] : α := 1.2

/-- The clamp of steady vibration: the ceiling, scaled down where it reaches more than the
target, but not below the floor unless the ceiling is. -/
def steadyClamp [Scalar α] (reached : Option α) (ceiling : UInt32) : UInt32 :=
  match reached with
  | none => ceiling
  | some reached =>
    if steadyTarget < reached then
      let scaled := Scalar.roundToWord (steadyTarget / reached * Scalar.ofWord ceiling)
      min (max scaled Thermal.floorClamp) ceiling
    else ceiling

end

namespace Record

/-- The measured curve of the actuator, its coefficients widened without loss. -/
def curve (record : Record) : Option (TransferCurve Float) :=
  record.effectCoefficients.map fun p => .ofCoefficients (p.map Float32.toFloat)

/-- The setting for effects, with a clamp for each slot; a sine unless the board says
otherwise. -/
def effectSetting (record : Record) : DriveSetting :=
  { shape := record.effectShape.getD .sine
    clamps := Slot.all.map (effectClamp record.curve record.lraPeriod record.shortVoltageMax)
    period := record.lraPeriod }

/-- The setting for steady vibration at the nominal period; a square wave unless the board says
otherwise. -/
def steadySetting (record : Record) : DriveSetting :=
  { shape := record.steadyShape.getD .square
    clamps := [steadyClamp (record.steadyAmplitude.map Float32.toFloat) record.longVoltageMax]
    period := record.lraPeriod }

/-- The steady drive of an actuator whose temperature is known. -/
def thermal (record : Record) : Thermal :=
  .start record.steadySetting (shiftedPeriod record.lraPeriod record.longFrequencyShift)
    Thermal.floorClamp {}

end Record
end Haptics
