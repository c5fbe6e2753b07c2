import Haptics.Drive.Period
import Haptics.Scalar
import Haptics.Drive.TransferCurve

/-!
# Register codes of drive quantities

Levels are written as codes of the over-drive clamp, fractions of full scale as attenuations in
eighths of a decibel or as real-time playback amplitudes.
-/

namespace Haptics

section
variable {α : Type} [Analytic α]
open Analytic Scalar

/-- The volts of a clamp code, before the correction for the drive frequency. -/
def voltsPerCode : α := 21.32 / 1000.0

/-- The over-drive clamp code of a drive level at an open-loop period.  It is zero for a level
that is not positive and for a period whose frequency leaves no drive time. -/
def clampCode (level : α) (period : UInt32) : UInt32 :=
  let frequency : α := ofWord (freqPeriod period)
  let driveTime := 1.0 - frequency * 8.0 / 10000.0
  if driveTime ≤ tolerance ∨ level ≤ 0.0 then 0
  else roundToWord (level / (voltsPerCode * sqrt driveTime))

def stepDecibels : α := 0.125

/-- The attenuation, in steps, that leaves a fraction of full scale.  Full scale and more is not
attenuated, and neither is what is no positive finite fraction. -/
def attenuationSteps (fraction : α) : UInt32 :=
  if fraction ≤ 0.0 ∨ isFinite fraction = false then 0
  else
    let limited := if 1.0 < fraction then 1.0 else fraction
    roundToWord (-20.0 * log10 limited / stepDecibels)

/-- The attenuation, in steps, that leaves a percentage of full scale. -/
def percentSteps (α : Type) [Analytic α] (percent : UInt32) : UInt32 :=
  attenuationSteps ((ofWord percent : α) / 100.0)

end

section
variable {α : Type} [Scalar α]

/-- The real-time playback input of an amplitude; 127 is full scale. -/
def playbackInput (amplitude : α) : UInt32 :=
  Scalar.roundToWord (amplitude * 127.0)

/-- The amplitudes that playback can have: above zero and up to one. -/
def ValidAmplitude (amplitude : α) : Prop :=
  Scalar.isFinite amplitude = true ∧ 0.0 < amplitude ∧ amplitude ≤ 1.0

instance (amplitude : α) : Decidable (ValidAmplitude amplitude) :=
  inferInstanceAs (Decidable (_ ∧ _))

end
end Haptics
