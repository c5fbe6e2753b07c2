import Haptics.Calibration.BoardProperties
import Haptics.Calibration.FactoryData
import Haptics.Drive.TransferCurve

/-!
# Calibration records

A record is all that the drive core knows about one actuator.  It is resolved field by field from
the factory data of the unit and the properties of its board; a value that is missing or unusable
is replaced by a default and never by a guess from another field.
-/

namespace Haptics

/-- The calibration of one actuator. -/
structure Record where
  /-- The result of factory calibration, handed to the driver as it is. -/
  autocal : Option String
  /-- The resonant period in ticks. -/
  lraPeriod : UInt32
  /-- The acceleration (g) as a cubic in the drive level (V). -/
  effectCoefficients : Option (Cubic Float32)
  /-- The acceleration (g) at the rated steady voltage. -/
  steadyAmplitude : Option Float32
  /-- The highest clamp for effects. -/
  shortVoltageMax : UInt32
  /-- The highest clamp for steady vibration. -/
  longVoltageMax : UInt32
  longFrequencyShift : UInt32
  closeLoopThreshold : UInt32
  dynamicConfig : Bool
  effectShape : Option WaveShape
  steadyShape : Option WaveShape
  lpTriggerEffect : UInt32
  durations : Durations
  /-- The measured resonant frequency, in the driver's fixed point. -/
  f0 : Option UInt32
  /-- The measured coil resistance, in the driver's fixed point. -/
  redc : Option UInt32
  /-- The quality factor, in 16.16 fixed point. -/
  q : UInt32
  /-- Percentages of full scale: one for each slot, then the level of steady and external
  playback. -/
  volumeLevels : Vector UInt32 6
  /-- Where the record comes from. -/
  factory : FactoryData
  properties : BoardProperties

namespace Record

/-! ## Defaults and limits -/

def defaultPeriod : UInt32 := 262

def defaultVolumeLevels : Vector UInt32 6 := #v[60, 70, 80, 90, 100, 76]

/-- One in 16.16 fixed point. -/
def fixedOne : Nat := 65536

/-- The quality factor where none is known: 15.5. -/
def defaultQ : UInt32 := UInt32.ofNat (fixedOne * 31 / 2)

/-- A factory index of zero stands for a quality factor of two, and each further one adds one and
a half; an index whose factor does not fit a word stands for none. -/
def qOfIndex? (index : UInt32) : Option UInt32 :=
  let q := index.toNat * (fixedOne * 3 / 2) + 2 * fixedOne
  if q < UInt32.size then some (UInt32.ofNat q) else none

/-! ## Resolving -/

/-- The factory period, unless it is zero. -/
def periodOf (factory : FactoryData) : UInt32 :=
  ((factory.scalar? UInt32 "lra_period").filter fun period => 0 < period).getD defaultPeriod

/-- The factory coefficients, if all of them are finite. -/
def coefficientsOf (factory : FactoryData) : Option (Cubic Float32) :=
  ((factory.scalars? Float32 4 "effect_coeffs").filter fun values =>
    values.all Float32.isFinite).bind Cubic.ofList?

/-- The factory amplitude, if it is finite and positive. -/
def amplitudeOf (factory : FactoryData) : Option Float32 :=
  (factory.scalar? Float32 "steady_amp_max").filter fun amplitude =>
    amplitude.isFinite && 0.0 < amplitude

/-- The measured quality factor, else the one of the factory index, else the default. -/
def qOf (factory : FactoryData) : UInt32 :=
  match factory.scalar? UInt32 "q_measured" with
  | some q => q
  | none => ((factory.scalar? UInt32 "q_index").bind qOfIndex?).getD defaultQ

def volumeLevelsOf (factory : FactoryData) : Vector UInt32 6 :=
  match factory.scalars? UInt32 6 "v_levels" with
  | some levels =>
    if h : levels.length = 6 then ⟨levels.toArray, by simp [h]⟩ else defaultVolumeLevels
  | none => defaultVolumeLevels

def ofSources (factory : FactoryData) (properties : BoardProperties) : Record :=
  { autocal := factory.text? "autocal"
    lraPeriod := periodOf factory
    effectCoefficients := coefficientsOf factory
    steadyAmplitude := amplitudeOf factory
    shortVoltageMax := properties.shortVoltage
    longVoltageMax := properties.longVoltage
    longFrequencyShift := properties.longFrequencyShift
    closeLoopThreshold := properties.closeLoopThreshold
    dynamicConfig := properties.dynamicConfig
    effectShape := properties.effectShape
    steadyShape := properties.steadyShape
    lpTriggerEffect := properties.lpTriggerEffect
    durations := properties.durations
    f0 := factory.scalar? UInt32 "f0_measured"
    redc := factory.scalar? UInt32 "redc_measured"
    q := qOf factory
    volumeLevels := volumeLevelsOf factory
    factory := factory
    properties := properties }

/-- The level of steady and external playback, in percent. -/
def globalLevel (record : Record) : UInt32 :=
  record.volumeLevels.get ⟨5, Nat.lt_succ_self 5⟩

/-- The level of effects in a slot, in percent. -/
def slotLevel (record : Record) (slot : Slot) : UInt32 :=
  record.volumeLevels.get ⟨slot.index, Nat.lt_succ_of_lt slot.index_lt⟩

/-! ## Reporting -/

/-- The properties, and the factory file as it was read. -/
def report (record : Record) : String :=
  let source :=
    match record.factory.path with
    | some path => s!"  {path}:"
    | none => "  (none)"
  let lines := record.factory.lines.map fun line => s!"    {line}"
  "Properties:\n" ++ record.properties.report ++ "\n"
    ++ String.join (("Persist:" :: source :: lines).map fun line => line ++ "\n")

end Record
end Haptics
