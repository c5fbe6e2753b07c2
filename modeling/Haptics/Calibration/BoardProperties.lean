import Haptics.Drive.Setting
import Haptics.Toml.Document
import Haptics.Waveform.Catalog

/-!
# Board properties

What all units of a product share is set in a TOML file.  Every key may be left out and unknown
keys are passed over, but a known key with a value of the wrong type makes the whole file
invalid.
-/

namespace Haptics

/-- The tuning of a board. -/
structure BoardProperties where
  /-- Steady vibrations longer than this many milliseconds run with a closed loop. -/
  closeLoopThreshold : UInt32 := 4294967295
  /-- Whether drive settings are solved from the calibration of each unit. -/
  dynamicConfig : Bool := false
  /-- By how many hertz a derated steady vibration is lowered. -/
  longFrequencyShift : UInt32 := 10
  /-- The highest clamp for effects. -/
  shortVoltage : UInt32 := 107
  /-- The highest clamp for steady vibration. -/
  longVoltage : UInt32 := 107
  durations : Durations := {}
  effectShape : Option WaveShape := none
  steadyShape : Option WaveShape := none
  /-- The waveform armed for the low-power trigger. -/
  lpTriggerEffect : UInt32 := 1
deriving DecidableEq, Repr

namespace BoardProperties
open Toml

/-! ## Reading -/

def word? : Value → Option UInt32
  | .integer n => if 0 ≤ n ∧ n.toNat < UInt32.size then some (UInt32.ofNat n.toNat) else none
  | _ => none

def bool? : Value → Option Bool
  | .boolean b => some b
  | _ => none

/-- A shape, written as its name or as a table that holds nothing but an empty value under that
name. -/
def shape? : Value → Option WaveShape
  | .string name => WaveShape.ofName? name
  | .table _ [(name, .array [])] => WaveShape.ofName? name
  | .table _ [(name, .table _ [])] => WaveShape.ofName? name
  | _ => none

/-- The value of a key, or the default where it is left out.  A value of the wrong type is a
failure. -/
def field {α : Type} (entries : Entries) (key : String) (read : Value → Option α) (default : α) :
    Option α :=
  match entries.lookup key with
  | none => some default
  | some value => read value

/-- The value of a key that has an older name, of which only one may be used. -/
def renamedField {α : Type} (entries : Entries) (key older : String)
    (read : Value → Option α) (default : α) : Option α :=
  match entries.lookup key, entries.lookup older with
  | some _, some _ => none
  | some value, none => read value
  | none, some value => read value
  | none, none => some default

def ofEntries? (entries : Entries) : Option BoardProperties := do
  let base : BoardProperties := {}
  let closeLoopThreshold ← field entries "closeloop_threshold" word? base.closeLoopThreshold
  let dynamicConfig ←
    renamedField entries "dynamic_config" "config_dynamic" bool? base.dynamicConfig
  let longFrequencyShift ← field entries "long_frequency_shift" word? base.longFrequencyShift
  let shortVoltage ← field entries "short_voltage" word? base.shortVoltage
  let longVoltage ← field entries "long_voltage" word? base.longVoltage
  let click ← field entries "click_duration" word? base.durations.click
  let tick ← field entries "tick_duration" word? base.durations.tick
  let doubleClick ← field entries "double_click_duration" word? base.durations.doubleClick
  let heavyClick ← field entries "heavyclick_duration" word? base.durations.heavyClick
  let effectShape ← field entries "effect_shape" (fun v => (shape? v).map some) base.effectShape
  let steadyShape ← field entries "steady_shape" (fun v => (shape? v).map some) base.steadyShape
  let lpTriggerEffect ← field entries "lptrigger_effect" word? base.lpTriggerEffect
  return {
    closeLoopThreshold, dynamicConfig, longFrequencyShift, shortVoltage, longVoltage,
    durations := { click, tick, doubleClick, heavyClick },
    effectShape, steadyShape, lpTriggerEffect }

def ofText? (text : String) : Option BoardProperties :=
  (readDocument text).bind ofEntries?

/-! ## Reporting -/

/-- The name of a shape, or the word for none being set. -/
def shapeText (shape : Option WaveShape) : String :=
  (shape.map WaveShape.name).getD "default"

def reportLines (p : BoardProperties) : List String :=
  [s!"  closeloop_threshold: {p.closeLoopThreshold}",
   s!"  dynamic_config: {p.dynamicConfig}",
   s!"  long_frequency_shift: {p.longFrequencyShift}",
   s!"  short_voltage: {p.shortVoltage}",
   s!"  long_voltage: {p.longVoltage}",
   s!"  click_duration: {p.durations.click}",
   s!"  tick_duration: {p.durations.tick}",
   s!"  double_click_duration: {p.durations.doubleClick}",
   s!"  heavyclick_duration: {p.durations.heavyClick}",
   s!"  effect_shape: {shapeText p.effectShape}",
   s!"  steady_shape: {shapeText p.steadyShape}",
   s!"  lptrigger_effect: {p.lpTriggerEffect}"]

def report (p : BoardProperties) : String :=
  String.join (p.reportLines.map fun line => line ++ "\n")

end BoardProperties
end Haptics
