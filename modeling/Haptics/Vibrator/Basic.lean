import Haptics.Calibration.Solved
import Haptics.Register.Script

/-!
# Vibrators

A vibrator is a device with the calibration of its actuator.  It is brought up once, which hands
the measured values to the driver and decides whether the drive is set for each playback; from
then on only its thermal state changes.
-/

namespace Haptics

/-- The drive of a vibrator whose driver can be told shape, clamp and period. -/
structure DynamicDrive where
  effect : DriveSetting
  steady : DriveSetting
  /-- The steady drive by temperature, if the driver measures it. -/
  thermal : Option Thermal
deriving DecidableEq, Repr

/-- A device and what is known about its actuator. -/
structure Vibrator (σ : Type) where
  device : σ
  record : Record
  catalog : Catalog
  /-- How playback is driven, or nothing where the driver's own settings are left alone. -/
  drive : Option DynamicDrive

/-- A device that is not brought up, and why. -/
structure Refusal (σ : Type) where
  error : Error
  device : σ

namespace Vibrator
variable {σ : Type}

/-- The setting for effects, if the drive is dynamic. -/
def effectSetting (v : Vibrator σ) : Option DriveSetting :=
  v.drive.map (·.effect)

/-- The nominal setting for steady vibration, if the drive is dynamic. -/
def steadySetting (v : Vibrator σ) : Option DriveSetting :=
  v.drive.map (·.steady)

/-- The steady drive by temperature, if it is tracked. -/
def thermal (v : Vibrator σ) : Option Thermal :=
  v.drive.bind (·.thermal)

section
variable [Device σ]

/-! ## Bring-up -/

/-- Whether the drive is set for each playback: the board must ask for it and the driver be able
to take it. -/
def isDynamic (device : σ) (record : Record) : Bool :=
  record.dynamicConfig && Channel.shaping.all (Device.has device)

/-- The write of a value that may not be known. -/
def writeKnown (device : σ) (channel : Channel) (value : Option RegisterValue) : Script :=
  match value with
  | none => []
  | some value => Script.ifExposed device ⟨channel, value, false⟩

/-- What a driver is told once, before any playback.  None of it is mandatory. -/
def bringUpScript (device : σ) (record : Record) : Script :=
  [⟨.state, .bool true, false⟩]
    ++ writeKnown device .autocal (record.autocal.map RegisterValue.text)
    ++ writeKnown device .f0 (record.f0.map RegisterValue.ofWord)
    ++ writeKnown device .redc (record.redc.map RegisterValue.ofWord)
    ++ writeKnown device .q (some (.ofWord record.q))
    ++ (if isDynamic device record then []
        else writeKnown device .lraPeriod (some (.ofWord record.lraPeriod)))
    ++ writeKnown device .lpTrigger (some (.ofWord record.lpTriggerEffect))

/-- How the playback of an actuator is driven. -/
def driveOf (device : σ) (record : Record) : Option DynamicDrive :=
  if isDynamic device record then
    some {
      effect := record.effectSetting
      steady := record.steadySetting
      thermal := if Device.has device .temperature then some record.thermal else none }
  else none

def catalogOf (device : σ) (record : Record) : Catalog :=
  { durations := record.durations
    queue := Device.has device .effectQueue
    startLatency := Device.startLatency device }

def missing (device : σ) : List Channel :=
  Channel.required.filter fun channel => !Device.has device channel

/-- Brings up a driver, which must have the required channels.  A refusal comes with the device as
it is by then. -/
def bringUp (device : σ) (record : Record) : Except (Refusal σ) (Vibrator σ) :=
  if missing device = [] then
    .ok {
      device := ((bringUpScript device record).run device).2
      record := record
      catalog := catalogOf device record
      drive := driveOf device record }
  else .error { error := .missingChannels (missing device), device := device }

end
end Vibrator
end Haptics
