import Haptics.Vibrator.Basic

/-!
# Playback

Each request is a script of writes that ends in the activation of the driver, so that a mandatory
write that fails leaves the driver as it was.  What a script holds depends on the channels of the
driver, the drive settings and, for steady vibration, on a temperature sample taken first.
-/

namespace Haptics

inductive PlayMode where
  /-- Real-time playback, for steady vibration. -/
  | realTime
  /-- Waveforms from the sequencer, for effects. -/
  | waveform
deriving DecidableEq, Repr

def PlayMode.name : PlayMode → String
  | .realTime => "rtp"
  | .waveform => "waveform"

/-- What became of the request to play an effect. -/
inductive EffectOutcome where
  | played (duration : UInt32)
  | unsupported
deriving DecidableEq, Repr

namespace EffectOutcome

def isSupported : EffectOutcome → Bool
  | played _ => true
  | unsupported => false

def duration : EffectOutcome → UInt32
  | played duration => duration
  | unsupported => 0

end EffectOutcome

namespace Vibrator
variable {σ : Type} [Device σ]

/-! ## Parts of scripts -/

/-- Attenuates every playback to the global level, or takes the attenuation back. -/
def globalScaleScript (v : Vibrator σ) (attenuated : Bool) : Script :=
  let steps := if attenuated then percentSteps Float v.record.globalLevel else 0
  Script.ifExposed v.device ⟨.globalScale, .ofWord steps, false⟩

/-- Tells the driver a setting, with the clamp of a slot. -/
def settingScript (setting : Option DriveSetting) (position : Nat) : Script :=
  match setting with
  | none => []
  | some setting =>
    [{ channel := .waveShape, value := setting.shape.register },
     { channel := .odClamp, value := .ofWord (setting.clampAt position) },
     { channel := .lraPeriod, value := .ofWord setting.period }]

/-- Chooses loop and mode, sets the length and the drive, and starts playback. -/
def playScript (v : Vibrator σ) (duration : UInt32) (mode : PlayMode)
    (setting : Option DriveSetting) (position : Nat) : Script :=
  let loop := LoopControl.select (mode = .realTime) duration v.record.closeLoopThreshold
  Script.ifExposed v.device ⟨.ctrlLoop, loop.register, false⟩
    ++ Script.ifExposed v.device { channel := .mode, value := .text mode.name }
    ++ [{ channel := .duration, value := .ofWord duration }]
    ++ settingScript setting position
    ++ [{ channel := .activate, value := .bool true }]

def runScript (v : Vibrator σ) (script : Script) : Except Error Unit × Vibrator σ :=
  let (outcome, device) := script.run v.device
  (outcome, { v with device := device })

/-! ## Steady vibration -/

/-- The thermal state after a reading of the temperature; one that failed or is no integer
changes nothing. -/
def observe (thermal : Thermal) (reading : Except Fault RegisterValue) : Thermal :=
  match reading with
  | .error _ => thermal
  | .ok value =>
    match value.toInt? with
    | some sample => thermal.observe sample
    | none => thermal

/-- Reads the temperature, if it is tracked, and gives the steady setting for it. -/
def sampleSteady (v : Vibrator σ) : Option DriveSetting × Vibrator σ :=
  match v.drive with
  | none => (none, v)
  | some drive =>
    match drive.thermal with
    | none => (some drive.steady, v)
    | some thermal =>
      let (reading, device) := Device.read .temperature v.device
      let thermal := observe thermal reading
      (some thermal.current,
        { v with device := device, drive := some { drive with thermal := some thermal } })

/-- Starts steady vibration.  The driver is told the duration and the time it needs to start,
unless both together are too long. -/
def on (v : Vibrator σ) (duration : UInt32) : Except Error UInt32 × Vibrator σ :=
  let (setting, v) := v.sampleSteady
  let timeout := addUnlessTooLong duration v.catalog.startLatency
  let (outcome, v) :=
    v.runScript (v.globalScaleScript true ++ v.playScript timeout .realTime setting 0)
  (outcome.map fun _ => duration, v)

def off (v : Vibrator σ) : Except Error Unit × Vibrator σ :=
  v.runScript (v.globalScaleScript false ++ [{ channel := .activate, value := .bool false }])

/-! ## Effects -/

def programScript (program : Program) : Script :=
  match program with
  | .sequence _ => [{ channel := .sequencer, value := .text program.text }]
  | .queue .. =>
    [{ channel := .effectQueue, value := .text program.text },
     { channel := .effectIndex, value := .ofWord Catalog.queueTrigger }]

/-- The attenuation of an effect.  Where its clamp is set for the playback there is none. -/
def effectScale (v : Vibrator σ) (slot : Slot) : UInt32 :=
  if v.drive.isSome then 0 else percentSteps Float (v.record.slotLevel slot)

/-- Hands over the program, sets the attenuation and plays. -/
def effectScript (v : Vibrator σ) (plan : Plan) : Script :=
  programScript plan.program
    ++ Script.ifExposed v.device
      { channel := .scale, value := .ofWord (v.effectScale plan.slot) }
    ++ v.playScript plan.duration .waveform v.effectSetting plan.slot.index

/-- Plays an effect, unless the driver has no waveform for it. -/
def performEffect (v : Vibrator σ) (effect : Effect) (strength : Strength) :
    Except Error EffectOutcome × Vibrator σ :=
  match v.catalog.plan? effect strength with
  | none => (.ok .unsupported, v)
  | some plan =>
    let (outcome, v) := v.runScript (v.effectScript plan)
    (outcome.map fun _ => .played plan.duration, v)

/-! ## Amplitude and external control -/

/-- Whether the audio stream has control.  A driver that cannot say so has not given it away. -/
def externalControlActive (v : Vibrator σ) : Bool × Vibrator σ :=
  if Device.has v.device .aspEnable then
    let (reading, device) := Device.read .aspEnable v.device
    let active :=
      match reading with
      | .ok value => value.toBool?.getD false
      | .error _ => false
    (active, { v with device := device })
  else (false, v)

/-- Whether an amplitude can be set now. -/
def supportsAmplitude (v : Vibrator σ) : Bool × Vibrator σ :=
  let (active, v) := v.externalControlActive
  (!active && (Device.has v.device .rtpInput || Device.has v.device .scale), v)

/-- Sets the amplitude of playback, as a real-time input if the driver has one and as an
attenuation otherwise. -/
def setAmplitude (v : Vibrator σ) (amplitude : Float32) : Except Error Unit × Vibrator σ :=
  if ValidAmplitude amplitude then
    let (active, v) := v.externalControlActive
    if active then (.error .amplitudeOwned, v)
    else if Device.has v.device .rtpInput then
      v.runScript [{ channel := .rtpInput, value := .ofWord (playbackInput amplitude) }]
    else if Device.has v.device .scale then
      v.runScript
        [{ channel := .scale, value := .ofWord (attenuationSteps amplitude.toFloat) }]
    else (.error .noAmplitudeControl, v)
  else (.error (.badAmplitude amplitude), v)

def supportsExternal (v : Vibrator σ) : Bool :=
  Device.has v.device .aspEnable

/-- Gives control to the audio stream, or takes it back. -/
def setExternal (v : Vibrator σ) (enabled : Bool) : Except Error Unit × Vibrator σ :=
  if v.supportsExternal then
    v.runScript
      (v.globalScaleScript enabled ++ [{ channel := .aspEnable, value := .bool enabled }])
  else (.error .noExternalControl, v)

end Vibrator
end Haptics
