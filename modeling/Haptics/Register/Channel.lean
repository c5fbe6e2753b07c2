/-!
# Channels

The logical registers that the drive core addresses.  Each driver maps those it has onto its own
nodes.
-/

namespace Haptics

/-- A logical register of the driver. -/
inductive Channel where
  /-- Starts (1) or stops (0) playback. -/
  | activate
  /-- Playback length in milliseconds. -/
  | duration
  /-- Whether the driver is enabled. -/
  | state
  /-- Playback mode. -/
  | mode
  /-- Program of the waveform sequencer. -/
  | sequencer
  /-- Compound program of the effect queue. -/
  | effectQueue
  /-- Waveform to trigger. -/
  | effectIndex
  /-- Attenuation of effects, in eighths of a decibel. -/
  | scale
  /-- Attenuation on top of every playback, in eighths of a decibel. -/
  | globalScale
  /-- Loop control, 1 for open and 0 for closed. -/
  | ctrlLoop
  /-- Waveform armed for the low-power trigger. -/
  | lpTrigger
  /-- Open-loop wave shape. -/
  | waveShape
  /-- Over-drive voltage clamp. -/
  | odClamp
  /-- Open-loop drive period. -/
  | lraPeriod
  /-- Factory calibration. -/
  | autocal
  /-- Measured resonant frequency. -/
  | f0
  /-- Measured coil resistance. -/
  | redc
  /-- Measured quality factor. -/
  | q
  /-- Real-time playback amplitude. -/
  | rtpInput
  /-- Whether the audio stream has control. -/
  | aspEnable
  /-- Ambient temperature in thousandths of a degree Celsius. -/
  | temperature
deriving DecidableEq, Repr

namespace Channel

def all : List Channel :=
  [activate, duration, state, mode, sequencer, effectQueue, effectIndex, scale, globalScale,
   ctrlLoop, lpTrigger, waveShape, odClamp, lraPeriod, autocal, f0, redc, q, rtpInput, aspEnable,
   temperature]

def name : Channel → String
  | activate => "activate"
  | duration => "duration"
  | state => "state"
  | mode => "mode"
  | sequencer => "sequencer"
  | effectQueue => "effect queue"
  | effectIndex => "effect index"
  | scale => "scale"
  | globalScale => "global scale"
  | ctrlLoop => "ctrl loop"
  | lpTrigger => "lp trigger"
  | waveShape => "wave shape"
  | odClamp => "od clamp"
  | lraPeriod => "lra period"
  | autocal => "autocal"
  | f0 => "f0"
  | redc => "redc"
  | q => "q"
  | rtpInput => "rtp input"
  | aspEnable => "asp enable"
  | temperature => "temperature"

def ofName? (text : String) : Option Channel :=
  all.find? fun channel => channel.name == text

/-- The channels that a vibrator cannot do without. -/
def required : List Channel :=
  [activate, duration, state]

/-- The channels that a driver needs before its drive can be set for each playback. -/
def shaping : List Channel :=
  [waveShape, odClamp, lraPeriod]

end Channel
end Haptics
