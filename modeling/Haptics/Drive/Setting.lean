import Haptics.Register.Value
import Haptics.Waveform.Effect

/-!
# Drive settings

A drive setting is what the driver is told before playback: the wave shape, the over-drive clamp
and the open-loop period.
-/

namespace Haptics

/-- The open-loop wave shapes. -/
inductive WaveShape where
  | square
  | sine
deriving DecidableEq, Repr

namespace WaveShape

def name : WaveShape → String
  | square => "square"
  | sine => "sine"

def ofName? : String → Option WaveShape
  | "square" => some square
  | "sine" => some sine
  | _ => none

def register : WaveShape → RegisterValue
  | square => .ofWord 0
  | sine => .ofWord 1

end WaveShape

/-- Whether the driver follows the actuator's resonance. -/
inductive LoopControl where
  | opened
  | closed
deriving DecidableEq, Repr

namespace LoopControl

def name : LoopControl → String
  | opened => "open"
  | closed => "close"

/-- The loop is closed for real-time playback that lasts longer than the threshold. -/
def select (realTime : Bool) (duration threshold : UInt32) : LoopControl :=
  if realTime ∧ threshold < duration then closed else opened

/-- What the control register holds: 1 for the open loop. -/
def register (control : LoopControl) : RegisterValue :=
  .bool (control = opened)

end LoopControl

/-- What the driver is told before playback. -/
structure DriveSetting where
  shape : WaveShape
  /-- A clamp for each slot, or a single one for steady vibration. -/
  clamps : List UInt32
  period : UInt32
deriving DecidableEq, Repr

namespace DriveSetting

/-- The clamp at a position, or the last one where there are not as many. -/
def clampAt (setting : DriveSetting) (position : Nat) : UInt32 :=
  match setting.clamps[position]? with
  | some clamp => clamp
  | none => setting.clamps.getLast?.getD 0

/-- The same shape with a single clamp and another period. -/
def withDrive (setting : DriveSetting) (clamp period : UInt32) : DriveSetting :=
  { setting with clamps := [clamp], period := period }

/-- One line of text for reports. -/
def text (setting : DriveSetting) : String :=
  let clamps := " ".intercalate (setting.clamps.map toString)
  s!"shape={setting.shape.name} od_clamp=[{clamps}] lra_period={setting.period}"

end DriveSetting
end Haptics
