import Haptics.FileTree
import Haptics.Register.Channel
import Haptics.Register.Value

/-!
# Faults of register accesses

Why a read or write of a channel fails, the kind each cause belongs to, and its wording.
-/

namespace Haptics

/-- Why an access to a channel fails. -/
inductive Fault where
  /-- The channel's node cannot be read or written. -/
  | node (fault : FileFault)
  /-- The driver does not have the channel. -/
  | notExposed (channel : Channel)
  /-- An attenuation that is no integer. -/
  | badScale (value : RegisterValue)
  /-- A playback mode that the driver does not know. -/
  | unknownMode (value : RegisterValue)
  /-- A sequencer program without a waveform index. -/
  | badProgram (value : RegisterValue)
  /-- A simulated driver does not have the channel. -/
  | noChannel
  /-- A simulated channel has no value. -/
  | nothingToRead
  /-- A simulated channel fails with a message of its own. -/
  | simulated (message : String)
deriving DecidableEq, Repr

inductive FaultKind where
  | notFound
  | isDirectory
  | notDirectory
  | invalidData
  | invalidInput
  | unsupported
  | other
deriving DecidableEq, Repr

def FileFault.kind : FileFault → FaultKind
  | .notFound => .notFound
  | .isDirectory => .isDirectory
  | .notDirectory => .notDirectory
  | .notText => .invalidData

namespace Fault

def kind : Fault → FaultKind
  | node fault => fault.kind
  | notExposed _ => .unsupported
  | badScale _ => .invalidInput
  | unknownMode _ => .invalidInput
  | badProgram _ => .invalidInput
  | noChannel => .unsupported
  | nothingToRead => .notFound
  | simulated _ => .other

def message : Fault → String
  | node fault => fault.message
  | notExposed channel => s!"{channel.name} is not exposed by this driver"
  | badScale value => s!"bad scale '{value.toText}'"
  | unknownMode value => s!"unknown mode '{value.toText}'"
  | badProgram value => s!"bad sequencer program '{value.toText}'"
  | noChannel => "no such channel"
  | nothingToRead => "nothing to read"
  | simulated message => message

end Fault
end Haptics
