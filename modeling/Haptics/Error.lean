import Haptics.Numeral.Shortest
import Haptics.Register.Fault

/-!
# Errors of the drive core

Each cause for which a request is refused or fails, the kind it belongs to, and its wording.
-/

namespace Haptics

/-- Why a request is refused or fails. -/
inductive Error where
  /-- A source of calibration cannot be read. -/
  | unreadableSource (path : String) (fault : FileFault)
  /-- A properties file breaks the rules of its format. -/
  | invalidProperties
  /-- The driver rejects a write. -/
  | writeFailed (channel : Channel) (fault : Fault)
  /-- The audio stream controls the amplitude. -/
  | amplitudeOwned
  /-- The driver cannot set an amplitude. -/
  | noAmplitudeControl
  /-- The driver cannot be controlled by the audio stream. -/
  | noExternalControl
  /-- An amplitude that playback cannot have. -/
  | badAmplitude (amplitude : Float32)
  | unknownEffect (text : String)
  | unknownStrength (text : String)
  /-- The driver lacks channels that it cannot do without. -/
  | missingChannels (channels : List Channel)

inductive ErrorKind where
  | configurationMissing
  | hardwareWriteFailed
  | unsupported
  | badValue
  | constructionFailed
deriving DecidableEq, Repr

namespace Error

def kind : Error → ErrorKind
  | unreadableSource _ _ => .configurationMissing
  | invalidProperties => .configurationMissing
  | writeFailed _ _ => .hardwareWriteFailed
  | amplitudeOwned => .unsupported
  | noAmplitudeControl => .unsupported
  | noExternalControl => .unsupported
  | badAmplitude _ => .badValue
  | unknownEffect _ => .badValue
  | unknownStrength _ => .badValue
  | missingChannels _ => .constructionFailed

/-- Whether the driver itself reported the failure. -/
def isHardware (error : Error) : Bool :=
  error.kind = .hardwareWriteFailed

def message : Error → String
  | unreadableSource path fault => s!"Configuration missing: {path}: {fault.message}"
  | invalidProperties => "Configuration missing: invalid properties"
  | writeFailed channel fault => s!"Failed to write {channel.name}: {fault.message}"
  | amplitudeOwned => "Unsupported operation: amplitude is owned by external control"
  | noAmplitudeControl => "Unsupported operation: driver has no amplitude control"
  | noExternalControl => "Unsupported operation: driver has no external control"
  | badAmplitude amplitude =>
    s!"Bad value: amplitude {Numeral.shortestText amplitude} outside (0, 1]"
  | unknownEffect text => s!"Bad value: unknown effect '{text}'"
  | unknownStrength text => s!"Bad value: unknown strength '{text}'"
  | missingChannels channels =>
    let names := ", ".intercalate (channels.map Channel.name)
    s!"Failed to construct vibrator: driver lacks {names}"

end Error
end Haptics
