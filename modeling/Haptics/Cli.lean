import Haptics.Calibration.Source
import Haptics.Numeral.Decimal
import Haptics.Register.Cs40l25
import Haptics.Register.Drv2624
import Haptics.Vibrator.Request

/-!
# The command line

One run of the program: it chooses a driver, loads the calibration, brings the driver up and
serves one request.  A run is a function of the arguments, the environment and the file tree, and
gives the texts it prints, its exit code and the tree it leaves behind.
-/

namespace Haptics.Cli

def usage : String :=
  "\n".intercalate
    ["usage: vibratorctl [--backend drv2624|cs40l25] <command>",
     "",
     "commands:",
     "  on <ms>                     steady vibration",
     "  off                         stop playback",
     "  effect <name> [strength]    play click, tick, heavy_click, texture_tick, double_click",
     "  amplitude <0..1>            set playback amplitude",
     "  external <on|off>           toggle external control",
     "  dump                        print driver and calibration state",
     "",
     "environment:",
     "  HWAPI_PATH_PREFIX      driver sysfs directory",
     "  CALIBRATION_FILEPATH   persisted calibration file",
     "  VIBRATOR_PROPERTIES    TOML tuning properties"]

/-! ## Failures -/

/-- Why a run fails. -/
inductive Failure where
  /-- The option for the driver is the last argument. -/
  | noBackendValue
  | unknownBackend (name : String)
  | noCommand
  /-- A variable of the environment is not set. -/
  | unset (variableName : String)
  /-- A command lacks an argument. -/
  | missingArgument (what : String)
  | badDuration (fault : Numeral.IntegerFault)
  | badAmplitude (fault : Numeral.DecimalFault)
  | notSwitch (text : String)
  | unknownCommand (name : String)
  | unsupportedEffect (effect : Effect)
  /-- The vibrator refuses or fails. -/
  | vibrator (error : Error)

namespace Failure

def message : Failure → String
  | noBackendValue => "--backend needs a value"
  | unknownBackend name => s!"unknown backend '{name}'"
  | noCommand => usage
  | unset variableName => s!"{variableName} is not set"
  | missingArgument what => s!"missing {what}\n\n{usage}"
  | badDuration _ => "duration must be milliseconds"
  | badAmplitude _ => "amplitude must be a number"
  | notSwitch text => s!"expected on or off, got '{text}'"
  | unknownCommand name => s!"unknown command '{name}'\n\n{usage}"
  | unsupportedEffect effect => s!"effect {effect.name} is not supported"
  | vibrator error => error.message

/-- The wording of what lies behind a failure, if anything does. -/
def cause? : Failure → Option String
  | badDuration fault => some fault.message
  | badAmplitude fault => some fault.message
  | vibrator (.writeFailed _ fault) => some fault.message
  | _ => none

/-- What is printed about a failure. -/
def report (failure : Failure) : String :=
  match failure.cause? with
  | none => s!"Error: {failure.message}\n"
  | some cause => s!"Error: {failure.message}\n\nCaused by:\n    {cause}\n"

end Failure

/-! ## Arguments -/

inductive Backend where
  | drv2624
  | cs40l25
deriving DecidableEq, Repr

def backendOption : String := "--backend"

/-- Takes the first option for the driver and its value out of the arguments. -/
def takeBackend (arguments : List String) : Except Failure (Backend × List String) :=
  match arguments.span fun argument => argument != backendOption with
  | (before, []) => .ok (.drv2624, before)
  | (_, [_]) => .error .noBackendValue
  | (before, _ :: name :: after) =>
    match name with
    | "drv2624" => .ok (.drv2624, before ++ after)
    | "cs40l25" => .ok (.cs40l25, before ++ after)
    | _ => .error (.unknownBackend name)

def argument (what : String) : List String → Except Failure String
  | [] => .error (.missingArgument what)
  | text :: _ => .ok text

/-- Reads an effect and, behind it, a strength; without one the strength is medium. -/
def readEffect (name : String) (strength : Option String) : Except Failure Request :=
  match Effect.ofName? name with
  | none => .error (.vibrator (.unknownEffect name))
  | some effect =>
    match strength with
    | none => .ok (.effect effect .medium)
    | some text =>
      match Strength.ofName? text with
      | none => .error (.vibrator (.unknownStrength text))
      | some strength => .ok (.effect effect strength)

def readSwitch : String → Except Failure Bool
  | "on" => .ok true
  | "off" => .ok false
  | text => .error (.notSwitch text)

/-- Reads a command.  Arguments that it has no use for are passed over. -/
def readCommand (name : String) (arguments : List String) : Except Failure Request :=
  match name with
  | "on" => do
    let text ← argument "duration" arguments
    (Numeral.readWord text).mapError Failure.badDuration |>.map Request.on
  | "off" => .ok .off
  | "effect" => do
    let text ← argument "effect name" arguments
    readEffect text arguments[1]?
  | "amplitude" => do
    let text ← argument "amplitude" arguments
    (Numeral.readFloat32 text).mapError Failure.badAmplitude |>.map Request.amplitude
  | "external" => do
    let text ← argument "on|off" arguments
    (readSwitch text).map Request.external
  | "dump" => .ok .report
  | _ => .error (.unknownCommand name)

/-! ## Runs -/

/-- A command with all that it needs to be served. -/
structure Invocation where
  backend : Backend
  /-- The directory of the driver's nodes. -/
  base : String
  record : Record
  name : String
  arguments : List String

/-- The variable of the environment that names the directory of the driver's nodes. -/
def baseVariable : String := "HWAPI_PATH_PREFIX"

/-- Chooses the driver, takes the command and loads the calibration.  Nothing is written. -/
def prepare (arguments : List String) (environment : List (String × String))
    (files : FileTree) : Except Failure Invocation :=
  match takeBackend arguments with
  | .error failure => .error failure
  | .ok (_, []) => .error .noCommand
  | .ok (backend, name :: arguments) =>
    match environment.lookup baseVariable with
    | none => .error (.unset baseVariable)
    | some base =>
      .ok { backend, base, record := (Sources.ofEnvironment environment).load files, name,
            arguments }

/-- What a run prints, and the code it ends with. -/
structure Exit where
  code : UInt32
  output : String
  errors : String
deriving DecidableEq, Repr

namespace Exit

def success (output : String) : Exit :=
  ⟨0, output, ""⟩

def failure (cause : Failure) : Exit :=
  ⟨1, "", cause.report⟩

/-- What a run makes of the answer to its request. -/
def ofReply (request : Request) (reply : Reply) : Exit :=
  match request, reply with
  | _, .refused error => failure (.vibrator error)
  | .effect effect _, .outcome .unsupported => failure (.unsupportedEffect effect)
  | _, .report text => success text
  | _, _ => success ""

end Exit

/-- Brings up a driver and serves the command, which is read once the driver is up. -/
def serve {σ : Type} [Device σ] (device : σ) (call : Invocation) : Exit × σ :=
  match Vibrator.bringUp device call.record with
  | .error refusal => (.failure (.vibrator refusal.error), refusal.device)
  | .ok vibrator =>
    match readCommand call.name call.arguments with
    | .error failure => (.failure failure, vibrator.device)
    | .ok request =>
      let (reply, vibrator) := vibrator.serve request
      (.ofReply request reply, vibrator.device)

def run (arguments : List String) (environment : List (String × String)) (files : FileTree) :
    Exit × FileTree :=
  match prepare arguments environment files with
  | .error failure => (.failure failure, files)
  | .ok call =>
    match call.backend with
    | .drv2624 =>
      let device := Drv2624.attach files call.base Drv2624.defaultTemperature
      (serve device call).map id (·.nodes.files)
    | .cs40l25 => (serve (Cs40l25.attach files call.base) call).map id (·.nodes.files)

end Haptics.Cli
