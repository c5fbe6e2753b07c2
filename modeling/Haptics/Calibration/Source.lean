import Haptics.Calibration.Record
import Haptics.Error

/-!
# Sources of calibration

Where the factory file and the properties file of a unit are found.  Loading never fails: a file
that is not named, cannot be read or is invalid counts as empty.
-/

namespace Haptics

def FactoryData.open? (files : FileTree) (path : String) : Except Error FactoryData :=
  match files.readText path with
  | .ok text => .ok { FactoryData.ofText text with path := some path }
  | .error fault => .error (.unreadableSource path fault)

def BoardProperties.open? (files : FileTree) (path : String) : Except Error BoardProperties :=
  match files.readText path with
  | .error fault => .error (.unreadableSource path fault)
  | .ok text =>
    match BoardProperties.ofText? text with
    | some properties => .ok properties
    | none => .error .invalidProperties

/-- The paths of the two files. -/
structure Sources where
  factory : Option String := none
  properties : Option String := none
deriving DecidableEq, Repr

namespace Sources

/-- The variables of the environment that name the files. -/
def factoryVariable : String := "CALIBRATION_FILEPATH"

@[inherit_doc factoryVariable]
def propertiesVariable : String := "VIBRATOR_PROPERTIES"

def ofEnvironment (environment : List (String × String)) : Sources :=
  { factory := environment.lookup factoryVariable
    properties := environment.lookup propertiesVariable }

/-- The contents of a file, or those of an empty one. -/
def loadOr {α : Type} (default : α) (read : String → Except Error α) : Option String → α
  | none => default
  | some path =>
    match read path with
    | .ok value => value
    | .error _ => default

def load (sources : Sources) (files : FileTree) : Record :=
  Record.ofSources
    (loadOr {} (FactoryData.open? files) sources.factory)
    (loadOr {} (BoardProperties.open? files) sources.properties)

end Sources
end Haptics
