import Haptics.Drive.Setting

/-!
# Thermal derating

Sustained vibration heats the actuator.  A sample above the upper bound derates the steady drive
to a fixed floor at a lowered frequency; only a sample below the lower bound brings it back.
Between the bounds the drive stays as it is.
-/

namespace Haptics

/-- Whether the steady drive is derated. -/
inductive ThermalState where
  | nominal
  | derated
deriving DecidableEq, Repr

def ThermalState.name : ThermalState → String
  | .nominal => "nominal"
  | .derated => "derated"

/-- The temperatures at which the state changes, in thousandths of a degree Celsius. -/
structure ThermalBounds where
  lower : Int64 := 5000
  upper : Int64 := 10000
deriving DecidableEq, Repr

/-- The steady drive of an actuator that may run hot. -/
structure Thermal where
  bounds : ThermalBounds
  state : ThermalState
  nominal : DriveSetting
  derated : DriveSetting
deriving DecidableEq, Repr

namespace Thermal

/-- The lowest clamp that steady vibration is derated to: 1.8 V peak. -/
def floorClamp : UInt32 := 90

/-- Starts at the nominal setting.  The derated one keeps its shape; its clamp is the floor,
unless the nominal clamp is lower still. -/
def start (nominal : DriveSetting) (shiftedPeriod floor : UInt32) (bounds : ThermalBounds) :
    Thermal :=
  { bounds := bounds
    state := .nominal
    nominal := nominal
    derated := nominal.withDrive (min floor (nominal.clampAt 0)) shiftedPeriod }

def next (bounds : ThermalBounds) (state : ThermalState) (sample : Int64) : ThermalState :=
  if bounds.upper < sample then .derated
  else if sample < bounds.lower then .nominal
  else state

def observe (thermal : Thermal) (sample : Int64) : Thermal :=
  { thermal with state := next thermal.bounds thermal.state sample }

def current (thermal : Thermal) : DriveSetting :=
  match thermal.state with
  | .nominal => thermal.nominal
  | .derated => thermal.derated

end Thermal
end Haptics
