import Haptics.Vibrator.Basic

/-!
# Reports of a vibrator

The report for people, and a one-line description of the drive.
-/

namespace Haptics

namespace Vibrator
variable {σ : Type}

/-- A setting in one line, or the word for the driver's own one. -/
def settingText (setting : Option DriveSetting) : String :=
  (setting.map DriveSetting.text).getD "static"

def driveLines (v : Vibrator σ) : List String :=
  let thermal :=
    match v.thermal with
    | none => []
    | some thermal =>
      [s!"  Thermal State: {thermal.state.name}",
       s!"  Active Steady Config: {thermal.current.text}"]
  let durations := v.catalog.durations
  ["Vibrator:",
   s!"  Close Loop Threshold: {v.record.closeLoopThreshold}",
   s!"  LRA Period: {v.record.lraPeriod}",
   s!"  Effect Config: {settingText v.effectSetting}",
   s!"  Steady Config: {settingText v.steadySetting}"]
    ++ thermal
    ++ ["  Durations: " ++ " ".intercalate
          [s!"click={durations.click}", s!"tick={durations.tick}",
           s!"double_click={durations.doubleClick}", s!"heavy_click={durations.heavyClick}"],
        s!"  Start Latency: {v.catalog.startLatency}"]

/-- The drive, the driver's report and the calibration record. -/
def report [Device σ] (v : Vibrator σ) : String :=
  String.join (v.driveLines.map fun line => line ++ "\n") ++ "\n"
    ++ Device.report v.device ++ "\n"
    ++ v.record.report

/-! ## Descriptions -/

def braced (name : String) (fields : List String) : String :=
  name ++ " \x7b " ++ ", ".intercalate fields ++ " \x7d"

def optional (text : Option String) : String :=
  match text with
  | none => "None"
  | some text => s!"Some({text})"

def shapeWord : WaveShape → String
  | .square => "Square"
  | .sine => "Sine"

def stateWord : ThermalState → String
  | .nominal => "Nominal"
  | .derated => "Derated"

def describeSetting (setting : DriveSetting) : String :=
  let clamps := ", ".intercalate (setting.clamps.map toString)
  braced "DriveConfig"
    [s!"shape: {shapeWord setting.shape}", s!"od_clamp: [{clamps}]",
     s!"lra_period: {setting.period}"]

def describe (v : Vibrator σ) : String :=
  let effect := optional (v.effectSetting.map describeSetting)
  let steady := optional (v.steadySetting.map describeSetting)
  let thermal := optional (v.thermal.map fun thermal => stateWord thermal.state)
  braced "Vibrator"
    [s!"effect_config: {effect}", s!"steady_config: {steady}", s!"thermal: {thermal}"]

end Vibrator
end Haptics
