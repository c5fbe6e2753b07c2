import Haptics.Register.Device
import Haptics.Register.NodeTable

/-!
# The DRV2624 driver

This driver has loop control, an over-drive clamp, wave shape and period, real-time playback and
a waveform sequencer.  It has no effect queue and no external control, and its scale register
knows four steps only.
-/

namespace Haptics

structure Drv2624 where
  nodes : NodeTable

namespace Drv2624

/-- The thermistor at the connector, read unless another one is wanted. -/
def defaultTemperature : String :=
  "/dev/thermal/tz-by-name/usbc-therm-adc/temp"

def nodeNames : List (Channel × String) :=
  [(.autocal, "device/autocal"),
   (.lraPeriod, "device/ol_lra_period"),
   (.activate, "activate"),
   (.duration, "duration"),
   (.state, "state"),
   (.rtpInput, "device/rtp_input"),
   (.mode, "device/mode"),
   (.sequencer, "device/set_sequencer"),
   (.scale, "device/scale"),
   (.ctrlLoop, "device/ctrl_loop"),
   (.lpTrigger, "device/lp_trigger_effect"),
   (.waveShape, "device/lra_wave_shape"),
   (.odClamp, "device/od_clamp")]

/-- Maps the driver's nodes below a base, and the temperature to a node below the base or at an
absolute path. -/
def attach (files : FileTree) (base temperature : String) : Drv2624 :=
  let nodes := { files := files, base := base : NodeTable }.attachAll nodeNames
  ⟨nodes.attach .temperature temperature⟩

/-- The register value for an attenuation: the nearest of 100, 75, 50 and 25 percent. -/
def scaleRegister (steps : Int64) : UInt32 :=
  if steps ≤ 9 then 0
  else if steps ≤ 33 then 1
  else if steps ≤ 71 then 2
  else 3

/-- Writes a channel; an attenuation is turned into the scale register's value. -/
def write (channel : Channel) (value : RegisterValue) (s : Drv2624) :
    Except Fault Unit × Drv2624 :=
  let set (value : RegisterValue) :=
    let (outcome, nodes) := s.nodes.set channel value
    (outcome, (⟨nodes⟩ : Drv2624))
  match channel with
  | .effectQueue => (.error (.notExposed channel), s)
  | .effectIndex => (.error (.notExposed channel), s)
  | .aspEnable => (.error (.notExposed channel), s)
  | .scale =>
    match value.toInt? with
    | none => (.error (.badScale value), s)
    | some steps => set (.ofWord (scaleRegister steps))
  | _ => set value

instance : Device Drv2624 where
  has s channel := s.nodes.has channel
  write := write
  read channel s :=
    let (outcome, nodes) := s.nodes.get channel
    (outcome, ⟨nodes⟩)
  startLatency _ := 0
  report s := s.nodes.report

end Drv2624
end Haptics
