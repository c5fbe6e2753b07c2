import Haptics.Register.Device
import Haptics.Register.NodeTable

/-!
# The CS40L25 driver

This driver plays waveforms from its own memory, each started by writing its index.  It has
neither loop control nor shape or clamp; its strength is an attenuation.  Steady vibration is the
waveform at index 0, so choosing a playback mode is the same as choosing an index.
-/

namespace Haptics

structure Cs40l25 where
  nodes : NodeTable

namespace Cs40l25

def steadyWaveform : UInt32 := 0

/-- The time the driver takes to leave standby, in milliseconds. -/
def wakeLatency : UInt32 := 6

def nodeNames : List (Channel × String) :=
  [(.f0, "device/f0_stored"),
   (.redc, "device/redc_stored"),
   (.q, "device/q_stored"),
   (.activate, "activate"),
   (.duration, "duration"),
   (.state, "state"),
   (.effectIndex, "device/cp_trigger_index"),
   (.effectQueue, "device/cp_trigger_queue"),
   (.scale, "device/cp_dig_scale"),
   (.globalScale, "device/dig_scale"),
   (.aspEnable, "device/asp_enable")]

def attach (files : FileTree) (base : String) : Cs40l25 :=
  ⟨({ files := files, base := base : NodeTable }).attachAll nodeNames⟩

/-- The waveform index that a sequencer program starts with. -/
def programIndex? (program : RegisterValue) : Option UInt32 :=
  (Text.words program.toText).head?.bind fun word => (Numeral.readWord word).toOption

/-- Whether the driver exposes a channel; mode and sequencer are ways to write the index. -/
def has (s : Cs40l25) : Channel → Bool
  | .mode => s.nodes.has .effectIndex
  | .sequencer => s.nodes.has .effectIndex
  | channel => s.nodes.has channel

/-- Writes a channel of the node table. -/
def set (s : Cs40l25) (channel : Channel) (value : RegisterValue) :
    Except Fault Unit × Cs40l25 :=
  let (outcome, nodes) := s.nodes.set channel value
  (outcome, ⟨nodes⟩)

def trigger (s : Cs40l25) (index : UInt32) : Except Fault Unit × Cs40l25 :=
  s.set .effectIndex (.ofWord index)

/-- Writes a channel; a mode and a sequencer program become an index. -/
def write (channel : Channel) (value : RegisterValue) (s : Cs40l25) :
    Except Fault Unit × Cs40l25 :=
  match channel with
  | .mode =>
    match value with
    | .text "rtp" => s.trigger steadyWaveform
    | .text "waveform" => (.ok (), s)
    | _ => (.error (.unknownMode value), s)
  | .sequencer =>
    match programIndex? value with
    | some index => s.trigger index
    | none => (.error (.badProgram value), s)
  | .ctrlLoop => (.error (.notExposed channel), s)
  | .waveShape => (.error (.notExposed channel), s)
  | .odClamp => (.error (.notExposed channel), s)
  | .lraPeriod => (.error (.notExposed channel), s)
  | .autocal => (.error (.notExposed channel), s)
  | .rtpInput => (.error (.notExposed channel), s)
  | .lpTrigger => (.error (.notExposed channel), s)
  | .temperature => (.error (.notExposed channel), s)
  | _ => s.set channel value

instance : Device Cs40l25 where
  has := has
  write := write
  read channel s :=
    let (outcome, nodes) := s.nodes.get channel
    (outcome, ⟨nodes⟩)
  startLatency _ := wakeLatency
  report s := s.nodes.report

end Cs40l25
end Haptics
