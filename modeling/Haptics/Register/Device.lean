import Haptics.Register.Fault

/-!
# Devices

A device is what the drive core sees of a driver: the channels it exposes, and what it answers to
reads and writes.  A traced device keeps every access with its outcome.
-/

namespace Haptics

/-- A driver with state `σ`, addressed by channels. -/
class Device (σ : Type) where
  /-- Whether the driver exposes a channel. -/
  has : σ → Channel → Bool
  write : Channel → RegisterValue → σ → Except Fault Unit × σ
  read : Channel → σ → Except Fault RegisterValue × σ
  /-- The time the driver needs before playback starts, in milliseconds. -/
  startLatency : σ → UInt32
  /-- What the driver reports about itself. -/
  report : σ → String

/-! ## Traces -/

/-- One access to a device and its outcome. -/
inductive Access where
  | write (channel : Channel) (value : RegisterValue) (outcome : Except Fault Unit)
  | read (channel : Channel) (outcome : Except Fault RegisterValue)

/-- A device with the accesses made to it, the first one first. -/
structure Traced (σ : Type) where
  device : σ
  trace : List Access

instance {σ : Type} [Device σ] : Device (Traced σ) where
  has s channel := Device.has s.device channel
  write channel value s :=
    let (outcome, device) := Device.write channel value s.device
    (outcome, ⟨device, s.trace ++ [.write channel value outcome]⟩)
  read channel s :=
    let (outcome, device) := Device.read channel s.device
    (outcome, ⟨device, s.trace ++ [.read channel outcome]⟩)
  startLatency s := Device.startLatency s.device
  report s := Device.report s.device

/-! ## Simulation -/

/-- A driver that keeps nothing that is written to it.  Its channels answer as they are set to. -/
structure Simulated where
  exposed : List Channel
  reads : List (Channel × RegisterValue)
  failing : List (Channel × String)
  latency : UInt32

namespace Simulated

/-- Why an access to a channel fails, if it does. -/
def fault? (s : Simulated) (channel : Channel) : Option Fault :=
  if s.exposed.contains channel then (s.failing.lookup channel).map Fault.simulated
  else some .noChannel

/-- Sets or clears what a channel fails with. -/
def setFailing (s : Simulated) (channel : Channel) (message : Option String) : Simulated :=
  let others := s.failing.filter fun item => item.1 != channel
  { s with failing := (message.map fun text => (channel, text)).toList ++ others }

/-- Sets or clears what a channel reads as. -/
def setRead (s : Simulated) (channel : Channel) (value : Option RegisterValue) : Simulated :=
  let others := s.reads.filter fun item => item.1 != channel
  { s with reads := (value.map fun v => (channel, v)).toList ++ others }

def setExposed (s : Simulated) (channel : Channel) (present : Bool) : Simulated :=
  let others := s.exposed.filter fun other => other != channel
  { s with exposed := if present then channel :: others else others }

instance : Device Simulated where
  has s channel := s.exposed.contains channel
  write channel _ s :=
    match s.fault? channel with
    | some fault => (.error fault, s)
    | none => (.ok (), s)
  read channel s :=
    match s.fault? channel with
    | some fault => (.error fault, s)
    | none =>
      match s.reads.lookup channel with
      | some value => (.ok value, s)
      | none => (.error .nothingToRead, s)
  startLatency s := s.latency
  report _ := "Fake:\n"

end Simulated
end Haptics
