import Haptics.Proofs.Lasting
import Haptics.Register.Cs40l25
import Haptics.Register.Drv2624

/-!
# Exposed channels

Which channels a driver exposes is settled when it is opened.  `FixedChannels` says so of a
device; every device of this library has it.
-/

namespace Haptics

/-- A driver whose channels are not exposed or hidden by reads and writes. -/
class FixedChannels (σ : Type) [Device σ] : Prop where
  has_read (channel : Channel) (s : σ) : Device.has (Device.read channel s).2 = Device.has s
  has_write (channel : Channel) (value : RegisterValue) (s : σ) :
    Device.has (Device.write channel value s).2 = Device.has s

instance FixedChannels.traced {σ : Type} [Device σ] [FixedChannels σ] :
    FixedChannels (Traced σ) where
  has_read channel s := has_read channel s.device
  has_write channel value s := has_write channel value s.device

instance FixedChannels.simulated : FixedChannels Simulated where
  has_read channel s := by
    simp only [Device.read]
    split
    · rfl
    · split <;> rfl
  has_write channel value s := by
    simp only [Device.write]
    split <;> rfl

/-! ## Node tables -/

namespace NodeTable

theorem set_nodes (table : NodeTable) (channel : Channel) (value : RegisterValue) :
    (table.set channel value).2.nodes = table.nodes := by
  unfold set
  split
  · rfl
  · simp only
    split <;> rfl

theorem get_nodes (table : NodeTable) (channel : Channel) :
    (table.get channel).2.nodes = table.nodes := by
  unfold get
  split
  · rfl
  · split <;> rfl

theorem has_congr {table other : NodeTable} (h : table.nodes = other.nodes) :
    table.has = other.has := by
  funext channel
  simp only [has, present?, node?, h]

end NodeTable

/-! ## Drivers -/

theorem Drv2624.write_nodes (channel : Channel) (value : RegisterValue) (s : Drv2624) :
    (Drv2624.write channel value s).2.nodes.nodes = s.nodes.nodes := by
  cases channel with
  | effectQueue | effectIndex | aspEnable => rfl
  | scale =>
    simp only [write]
    split
    · rfl
    · exact s.nodes.set_nodes ..
  | _ => exact s.nodes.set_nodes ..

instance FixedChannels.drv2624 : FixedChannels Drv2624 where
  has_read channel s := NodeTable.has_congr (s.nodes.get_nodes channel)
  has_write channel value s := NodeTable.has_congr (Drv2624.write_nodes channel value s)

namespace Cs40l25

theorem has_congr {s t : Cs40l25} (h : s.nodes.nodes = t.nodes.nodes) : s.has = t.has := by
  funext channel
  cases channel <;> simp only [has, NodeTable.has_congr h]

theorem write_nodes (channel : Channel) (value : RegisterValue) (s : Cs40l25) :
    (write channel value s).2.nodes.nodes = s.nodes.nodes := by
  cases channel with
  | mode =>
    simp only [write]
    split
    · exact s.nodes.set_nodes ..
    · rfl
    · rfl
  | sequencer =>
    simp only [write]
    split
    · exact s.nodes.set_nodes ..
    · rfl
  | ctrlLoop | waveShape | odClamp | lraPeriod | autocal | rtpInput | lpTrigger | temperature => rfl
  | _ => exact s.nodes.set_nodes ..

end Cs40l25

instance FixedChannels.cs40l25 : FixedChannels Cs40l25 where
  has_read channel s := Cs40l25.has_congr (s.nodes.get_nodes channel)
  has_write channel value s := Cs40l25.has_congr (Cs40l25.write_nodes channel value s)

/-! ## Scripts and requests -/

section
variable {σ : Type} [Device σ] [FixedChannels σ]

/-- Exposing just these channels is lasting. -/
theorem FixedChannels.lasting (exposed : Channel → Bool) :
    Lasting fun s : σ => Device.has s = exposed where
  read channel s hs := (has_read channel s).trans hs
  write channel value s hs := (has_write channel value s).trans hs

namespace Vibrator

theorem has_sampleSteady (v : Vibrator σ) :
    Device.has v.sampleSteady.2.device = Device.has v.device :=
  (FixedChannels.lasting _).sampleSteady rfl

theorem has_serve (v : Vibrator σ) (request : Request) :
    Device.has (v.serve request).2.device = Device.has v.device :=
  (FixedChannels.lasting _).serve rfl request

theorem has_serveAll (v : Vibrator σ) (requests : List Request) :
    Device.has (v.serveAll requests).2.device = Device.has v.device := by
  induction requests generalizing v with
  | nil => rfl
  | cons request rest ih => exact (ih _).trans (v.has_serve request)

theorem has_bringUp {device : σ} {record : Record} {v : Vibrator σ}
    (up : bringUp device record = .ok v) : Device.has v.device = Device.has device :=
  (FixedChannels.lasting _).bringUp up rfl

end Vibrator
end
end Haptics
