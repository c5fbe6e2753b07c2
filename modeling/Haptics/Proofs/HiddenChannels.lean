import Haptics.Register.Cs40l25
import Haptics.Register.Drv2624

/-!
# Writes to channels that are not exposed

Devices are to refuse a write to a channel that they do not expose as unsupported.  Neither driver
touches anything then, but both judge some values before they look for the channel's node: an
attenuation that is no integer, a mode, and a program without an index are answered by themselves
(`Drv2624.write_hidden`, `Cs40l25.write_hidden`), and choosing the mode of waveforms even succeeds.
-/

namespace Haptics

/-- A write is refused because the driver does not have the channel. -/
def Unsupported (outcome : Except Fault Unit) : Prop :=
  ∃ fault, outcome = .error fault ∧ fault.kind = .unsupported

theorem unsupported_error (fault : Fault) :
    Unsupported (.error fault) ↔ fault.kind = .unsupported := by
  simp [Unsupported]

theorem not_unsupported_ok : ¬ Unsupported (.ok ()) := by
  simp [Unsupported]

namespace NodeTable
variable {table : NodeTable} {channel : Channel}

theorem present?_hidden (h : table.has channel = false) : table.present? channel = none := by
  rw [has] at h
  exact Option.isNone_iff_eq_none.1 (by simpa using h)

/-- A channel without a node that is there is refused, and the refusal leaves no trace. -/
theorem set_hidden (h : table.has channel = false) (value : RegisterValue) :
    table.set channel value = (.error (.notExposed channel), table) := by
  rw [set, present?_hidden h]

@[inherit_doc set_hidden]
theorem get_hidden (h : table.has channel = false) :
    table.get channel = (.error (.notExposed channel), table) := by
  rw [get, present?_hidden h]

end NodeTable

/-! ## The DRV2624 -/

namespace Drv2624
variable {s : Drv2624} {channel : Channel}

/-- Only the scale looks at the value first. -/
theorem write_hidden (h : Device.has s channel = false) (value : RegisterValue) :
    Device.write channel value s =
      (.error (if channel = .scale ∧ value.toInt? = none then .badScale value
        else .notExposed channel), s) := by
  have hset (value : RegisterValue) := NodeTable.set_hidden h value
  change write channel value s = _
  cases channel with
  | scale =>
    cases hv : value.toInt? with
    | none => simp [write, hv]
    | some steps => simp [write, hv, hset]
  | effectQueue | effectIndex | aspEnable => rfl
  | _ => simp [write, hset]

end Drv2624

/-! ## The CS40L25 -/

namespace Cs40l25
variable {s : Cs40l25} {channel : Channel}

theorem set_hidden (h : s.nodes.has channel = false) (value : RegisterValue) :
    s.set channel value = (.error (.notExposed channel), s) := by
  rw [set, NodeTable.set_hidden h]

/-- What a mode is answered where the index of waveforms has no node: only that of steady vibration
looks for it. -/
theorem write_hidden_mode (h : Device.has s .mode = false) (value : RegisterValue) :
    Device.write .mode value s =
      (if value = .text "rtp" then .error (.notExposed .effectIndex)
        else if value = .text "waveform" then .ok ()
        else .error (.unknownMode value), s) := by
  change write .mode value s = _
  simp only [write]
  split
  · rw [trigger, set_hidden h]
    rfl
  · rfl
  · rename_i hrtp hwaveform
    rw [if_neg hrtp, if_neg hwaveform]

/-- What a program is answered where the index of waveforms has no node. -/
theorem write_hidden_sequencer (h : Device.has s .sequencer = false) (value : RegisterValue) :
    Device.write .sequencer value s =
      (.error (if programIndex? value = none then .badProgram value
        else .notExposed .effectIndex), s) := by
  change write .sequencer value s = _
  cases hp : programIndex? value with
  | none => simp [write, hp]
  | some index =>
    have hindex : s.nodes.has .effectIndex = false := h
    simp [write, hp, trigger, set_hidden hindex]

/-- All other channels are refused whatever is written. -/
theorem write_hidden (h : Device.has s channel = false) (hm : channel ≠ .mode)
    (hs : channel ≠ .sequencer) (value : RegisterValue) :
    Device.write channel value s = (.error (.notExposed channel), s) := by
  change write channel value s = _
  cases channel with
  | mode => exact absurd rfl hm
  | sequencer => exact absurd rfl hs
  | ctrlLoop | waveShape | odClamp | lraPeriod | autocal | rtpInput | lpTrigger | temperature => rfl
  | _ => exact set_hidden h value

end Cs40l25

/-! ## Both -/

/-- **A write to a channel that is not exposed changes nothing, and is unsupported unless its value
is judged first.**  A DRV2624 judges attenuations: one that is no integer is bad input.  A CS40L25
judges modes and programs: a program without an index and a mode it does not know are bad input,
and the mode of waveforms is taken.  This holds on any files, however the driver was used before. -/
theorem hidden_channel_unsupported_unless_judged (drv2624 : Drv2624) (cs40l25 : Cs40l25)
    (channel : Channel) (value : RegisterValue) :
    (Device.has drv2624 channel = false →
      (Device.write channel value drv2624).2 = drv2624 ∧
      (Unsupported (Device.write channel value drv2624).1 ↔
        ¬ (channel = .scale ∧ value.toInt? = none))) ∧
    (Device.has cs40l25 channel = false →
      (Device.write channel value cs40l25).2 = cs40l25 ∧
      (Unsupported (Device.write channel value cs40l25).1 ↔
        ¬ (channel = .mode ∧ value ≠ .text "rtp") ∧
          ¬ (channel = .sequencer ∧ Cs40l25.programIndex? value = none))) := by
  refine ⟨fun h => ?_, fun h => ?_⟩
  · rw [Drv2624.write_hidden h]
    refine ⟨rfl, ?_⟩
    by_cases hj : channel = .scale ∧ value.toInt? = none
    · simp [unsupported_error, hj, Fault.kind]
    · simp [unsupported_error, hj, Fault.kind]
  · by_cases hm : channel = .mode
    · subst hm
      rw [Cs40l25.write_hidden_mode h]
      refine ⟨rfl, ?_⟩
      by_cases hrtp : value = .text "rtp"
      · simp [unsupported_error, hrtp, Fault.kind]
      · by_cases hwaveform : value = .text "waveform"
        · simp [not_unsupported_ok, hwaveform]
        · simp [unsupported_error, hrtp, hwaveform, Fault.kind]
    · by_cases hs : channel = .sequencer
      · subst hs
        rw [Cs40l25.write_hidden_sequencer h]
        refine ⟨rfl, ?_⟩
        by_cases hp : Cs40l25.programIndex? value = none
        · simp [unsupported_error, hp, Fault.kind]
        · simp [unsupported_error, hp, Fault.kind]
      · rw [Cs40l25.write_hidden h hm hs]
        simp [unsupported_error, hm, hs, Fault.kind]

theorem missing_queue_refused :
    Unsupported (Device.write .effectQueue (.text "1 0,100,4 0")
      (Cs40l25.attach (.empty []) "")).1 :=
  (((hidden_channel_unsupported_unless_judged (Drv2624.attach (.empty []) "" "temp")
    (Cs40l25.attach (.empty []) "") .effectQueue (.text "1 0,100,4 0")).2 (by decide)).2).2
      (by decide)

/-- Where no node is there, three writes are not answered as unsupported. -/
theorem hidden_channels_judged_first :
    let drv2624 := Drv2624.attach (.empty []) "" "temp"
    let cs40l25 := Cs40l25.attach (.empty []) ""
    (Device.has drv2624 .scale = false ∧
      (Device.write .scale (.text "loud") drv2624).1 = .error (.badScale (.text "loud")) ∧
      (Fault.badScale (.text "loud")).kind = .invalidInput) ∧
    (Device.has cs40l25 .mode = false ∧
      (Device.write .mode (.text "waveform") cs40l25).1 = .ok ()) ∧
    (Device.has cs40l25 .sequencer = false ∧
      (Device.write .sequencer (.text "") cs40l25).1 = .error (.badProgram (.text "")) ∧
      (Fault.badProgram (.text "")).kind = .invalidInput) := by
  refine ⟨⟨by decide, rfl, rfl⟩, ⟨by decide, rfl⟩, ⟨by decide, rfl, rfl⟩⟩

end Haptics
