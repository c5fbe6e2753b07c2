import Haptics.Proofs.NodeContents
import Haptics.Proofs.Numerals
import Haptics.Proofs.Words
import Haptics.Waveform.Catalog

/-!
# Sequencer programs

A CS40L25 has no sequencer: of a program it takes the index of the waveform that comes first, and
triggers that one.  `LeadsWith` says which index a text starts with without cutting the text into
words, and a program is decoded exactly where its text has one (`programIndex?_eq_some`).  So a
program of one waveform is decoded as it was encoded, whatever the waveform
(`programIndex?_sequence`), and what is no program is refused before anything is touched
(`program_decoded_as_encoded`).
-/

namespace Haptics

/-- A text that starts with the numeral of a word: there are blanks or nothing before it, and a
blank or nothing comes next. -/
def LeadsWith (text : String) (index : UInt32) : Prop :=
  ∃ gap numeral rest, text.toList = gap ++ numeral ++ rest ∧
    (∀ c ∈ gap, Text.isBlank c = true) ∧ Numeral.Spells numeral index.toNat ∧
    ∀ c, rest.head? = some c → Text.isBlank c = true

/-- The index of a program of one waveform is its first word. -/
theorem Program.leadsWith_sequence (index : UInt32) :
    LeadsWith (Program.sequence index).text index := by
  refine ⟨[], (toString index).toList, " 0".toList, ?_, nofun, Numeral.spells_repr index.toNat, ?_⟩
  · rw [List.nil_append, ← String.toList_append]
    rfl
  · intro c hc
    obtain rfl : ' ' = c := Option.some.inj hc
    decide

namespace Cs40l25
variable {value : RegisterValue} {index : UInt32}

/-- The index that a program is decoded as is the one its text starts with. -/
theorem programIndex?_eq_some :
    programIndex? value = some index ↔ LeadsWith value.toText index := by
  rw [programIndex?, Text.words, LeadsWith]
  generalize value.toText.toList = text
  constructor
  · intro h
    obtain ⟨words, hworded⟩ := Text.exists_worded Text.isBlank text
    rw [hworded.runs_eq] at h
    cases hworded with
    | none => cases h
    | word hgap _ _ hend _ =>
      have hspells := Numeral.readWord_eq_ok.1 (Numeral.toOption_eq_some.1 h)
      rw [Numeral.SpellsWord, String.toList_ofList] at hspells
      exact ⟨_, _, _, rfl, hgap, hspells, hend⟩
  · rintro ⟨gap, numeral, rest, rfl, hgap, hspells, hend⟩
    have hread : Numeral.SpellsWord (String.ofList numeral) index := by
      rwa [Numeral.SpellsWord, String.toList_ofList]
    rw [List.append_assoc, Text.runs_append_left hgap,
      Text.runs_word hspells.ne_nil hspells.unbroken hend]
    exact Numeral.toOption_eq_some.2 (Numeral.readWord_eq_ok.2 hread)

theorem programIndex?_eq_none :
    programIndex? value = none ↔ ∀ index, ¬ LeadsWith value.toText index := by
  simp only [← programIndex?_eq_some, Option.eq_none_iff_forall_ne_some, ne_eq]

theorem programIndex?_sequence (index : UInt32) :
    programIndex? (.text (Program.sequence index).text) = some index :=
  programIndex?_eq_some.2 (Program.leadsWith_sequence index)

/-- A write of a program triggers the waveform that the program starts with. -/
theorem write_sequencer_of_leadsWith (h : LeadsWith value.toText index) (s : Cs40l25) :
    Device.write .sequencer value s = s.trigger index := by
  change write .sequencer value s = _
  rw [write, programIndex?_eq_some.2 h]

theorem write_sequencer_of_not_leadsWith (h : ∀ index, ¬ LeadsWith value.toText index)
    (s : Cs40l25) : Device.write .sequencer value s = (.error (.badProgram value), s) := by
  change write .sequencer value s = _
  rw [write, programIndex?_eq_none.2 h]

/-- **Programs are decoded as they are encoded.**  Each program of one waveform is decoded as that
waveform's index.  A value is decoded as an index exactly if its text starts with a numeral for it,
and a write of it to the sequencer is then a write of the index.  Where there is no such numeral the
write is refused as invalid input, and neither a file nor the kept accesses change. -/
theorem program_decoded_as_encoded :
    (∀ index, programIndex? (.text (Program.sequence index).text) = some index) ∧
    (∀ (value : RegisterValue) (index : UInt32),
      programIndex? value = some index ↔ LeadsWith value.toText index) ∧
    (∀ (s : Cs40l25) (value : RegisterValue) (index : UInt32), LeadsWith value.toText index →
      Device.write .sequencer value s = Device.write .effectIndex (.ofWord index) s) ∧
    ∀ (s : Cs40l25) (value : RegisterValue), (∀ index, ¬ LeadsWith value.toText index) →
      Device.write .sequencer value s = (.error (.badProgram value), s) ∧
      (Fault.badProgram value).kind = .invalidInput :=
  ⟨programIndex?_sequence, fun _ _ => programIndex?_eq_some,
    fun s _ _ h => write_sequencer_of_leadsWith h s,
    fun s _ h => ⟨write_sequencer_of_not_leadsWith h s, rfl⟩⟩

theorem sign_decoded_and_unit_refused :
    Device.write .sequencer (.text "\t+4 100") (attach sharedBench "") =
      Device.write .effectIndex (.ofWord 4) (attach sharedBench "") ∧
    Device.write .sequencer (.text "100ms 4") (attach sharedBench "") =
      (.error (.badProgram (.text "100ms 4")), attach sharedBench "") := by
  have hleads : LeadsWith (RegisterValue.text "\t+4 100").toText 4 :=
    programIndex?_eq_some.1 (by decide)
  have hnone : ∀ index, ¬ LeadsWith (RegisterValue.text "100ms 4").toText index :=
    programIndex?_eq_none.1 (by decide)
  exact ⟨program_decoded_as_encoded.2.2.1 _ _ 4 hleads,
    (program_decoded_as_encoded.2.2.2 _ _ hnone).1⟩

end Cs40l25
end Haptics
