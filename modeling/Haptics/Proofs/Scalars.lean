import Haptics.Calibration.FactoryData
import Haptics.Proofs.Numerals

/-!
# Scalars are single words

Whatever a reader takes for a scalar is not empty and holds no blank (`OneWord`): integers by what
they spell, switches by their two names, and decimals piece by piece along their grammar
(`unbroken_of_readDecimal`).
-/

namespace Haptics

/-! ## Decimal numerals -/

namespace Numeral

/-- Capitals are no blanks, so a blank stays itself where letters are lowered. -/
theorem toLower_of_isBlank {c : Char} (h : Text.isBlank c = true) : c.toLower = c := by
  have hcapital : ¬ ('A' ≤ c ∧ c ≤ 'Z') := by
    rintro ⟨hlow, hhigh⟩
    have hlow : 65 ≤ c.toNat := hlow
    have hhigh : c.toNat ≤ 90 := hhigh
    simp only [Text.isBlank, Text.blankRanges, List.any_cons, List.any_nil, Bool.or_false,
      Bool.or_eq_true, Bool.and_eq_true, decide_eq_true_eq] at h
    omega
  exact dif_neg hcapital

/-- A name without blanks has none, however it is capitalised. -/
theorem unbroken_of_map_toLower {cs : List Char} (h : Text.Unbroken (cs.map Char.toLower)) :
    Text.Unbroken cs := by
  intro c hc
  cases hblank : Text.isBlank c with
  | false => rfl
  | true =>
    have hlowered := h c.toLower (List.mem_map_of_mem hc)
    rw [toLower_of_isBlank hblank, hblank] at hlowered
    exact hlowered

theorem unbroken_of_splitSign {cs : List Char} (h : Text.Unbroken (splitSign cs).2) :
    Text.Unbroken cs := by
  unfold splitSign at h
  split at h
  · exact Text.unbroken_cons.2 ⟨by decide, h⟩
  · exact Text.unbroken_cons.2 ⟨by decide, h⟩
  · exact h

theorem unbroken_of_dropWhile {cs : List Char} (h : Text.Unbroken (cs.dropWhile Char.isDigit)) :
    Text.Unbroken cs := by
  have hdigits : Text.Unbroken (cs.takeWhile Char.isDigit) :=
    unbroken_of_digits (List.all_eq_true.1 List.all_takeWhile)
  rw [← List.takeWhile_append_dropWhile (p := Char.isDigit) (l := cs)]
  exact Text.unbroken_append.2 ⟨hdigits, h⟩

theorem unbroken_of_readExponent {cs : List Char} {exponent : Int}
    (h : readExponent cs = some exponent) : Text.Unbroken cs := by
  cases cs with
  | nil => exact List.forall_mem_nil _
  | cons mark rest =>
    simp only [readExponent] at h
    split at h
    · rename_i hform
      obtain ⟨hmark, -, hdigits⟩ := hform
      refine Text.unbroken_cons.2 ⟨?_, unbroken_of_splitSign ?_⟩
      · rcases hmark with rfl | rfl <;> decide
      · exact unbroken_of_digits (List.all_eq_true.1 hdigits)
    · cases h

/-- Digits, a point or none, more digits, and an exponent or none. -/
theorem unbroken_of_readPositional {cs : List Char} {magnitude : Magnitude}
    (h : readPositional cs = some magnitude) : Text.Unbroken cs := by
  refine unbroken_of_dropWhile ?_
  unfold readPositional at h
  dsimp only at h
  split at h
  · rename_i rest hpoint
    dsimp only at h
    split at h
    · cases h
    · obtain ⟨exponent, hexponent, -⟩ := Option.map_eq_some_iff.1 h
      rw [hpoint]
      exact Text.unbroken_cons.2
        ⟨by decide, unbroken_of_dropWhile (unbroken_of_readExponent hexponent)⟩
  · dsimp only at h
    split at h
    · cases h
    · obtain ⟨exponent, hexponent, -⟩ := Option.map_eq_some_iff.1 h
      exact unbroken_of_readExponent hexponent

theorem unbroken_of_readMagnitude {cs : List Char} {magnitude : Magnitude}
    (h : readMagnitude cs = some magnitude) : Text.Unbroken cs := by
  have hnames : Text.Unbroken "inf".toList ∧ Text.Unbroken "infinity".toList ∧
      Text.Unbroken "nan".toList := by
    decide
  simp only [readMagnitude] at h
  split at h
  · rename_i hname
    refine unbroken_of_map_toLower ?_
    rcases hname with hname | hname <;> rw [hname]
    · exact hnames.1
    · exact hnames.2.1
  · split at h
    · rename_i hname
      exact unbroken_of_map_toLower (hname ▸ hnames.2.2)
    · exact unbroken_of_readPositional h

theorem unbroken_of_readDecimal {text : String} {d : Decimal} (h : readDecimal text = .ok d) :
    text.toList ≠ [] ∧ Text.Unbroken text.toList := by
  unfold readDecimal at h
  split at h
  · cases h
  · rename_i hempty
    have hne : text.toList ≠ [] := by simpa using hempty
    dsimp only at h
    split at h
    · rename_i magnitude hmagnitude
      exact ⟨hne, unbroken_of_splitSign (unbroken_of_readMagnitude hmagnitude)⟩
    · cases h

end Numeral

/-! ## Scalars -/

namespace FactoryData

/-- Scalars that are written as single words. -/
class OneWord (α : Type) [Scannable α] : Prop where
  unbroken {text : String} {value : α} :
    Scannable.scan text = some value → text.toList ≠ [] ∧ Text.Unbroken text.toList

instance OneWord.word : OneWord UInt32 where
  unbroken {text value} h := by
    have hspells : Numeral.Spells text.toList value.toNat :=
      Numeral.readWord_eq_ok.1 (Numeral.toOption_eq_some.1 h)
    exact ⟨hspells.ne_nil, hspells.unbroken⟩

instance OneWord.integer : OneWord Int64 where
  unbroken {text value} h := by
    have hspells : Numeral.SpellsInteger text.toList value.toInt :=
      Numeral.readInt64_eq_ok.1 (Numeral.toOption_eq_some.1 h)
    exact ⟨hspells.ne_nil, hspells.unbroken⟩

instance OneWord.switch : OneWord Bool where
  unbroken {text value} h := by
    have hnames : text = "true" ∨ text = "false" := by
      simp only [Scannable.scan] at h
      split at h
      · exact .inl rfl
      · exact .inr rfl
      · cases h
    rcases hnames with rfl | rfl <;> decide

theorem oneWord_of_decimal {β : Type} {text : String} {value : β} {round : Numeral.Decimal → β}
    (h : ((Numeral.readDecimal text).map round).toOption = some value) :
    text.toList ≠ [] ∧ Text.Unbroken text.toList := by
  cases hread : Numeral.readDecimal text with
  | error fault =>
    rw [hread] at h
    cases h
  | ok d => exact Numeral.unbroken_of_readDecimal hread

instance OneWord.float : OneWord Float where
  unbroken h := oneWord_of_decimal h

instance OneWord.float32 : OneWord Float32 where
  unbroken h := oneWord_of_decimal h

end FactoryData
end Haptics
