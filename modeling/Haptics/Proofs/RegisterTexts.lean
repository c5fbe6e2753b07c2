import Haptics.Proofs.Numerals
import Haptics.Register.Value

/-!
# Texts and integers of values

Trimming a second time changes nothing (`Text.trim_trim`), so the integer that a node's text is
read as is that of the trimmed text, whichever way the value is held (`toInt?_ofText`).  `Reads`
says which integer a value is read as without reading it.
-/

namespace Haptics

namespace Text
variable {test : Char → Bool} {cs : List Char}

/-- A text whose ends fail the test is not trimmed. -/
theorem trimEnds_eq_self (hfirst : ∀ c, cs.head? = some c → test c = false)
    (hlast : ∀ c, cs.getLast? = some c → test c = false) : trimEnds test cs = cs := by
  have hdrop {items : List Char} (h : ∀ c, items.head? = some c → test c = false) :
      items.dropWhile test = items := by
    cases items with
    | nil => rfl
    | cons c rest => rw [List.dropWhile_cons, h c rfl, if_neg Bool.false_ne_true]
  rw [trimEnds, hdrop hfirst, hdrop (by rwa [List.head?_reverse]), List.reverse_reverse]

theorem head?_dropWhile (test : Char → Bool) (cs : List Char) {c : Char}
    (h : (cs.dropWhile test).head? = some c) : test c = false := by
  have hnot := List.head?_dropWhile_not test cs
  rw [h] at hnot
  exact hnot

/-- The trimmed text starts as the first of the two cuts left it. -/
theorem head?_trimEnds (test : Char → Bool) (cs : List Char) {c : Char}
    (h : (trimEnds test cs).head? = some c) : test c = false := by
  have hprefix : trimEnds test cs <+: cs.dropWhile test := by
    rw [← List.reverse_suffix, trimEnds, List.reverse_reverse]
    exact List.dropWhile_suffix test
  obtain ⟨rest, hrest⟩ := hprefix
  refine head?_dropWhile test cs ?_
  rw [← hrest, List.head?_append, h]
  rfl

theorem getLast?_trimEnds (test : Char → Bool) (cs : List Char) {c : Char}
    (h : (trimEnds test cs).getLast? = some c) : test c = false := by
  rw [trimEnds, List.getLast?_reverse] at h
  exact head?_dropWhile test _ h

theorem trimEnds_trimEnds (test : Char → Bool) (cs : List Char) :
    trimEnds test (trimEnds test cs) = trimEnds test cs :=
  trimEnds_eq_self (fun _ => head?_trimEnds test cs) fun _ => getLast?_trimEnds test cs

theorem trim_trim (text : String) : trim (trim text) = trim text := by
  rw [trim, trim, String.toList_ofList, trimEnds_trimEnds]

end Text

namespace RegisterValue

/-- A node's text is read as the integer that it spells between its blanks. -/
theorem toInt?_ofText (raw : String) :
    (ofText raw).toInt? = (Numeral.readInt64 (Text.trim raw)).toOption := by
  rw [ofText]
  cases h : Numeral.readInt64 (Text.trim raw) with
  | ok value => simp [toInt?, Except.toOption]
  | error fault => simp [h, toInt?, Except.toOption, Text.trim_trim]

/-- The integer that a value is read as: one or zero for a switch, and for a text the integer that
it spells between blanks. -/
def Reads : RegisterValue → Int64 → Prop
  | .bool value, n => n = if value then 1 else 0
  | .int value, n => n = value
  | .text value, n => Numeral.SpellsInt64 (Text.trim value) n

theorem toInt?_eq_some {value : RegisterValue} {n : Int64} :
    value.toInt? = some n ↔ value.Reads n := by
  cases value with
  | bool value => exact Option.some_inj.trans eq_comm
  | int value => exact Option.some_inj.trans eq_comm
  | text value => exact Numeral.toOption_eq_some.trans Numeral.readInt64_eq_ok

theorem toInt?_eq_none {value : RegisterValue} : value.toInt? = none ↔ ∀ n, ¬ value.Reads n := by
  simp only [← toInt?_eq_some, Option.eq_none_iff_forall_ne_some, ne_eq]

/-- A word is written in decimals. -/
theorem toText_ofWord (word : UInt32) : (ofWord word).toText = toString word := by
  have hlt := word.toNat_lt
  have hint : (Int64.ofNat word.toNat).toInt = word.toNat := by
    rw [Int64.toInt_ofNat_of_lt]
    omega
  rw [ofWord, toText, hint]
  rfl

end RegisterValue
end Haptics
