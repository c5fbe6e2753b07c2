import Haptics.Proofs.Lines
import Haptics.Proofs.NodeFiles
import Haptics.Proofs.Numerals

/-!
# Values behind their texts

Three kinds of values are written to a node and two are read from it, so not every value comes
back as itself.  What comes back is `Canonical`: an integer, or a trimmed text that spells none.
Canonical values are exactly those that their own text is read as (`ofText_toText`), and every
value keeps its reading as an integer and as a switch (`readings_survive_node_text`).
-/

namespace Haptics

namespace Text

theorem trim_newline (text : String) : trim (text ++ "\n") = trim text := by
  have hblank : ∀ c ∈ ("\n" : String).toList, isBlank c = true := List.all_eq_true.1 (by decide)
  rw [trim, String.toList_append, trimEnds_append_right hblank, trim]

theorem trim_eq_self {text : String} (h : Unbroken text.toList) : trim text = text := by
  have hends : trimEnds isBlank text.toList = text.toList :=
    trimEnds_eq_self (fun c hc => h c (List.mem_of_head? hc))
      fun c hc => h c (List.mem_of_getLast? hc)
  rw [trim, hends, String.ofList_toList]

end Text

/-! ## Reading a value's own text -/

namespace RegisterValue

/-- A value that can be read from a node: an integer, or a text without blanks at its ends that
spells no integer. -/
def Canonical : RegisterValue → Prop
  | .bool _ => False
  | .int _ => True
  | .text value => Text.trim value = value ∧ ∀ n, ¬ Numeral.SpellsInt64 value n

/-- The newline that ends a write is not read. -/
theorem ofText_newline (text : String) : ofText (text ++ "\n") = ofText text := by
  rw [ofText, Text.trim_newline, ofText]

theorem ofText_toString (n : Int64) : ofText (toString n.toInt) = .int n := by
  have htrim : Text.trim (toString n.toInt) = toString n.toInt :=
    Text.trim_eq_self (Numeral.spellsInteger_toString n.toInt).unbroken
  simp only [ofText, htrim, Numeral.readInt64_toString]

theorem canonical_ofText (raw : String) : (ofText raw).Canonical := by
  unfold ofText
  dsimp only
  cases hread : Numeral.readInt64 (Text.trim raw) with
  | ok n => exact True.intro
  | error fault =>
    refine ⟨Text.trim_trim raw, fun n hspells => ?_⟩
    rw [Numeral.readInt64_eq_ok.2 hspells] at hread
    cases hread

/-- Canonical values are those that their own text is read as. -/
theorem ofText_toText {v : RegisterValue} : ofText v.toText = v ↔ v.Canonical := by
  constructor
  · intro h
    rw [← h]
    exact canonical_ofText v.toText
  · intro h
    cases v with
    | bool value => exact h.elim
    | int n => exact ofText_toString n
    | text value =>
      obtain ⟨htrim, hnone⟩ := h
      unfold ofText toText
      dsimp only
      rw [htrim]
      cases hread : Numeral.readInt64 value with
      | ok n => exact absurd (Numeral.readInt64_eq_ok.1 hread) (hnone n)
      | error fault => rfl

/-- The text of a value is read as the same integer, or as none where the value is none. -/
theorem toInt?_ofText_toText (v : RegisterValue) : (ofText v.toText).toInt? = v.toInt? := by
  cases v with
  | bool value => cases value <;> decide
  | int n => rw [toText, ofText_toString]
  | text value => exact toInt?_ofText value

theorem toBool?_ofText_toText (v : RegisterValue) : (ofText v.toText).toBool? = v.toBool? := by
  rw [toBool?, toInt?_ofText_toText, toBool?]

end RegisterValue

/-! ## Reading back from a node -/

namespace NodeTable

def getAll (table : NodeTable) (channels : List Channel) : NodeTable :=
  channels.foldl (fun table channel => (table.get channel).2) table

theorem getAll_files (table : NodeTable) (channels : List Channel) :
    (table.getAll channels).files = table.files := by
  induction channels generalizing table with
  | nil => rfl
  | cons channel rest ih => exact (ih _).trans (table.get_files channel)

theorem getAll_nodes (table : NodeTable) (channels : List Channel) :
    (table.getAll channels).nodes = table.nodes := by
  induction channels generalizing table with
  | nil => rfl
  | cons channel rest ih => exact (ih _).trans (table.get_nodes channel)

theorem get_of_readText {table : NodeTable} {channel : Channel} {node : Node} {raw : String}
    (hnode : table.present? channel = some node) (hraw : table.files.readText node.path = .ok raw) :
    (table.get channel).1 = .ok (RegisterValue.ofText raw) := by
  simp only [get, hnode, hraw]

/-- A value that was written is read back as what its text is read as, however often nodes were
read in between. -/
theorem get_of_set {table : NodeTable} {channel : Channel} {value : RegisterValue}
    (h : (table.set channel value).1 = .ok ()) (reads : List Channel) :
    (((table.set channel value).2.getAll reads).get channel).1
      = .ok (RegisterValue.ofText value.toText) := by
  obtain ⟨node, hnode, hfiles⟩ := set_ok h
  have hpresent : ((table.set channel value).2.getAll reads).present? channel = some node := by
    rw [present?, node?, getAll_nodes, set_nodes]
    exact hnode
  have hraw : ((table.set channel value).2.getAll reads).files.readText node.path
      = .ok (value.toText ++ "\n") := by
    rw [getAll_files]
    exact FileTree.readText_overwrite hfiles
  rw [get_of_readText hpresent hraw, RegisterValue.ofText_newline]

/-- **A value keeps its readings behind the text of a node.**  Read back, it is the same integer and
the same switch, or none of either; it is the same value exactly if it is an integer or a trimmed
text that spells none; and what was read once is read again from its own text.  So a channel that
was written gives the value's readings as long as nothing but reads came between. -/
theorem readings_survive_node_text :
    (∀ v : RegisterValue,
      (RegisterValue.ofText (v.toText ++ "\n")).toInt? = v.toInt? ∧
      (RegisterValue.ofText (v.toText ++ "\n")).toBool? = v.toBool? ∧
      (RegisterValue.ofText (v.toText ++ "\n") = v ↔ v.Canonical)) ∧
    (∀ raw : String,
      RegisterValue.ofText (RegisterValue.ofText raw).toText = RegisterValue.ofText raw) ∧
    ∀ (table : NodeTable) (channel : Channel) (v : RegisterValue),
      (table.set channel v).1 = .ok () → ∀ reads : List Channel,
        ∃ w, (((table.set channel v).2.getAll reads).get channel).1 = .ok w ∧
          w.toInt? = v.toInt? ∧ w.toBool? = v.toBool? := by
  refine ⟨fun v => ?_, fun raw => RegisterValue.ofText_toText.2 (RegisterValue.canonical_ofText raw),
    fun table channel v h reads => ?_⟩
  · rw [RegisterValue.ofText_newline]
    exact ⟨v.toInt?_ofText_toText, v.toBool?_ofText_toText, RegisterValue.ofText_toText⟩
  · exact ⟨_, get_of_set h reads, v.toInt?_ofText_toText, v.toBool?_ofText_toText⟩

/-- A numeral with a sign, zeros and blanks is no canonical value, but the number is read back. -/
theorem padded_numeral_read_back :
    let table := NodeTable.attach
      { files := { entries := [(["duration"], .file (.text "0\n"))], workingDirectory := [] }
        base := "" } .duration "duration"
    let value := RegisterValue.text "\t-007 "
    (table.set .duration value).1 = .ok () ∧
      ∃ w, (((table.set .duration value).2.getAll [.duration]).get .duration).1 = .ok w ∧
        w.toInt? = some (-7) ∧ w.toBool? = some true := by
  intro table value
  have hset : (table.set .duration value).1 = .ok () := by decide
  obtain ⟨w, hw, hint, hbool⟩ :=
    readings_survive_node_text.2.2 table .duration value hset [.duration]
  have hvalue : value.toInt? = some (-7) ∧ value.toBool? = some true := by decide
  exact ⟨hset, w, hw, hint.trans hvalue.1, hbool.trans hvalue.2⟩

end NodeTable
end Haptics
