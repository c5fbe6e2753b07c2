import Haptics.Calibration.FactoryData
import Haptics.Proofs.Lines

/-!
# The grammar of factory files

`Gives` says what it is for a line to give a value to a key, and the value of a key in a file is
the one that the last such line gives (`value_from_last_line_of_key`).  Two consequences are
stated with it: a file appended to another overrides it key by key, and carriage returns before
the newlines change nothing that is kept of a file.
-/

namespace Haptics.FactoryData

/-! ## One line -/

/-- A line that is no comment gives a value to a key: they are what its two sides of the first
colon are trimmed to.  In particular the line is not empty. -/
def Gives (line : List Char) (key value : String) : Prop :=
  line.head? ≠ some '#' ∧ ∃ before after, line = before ++ ':' :: after ∧ ':' ∉ before ∧
    Text.Trimmed isPadding before key.toList ∧ Text.Trimmed isPadding after value.toList

theorem strip_eq_iff {cs : List Char} {text : String} :
    strip cs = text ↔ Text.Trimmed isPadding cs text.toList := by
  rw [← Text.trimEnds_eq_iff, strip]
  constructor
  · rintro rfl
    exact String.toList_ofList.symm
  · intro h
    rw [h, String.ofList_toList]

theorem entry?_of_comment (rest : List Char) : entry? (String.ofList ('#' :: rest)) = none := by
  unfold entry?
  rw [String.toList_ofList]
  rfl

theorem entry?_eq_splitFirst {line : List Char} (h : line.head? ≠ some '#') :
    entry? (String.ofList line)
      = (Text.splitFirst ':' line).map fun parts => (strip parts.1, strip parts.2) := by
  unfold entry?
  rw [String.toList_ofList]
  split
  · rfl
  · exact absurd rfl h
  · rfl

theorem entry?_eq_some {line : List Char} {key value : String} :
    entry? (String.ofList line) = some (key, value) ↔ Gives line key value := by
  by_cases hhead : line.head? = some '#'
  · obtain ⟨rest, rfl⟩ := List.head?_eq_some_iff.1 hhead
    rw [entry?_of_comment]
    exact iff_of_false nofun fun hgives => hgives.1 rfl
  · simp only [entry?_eq_splitFirst hhead, Option.map_eq_some_iff, Prod.exists, Prod.mk.injEq,
      Text.splitFirst_eq_some, strip_eq_iff, Gives, ne_eq, hhead, not_false_eq_true, true_and,
      and_assoc]

/-! ## The whole file -/

theorem lines_of_lined {text : String} {lines : List (List Char)}
    (h : Text.Lined text.toList lines) : Text.lines text = lines.map String.ofList := by
  rw [Text.lines, h.endLines_eq]

theorem entries_of_lined {text : String} {lines : List (List Char)}
    (h : Text.Lined text.toList lines) :
    (ofText text).entries = (lines.filterMap fun line => entry? (String.ofList line)).reverse := by
  rw [ofText, lines_of_lined h, List.filterMap_map]
  rfl

/-- In a list that is read backwards, a key has the value of the last item that gives it one. -/
theorem lookup_reverse_filterMap {α : Type} {give : α → Option (String × String)} {items : List α}
    {key value : String} :
    (items.filterMap give).reverse.lookup key = some value
      ↔ ∃ before item after, items = before ++ item :: after ∧ give item = some (key, value) ∧
          ∀ later ∈ after, ∀ other, give later ≠ some (key, other) := by
  rw [List.lookup_eq_some_iff]
  constructor
  · rintro ⟨newer, older, hsplit, hnewer⟩
    -- read forwards, the entries of later items follow the one that is found
    have hsplit : items.filterMap give = older.reverse ++ (key, value) :: newer.reverse := by
      rw [← List.reverse_reverse (items.filterMap give), hsplit]
      simp
    obtain ⟨before, rest, rfl, -, hrest⟩ := List.filterMap_eq_append_iff.1 hsplit
    obtain ⟨between, item, after, rfl, -, hitem, hafter⟩ := List.filterMap_eq_cons_iff.1 hrest
    refine ⟨before ++ between, item, after, by simp, hitem, fun later hlater other hgive => ?_⟩
    have hmem : (key, other) ∈ newer.reverse :=
      hafter ▸ List.mem_filterMap.2 ⟨later, hlater, hgive⟩
    simpa using hnewer _ (List.mem_reverse.1 hmem)
  · rintro ⟨before, item, after, rfl, hitem, hafter⟩
    refine ⟨(after.filterMap give).reverse, (before.filterMap give).reverse, ?_, ?_⟩
    · rw [List.filterMap_append, List.filterMap_cons_some hitem]
      simp
    · rintro ⟨other, told⟩ hmem
      obtain ⟨later, hlater, hgive⟩ := List.mem_filterMap.1 (List.mem_reverse.1 hmem)
      have hne : key ≠ other := by
        rintro rfl
        exact hafter later hlater told hgive
      simpa using hne

theorem text?_eq_some {text key value : String} {lines : List (List Char)}
    (h : Text.Lined text.toList lines) :
    (ofText text).text? key = some value
      ↔ ∃ before line after, lines = before ++ line :: after ∧ Gives line key value ∧
          ∀ later ∈ after, ∀ other, ¬ Gives later key other := by
  rw [text?, entries_of_lined h, lookup_reverse_filterMap]
  simp only [entry?_eq_some, ne_eq]

theorem entries_append {first : String} (hended : Text.Ended first.toList) (second : String) :
    (ofText (first ++ second)).entries = (ofText second).entries ++ (ofText first).entries := by
  obtain ⟨lines, hfirst⟩ := Text.exists_lined first.toList
  obtain ⟨more, hsecond⟩ := Text.exists_lined second.toList
  have hboth : Text.Lined (first ++ second).toList (lines ++ more) := by
    rw [String.toList_append]
    exact hfirst.append hended hsecond
  rw [entries_of_lined hboth, entries_of_lined hfirst, entries_of_lined hsecond,
    List.filterMap_append, List.reverse_append]

theorem text?_append {first : String} (hended : Text.Ended first.toList) (second key : String) :
    (ofText (first ++ second)).text? key
      = ((ofText second).text? key).or ((ofText first).text? key) := by
  rw [text?, entries_append hended, List.lookup_append]
  rfl

theorem ofText_withReturns {text : String} (hreturn : '\r' ∉ text.toList) :
    ofText (String.ofList (Text.withReturns text.toList)) = ofText text := by
  obtain ⟨lines, h⟩ := Text.exists_lined text.toList
  have hreturned : Text.Lined (String.ofList (Text.withReturns text.toList)).toList lines := by
    rw [String.toList_ofList]
    exact Text.lined_withReturns h hreturn
  rw [ofText, ofText, lines_of_lined h, lines_of_lined hreturned]

/-- **A key has the value that the last line for it gives**, and no value where no line gives one.
Hence the values of a text that follows a newline override those of the text before it, and a
carriage return before each newline changes neither the values nor the lines. -/
theorem value_from_last_line_of_key (text : String) :
    (∀ key value, (ofText text).text? key = some value
      ↔ ∃ before line after, Text.Lined text.toList (before ++ line :: after) ∧
          Gives line key value ∧ ∀ later ∈ after, ∀ other, ¬ Gives later key other) ∧
    (∀ first : String, Text.Ended first.toList → ∀ key,
      (ofText (first ++ text)).text? key
        = ((ofText text).text? key).or ((ofText first).text? key)) ∧
    ('\r' ∉ text.toList →
      ofText (String.ofList (Text.withReturns text.toList)) = ofText text) := by
  refine ⟨fun key value => ?_, fun first hended key => text?_append hended text key,
    ofText_withReturns⟩
  obtain ⟨lines, hlines⟩ := Text.exists_lined text.toList
  rw [text?_eq_some hlines]
  constructor
  · rintro ⟨before, line, after, rfl, hgives⟩
    exact ⟨before, line, after, hlines, hgives⟩
  · rintro ⟨before, line, after, hcut, hgives⟩
    exact ⟨before, line, after, hlines.endLines_eq.symm.trans hcut.endLines_eq, hgives⟩

/-- A file after another: its comment gives nothing, its key stands between blanks, and its value
holds a colon. -/
theorem later_file_overrides_key :
    let text := "# q: 3\n\tq :1:2 \nlra_period"
    (ofText ("q: 7\nf0_measured: 8\n" ++ text)).text? "q" = some "1:2" ∧
    (ofText ("q: 7\nf0_measured: 8\n" ++ text)).text? "f0_measured" = some "8" ∧
    (ofText "# q: 3\r\n\tq :1:2 \r\nlra_period").text? "q" = some "1:2" := by
  intro text
  obtain ⟨hvalue, happend, hreturns⟩ := value_from_last_line_of_key text
  have hended : Text.Ended ("q: 7\nf0_measured: 8\n").toList := .inr (by decide)
  refine ⟨?_, ?_, ?_⟩
  · rw [happend _ hended]
    decide
  · rw [happend _ hended]
    decide
  · have hreturned : "# q: 3\r\n\tq :1:2 \r\nlra_period"
        = String.ofList (Text.withReturns text.toList) := by decide
    rw [hreturned, hreturns (by decide)]
    decide

end Haptics.FactoryData
