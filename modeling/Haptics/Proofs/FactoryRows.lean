import Haptics.Proofs.FactoryLines
import Haptics.Proofs.FieldIsolation
import Haptics.Proofs.Scalars
import Haptics.Proofs.Words

/-!
# Scalars and rows of factory files

A value is read as one scalar or as a row of them.  A scalar is a single word, so it is also the row
of that scalar; and a row of one is a scalar if the value holds no blanks but those that are trimmed
from it (`ReadingsAgree`).  A line that writes words with padding around them gives just these words as
a row, whatever the padding (`RowOf.scalars?_eq`).
-/

namespace Haptics.FactoryData
variable {factory : FactoryData} {key value : String}

theorem isBlank_of_isPadding {c : Char} (h : isPadding c = true) : Text.isBlank c = true := by
  have hc : c = ' ' ∨ c = '\t' := by simpa [isPadding] using h
  rcases hc with rfl | rfl <;> decide

/-! ## The two readers -/

section
variable {α : Type} [Scannable α]

theorem scalars?_of_mapM (htext : factory.text? key = some value) {values : List α}
    (hread : (Text.words value).mapM Scannable.scan = some values) (count : Nat) :
    factory.scalars? α count key = if count = values.length then some values else none := by
  rw [scalars?, htext, Option.bind_some, hread]
  by_cases hcount : count = values.length
  · simp [hcount]
  · simp [hcount, Ne.symm hcount]

theorem words_of_unbroken {text : String} (hne : text.toList ≠ [])
    (h : Text.Unbroken text.toList) : Text.words text = [text] := by
  rw [Text.words, Text.runs_of_forall hne h, List.map_singleton, String.ofList_toList]

/-- A scalar is the row of itself. -/
theorem scalars?_of_scalar? [OneWord α] {v : α} (h : factory.scalar? α key = some v) :
    factory.scalars? α 1 key = some [v] := by
  obtain ⟨value, htext, hscan⟩ := Option.bind_eq_some_iff.1 h
  obtain ⟨hne, hunbroken⟩ := OneWord.unbroken hscan
  have hread : (Text.words value).mapM Scannable.scan = some [v] := by
    rw [words_of_unbroken hne hunbroken]
    simp [hscan]
  exact scalars?_of_mapM htext hread 1

/-- A row of one scalar is one word of its value. -/
theorem exists_word_of_scalars? {v : α} (h : factory.scalars? α 1 key = some [v]) :
    ∃ value word, factory.text? key = some value ∧ Text.words value = [word] ∧
      Scannable.scan word = some v := by
  obtain ⟨hrow, -⟩ := Option.filter_eq_some_iff.1 h
  obtain ⟨value, htext, hread⟩ := Option.bind_eq_some_iff.1 hrow
  obtain ⟨word, rest, hscan, hrest, hsplit⟩ :=
    List.forall₂_cons_right_iff.1 (mapM_eq_some.1 hread)
  cases hrest
  exact ⟨value, word, htext, hsplit, hscan⟩

/-- The values of a file are trimmed of padding. -/
theorem ends_of_text? {text : String} (h : (ofText text).text? key = some value) :
    (∀ c, value.toList.head? = some c → isPadding c = false) ∧
      ∀ c, value.toList.getLast? = some c → isPadding c = false := by
  obtain ⟨lines, hlines⟩ := Text.exists_lined text.toList
  obtain ⟨_, _, _, -, ⟨-, _, _, -, -, -, htrimmed⟩, -⟩ := (text?_eq_some hlines).1 h
  exact ⟨htrimmed.first, htrimmed.last⟩

/-- A value with no other blanks than padding is its one word. -/
theorem eq_of_words_eq_singleton {text word : String} (h : (ofText text).text? key = some value)
    (hblank : ∀ c ∈ value.toList, Text.isBlank c = true → isPadding c = true)
    (hwords : Text.words value = [word]) : value = word := by
  obtain ⟨hfirst, hlast⟩ := ends_of_text? h
  obtain ⟨run, hruns, rfl⟩ : ∃ run, Text.runs Text.isBlank value.toList = [run] ∧
      String.ofList run = word := by
    simpa [Text.words, List.map_eq_singleton_iff] using hwords
  have hnoBlank {c : Char} (hc : c ∈ value.toList) (hnot : isPadding c = false) :
      Text.isBlank c = false := by
    cases hcase : Text.isBlank c with
    | false => rfl
    | true => exact absurd (hblank c hc hcase) (by simp [hnot])
  -- the value is trimmed of padding, so of blanks, and trimming leaves its one word
  have hself : Text.trimEnds Text.isBlank value.toList = value.toList :=
    Text.trimEnds_eq_self (fun c hc => hnoBlank (List.mem_of_head? hc) (hfirst c hc))
      fun c hc => hnoBlank (List.mem_of_getLast? hc) (hlast c hc)
  have hrun : Text.trimEnds Text.isBlank value.toList = run :=
    Text.trimEnds_eq_iff.2 (Text.trimmed_of_runs_eq_singleton hruns)
  rw [← hrun, hself, String.ofList_toList]

/-- A row of one scalar is that scalar, if padding is all that stands around it. -/
theorem scalar?_of_scalars? {text : String} (htext : (ofText text).text? key = some value)
    (hblank : ∀ c ∈ value.toList, Text.isBlank c = true → isPadding c = true) {v : α}
    (h : (ofText text).scalars? α 1 key = some [v]) : (ofText text).scalar? α key = some v := by
  obtain ⟨other, word, hother, hwords, hscan⟩ := exists_word_of_scalars? h
  obtain rfl : value = other := Option.some.inj (htext.symm.trans hother)
  obtain rfl := eq_of_words_eq_singleton htext hblank hwords
  rw [scalar?, htext, Option.bind_some, hscan]

end

/-! ## Rows of words -/

/-- A line that gives a key the decimal forms of words, with padding around them. -/
structure RowOf (values : List UInt32) (key row : String) : Prop where
  trimmed : strip key.toList = key
  colon : ':' ∉ key.toList
  newline : '\n' ∉ key.toList
  comment : key.toList.head? ≠ some '#'
  worded : Text.Worded isPadding row.toList (values.map fun v => (toString v).toList)

namespace RowOf
variable {values : List UInt32} {row : String}

/-- A row holds padding and digits. -/
theorem isPadding_or_isDigit (h : RowOf values key row) {c : Char} (hc : c ∈ row.toList) :
    isPadding c = true ∨ c.isDigit = true := by
  rcases h.worded.test_or_mem hc with hpadding | ⟨word, hword, hmem⟩
  · exact .inl hpadding
  · obtain ⟨v, -, rfl⟩ := List.mem_map.1 hword
    exact .inr (Numeral.isDigit_of_mem_repr (n := v.toNat) hmem)

theorem ne_lineEnd (h : RowOf values key row) {c : Char} (hc : c ∈ row.toList) :
    c ≠ '\n' ∧ c ≠ '\r' := by
  rcases h.isPadding_or_isDigit hc with hpadding | hdigit
  · constructor <;> rintro rfl <;> simp [isPadding] at hpadding
  · constructor <;> rintro rfl <;> simp [Char.isDigit] at hdigit

/-- The text is one line, however that line ends. -/
theorem lined (h : RowOf values key row) {ending : String}
    (hending : ending = "" ∨ ending = "\n" ∨ ending = "\r\n") :
    Text.Lined (key ++ ":" ++ row ++ ending).toList [key.toList ++ ':' :: row.toList] := by
  have hnewline : '\n' ∉ key.toList ++ ':' :: row.toList := by
    have hrow : '\n' ∉ row.toList := fun hmem => (h.ne_lineEnd hmem).1 rfl
    simp [h.newline, hrow]
  have hreturn : (key.toList ++ ':' :: row.toList).getLast? ≠ some '\r' := by
    intro hlast
    have hend : (':' :: row.toList).getLast? = some '\r' := by
      simpa [List.getLast?_append] using hlast
    rcases List.mem_cons.1 (List.mem_of_getLast? hend) with hcolon | hmem
    · exact absurd hcolon (by decide)
    · exact (h.ne_lineEnd hmem).2 rfl
  have htext : (key ++ ":" ++ row ++ ending).toList =
      key.toList ++ ':' :: row.toList ++ ending.toList := by
    simp [String.toList_append]
  rw [htext]
  refine Text.lined_singleton hnewline (by simp) hreturn ?_
  rcases hending with rfl | rfl | rfl <;> decide

theorem text?_eq (h : RowOf values key row) {ending : String}
    (hending : ending = "" ∨ ending = "\n" ∨ ending = "\r\n") :
    (ofText (key ++ ":" ++ row ++ ending)).text? key = some (strip row.toList) := by
  refine (text?_eq_some (h.lined hending)).2
    ⟨[], _, [], rfl, ⟨?_, _, _, rfl, h.colon, strip_eq_iff.1 h.trimmed, strip_eq_iff.1 rfl⟩, nofun⟩
  cases hkey : key.toList with
  | nil => simp
  | cons c rest => simpa [hkey] using h.comment

/-- The words of a row are the decimal forms, and trimming takes none of them away. -/
theorem words_strip (h : RowOf values key row) :
    Text.words (strip row.toList) = values.map toString := by
  have hdigits : ∀ word ∈ values.map fun v => (toString v).toList, Text.Unbroken word := by
    intro word hword
    obtain ⟨v, -, rfl⟩ := List.mem_map.1 hword
    exact (Numeral.spells_repr v.toNat).unbroken
  have htrimmed : Text.Trimmed isPadding row.toList (strip row.toList).toList :=
    strip_eq_iff.1 rfl
  have hruns : Text.runs Text.isBlank (strip row.toList).toList =
      values.map fun v => (toString v).toList := by
    rw [Text.runs_of_trimmed (fun _ => isBlank_of_isPadding) htrimmed]
    exact (h.worded.mono (fun _ => isBlank_of_isPadding) hdigits).runs_eq
  rw [Text.words, hruns, List.map_map]
  exact List.map_congr_left fun v _ => String.ofList_toList

theorem mapM_scan_toString (values : List UInt32) :
    (values.map toString).mapM Scannable.scan = some values := by
  rw [mapM_eq_some, List.forall₂_map_left_iff, List.forall₂_same]
  intro v _
  exact scan_word.2 (Numeral.readWord_eq_ok.1 (Numeral.readWord_toString v))

/-- A row is read as its words and as no other count of them. -/
theorem scalars?_eq (h : RowOf values key row) {ending : String}
    (hending : ending = "" ∨ ending = "\n" ∨ ending = "\r\n") (count : Nat) :
    (ofText (key ++ ":" ++ row ++ ending)).scalars? UInt32 count key =
      if count = values.length then some values else none := by
  refine scalars?_of_mapM (h.text?_eq hending) ?_ count
  rw [h.words_strip]
  exact mapM_scan_toString values

end RowOf

/-! ## Agreement -/

/-- What is read as a scalar is also read as the row of it, and the other way round where the value
holds no blanks but padding. -/
def ReadingsAgree (α : Type) [Scannable α] (factory : FactoryData) (key : String) : Prop :=
  (∀ v : α, factory.scalar? α key = some v → factory.scalars? α 1 key = some [v]) ∧
  ∀ value, factory.text? key = some value →
    (∀ c ∈ value.toList, Text.isBlank c = true → isPadding c = true) →
      ∀ v : α, factory.scalars? α 1 key = some [v] → factory.scalar? α key = some v

theorem readingsAgree (α : Type) [Scannable α] [OneWord α] (text key : String) :
    ReadingsAgree α (ofText text) key :=
  ⟨fun _ => scalars?_of_scalar?, fun _ htext hblank _ => scalar?_of_scalars? htext hblank⟩

/-- **Reading a value as a scalar and as a row of one agree**, for every kind of scalar, in every
file and for every key.  A line that gives a key the decimal forms of words, with any padding
around them, is read as the row of just these words, as no row of another count, and as a scalar
only if it is one word. -/
theorem scalar_and_row_readings_agree :
    (∀ text key, ReadingsAgree UInt32 (ofText text) key ∧ ReadingsAgree Int64 (ofText text) key ∧
      ReadingsAgree Bool (ofText text) key ∧ ReadingsAgree Float32 (ofText text) key ∧
      ReadingsAgree Float (ofText text) key) ∧
    ∀ values key row ending, RowOf values key row →
      ending = "" ∨ ending = "\n" ∨ ending = "\r\n" →
        let factory := ofText (key ++ ":" ++ row ++ ending)
        factory.scalars? UInt32 values.length key = some values ∧
        (∀ count, count ≠ values.length → factory.scalars? UInt32 count key = none) ∧
        (values.length ≠ 1 → factory.scalar? UInt32 key = none) := by
  refine ⟨fun text key => ⟨readingsAgree _ text key, readingsAgree _ text key,
    readingsAgree _ text key, readingsAgree _ text key, readingsAgree _ text key⟩, ?_⟩
  intro values key row ending h hending factory
  have hcount (count : Nat) : factory.scalars? UInt32 count key =
      if count = values.length then some values else none := h.scalars?_eq hending count
  refine ⟨by rw [hcount, if_pos rfl], fun count hne => by rw [hcount, if_neg hne], fun hne => ?_⟩
  -- a scalar would be the row of itself
  cases hscalar : factory.scalar? UInt32 key with
  | none => rfl
  | some v =>
    have hone := scalars?_of_scalar? hscalar
    rw [hcount, if_neg (Ne.symm hne)] at hone
    cases hone

/-- Three levels with uneven padding are a row of three and nothing else; a padded numeral with a
sign and a zero is a scalar, and so a row of one. -/
theorem row_of_three_is_no_scalar :
    let levels := ofText ("v_levels" ++ ":" ++ "\t60 70 \t80  " ++ "\r\n")
    levels.scalars? UInt32 3 "v_levels" = some [60, 70, 80] ∧
    levels.scalars? UInt32 6 "v_levels" = none ∧ levels.scalar? UInt32 "v_levels" = none ∧
    (ofText "q_index: +07\t").scalars? UInt32 1 "q_index" = some [7] := by
  intro levels
  have hworded : Text.Worded isPadding ("\t60 70 \t80  " : String).toList
      ([60, 70, 80].map fun v : UInt32 => (toString v).toList) := by
    change Text.Worded isPadding
      (['\t'] ++ ['6', '0'] ++ ([' '] ++ ['7', '0'] ++ ([' ', '\t'] ++ ['8', '0'] ++ [' ', ' '])))
      [['6', '0'], ['7', '0'], ['8', '0']]
    have hend {c : Char} {rest : List Char} (hc : isPadding c = true) :
        ∀ d, (c :: rest).head? = some d → isPadding d = true := by
      rintro d ⟨⟩
      exact hc
    have hgap {gap : List Char} (h : gap.all isPadding = true) :
        ∀ c ∈ gap, isPadding c = true := List.all_eq_true.1 h
    have hword {word : List Char} (h : (word.all fun c => !isPadding c) = true) :
        ∀ c ∈ word, isPadding c = false := by simpa using h
    exact .word (hgap rfl) (by decide) (hword rfl) (hend rfl)
      (.word (hgap rfl) (by decide) (hword rfl) (hend rfl)
        (.word (hgap rfl) (by decide) (hword rfl) (hend rfl) (.none (hgap rfl))))
  have hrow : RowOf [60, 70, 80] "v_levels" "\t60 70 \t80  " :=
    { trimmed := by decide, colon := by decide, newline := by decide, comment := by decide,
      worded := hworded }
  obtain ⟨hthree, hothers, hscalar⟩ :=
    scalar_and_row_readings_agree.2 _ _ _ _ hrow (.inr (.inr rfl))
  have hindex : (ofText "q_index: +07\t").scalar? UInt32 "q_index" = some 7 := by decide
  exact ⟨hthree, hothers 6 (by decide), hscalar (by decide),
    (scalar_and_row_readings_agree.1 _ _).1.1 7 hindex⟩

end Haptics.FactoryData
