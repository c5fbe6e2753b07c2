import Haptics.Proofs.Paths
import Haptics.Proofs.RegisterTexts
import Mathlib.Data.List.TakeWhile

/-!
# Lines of a text, and what trimming leaves

`Lined` says what the lines of a text are without cutting it: each newline ends a line, together
with one carriage return before it, and what follows the last newline is a line where it holds
anything.  Every text has such a list of lines (`exists_lined`), and it is the one that `lines`
computes (`Lined.endLines_eq`).  Two facts follow by induction on it: the lines of a text that goes
on after a newline are those of both parts (`Lined.append`), and a text without carriage returns
may be given one before each newline (`lined_withReturns`).

`Trimmed` says the same of trimming: what is left differs from the text by characters that
satisfy the test, and none of these is at its ends (`trimEnds_eq_iff`).
-/

namespace Haptics.Text

/-! ## Lines -/

/-- The lines of a text. -/
inductive Lined : List Char → List (List Char) → Prop
  | empty : Lined [] []
  /-- What follows the last newline keeps all its characters. -/
  | unended {line : List Char} (hline : '\n' ∉ line) (hne : line ≠ []) : Lined line [line]
  /-- Of several carriage returns before a newline only the last belongs to it. -/
  | returned {line rest : List Char} {lines : List (List Char)} (hline : '\n' ∉ line)
      (hrest : Lined rest lines) : Lined (line ++ '\r' :: '\n' :: rest) (line :: lines)
  | plain {line rest : List Char} {lines : List (List Char)} (hline : '\n' ∉ line)
      (hreturn : line.getLast? ≠ some '\r') (hrest : Lined rest lines) :
      Lined (line ++ '\n' :: rest) (line :: lines)

theorem cutAt_of_forall {test : Char → Bool} {cs : List Char} (h : ∀ c ∈ cs, test c = false) :
    cutAt test cs = [cs] := by
  induction cs with
  | nil => rfl
  | cons c rest ih =>
    obtain ⟨hc, hrest⟩ := List.forall_mem_cons.1 h
    rw [cutAt, hc, if_neg Bool.false_ne_true, ih hrest]

theorem cutAt_of_not_mem {separator : Char} {cs : List Char} (h : separator ∉ cs) :
    cutAt (· == separator) cs = [cs] :=
  cutAt_of_forall fun _ hc => beq_false_of_ne fun heq => h (heq ▸ hc)

/-- A newline ends the line before it. -/
theorem endLines_cutAt {line : List Char} (hline : '\n' ∉ line) (rest : List Char) :
    endLines (cutAt (· == '\n') (line ++ '\n' :: rest))
      = dropReturn line :: endLines (cutAt (· == '\n') rest) := by
  rw [cutAt_separator (by simp), cutAt_of_not_mem hline]
  cases hcut : cutAt (· == '\n') rest with
  | nil => exact absurd hcut (cutAt_ne_nil _ rest)
  | cons piece pieces => rfl

theorem dropReturn_concat (line : List Char) : dropReturn (line ++ ['\r']) = line := by
  simp [dropReturn]

theorem dropReturn_of_getLast? {line : List Char} (h : line.getLast? ≠ some '\r') :
    dropReturn line = line := if_neg h

/-- A text has no lines but those that are computed. -/
theorem Lined.endLines_eq {cs : List Char} {lines : List (List Char)} (h : Lined cs lines) :
    endLines (cutAt (· == '\n') cs) = lines := by
  induction h with
  | empty => rfl
  | unended hline hne => rw [cutAt_of_not_mem hline, endLines, if_neg (by simpa using hne)]
  | @returned line rest lines hline hrest ih =>
    have hreturn : '\n' ∉ line ++ ['\r'] := by simp [hline]
    have hcut := endLines_cutAt hreturn rest
    rw [List.append_assoc, dropReturn_concat, ih] at hcut
    exact hcut
  | plain hline hreturn hrest ih =>
    rw [endLines_cutAt hline, dropReturn_of_getLast? hreturn, ih]

/-- Every text has lines. -/
theorem exists_lined (cs : List Char) : ∃ lines, Lined cs lines := by
  by_cases hnewline : '\n' ∈ cs
  · obtain ⟨line, rest, rfl, hline⟩ := List.eq_append_cons_of_mem hnewline
    obtain ⟨lines, hrest⟩ := exists_lined rest
    by_cases hreturn : line.getLast? = some '\r'
    · obtain ⟨start, rfl⟩ := List.getLast?_eq_some_iff.1 hreturn
      have hstart : '\n' ∉ start := fun hmem => hline (List.mem_append_left _ hmem)
      refine ⟨start :: lines, ?_⟩
      rw [List.append_assoc]
      exact .returned hstart hrest
    · exact ⟨line :: lines, .plain hline hreturn hrest⟩
  · by_cases hne : cs = []
    · exact ⟨[], hne ▸ .empty⟩
    · exact ⟨[cs], .unended hnewline hne⟩
termination_by cs.length

/-- A text that is empty or ends with a newline. -/
def Ended (cs : List Char) : Prop :=
  cs = [] ∨ cs.getLast? = some '\n'

theorem Ended.after {before rest : List Char} (h : Ended (before ++ '\n' :: rest)) :
    Ended rest := by
  cases rest with
  | nil => exact .inl rfl
  | cons c rest => simpa [Ended, List.getLast?_append] using h

/-- The lines of a text that goes on after a newline are those of both parts. -/
theorem Lined.append {first second : List Char} {lines more : List (List Char)}
    (hfirst : Lined first lines) (hended : Ended first) (hsecond : Lined second more) :
    Lined (first ++ second) (lines ++ more) := by
  induction hfirst with
  | empty => exact hsecond
  | unended hline hne =>
    rcases hended with hnil | hlast
    · exact absurd hnil hne
    · exact absurd (List.mem_of_getLast? hlast) hline
  | @returned line rest lines hline hrest ih =>
    have hended : Ended ((line ++ ['\r']) ++ '\n' :: rest) := by
      rwa [List.append_assoc]
    rw [List.append_assoc]
    exact .returned hline (ih hended.after)
  | plain hline hreturn hrest ih =>
    rw [List.append_assoc]
    exact .plain hline hreturn (ih hended.after)

/-- A text of one line, with or without its end. -/
theorem lined_singleton {line ending : List Char} (hline : '\n' ∉ line) (hne : line ≠ [])
    (hreturn : line.getLast? ≠ some '\r')
    (hending : ending = [] ∨ ending = ['\n'] ∨ ending = ['\r', '\n']) :
    Lined (line ++ ending) [line] := by
  rcases hending with rfl | rfl | rfl
  · rw [List.append_nil]
    exact .unended hline hne
  · exact .plain hline hreturn .empty
  · exact .returned hline .empty

/-! ## Carriage returns -/

/-- The text with a carriage return before each newline. -/
def withReturns (cs : List Char) : List Char :=
  cs.flatMap fun c => if c = '\n' then ['\r', '\n'] else [c]

theorem withReturns_of_not_mem {cs : List Char} (h : '\n' ∉ cs) : withReturns cs = cs := by
  induction cs with
  | nil => rfl
  | cons c rest ih =>
    obtain ⟨hc, hrest⟩ : '\n' ≠ c ∧ '\n' ∉ rest := by simpa using h
    rw [withReturns, List.flatMap_cons, if_neg (Ne.symm hc)]
    exact congrArg (c :: ·) (ih hrest)

theorem withReturns_append (first second : List Char) :
    withReturns (first ++ second) = withReturns first ++ withReturns second :=
  List.flatMap_append

/-- Carriage returns before the newlines do not change the lines. -/
theorem lined_withReturns {cs : List Char} {lines : List (List Char)} (h : Lined cs lines)
    (hreturn : '\r' ∉ cs) : Lined (withReturns cs) lines := by
  induction h with
  | empty => exact .empty
  | unended hline hne =>
    rw [withReturns_of_not_mem hline]
    exact .unended hline hne
  | returned hline hrest ih => simp at hreturn
  | @plain line rest lines hline hlast hrest ih =>
    have hrest : '\r' ∉ rest := fun hmem => hreturn (by simp [hmem])
    rw [withReturns_append, withReturns_of_not_mem hline]
    exact .returned hline (ih hrest)

/-! ## Trimming -/

/-- What is left of a text when the characters at its ends that satisfy the test are taken
away. -/
structure Trimmed (test : Char → Bool) (cs core : List Char) : Prop where
  between : ∃ before after, cs = before ++ core ++ after ∧ (∀ c ∈ before, test c = true) ∧
    ∀ c ∈ after, test c = true
  first : ∀ c, core.head? = some c → test c = false
  last : ∀ c, core.getLast? = some c → test c = false

theorem trimEnds_append_left {test : Char → Bool} {before : List Char}
    (h : ∀ c ∈ before, test c = true) (cs : List Char) :
    trimEnds test (before ++ cs) = trimEnds test cs := by
  rw [trimEnds, List.dropWhile_append_of_pos h, trimEnds]

theorem trimEnds_append_right {test : Char → Bool} {after : List Char}
    (h : ∀ c ∈ after, test c = true) (cs : List Char) :
    trimEnds test (cs ++ after) = trimEnds test cs := by
  have hafter : after.dropWhile test = [] := List.dropWhile_eq_nil_iff.2 h
  have hreverse : ∀ c ∈ after.reverse, test c = true := fun c hc => h c (List.mem_reverse.1 hc)
  rw [trimEnds, List.dropWhile_append, trimEnds]
  split
  · rename_i hempty
    rw [List.isEmpty_iff.1 hempty, hafter]
  · rw [List.reverse_append, List.dropWhile_append_of_pos hreverse]

/-- What is taken away at either end is what the two cuts drop. -/
theorem exists_between_trimEnds (test : Char → Bool) (cs : List Char) :
    ∃ before after, cs = before ++ trimEnds test cs ++ after ∧
      (∀ c ∈ before, test c = true) ∧ ∀ c ∈ after, test c = true := by
  refine ⟨cs.takeWhile test, ((cs.dropWhile test).reverse.takeWhile test).reverse, ?_, ?_, ?_⟩
  · rw [List.append_assoc, trimEnds, ← List.reverse_append, List.takeWhile_append_dropWhile,
      List.reverse_reverse, List.takeWhile_append_dropWhile]
  · exact fun c hc => List.mem_takeWhile_imp hc
  · exact fun c hc => List.mem_takeWhile_imp (List.mem_reverse.1 hc)

theorem trimEnds_eq_iff {test : Char → Bool} {cs core : List Char} :
    trimEnds test cs = core ↔ Trimmed test cs core := by
  constructor
  · rintro rfl
    exact ⟨exists_between_trimEnds test cs, fun _ => head?_trimEnds test cs,
      fun _ => getLast?_trimEnds test cs⟩
  · rintro ⟨⟨before, after, rfl, hbefore, hafter⟩, hfirst, hlast⟩
    rw [trimEnds_append_right hafter, trimEnds_append_left hbefore, trimEnds_eq_self hfirst hlast]

/-! ## The first separator -/

/-- The parts of a text around the first separator are joined by it, and the first holds none. -/
theorem splitFirst_eq_some {separator : Char} {cs before after : List Char} :
    splitFirst separator cs = some (before, after)
      ↔ cs = before ++ separator :: after ∧ separator ∉ before := by
  induction cs generalizing before after with
  | nil => simp [splitFirst]
  | cons c rest ih =>
    rw [splitFirst]
    split
    · rename_i hc
      subst hc
      cases before with
      | nil => simp
      | cons d before => simp +contextual
    · rename_i hc
      cases before with
      | nil => simp [hc]
      | cons d before =>
        have hd : c = d → separator ≠ d := fun hcd hsd => hc (hcd.trans hsd.symm)
        simp only [Option.map_eq_some_iff, Prod.exists, Prod.mk.injEq, ih, List.cons_append,
          List.cons.injEq, List.mem_cons, not_or]
        constructor
        · rintro ⟨start, after, ⟨hrest, hmem⟩, ⟨hcd, rfl⟩, rfl⟩
          exact ⟨⟨hcd, hrest⟩, hd hcd, hmem⟩
        · rintro ⟨⟨hcd, hrest⟩, -, hmem⟩
          exact ⟨before, after, ⟨hrest, hmem⟩, ⟨hcd, rfl⟩, rfl⟩

end Haptics.Text
