import Haptics.Proofs.Lines

/-!
# Words of a text

`Worded` says what the words of a text are without cutting it: runs of characters that fail a test,
with runs of characters that satisfy it before, between and after them.  Every text has such a list
of words (`exists_worded`), and it is the one that `runs` computes (`Worded.runs_eq`).  What stands
at the ends of a text and satisfies the test adds no word, so trimming changes none
(`runs_of_trimmed`), and a text is one word only if that word is what trimming leaves of it
(`trimmed_of_runs_eq_singleton`).
-/

namespace Haptics.Text
variable {test : Char → Bool}

/-- The words of a text, with the gaps around them. -/
inductive Worded (test : Char → Bool) : List Char → List (List Char) → Prop
  | none {gap : List Char} (hgap : ∀ c ∈ gap, test c = true) : Worded test gap []
  /-- A word ends where the text does or a gap begins. -/
  | word {gap word rest : List Char} {words : List (List Char)}
      (hgap : ∀ c ∈ gap, test c = true) (hne : word ≠ []) (hword : ∀ c ∈ word, test c = false)
      (hend : ∀ c, rest.head? = some c → test c = true) (hrest : Worded test rest words) :
      Worded test (gap ++ word ++ rest) (word :: words)

/-! ## Gaps -/

theorem runs_append_left {gap : List Char} (hgap : ∀ c ∈ gap, test c = true) (cs : List Char) :
    runs test (gap ++ cs) = runs test cs := by
  induction gap with
  | nil => rfl
  | cons c rest ih =>
    obtain ⟨hc, hrest⟩ := List.forall_mem_cons.1 hgap
    calc runs test (c :: (rest ++ cs)) = runs test [] ++ runs test (rest ++ cs) :=
          runs_separator hc [] (rest ++ cs)
      _ = runs test cs := ih hrest

theorem runs_of_gap {gap : List Char} (hgap : ∀ c ∈ gap, test c = true) : runs test gap = [] := by
  rw [← gap.append_nil, runs_append_left hgap]
  rfl

theorem runs_append_right {gap : List Char} (hgap : ∀ c ∈ gap, test c = true) (cs : List Char) :
    runs test (cs ++ gap) = runs test cs := by
  cases gap with
  | nil => rw [List.append_nil]
  | cons c rest =>
    obtain ⟨hc, hrest⟩ := List.forall_mem_cons.1 hgap
    rw [runs_separator hc, runs_of_gap hrest, List.append_nil]

/-- Trimming takes no word away, if it takes away only what stands between words. -/
theorem runs_of_trimmed {padding : Char → Bool} {cs core : List Char}
    (hpadding : ∀ c, padding c = true → test c = true) (h : Trimmed padding cs core) :
    runs test core = runs test cs := by
  obtain ⟨before, after, rfl, hbefore, hafter⟩ := h.between
  rw [runs_append_right fun c hc => hpadding c (hafter c hc),
    runs_append_left fun c hc => hpadding c (hbefore c hc)]

/-! ## Words -/

theorem runs_of_forall {word : List Char} (hne : word ≠ []) (hword : ∀ c ∈ word, test c = false) :
    runs test word = [word] := by
  rw [runs, cutAt_of_forall hword]
  simp [hne]

theorem runs_word {word rest : List Char} (hne : word ≠ []) (hword : ∀ c ∈ word, test c = false)
    (hend : ∀ c, rest.head? = some c → test c = true) :
    runs test (word ++ rest) = word :: runs test rest := by
  cases rest with
  | nil =>
    rw [List.append_nil, runs_of_forall hne hword]
    rfl
  | cons c rest =>
    have hc : test c = true := hend c rfl
    have hgap : runs test (c :: rest) = runs test rest := runs_separator hc [] rest
    rw [runs_separator hc, runs_of_forall hne hword, hgap]
    rfl

/-- A text has no words but those that are computed. -/
theorem Worded.runs_eq {cs : List Char} {words : List (List Char)} (h : Worded test cs words) :
    runs test cs = words := by
  induction h with
  | none hgap => exact runs_of_gap hgap
  | word hgap hne hword hend hrest ih =>
    rw [List.append_assoc, runs_append_left hgap, runs_word hne hword hend, ih]

/-- Every text has words. -/
theorem exists_worded (test : Char → Bool) (cs : List Char) : ∃ words, Worded test cs words := by
  by_cases hall : ∀ c ∈ cs, test c = true
  · exact ⟨[], .none hall⟩
  · let gap := cs.takeWhile test
    let after := cs.dropWhile test
    let word := after.takeWhile fun c => !test c
    let rest := after.dropWhile fun c => !test c
    have hcs : gap ++ word ++ rest = cs := by
      rw [List.append_assoc, List.takeWhile_append_dropWhile, List.takeWhile_append_dropWhile]
    have hafter : after ≠ [] := fun hnil => hall (List.dropWhile_eq_nil_iff.1 hnil)
    have hne : word ≠ [] := by
      cases hc : after with
      | nil => exact absurd hc hafter
      | cons c more =>
        have hfails : test c = false := head?_dropWhile test cs (by rw [← List.head?_cons, ← hc])
        simp [word, hc, hfails]
    have hshorter : rest.length < cs.length := by
      have hpos : 0 < word.length := List.length_pos_iff.2 hne
      have hlength := congrArg List.length hcs
      simp only [List.length_append] at hlength
      omega
    obtain ⟨words, hrest⟩ := exists_worded test rest
    refine ⟨word :: words, hcs ▸ .word (fun c hc => List.mem_takeWhile_imp hc) hne ?_ ?_ hrest⟩
    · intro c hc
      simpa using List.mem_takeWhile_imp hc
    · intro c hc
      simpa using head?_dropWhile (fun c => !test c) after hc
termination_by cs.length

/-- A text of one word is that word with gaps around it. -/
theorem trimmed_of_runs_eq_singleton {cs word : List Char} (h : runs test cs = [word]) :
    Trimmed test cs word := by
  obtain ⟨words, hworded⟩ := exists_worded test cs
  rw [← hworded.runs_eq, h] at hworded
  cases hworded with
  | word hbefore hne hword hend hrest =>
    cases hrest with
    | none hafter =>
      exact
        { between := ⟨_, _, rfl, hbefore, hafter⟩
          first := fun c hc => hword c (List.mem_of_head? hc)
          last := fun c hc => hword c (List.mem_of_getLast? hc) }

/-- Words stay words where more counts as a gap, as long as they hold nothing of it. -/
theorem Worded.mono {wider : Char → Bool} {cs : List Char} {words : List (List Char)}
    (h : Worded test cs words) (hwider : ∀ c, test c = true → wider c = true)
    (hwords : ∀ word ∈ words, ∀ c ∈ word, wider c = false) : Worded wider cs words := by
  induction h with
  | none hgap => exact .none fun c hc => hwider c (hgap c hc)
  | word hgap hne hword hend hrest ih =>
    obtain ⟨hfirst, hothers⟩ := List.forall_mem_cons.1 hwords
    exact .word (fun c hc => hwider c (hgap c hc)) hne hfirst (fun c hc => hwider c (hend c hc))
      (ih hothers)

/-- Every character stands in a gap or in a word. -/
theorem Worded.test_or_mem {cs : List Char} {words : List (List Char)} (h : Worded test cs words)
    {c : Char} (hc : c ∈ cs) : test c = true ∨ ∃ word ∈ words, c ∈ word := by
  induction h with
  | none hgap => exact .inl (hgap c hc)
  | @word gap word rest words hgap hne hword hend hrest ih =>
    simp only [List.mem_append] at hc
    rcases hc with (hc | hc) | hc
    · exact .inl (hgap c hc)
    · exact .inr ⟨word, List.mem_cons_self, hc⟩
    · rcases ih hc with hgap | ⟨other, hother, hmem⟩
      · exact .inl hgap
      · exact .inr ⟨other, List.mem_cons_of_mem word hother, hmem⟩

end Haptics.Text
