import Haptics.Drive.TransferCurve

/-!
# Answered levels

A solver has many exits, but each of them either gives up with zero or hands its roots to
`firstDrivable`, which lets none through that the amplifier cannot produce.  So what is said here
about answers (`Answer`) uses no law of the arithmetic: it holds of every carrier, and of floats
whatever overflows or is no number on the way (`answered_level_zero_or_in_range`).
-/

namespace Haptics

section
variable {α : Type}

section
variable [Scalar α]

/-- What a solver may answer: zero, or a level that the amplifier can produce. -/
def Answer (level : α) : Prop :=
  level = 0.0 ∨ Drivable level

/-- The first drivable level is one of the levels, and zero if none is drivable. -/
theorem firstDrivable_mem_or (levels : List α) :
    (firstDrivable levels ∈ levels ∧ Drivable (firstDrivable levels)) ∨
      (firstDrivable levels = 0.0 ∧ ∀ level ∈ levels, ¬Drivable level) := by
  unfold firstDrivable
  cases h : levels.find? fun level => Drivable level with
  | some level =>
    have hd := List.find?_some h
    exact .inl ⟨List.mem_of_find?_eq_some h, of_decide_eq_true hd⟩
  | none =>
    refine .inr ⟨rfl, fun level hl => ?_⟩
    have hd := List.find?_eq_none.1 h level hl
    simpa using hd

theorem firstDrivable_cons (level : α) (levels : List α) :
    firstDrivable (level :: levels) = if Drivable level then level else firstDrivable levels := by
  unfold firstDrivable
  rw [List.find?_cons]
  by_cases h : Drivable level <;> simp [h]

theorem answer_zero : Answer (0.0 : α) :=
  .inl rfl

theorem answer_firstDrivable (levels : List α) : Answer (firstDrivable levels) :=
  (firstDrivable_mem_or levels).elim (fun h => .inr h.2) fun h => .inl h.1

theorem Answer.ite {test : Prop} [Decidable test] {x y : α} (hx : Answer x) (hy : Answer y) :
    Answer (if test then x else y) := by
  split
  · exact hx
  · exact hy

theorem answer_solveLinear (slope intercept target : α) :
    Answer (solveLinear slope intercept target) :=
  answer_zero.ite (answer_firstDrivable _)

end

variable [Analytic α]

theorem answer_solveQuadratic (b c d target : α) : Answer (solveQuadratic b c d target) :=
  answer_zero.ite (answer_firstDrivable _)

theorem answer_solveCubic (p : Cubic α) (target : α) : Answer (solveCubic p target) := by
  unfold solveCubic
  refine .ite ?flat ?curved
  case flat => exact (answer_solveLinear ..).ite (answer_solveQuadratic ..)
  case curved =>
    have triple := answer_firstDrivable [-p.b / (3.0 * p.a)]
    have single := answer_firstDrivable [p.singleRoot (p.resolvent target)]
    have three := answer_firstDrivable (p.threeRoots (p.resolvent target))
    have double := answer_firstDrivable (p.doubleRoots (p.resolvent target))
    exact triple.ite (single.ite ((answer_zero.ite three).ite (answer_zero.ite double)))

theorem TransferCurve.answer_levelFor (curve : TransferCurve α) (target : α) :
    Answer (curve.levelFor target) := by
  cases curve with
  | linear slope intercept => exact answer_solveLinear slope intercept target
  | cubic p => exact answer_solveCubic p target

end

/-- **Answered levels can be produced.**  Whatever floats describe a line, a cubic, a curve and a
target (infinities, zeros of either sign and what is no number among them), a solver answers zero,
or a finite level above the tolerance and no higher than the amplifier reaches. -/
theorem answered_level_zero_or_in_range (slope intercept : Float) (p : Cubic Float)
    (curve : TransferCurve Float) (target : Float) :
    (solveLinear slope intercept target = 0.0 ∨
      ((solveLinear slope intercept target).isFinite = true ∧
        1e-6 < solveLinear slope intercept target ∧
        solveLinear slope intercept target ≤ 3.2)) ∧
    (solveCubic p target = 0.0 ∨
      ((solveCubic p target).isFinite = true ∧
        1e-6 < solveCubic p target ∧ solveCubic p target ≤ 3.2)) ∧
    (curve.levelFor target = 0.0 ∨
      ((curve.levelFor target).isFinite = true ∧
        1e-6 < curve.levelFor target ∧ curve.levelFor target ≤ 3.2)) :=
  ⟨answer_solveLinear slope intercept target, answer_solveCubic p target,
    curve.answer_levelFor target⟩

end Haptics
