import Haptics.Register.Script

/-!
# Runs of scripts

A device may answer any access in any way, so all that a run of a script depends on is which of
its writes fail.  `Script.Ran` lists the runs there can be; `run_ran` shows that a traced device
sees one of them, and what holds of every run is proved from the relation, never from `Script.run`.
-/

namespace Haptics

namespace Access

def channel : Access → Channel
  | write channel _ _ => channel
  | read channel _ => channel

end Access

namespace Script

theorem mem_ifExposed {σ : Type} [Device σ] {device : σ} {write offered : Write} :
    write ∈ ifExposed device offered ↔
      Device.has device offered.channel = true ∧ write = offered := by
  unfold ifExposed
  split <;> simp [*]

/-- A script may be run with these accesses, the first one first, to this outcome. -/
inductive Ran : Script → List Access → Except Error Unit → Prop where
  | done : Ran [] [] (.ok ())
  | wrote {write : Write} {rest : Script} {made : List Access} {outcome : Except Error Unit} :
      Ran rest made outcome →
        Ran (write :: rest) (.write write.channel write.value (.ok ()) :: made) outcome
  | skipped {write : Write} {rest : Script} {made : List Access} {outcome : Except Error Unit}
      (fault : Fault) : write.mandatory = false → Ran rest made outcome →
        Ran (write :: rest) (.write write.channel write.value (.error fault) :: made) outcome
  | stopped {write : Write} {rest : Script} (fault : Fault) : write.mandatory = true →
      Ran (write :: rest) [.write write.channel write.value (.error fault)]
        (.error (.writeFailed write.channel fault))

section
variable {σ : Type} [Device σ]

/-- What a traced device keeps of a run. -/
theorem run_ran (script : Script) (s : Traced σ) :
    ∃ made, (script.run s).2.trace = s.trace ++ made ∧ Ran script made (script.run s).1 := by
  induction script generalizing s with
  | nil => exact ⟨[], by simp [run], .done⟩
  | cons write rest ih =>
    -- the traced device answers as the device below it, and appends the access
    obtain ⟨outcome, device, hw⟩ : ∃ outcome device,
        Device.write write.channel write.value s.device = (outcome, device) := ⟨_, _, rfl⟩
    have hs : Device.write write.channel write.value s =
        (outcome, ⟨device, s.trace ++ [.write write.channel write.value outcome]⟩) := by
      simp only [Device.write, hw]
    simp only [run, hs]
    cases outcome with
    | ok =>
      obtain ⟨made, ht, hr⟩ := ih ⟨device, s.trace ++ [.write write.channel write.value (.ok ())]⟩
      exact ⟨_ :: made, by simpa using ht, .wrote hr⟩
    | error fault =>
      cases hm : write.mandatory with
      | true => exact ⟨_, rfl, .stopped fault hm⟩
      | false =>
        obtain ⟨made, ht, hr⟩ :=
          ih ⟨device, s.trace ++ [.write write.channel write.value (.error fault)]⟩
        exact ⟨_ :: made, by simpa using ht, .skipped fault hm hr⟩

/-- Tracing changes neither the outcome of a run nor the device. -/
theorem run_traced (script : Script) (s : Traced σ) :
    (script.run s).1 = (script.run s.device).1 ∧
      (script.run s).2.device = (script.run s.device).2 := by
  induction script generalizing s with
  | nil => exact ⟨rfl, rfl⟩
  | cons write rest ih =>
    obtain ⟨outcome, device, hw⟩ : ∃ outcome device,
        Device.write write.channel write.value s.device = (outcome, device) := ⟨_, _, rfl⟩
    have hs : Device.write write.channel write.value s =
        (outcome, ⟨device, s.trace ++ [.write write.channel write.value outcome]⟩) := by
      simp only [Device.write, hw]
    simp only [run, hs, hw]
    cases outcome with
    | ok => exact ih _
    | error fault =>
      cases write.mandatory with
      | true => exact ⟨rfl, rfl⟩
      | false => exact ih _

end

/-! ## What every run makes -/

section
variable {script : Script} {made : List Access} {outcome : Except Error Unit}

/-- Every access is one of the script's writes. -/
theorem Ran.mem (h : Ran script made outcome) {access : Access} (ha : access ∈ made) :
    ∃ write ∈ script, ∃ answer, access = .write write.channel write.value answer := by
  induction h with
  | done => simp at ha
  | wrote _ ih | skipped _ _ _ ih =>
    rcases List.mem_cons.1 ha with rfl | ha
    · exact ⟨_, List.mem_cons_self, _, rfl⟩
    · obtain ⟨write, hw, answer, rfl⟩ := ih ha
      exact ⟨write, List.mem_cons_of_mem _ hw, answer, rfl⟩
  | stopped =>
    obtain rfl := List.mem_singleton.1 ha
    exact ⟨_, List.mem_cons_self, _, rfl⟩

end
end Script
end Haptics
