import Haptics.Proofs.Runs

/-!
# What the registers hold

A register holds the value that was last written to it with success, in whichever call.
`Access.lastWritten` reads it off the accesses made so far, from bring-up on (`Vibrator.log`).
A script that succeeds leaves there what it writes, as far as its writes are mandatory
(`Script.Ran.stored`).
-/

namespace Haptics

namespace Access

/-- Whether the driver did what was asked of it. -/
def isDone : Access → Bool
  | write _ _ (.ok _) => true
  | read _ (.ok _) => true
  | _ => false

/-- What an access leaves in the register of a channel. -/
def stored? (channel : Channel) : Access → Option RegisterValue
  | write written value (.ok _) => if written = channel then some value else none
  | _ => none

/-- What the register of a channel holds after some accesses, if one of them has written it. -/
def lastWritten (channel : Channel) (made : List Access) : Option RegisterValue :=
  (made.filterMap (stored? channel)).getLast?

theorem stored?_eq_none {channel : Channel} {access : Access} (h : access.channel ≠ channel) :
    access.stored? channel = none := by
  cases access with
  | read => rfl
  | write written value outcome =>
    cases outcome with
    | error => rfl
    | ok => exact if_neg h

theorem lastWritten_append (channel : Channel) (earlier later : List Access) :
    lastWritten channel (earlier ++ later) =
      (lastWritten channel later).or (lastWritten channel earlier) := by
  rw [lastWritten, List.filterMap_append, List.getLast?_append]
  rfl

/-- Where nothing is left in a register, it holds what it held. -/
theorem lastWritten_append_of_none {channel : Channel} (earlier : List Access)
    {later : List Access} (h : ∀ access ∈ later, access.stored? channel = none) :
    lastWritten channel (earlier ++ later) = lastWritten channel earlier := by
  have hn : lastWritten channel later = none := by
    rw [lastWritten, List.filterMap_eq_nil_iff.2 h]
    rfl
  rw [lastWritten_append, hn, Option.none_or]

end Access

/-! ## Runs of scripts -/

namespace Script

def values (channel : Channel) (script : Script) : List RegisterValue :=
  (script.filter fun write => write.channel = channel).map (·.value)

theorem values_cons (channel : Channel) (write : Write) (rest : Script) :
    values channel (write :: rest) =
      (if write.channel = channel then [write.value] else []) ++ values channel rest := by
  by_cases h : write.channel = channel <;> simp [values, h]

section
variable {script first second : Script} {made : List Access} {outcome : Except Error Unit}

/-- A run that succeeds leaves in a register what the script writes to it, if none of these writes
may be skipped. -/
theorem Ran.stored {channel : Channel} (h : Ran script made outcome) (ho : outcome = .ok ())
    (hm : ∀ write ∈ script, write.channel = channel → write.mandatory = true) :
    made.filterMap (Access.stored? channel) = script.values channel := by
  induction h with
  | done => rfl
  | @wrote write rest made outcome _ ih =>
    have ih := ih ho fun write hw => hm write (List.mem_cons_of_mem _ hw)
    rw [values_cons, ← ih]
    by_cases hc : write.channel = channel <;> simp [Access.stored?, hc]
  | @skipped write rest made outcome fault hskip _ ih =>
    have ih := ih ho fun write hw => hm write (List.mem_cons_of_mem _ hw)
    have hc : write.channel ≠ channel := by
      intro hc
      rw [hm write List.mem_cons_self hc] at hskip
      cases hskip
    have hn : (Access.write write.channel write.value (.error fault)).stored? channel = none :=
      Access.stored?_eq_none hc
    rw [values_cons, ← ih, List.filterMap_cons_none hn, if_neg hc, List.nil_append]
  | stopped => cases ho

/-- A run of two scripts goes through the first one and on with the second, or it is stopped in the
first. -/
theorem Ran.append_inv (h : Ran (first ++ second) made outcome) :
    (∃ made₁ made₂, made = made₁ ++ made₂ ∧ Ran first made₁ (.ok ()) ∧
        Ran second made₂ outcome) ∨
      (Ran first made outcome ∧ outcome ≠ .ok ()) := by
  induction first generalizing made with
  | nil => exact .inl ⟨[], made, rfl, .done, h⟩
  | cons write rest ih =>
    cases h with
    | wrote h =>
      rcases ih h with ⟨made₁, made₂, rfl, h₁, h₂⟩ | ⟨h, hne⟩
      · exact .inl ⟨_ :: made₁, made₂, rfl, .wrote h₁, h₂⟩
      · exact .inr ⟨.wrote h, hne⟩
    | skipped fault hskip h =>
      rcases ih h with ⟨made₁, made₂, rfl, h₁, h₂⟩ | ⟨h, hne⟩
      · exact .inl ⟨_ :: made₁, made₂, rfl, .skipped fault hskip h₁, h₂⟩
      · exact .inr ⟨.skipped fault hskip h, hne⟩
    | stopped fault hm => exact .inr ⟨.stopped fault hm, by simp⟩

/-- A run leaves no trace on a channel that its script does not write. -/
theorem Ran.stored?_eq_none {channel : Channel} (h : Ran script made outcome)
    (hs : ∀ write ∈ script, write.channel ≠ channel) :
    ∀ access ∈ made, access.stored? channel = none := by
  intro access ha
  obtain ⟨write, hw, answer, rfl⟩ := h.mem ha
  exact Access.stored?_eq_none (hs write hw)

end
end Script

/-! ## The log of a run -/

namespace Vibrator
variable {σ : Type} [Device σ] {device : σ} {record : Record} {v : Vibrator σ}

/-- Bring-up tells the driver what was measured, arms its trigger and may set the period of the
record. -/
theorem mem_bringUpScript {write : Write} (hw : write ∈ bringUpScript device record) :
    write.channel ∈ [.state, .autocal, .f0, .redc, .q, .lpTrigger] ∨
      write.channel = .lraPeriod ∧ write.value = .ofWord record.lraPeriod := by
  have hknown {channel : Channel} {value : Option RegisterValue}
      (h : write ∈ writeKnown device channel value) :
      write.channel = channel ∧ value = some write.value := by
    cases value with
    | none => cases h
    | some value =>
      obtain ⟨-, rfl⟩ := Script.mem_ifExposed.1 h
      exact ⟨rfl, rfl⟩
  simp only [bringUpScript, List.mem_append, List.mem_singleton] at hw
  rcases hw with (((((rfl | h) | h) | h) | h) | h) | h
  · exact .inl List.mem_cons_self
  · exact .inl (by simp [(hknown h).1])
  · exact .inl (by simp [(hknown h).1])
  · exact .inl (by simp [(hknown h).1])
  · exact .inl (by simp [(hknown h).1])
  · split at h
    · cases h
    · exact .inr ⟨(hknown h).1, (Option.some.inj (hknown h).2).symm⟩
  · exact .inl (by simp [(hknown h).1])

/-- The accesses of bring-up, whether or not the driver is refused. -/
def bringUpAccesses (device : σ) (record : Record) : List Access :=
  match bringUp (⟨device, []⟩ : Traced σ) record with
  | .ok v => v.device.trace
  | .error refusal => refusal.device.trace

/-- All accesses of a run so far, those of bring-up first. -/
def log (device : σ) (record : Record) (v : Vibrator σ) (requests : List Request) : List Access :=
  bringUpAccesses device record ++ (v.history requests).flatMap (·.2)

/-- A driver that lacks a required channel is not accessed. -/
theorem bringUpAccesses_of_missing (hm : missing device ≠ []) :
    bringUpAccesses device record = [] := by
  have ht : missing (⟨device, []⟩ : Traced σ) ≠ [] := hm
  rw [bringUpAccesses, bringUp, if_neg ht]

theorem bringUpAccesses_ran (up : bringUp device record = .ok v) :
    ∃ outcome, Script.Ran (bringUpScript device record) (bringUpAccesses device record)
      outcome := by
  have ht : missing (⟨device, []⟩ : Traced σ) = [] := (bringUp_ok up).1
  obtain ⟨made, hmade, hr⟩ := Script.run_ran (bringUpScript device record) ⟨device, []⟩
  rw [List.nil_append] at hmade
  rw [bringUpAccesses, bringUp, if_pos ht]
  exact ⟨_, hmade ▸ hr⟩

/-- What a run adds to the log. -/
theorem log_append (before after : List Request) :
    log device record v (before ++ after) =
      log device record v before ++ ((v.serveAll before).2.history after).flatMap (·.2) := by
  rw [log, log, history_append, List.flatMap_append, List.append_assoc]

end Vibrator
end Haptics
