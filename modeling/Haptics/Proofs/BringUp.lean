import Haptics.Proofs.FirstFailure
import Haptics.Proofs.Registers

/-!
# Bring-up

A driver is refused for the required channels that it lacks and for nothing else, before it is
accessed.  Any other driver is brought up whatever becomes of its writes: it is told in a fixed
order what is known of the actuator and has a channel, each value once, and nothing is read
(`bringUpAccesses_attempts`).  Whether the drive is dynamic is decided here and for good
(`Settled.modes`).
-/

namespace Haptics

/-- The order in which bring-up addresses the channels of a driver. -/
def Channel.bringUpOrder : List Channel :=
  [state, autocal, f0, redc, q, lraPeriod, lpTrigger]

/-- What bring-up tells a channel, if it tells it anything.  The period is left for the playbacks
where the drive is dynamic. -/
def Record.bringUpValue? (record : Record) (dynamic : Bool) : Channel → Option RegisterValue
  | .state => some (.bool true)
  | .autocal => record.autocal.map .text
  | .f0 => record.f0.map .ofWord
  | .redc => record.redc.map .ofWord
  | .q => some (.ofWord record.q)
  | .lraPeriod => if dynamic then none else some (.ofWord record.lraPeriod)
  | .lpTrigger => some (.ofWord record.lpTriggerEffect)
  | _ => none

/-- The writes of known values to exposed channels, in the order of the channels. -/
def writesInOrder (has : Channel → Bool) (value? : Channel → Option RegisterValue)
    (order : List Channel) : List Attempt :=
  order.flatMap fun channel =>
    if has channel then ((value? channel).map (Attempt.write channel)).toList else []

theorem writesInOrder_channels (has : Channel → Bool) (value? : Channel → Option RegisterValue)
    (order : List Channel) : ((writesInOrder has value? order).map Attempt.channel).Sublist order := by
  induction order with
  | nil => exact List.Sublist.refl []
  | cons channel rest ih =>
    rw [writesInOrder, List.flatMap_cons, List.map_append]
    cases has channel with
    | false => exact ih.cons channel
    | true =>
      cases value? channel with
      | none => exact ih.cons channel
      | some value => exact ih.cons_cons channel

/-- Without a mandatory write a script is run to its end and succeeds. -/
theorem Script.Ran.complete {script : Script} {made : List Access} {outcome : Except Error Unit}
    (h : Ran script made outcome) (hs : ∀ write ∈ script, write.mandatory = false) :
    made.map Access.attempt = script.attempts ∧ outcome = .ok () := by
  induction h with
  | done => exact ⟨rfl, rfl⟩
  | wrote _ ih | skipped _ _ _ ih =>
    obtain ⟨ha, ho⟩ := ih fun write hw => hs write (List.mem_cons_of_mem _ hw)
    exact ⟨congrArg _ ha, ho⟩
  | stopped fault hm =>
    rw [hs _ List.mem_cons_self] at hm
    cases hm

namespace Vibrator
variable {σ : Type} [Device σ] {device : σ} {record : Record}

/-! ## Refusal -/

theorem missing_ne_nil_iff (device : σ) :
    missing device ≠ [] ↔ ∃ channel ∈ Channel.required, Device.has device channel = false := by
  constructor
  · intro h
    obtain ⟨channel, hc⟩ := List.exists_mem_of_ne_nil _ h
    obtain ⟨hr, hn⟩ := List.mem_filter.1 hc
    exact ⟨channel, hr, by simpa using hn⟩
  · rintro ⟨channel, hr, hn⟩
    exact List.ne_nil_of_mem (List.mem_filter.2 ⟨hr, by simp [hn]⟩)

theorem bringUp_eq_error_iff (device : σ) (record : Record) :
    (∃ refusal, bringUp device record = .error refusal) ↔ missing device ≠ [] := by
  unfold bringUp
  split <;> simp [*]

/-! ## What the driver is told -/

theorem attempts_writeKnown (device : σ) (channel : Channel) (value : Option RegisterValue) :
    (writeKnown device channel value).attempts =
      if Device.has device channel then (value.map (Attempt.write channel)).toList else [] := by
  cases value with
  | none => simp [writeKnown, Script.attempts]
  | some value => exact Script.attempts_ifExposed

theorem mandatory_bringUpScript :
    ∀ write ∈ bringUpScript device record, write.mandatory = false := by
  have hknown (channel : Channel) (value : Option RegisterValue) :
      ∀ write ∈ writeKnown device channel value, write.mandatory = false := by
    intro write hw
    cases value with
    | none => cases hw
    | some value =>
      obtain ⟨-, rfl⟩ := Script.mem_ifExposed.1 hw
      rfl
  intro write hw
  simp only [bringUpScript, List.mem_append, List.mem_singleton] at hw
  rcases hw with (((((rfl | h) | h) | h) | h) | h) | h
  · rfl
  · exact hknown _ _ write h
  · exact hknown _ _ write h
  · exact hknown _ _ write h
  · exact hknown _ _ write h
  · split at h
    · cases h
    · exact hknown _ _ write h
  · exact hknown _ _ write h

theorem attempts_bringUpScript (hs : Device.has device .state = true) :
    (bringUpScript device record).attempts =
      writesInOrder (Device.has device) (record.bringUpValue? (isDynamic device record))
        Channel.bringUpOrder := by
  have hstate : Script.attempts [⟨.state, .bool true, false⟩] =
      if Device.has device .state then [.write .state (.bool true)] else [] := by
    rw [if_pos hs]
    rfl
  have hperiod : Script.attempts (if isDynamic device record then []
        else writeKnown device .lraPeriod (some (.ofWord record.lraPeriod))) =
      if Device.has device .lraPeriod then
        ((record.bringUpValue? (isDynamic device record) .lraPeriod).map
          (Attempt.write .lraPeriod)).toList
      else [] := by
    cases hd : isDynamic device record with
    | true => simp [Record.bringUpValue?, Script.attempts]
    | false => exact attempts_writeKnown device .lraPeriod (some (.ofWord record.lraPeriod))
  simp only [bringUpScript, Script.attempts_append, attempts_writeKnown, hstate, hperiod,
    List.append_assoc]
  simp only [writesInOrder, Channel.bringUpOrder, List.flatMap_cons, List.flatMap_nil,
    List.append_nil]
  rfl

/-- A driver that has the required channels is told all that it can be told. -/
theorem bringUpAccesses_attempts (record : Record) (hm : missing device = []) :
    (bringUpAccesses device record).map Access.attempt =
      writesInOrder (Device.has device) (record.bringUpValue? (isDynamic device record))
        Channel.bringUpOrder := by
  have hs : Device.has device .state = true := by
    have h := List.filter_eq_nil_iff.1 hm .state (by simp [Channel.required])
    simpa using h
  obtain ⟨v, up⟩ : ∃ v, bringUp device record = .ok v := ⟨_, if_pos hm⟩
  obtain ⟨outcome, hr⟩ := bringUpAccesses_ran up
  rw [(hr.complete mandatory_bringUpScript).1, attempts_bringUpScript hs]

/-! ## What is decided -/

/-- In every state that is reached later the settings are there exactly where the drive is
dynamic, and the temperature is tracked exactly where the driver also measures it. -/
theorem Settled.modes {state : ThermalState} {v : Vibrator σ}
    (h : Settled device record state v) :
    v.effectSetting.isSome = isDynamic device record ∧
      v.steadySetting.isSome = isDynamic device record ∧
      v.thermal.isSome = (isDynamic device record && Device.has device .temperature) := by
  rw [h.effectSetting, h.steadySetting, h.thermal]
  cases isDynamic device record <;> cases Device.has device .temperature <;> simp

theorem isDynamic_eq (device : σ) (record : Record) :
    isDynamic device record = (record.dynamicConfig && Device.has device .waveShape &&
      Device.has device .odClamp && Device.has device .lraPeriod) := by
  simp only [isDynamic, Channel.shaping, List.all_cons, List.all_nil, Bool.and_true, Bool.and_assoc]

/-- **A driver is refused exactly for the required channels that it lacks.**  The refusal names
these in their order, does not depend on how the driver would answer and leaves it as it was, after
no access at all.  Otherwise it is brought up whatever fails: its accesses are the writes of the
values that are known for exposed channels, in their order and each once, and the period is among
them only where the drive is static.  Whether the drive is dynamic and whether its temperature is
tracked follows from the record and the exposed channels, in every state reached later. -/
theorem bringUp_refused_iff_channel_missing (device : σ) (record : Record) :
    let has := Device.has device
    let lacking := [.activate, .duration, .state].filter fun channel => !has channel
    let dynamic :=
      record.dynamicConfig && has .waveShape && has .odClamp && has .lraPeriod
    ((∃ refusal, bringUp device record = .error refusal) ↔
      ∃ channel ∈ [Channel.activate, .duration, .state], has channel = false) ∧
    (lacking ≠ [] →
      (∀ driver : Device σ, driver.has device = has →
        @bringUp σ driver device record =
          .error { error := .missingChannels lacking, device := device }) ∧
      (Error.missingChannels lacking).kind = .constructionFailed ∧
      (Error.missingChannels lacking).message =
        "Failed to construct vibrator: driver lacks " ++
          ", ".intercalate (lacking.map Channel.name) ∧
      bringUpAccesses device record = []) ∧
    (lacking = [] → ∃ v, bringUp device record = .ok v ∧
      (bringUpAccesses device record).map Access.attempt =
        writesInOrder has (record.bringUpValue? dynamic)
          [.state, .autocal, .f0, .redc, .q, .lraPeriod, .lpTrigger] ∧
      ((bringUpAccesses device record).map Access.channel).Nodup ∧
      ∀ requests, let w := (v.serveAll requests).2
        w.effectSetting.isSome = dynamic ∧ w.steadySetting.isSome = dynamic ∧
          w.thermal.isSome = (dynamic && has .temperature)) := by
  intro has lacking dynamic
  have hdynamic : dynamic = isDynamic device record := (isDynamic_eq device record).symm
  have hrefused (driver : Device σ) (hd : driver.has device = has) (h : lacking ≠ []) :
      @bringUp σ driver device record =
        .error { error := .missingChannels lacking, device := device } := by
    have hm : @missing σ driver device = lacking := by
      simp only [missing, hd]
      rfl
    rw [bringUp, hm, if_neg h]
  refine ⟨?_, fun h => ⟨fun driver hd => hrefused driver hd h, rfl, rfl,
    bringUpAccesses_of_missing h⟩, fun h => ?_⟩
  · rw [bringUp_eq_error_iff]
    exact missing_ne_nil_iff device
  · have hm : missing device = [] := h
    obtain ⟨v, up⟩ : ∃ v, bringUp device record = .ok v := ⟨_, if_pos hm⟩
    have hattempts := bringUpAccesses_attempts record hm
    refine ⟨v, up, ?_, ?_, fun requests => ?_⟩
    · rw [hdynamic]
      exact hattempts
    · rw [← Access.map_channel_attempt, hattempts]
      exact List.Nodup.sublist (writesInOrder_channels _ _ _) (by decide)
    · obtain ⟨state, hw⟩ := settled_serveAll (settled_bringUp up) requests
      rw [hdynamic]
      exact hw.modes

theorem lacking_channels_refuse_and_busy_ones_do_not :
    bringUp { Simulated.hot with exposed := [.duration] } .uncalibrated =
        .error
          { error := .missingChannels [.activate, .state]
            device := { Simulated.hot with exposed := [.duration] } } ∧
      bringUpAccesses { Simulated.hot with exposed := [.duration] } .uncalibrated = [] ∧
      ∃ v, bringUp { Simulated.hot with failing := [(.state, "busy")] } .uncalibrated = .ok v ∧
        (bringUpAccesses { Simulated.hot with failing := [(.state, "busy")] }
            .uncalibrated).map Access.attempt =
          [.write .state (.bool true), .write .q (.ofWord Record.defaultQ),
            .write .lpTrigger (.ofWord 1)] ∧
        ∀ requests, (v.serveAll requests).2.thermal.isSome = true := by
  have hlacking := (bringUp_refused_iff_channel_missing
    { Simulated.hot with exposed := [.duration] } .uncalibrated).2.1 (by decide)
  obtain ⟨v, up, hattempts, -, hmodes⟩ := (bringUp_refused_iff_channel_missing
    { Simulated.hot with failing := [(.state, "busy")] } .uncalibrated).2.2 (by decide)
  refine ⟨hlacking.1 _ rfl, hlacking.2.2.2, v, up, ?_, fun requests => ?_⟩
  · rw [hattempts]
    rfl
  · exact (hmodes requests).2.2

end Vibrator
end Haptics
