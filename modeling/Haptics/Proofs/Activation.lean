import Haptics.Proofs.FirstFailure
import Haptics.Proofs.Hysteresis
import Haptics.Proofs.Registers

/-!
# Starting a playback

Playback starts with the last write of a script.  Where that write succeeds, all that the script
asks for before it has been done (`started`), in particular the three writes that shape the drive.
So no playback starts with a setting that an earlier call left behind, whatever the driver refused
on the way (`started_with_own_setting`).
-/

namespace Haptics

def Write.start : Write :=
  { channel := .activate, value := .bool true }

namespace Access

def started : Access :=
  .write .activate (.bool true) (.ok ())

/-- The registers that shape the drive hold these values. -/
structure Shaped (made : List Access) (shape : WaveShape) (clamp period : UInt32) : Prop where
  waveShape : lastWritten .waveShape made = some shape.register
  odClamp : lastWritten .odClamp made = some (.ofWord clamp)
  lraPeriod : lastWritten .lraPeriod made = some (.ofWord period)

end Access

namespace Script

theorem values_shaping {channel : Channel} (h : channel ∈ Channel.shaping) (script : Script) :
    script.shaping.values channel = script.values channel := by
  rw [values, shaping, List.filter_filter, values]
  congr 1
  refine List.filter_congr fun write _ => ?_
  by_cases hc : write.channel = channel
  · simp [hc, h]
  · simp [hc]

/-- If the last write of a script succeeds and its channel is not written before, then everything
before it has been run. -/
theorem Ran.last {prepared : Script} {last : Write} {made before after : List Access}
    {outcome : Except Error Unit} (h : Ran (prepared ++ [last]) made outcome)
    (hm : last.mandatory = true) (hc : ∀ write ∈ prepared, write.channel ≠ last.channel)
    (hb : made = before ++ .write last.channel last.value (.ok ()) :: after) :
    Ran prepared before (.ok ()) ∧ after = [] ∧ outcome = .ok () := by
  have hnot {accesses : List Access} {answer : Except Error Unit}
      (hr : Ran prepared accesses answer) :
      .write last.channel last.value (.ok ()) ∉ accesses := by
    intro hmem
    obtain ⟨write, hw, _, e⟩ := hr.mem hmem
    exact hc write hw (Access.write.inj e).1.symm
  rcases h.append_inv with ⟨made₁, made₂, rfl, h₁, h₂⟩ | ⟨h, -⟩
  · cases h₂ with
    | wrote h₂ =>
      cases h₂
      -- the start stands at the end of `made` and nowhere before
      rcases List.append_eq_append_iff.1 hb with ⟨rest, rfl, e⟩ | ⟨rest, rfl, e⟩
      · cases rest with
        | nil =>
          obtain ⟨-, rfl⟩ := List.cons.inj e
          exact ⟨by simpa using h₁, rfl, rfl⟩
        | cons head tail =>
          obtain ⟨-, e⟩ := List.cons.inj e
          simp at e
      · cases rest with
        | nil =>
          obtain ⟨-, rfl⟩ := List.cons.inj e
          exact ⟨by simpa using h₁, rfl, rfl⟩
        | cons head tail =>
          obtain ⟨rfl, -⟩ := List.cons.inj e
          exact (hnot h₁ (by simp)).elim
    | skipped fault hskip =>
      rw [hm] at hskip
      cases hskip
    | stopped fault =>
      have hmem : .write last.channel last.value (.ok ()) ∈
          made₁ ++ [.write last.channel last.value (.error fault)] := by
        rw [hb]
        simp
      rcases List.mem_append.1 hmem with hmem | hmem
      · exact (hnot h₁ hmem).elim
      · simp at hmem
  · exact (hnot h (by rw [hb]; simp)).elim

end Script

/-! ## What is done before the start -/

namespace Vibrator
variable {σ : Type} [Device σ]

/-- What chooses loop and mode and sets the length and the drive. -/
def armScript (v : Vibrator σ) (duration : UInt32) (mode : PlayMode)
    (setting : Option DriveSetting) (position : Nat) : Script :=
  let loop := LoopControl.select (mode = .realTime) duration v.record.closeLoopThreshold
  Script.ifExposed v.device ⟨.ctrlLoop, loop.register, false⟩
    ++ Script.ifExposed v.device { channel := .mode, value := .text mode.name }
    ++ [{ channel := .duration, value := .ofWord duration }]
    ++ settingScript setting position

theorem playScript_eq (v : Vibrator σ) (duration : UInt32) (mode : PlayMode)
    (setting : Option DriveSetting) (position : Nat) :
    v.playScript duration mode setting position =
      v.armScript duration mode setting position ++ [.start] := rfl

/-- What a request does before it starts playback; nothing for a request that starts none. -/
def preparation? (v : Vibrator σ) : Request → Option Script
  | .on duration =>
    let v := v.sampleSteady.2
    some (v.globalScaleScript true ++
      v.armScript (addUnlessTooLong duration v.catalog.startLatency) .realTime v.activeSteady 0)
  | .effect effect strength => (v.catalog.plan? effect strength).map fun plan =>
    programScript plan.program
      ++ Script.ifExposed v.device
        { channel := .scale, value := .ofWord (v.effectScale plan.slot) }
      ++ v.armScript plan.duration .waveform v.effectSetting plan.slot.index
  | _ => none

section
variable {v : Vibrator σ} {request : Request} {prepared : Script}

/-- Playback is prepared and then started. -/
theorem body_of_preparation (h : v.preparation? request = some prepared) :
    v.body request = prepared ++ [.start] := by
  cases request with
  | on duration =>
    obtain rfl := Option.some.inj h
    simp [body, steadyScript, playScript_eq]
  | effect effect strength =>
    obtain ⟨plan, hp, rfl⟩ := Option.map_eq_some_iff.1 h
    simp [body, hp, effectScript, playScript_eq]
  | off | amplitude | external | supportsAmplitude | supportsExternal | report => cases h

theorem strict_body_of_preparation (h : v.preparation? request = some prepared) :
    (v.body request).Strict := by
  cases request with
  | on duration => exact strict_steadyScript _ duration
  | effect effect strength =>
    obtain ⟨plan, hp, -⟩ := Option.map_eq_some_iff.1 h
    have hb : v.body (.effect effect strength) = v.effectScript plan := by simp [body, hp]
    rw [hb]
    exact strict_effectScript v plan
  | off | amplitude | external | supportsAmplitude | supportsExternal | report => cases h

/-- The channels that an effect or steady vibration writes right before its start. -/
def armChannels : List Channel :=
  [.ctrlLoop, .mode, .duration, .waveShape, .odClamp, .lraPeriod]

/-- The channels that a program is handed over by. -/
def programChannels : List Channel :=
  [.sequencer, .effectQueue, .effectIndex]

/-- The channels that a request may write before the start. -/
def preparing : Request → List Channel
  | .on _ => .globalScale :: armChannels
  | .effect _ _ => programChannels ++ .scale :: armChannels
  | _ => []

theorem channel_mem_armScript {v : Vibrator σ} {duration : UInt32} {mode : PlayMode}
    {setting : Option DriveSetting} {position : Nat} {write : Write}
    (hw : write ∈ v.armScript duration mode setting position) : write.channel ∈ armChannels := by
  simp only [armScript, List.mem_append, List.mem_singleton, Script.mem_ifExposed] at hw
  rcases hw with ((⟨-, rfl⟩ | ⟨-, rfl⟩) | rfl) | hw
  · exact List.mem_of_getElem? (i := 0) rfl
  · exact List.mem_of_getElem? (i := 1) rfl
  · exact List.mem_of_getElem? (i := 2) rfl
  · obtain ⟨s, -, ht⟩ := told_of_mem_settingScript hw
    exact List.mem_append_right [.ctrlLoop, .mode, .duration] (DriveSetting.mem_shaping_of_told ht)

theorem channel_mem_playScript {v : Vibrator σ} {duration : UInt32} {mode : PlayMode}
    {setting : Option DriveSetting} {position : Nat} {write : Write}
    (hw : write ∈ v.playScript duration mode setting position) :
    write.channel ∈ armChannels ++ [.activate] := by
  rw [playScript_eq] at hw
  rcases List.mem_append.1 hw with hw | hw
  · exact List.mem_append_left _ (channel_mem_armScript hw)
  · rw [List.mem_singleton.1 hw]
    exact List.mem_append_right _ List.mem_cons_self

theorem channel_mem_programScript {program : Program} {write : Write}
    (hw : write ∈ programScript program) : write.channel ∈ programChannels := by
  cases program with
  | sequence index =>
    obtain rfl := List.mem_singleton.1 hw
    simp [programChannels]
  | queue first pause second =>
    simp only [programScript, List.mem_cons, List.not_mem_nil, or_false] at hw
    rcases hw with rfl | rfl <;> simp [programChannels]

theorem channel_mem_preparation (h : v.preparation? request = some prepared) {write : Write}
    (hw : write ∈ prepared) : write.channel ∈ preparing request := by
  cases request with
  | on duration =>
    obtain rfl := Option.some.inj h
    rcases List.mem_append.1 hw with hw | hw
    · obtain ⟨-, rfl⟩ := Script.mem_ifExposed.1 hw
      exact List.mem_cons_self
    · exact List.mem_cons_of_mem _ (channel_mem_armScript hw)
  | effect effect strength =>
    obtain ⟨plan, -, rfl⟩ := Option.map_eq_some_iff.1 h
    rcases List.mem_append.1 hw with hw | hw
    · rcases List.mem_append.1 hw with hw | hw
      · exact List.mem_append_left _ (channel_mem_programScript hw)
      · obtain ⟨-, rfl⟩ := Script.mem_ifExposed.1 hw
        exact List.mem_append_right _ List.mem_cons_self
    · exact List.mem_append_right _ (List.mem_cons_of_mem _ (channel_mem_armScript hw))
  | off | amplitude | external | supportsAmplitude | supportsExternal | report => cases h

/-- Nothing is started before the preparation is done. -/
theorem activate_not_mem_preparation (h : v.preparation? request = some prepared) :
    ∀ write ∈ prepared, write.channel ≠ .activate := by
  intro write hw hc
  have hm := channel_mem_preparation h hw
  rw [hc] at hm
  cases request <;> simp [preparing, armChannels, programChannels] at hm

/-- An amplitude is set by the real-time input or the attenuation. -/
theorem channel_mem_body_amplitude {amplitude : Float32} {write : Write}
    (hw : write ∈ v.body (.amplitude amplitude)) : write.channel ∈ [.rtpInput, .scale] := by
  simp only [body, amplitudeScript] at hw
  split at hw
  · split at hw
    · rw [List.mem_singleton.1 hw]
      simp
    · split at hw
      · rw [List.mem_singleton.1 hw]
        simp
      · cases hw
  · cases hw

def writable : Request → List Channel
  | .off => [.globalScale, .activate]
  | .amplitude _ => [.rtpInput, .scale]
  | .external _ => [.globalScale, .aspEnable]
  | request => preparing request ++ [.activate]

theorem channel_mem_body {write : Write} (hw : write ∈ v.body request) :
    write.channel ∈ writable request := by
  cases request with
  | on duration =>
    obtain ⟨prepared, hp⟩ : ∃ prepared, v.preparation? (.on duration) = some prepared := ⟨_, rfl⟩
    rw [body_of_preparation hp] at hw
    rcases List.mem_append.1 hw with hw | hw
    · exact List.mem_append_left _ (channel_mem_preparation hp hw)
    · rw [List.mem_singleton.1 hw]
      exact List.mem_append_right _ List.mem_cons_self
  | effect effect strength =>
    cases hp : v.preparation? (.effect effect strength) with
    | none =>
      have hn : v.catalog.plan? effect strength = none := by simpa [preparation?] using hp
      simp [body, hn] at hw
    | some prepared =>
      rw [body_of_preparation hp] at hw
      rcases List.mem_append.1 hw with hw | hw
      · exact List.mem_append_left _ (channel_mem_preparation hp hw)
      · rw [List.mem_singleton.1 hw]
        exact List.mem_append_right _ List.mem_cons_self
  | off =>
    rcases List.mem_append.1 hw with hw | hw
    · obtain ⟨-, rfl⟩ := Script.mem_ifExposed.1 hw
      exact List.mem_cons_self
    · rw [List.mem_singleton.1 hw]
      exact List.mem_of_getElem? (i := 1) rfl
  | amplitude amplitude => exact channel_mem_body_amplitude hw
  | external enabled =>
    simp only [body] at hw
    split at hw
    · rcases List.mem_append.1 hw with hw | hw
      · obtain ⟨-, rfl⟩ := Script.mem_ifExposed.1 hw
        exact List.mem_cons_self
      · rw [List.mem_singleton.1 hw]
        exact List.mem_of_getElem? (i := 1) rfl
    · cases hw
  | supportsAmplitude | supportsExternal | report => cases hw

/-- Steady vibration and effects start playback, and no other request does. -/
theorem preparation_of_start {outcome : Except Fault Unit}
    (h : .write .activate (.bool true) outcome ∈ v.accesses request) :
    ∃ prepared, v.preparation? request = some prepared := by
  obtain ⟨write, hw, hc, hv⟩ := mem_body_of_mem_accesses h
  cases request with
  | on duration => exact ⟨_, rfl⟩
  | effect effect strength =>
    cases hp : v.catalog.plan? effect strength with
    | none => simp [body, hp] at hw
    | some plan => exact ⟨_, by rw [preparation?, hp, Option.map_some]⟩
  | off =>
    simp only [body, globalScaleScript, List.mem_append, Script.mem_ifExposed,
      List.mem_singleton] at hw
    rcases hw with ⟨-, rfl⟩ | rfl
    · cases hc
    · cases hv
  | amplitude amplitude =>
    have hm := channel_mem_body_amplitude hw
    rw [hc] at hm
    simp at hm
  | external enabled =>
    simp only [body] at hw
    split at hw
    · simp only [globalScaleScript, List.mem_append, Script.mem_ifExposed,
        List.mem_singleton] at hw
      rcases hw with ⟨-, rfl⟩ | rfl <;> cases hc
    · cases hw
  | supportsAmplitude | supportsExternal | report => cases hw

/-- Where playback is started with success, the preparation has been run, nothing follows the
start, and the call succeeds. -/
theorem started {before after : List Access}
    (h : v.accesses request = before ++ .started :: after) :
    ∃ prepared made, v.preparation? request = some prepared ∧ before = v.opening request ++ made ∧
      Script.Ran prepared made (.ok ()) ∧ after = [] ∧
      ((v.opened request).runScript (v.body request)).1 = .ok () := by
  have hmem : .write .activate (.bool true) (.ok ()) ∈ v.accesses request := by
    rw [h]
    exact List.mem_append_right _ List.mem_cons_self
  obtain ⟨prepared, hp⟩ := preparation_of_start hmem
  obtain ⟨made, ha, hr⟩ := v.accesses_runScript request
  have hno : .started ∉ v.opening request := write_not_mem_opening _ _ _ _ _
  rw [h] at ha
  rw [body_of_preparation hp] at hr ⊢
  -- the reads come first, and the start is none of them
  rcases List.append_eq_append_iff.1 ha with ⟨rest, e, hm⟩ | ⟨rest, rfl, hm⟩
  · cases rest with
    | nil =>
      obtain ⟨hran, hafter, hok⟩ := hr.last rfl (activate_not_mem_preparation hp)
        (show made = [] ++ .started :: after from hm.symm)
      exact ⟨prepared, [], hp, by simpa using e.symm, hran, hafter, hok⟩
    | cons head tail =>
      obtain ⟨rfl, -⟩ := List.cons.inj hm
      exact (hno (by rw [e]; simp)).elim
  · obtain ⟨hran, hafter, hok⟩ := hr.last rfl (activate_not_mem_preparation hp) hm
    exact ⟨prepared, rest, hp, rfl, hran, hafter, hok⟩

/-! ## What the registers hold at the start -/

theorem values_settingScript (setting : DriveSetting) (position : Nat) (channel : Channel) :
    (settingScript (some setting) position).values channel =
      (setting.told? position channel).toList := by
  cases channel <;> rfl

/-- At the start the registers that shape the drive hold what the request shapes it by. -/
theorem shaped_of_started {before after : List Access}
    (h : v.accesses request = before ++ .started :: after) {setting : DriveSetting}
    {position : Nat}
    (hs : (v.body request).shaping = settingScript (some setting) position)
    (earlier : List Access) :
    Access.Shaped (earlier ++ before) setting.shape (setting.clampAt position) setting.period := by
  obtain ⟨prepared, made, hp, rfl, hr, -⟩ := started h
  have hb := body_of_preparation hp
  have hdispensable : ∀ channel ∈ Channel.shaping, channel ∉ Access.dispensable := by decide
  have hvalues {channel : Channel} (hc : channel ∈ Channel.shaping) :
      Access.lastWritten channel made = setting.told? position channel := by
    have hmandatory : ∀ write ∈ prepared, write.channel = channel → write.mandatory = true := by
      intro write hw e
      have hstrict := strict_body_of_preparation hp write (by rw [hb]; simp [hw])
      exact hstrict.2 (e ▸ hdispensable channel hc)
    have hnext : Write.start.channel ∉ Channel.shaping := by decide
    rw [hb, Script.shaping_append, Script.shaping_cons hnext, Script.shaping_nil,
      List.append_nil] at hs
    rw [Access.lastWritten, hr.stored rfl hmandatory, ← Script.values_shaping hc, hs,
      values_settingScript]
    cases setting.told? position channel <;> rfl
  have hlast {channel : Channel} {value : RegisterValue} (hc : channel ∈ Channel.shaping)
      (ht : setting.told? position channel = some value) :
      Access.lastWritten channel (earlier ++ (v.opening request ++ made)) = some value := by
    rw [Access.lastWritten_append, Access.lastWritten_append, hvalues hc, ht]
    rfl
  exact ⟨hlast (by decide) rfl, hlast (by decide) rfl, hlast (by decide) rfl⟩

end

/-! ## Runs -/

section
variable {device : σ} {record : Record} {state : ThermalState} {v : Vibrator σ}

/-- The thermal state, which is nominal where the temperature is not tracked. -/
def thermalState (v : Vibrator σ) : ThermalState :=
  (v.thermal.map (·.state)).getD .nominal

/-- The steady setting is that of the thermal state, tracked or not. -/
theorem Settled.activeSteady_eq_settingIn (h : Settled device record state v)
    (hd : isDynamic device record = true) :
    v.activeSteady = some (settingIn record v.thermalState) := by
  rw [h.activeSteady, if_pos hd, thermalState, h.thermal, hd]
  cases Device.has device .temperature with
  | false => rfl
  | true => cases state <;> rfl

/-- Steady vibration starts with the steady setting of the thermal state that it samples. -/
theorem Settled.shaped_on (h : Settled device record state v)
    (hd : isDynamic device record = true) {duration : UInt32} {before after : List Access}
    (ha : v.accesses (.on duration) = before ++ .started :: after) (earlier : List Access) :
    let setting := settingIn record (v.serve (.on duration)).2.thermalState
    Access.Shaped (earlier ++ before) setting.shape (setting.clampAt 0) setting.period := by
  have hs : (v.serve (.on duration)).2.activeSteady = v.sampleSteady.2.activeSteady := by
    simp only [Vibrator.activeSteady, (v.on_frame duration).2.2]
  refine shaped_of_started ha ?_ earlier
  rw [v.body_shaping, ← hs, (settled_on h duration).activeSteady_eq_settingIn hd]

/-- An effect starts with the setting of effects, at the slot of its plan. -/
theorem Settled.shaped_effect (h : Settled device record state v)
    (hd : isDynamic device record = true) {effect : Effect} {strength : Strength}
    {before after : List Access}
    (ha : v.accesses (.effect effect strength) = before ++ .started :: after)
    (earlier : List Access) :
    ∃ plan, v.catalog.plan? effect strength = some plan ∧
      Access.Shaped (earlier ++ before) record.effectSetting.shape
        (record.effectSetting.clampAt plan.slot.index) record.effectSetting.period := by
  obtain ⟨prepared, _, hprepared, -⟩ := started ha
  obtain ⟨plan, hp, -⟩ := Option.map_eq_some_iff.1 hprepared
  refine ⟨plan, hp, shaped_of_started ha ?_ earlier⟩
  rw [v.body_shaping, h.effectSetting, if_pos hd]
  simp [hp]

/-- With a static drive no request shapes it. -/
theorem Settled.not_mem_accesses_of_static (h : Settled device record state v)
    (hd : isDynamic device record = false) (request : Request) {channel : Channel}
    (hc : channel ∈ Channel.shaping) (value : RegisterValue) (outcome : Except Fault Unit) :
    .write channel value outcome ∉ v.accesses request := by
  intro hm
  have ht := mem_accesses_shaping hm hc
  cases request with
  | on duration =>
    obtain ⟨setting, hs, -⟩ := ht
    rw [(settled_on h duration).activeSteady, if_neg (by simp [hd])] at hs
    cases hs
  | effect effect strength =>
    obtain ⟨plan, setting, -, hs, -⟩ := ht
    rw [h.effectSetting, if_neg (by simp [hd])] at hs
    cases hs
  | off | amplitude | external | supportsAmplitude | supportsExternal | report => exact ht

/-- Of the registers that shape the drive, bring-up writes the period only. -/
theorem bringUp_shaping (up : bringUp device record = .ok v) {channel : Channel}
    {value : RegisterValue} {outcome : Except Fault Unit} (hc : channel ∈ Channel.shaping)
    (hm : .write channel value outcome ∈ bringUpAccesses device record) :
    channel = .lraPeriod ∧ value = .ofWord record.lraPeriod := by
  obtain ⟨_, hr⟩ := bringUpAccesses_ran up
  obtain ⟨write, hwrite, _, e⟩ := hr.mem hm
  cases e
  rcases mem_bringUpScript hwrite with hne | hperiod
  · have hnone : ∀ channel ∈ [Channel.state, .autocal, .f0, .redc, .q, .lpTrigger],
        channel ∉ Channel.shaping := by decide
    exact absurd hc (hnone _ hne)
  · exact hperiod

/-- **Each playback starts with its own setting.**  After any run of a vibrator with a dynamic
drive, whatever the driver refused so far, a call that starts playback is steady vibration or an
effect, and at the start the registers hold the shape, clamp and period of the steady setting in
the present thermal state, or the shape of effects, their clamp at the slot of the plan and the
period of the record.  With a static drive no call writes one of these registers; bring-up never
writes any but the period, and that as the record has it. -/
theorem started_with_own_setting (up : bringUp device record = .ok v) (requests : List Request) :
    let w := (v.serveAll requests).2
    (isDynamic device record = true → ∀ request before after,
      w.accesses request = before ++ .started :: after →
        match request with
        | .on duration =>
          let setting := settingIn record (w.serve (.on duration)).2.thermalState
          Access.Shaped (log device record v requests ++ before) setting.shape
            (setting.clampAt 0) setting.period
        | .effect effect strength => ∃ plan, w.catalog.plan? effect strength = some plan ∧
          Access.Shaped (log device record v requests ++ before) record.effectSetting.shape
            (record.effectSetting.clampAt plan.slot.index) record.lraPeriod
        | _ => False) ∧
    (isDynamic device record = false → ∀ request channel value outcome,
      channel ∈ Channel.shaping → .write channel value outcome ∉ w.accesses request) ∧
    ∀ channel value outcome, channel ∈ Channel.shaping →
      .write channel value outcome ∈ bringUpAccesses device record →
        channel = .lraPeriod ∧ value = .ofWord record.lraPeriod := by
  intro w
  obtain ⟨state, hw⟩ := settled_serveAll (settled_bringUp up) requests
  refine ⟨fun hd request before after ha => ?_, fun hd request channel value outcome hc =>
    hw.not_mem_accesses_of_static hd request hc value outcome,
    fun channel value outcome hc hm => bringUp_shaping up hc hm⟩
  cases request with
  | on duration => exact hw.shaped_on hd ha _
  | effect effect strength => exact hw.shaped_effect hd ha _
  | off | amplitude | external | supportsAmplitude | supportsExternal | report =>
    obtain ⟨prepared, _, h, -⟩ := started ha
    cases h

theorem hot_vibration_starts_derated :
    ∃ v before after, bringUp Simulated.hot .uncalibrated = .ok v ∧
      (v.serveAll [.effect .click .strong]).2.accesses (.on 20) = before ++ .started :: after ∧
      Access.Shaped (log Simulated.hot .uncalibrated v [.effect .click .strong] ++ before)
        .square 90 280 := by
  obtain ⟨v, up⟩ : ∃ v, bringUp Simulated.hot .uncalibrated = .ok v := ⟨_, rfl⟩
  have hmem : .started ∈ (v.serveAll [.effect .click .strong]).2.accesses (.on 20) := by
    cases up
    exact List.mem_of_getElem? (i := 8) rfl
  obtain ⟨before, after, ha⟩ := List.append_of_mem hmem
  have hs := (started_with_own_setting up [.effect .click .strong]).1 rfl (.on 20) before after ha
  refine ⟨v, before, after, up, ha, ?_⟩
  cases up
  exact hs

end
end Vibrator
end Haptics
