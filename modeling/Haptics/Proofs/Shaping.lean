import Haptics.Proofs.Runs

/-!
# What shapes the drive

Wave shape, clamp and period reach the driver from two requests only, and always from one setting:
steady vibration tells it the setting of the thermal state it leaves behind, an effect the setting
for effects at the slot of its plan (`body_shaping`, `mem_accesses_shaping`).
-/

namespace Haptics

/-- What a channel is told of a setting. -/
def DriveSetting.told? (setting : DriveSetting) (position : Nat) : Channel → Option RegisterValue
  | .waveShape => some setting.shape.register
  | .odClamp => some (.ofWord (setting.clampAt position))
  | .lraPeriod => some (.ofWord setting.period)
  | _ => none

theorem DriveSetting.mem_shaping_of_told {setting : DriveSetting} {position : Nat}
    {channel : Channel} {value : RegisterValue} (h : setting.told? position channel = some value) :
    channel ∈ Channel.shaping := by
  cases channel <;> simp [told?, Channel.shaping] at h ⊢

namespace Script

/-- The writes of a script that shape the drive. -/
def shaping (script : Script) : Script :=
  script.filter fun write => write.channel ∈ Channel.shaping

@[simp] theorem shaping_nil : shaping [] = [] := rfl

@[simp] theorem shaping_append (first second : Script) :
    shaping (first ++ second) = shaping first ++ shaping second := List.filter_append ..

theorem shaping_cons {write : Write} (h : write.channel ∉ Channel.shaping) (rest : Script) :
    shaping (write :: rest) = shaping rest := by
  simp [shaping, h]

theorem shaping_ifExposed {σ : Type} [Device σ] {device : σ} {write : Write}
    (h : write.channel ∉ Channel.shaping) : shaping (ifExposed device write) = [] := by
  unfold ifExposed
  split
  · exact shaping_cons h []
  · rfl

end Script

namespace Vibrator
variable {σ : Type} [Device σ]

/-! ## Scripts -/

@[simp] theorem shaping_settingScript (setting : Option DriveSetting) (position : Nat) :
    (settingScript setting position).shaping = settingScript setting position := by
  cases setting <;> rfl

@[simp] theorem shaping_playScript (v : Vibrator σ) (duration : UInt32) (mode : PlayMode)
    (setting : Option DriveSetting) (position : Nat) :
    (v.playScript duration mode setting position).shaping = settingScript setting position := by
  simp [playScript, Script.shaping_ifExposed, Script.shaping_cons, Channel.shaping]

@[simp] theorem shaping_globalScaleScript (v : Vibrator σ) (attenuated : Bool) :
    (v.globalScaleScript attenuated).shaping = [] :=
  Script.shaping_ifExposed (by simp [Channel.shaping])

@[simp] theorem shaping_programScript (program : Program) : (programScript program).shaping = [] := by
  cases program <;> rfl

@[simp] theorem shaping_effectScript (v : Vibrator σ) (plan : Plan) :
    (v.effectScript plan).shaping = settingScript v.effectSetting plan.slot.index := by
  simp [effectScript, Script.shaping_ifExposed, Channel.shaping]

@[simp] theorem shaping_amplitudeScript (v : Vibrator σ) (amplitude : Float32) :
    (v.amplitudeScript amplitude).shaping = [] := by
  unfold amplitudeScript
  split
  · rfl
  split <;> rfl

/-- The writes by which a request shapes the drive. -/
theorem body_shaping (v : Vibrator σ) (request : Request) :
    (v.body request).shaping =
      match request with
      | .on _ => settingScript v.sampleSteady.2.activeSteady 0
      | .effect effect strength =>
        ((v.catalog.plan? effect strength).map fun plan =>
          settingScript v.effectSetting plan.slot.index).getD []
      | _ => [] := by
  cases request with
  | on duration => simp [body, steadyScript]
  | off => simp [body, Script.shaping_cons, Channel.shaping]
  | effect effect strength =>
    simp only [body]
    cases v.catalog.plan? effect strength with
    | none => rfl
    | some plan => exact shaping_effectScript v plan
  | amplitude amplitude =>
    simp only [body]
    split
    · exact shaping_amplitudeScript ..
    · rfl
  | external enabled =>
    simp only [body]
    split
    · simp [Script.shaping_cons, Channel.shaping]
    · rfl
  | supportsAmplitude | supportsExternal | report => rfl

/-! ## Accesses -/

/-- Requests open with reads. -/
theorem write_not_mem_opening (v : Vibrator σ) (request : Request) (channel : Channel)
    (value : RegisterValue) (outcome : Except Fault Unit) :
    .write channel value outcome ∉ v.opening request := by
  have hs : .write channel value outcome ∉ v.sampling := by
    unfold sampling
    split <;> simp
  have hi : .write channel value outcome ∉ v.inquiry := by
    unfold inquiry
    split <;> simp
  cases request with
  | on duration => exact hs
  | amplitude amplitude =>
    simp only [opening]
    split
    · exact hi
    · simp
  | supportsAmplitude => exact hi
  | off | effect | external | supportsExternal | report => simp [opening]

theorem mem_body_of_mem_accesses {v : Vibrator σ} {request : Request} {channel : Channel}
    {value : RegisterValue} {outcome : Except Fault Unit}
    (h : .write channel value outcome ∈ v.accesses request) :
    ∃ write ∈ v.body request, write.channel = channel ∧ write.value = value := by
  obtain ⟨made, _, ha, hr, -⟩ := v.accesses_ran request
  rw [ha, List.mem_append] at h
  rcases h with h | h
  · exact (write_not_mem_opening _ _ _ _ _ h).elim
  · obtain ⟨write, hw, _, e⟩ := hr.mem h
    cases e
    exact ⟨write, hw, rfl, rfl⟩

theorem told_of_mem_settingScript {setting : Option DriveSetting} {position : Nat} {write : Write}
    (h : write ∈ settingScript setting position) :
    ∃ s, setting = some s ∧ s.told? position write.channel = some write.value := by
  cases setting with
  | none => simp [settingScript] at h
  | some s =>
    simp only [settingScript, List.mem_cons, List.not_mem_nil, or_false] at h
    rcases h with rfl | rfl | rfl <;> exact ⟨s, rfl, rfl⟩

theorem mem_accesses_shaping {v : Vibrator σ} {request : Request} {channel : Channel}
    {value : RegisterValue} {outcome : Except Fault Unit}
    (h : .write channel value outcome ∈ v.accesses request) (hc : channel ∈ Channel.shaping) :
    match request with
    | .on duration => ∃ setting, (v.serve (.on duration)).2.activeSteady = some setting ∧
        setting.told? 0 channel = some value
    | .effect effect strength => ∃ plan setting, v.catalog.plan? effect strength = some plan ∧
        v.effectSetting = some setting ∧ setting.told? plan.slot.index channel = some value
    | _ => False := by
  obtain ⟨write, hw, rfl, rfl⟩ := mem_body_of_mem_accesses h
  have hs : write ∈ (v.body request).shaping := List.mem_filter.2 ⟨hw, by simpa using hc⟩
  rw [body_shaping] at hs
  cases request with
  | on duration =>
    obtain ⟨setting, ha, ht⟩ := told_of_mem_settingScript hs
    refine ⟨setting, ?_, ht⟩
    rw [← ha, Vibrator.activeSteady, (v.on_frame duration).2.2]
    rfl
  | effect effect strength =>
    cases hp : v.catalog.plan? effect strength with
    | none => simp [hp] at hs
    | some plan =>
      simp only [hp, Option.map_some, Option.getD_some] at hs
      obtain ⟨setting, ha, ht⟩ := told_of_mem_settingScript hs
      exact ⟨plan, setting, hp, ha, ht⟩
  | off | amplitude | external | supportsAmplitude | supportsExternal | report => simp at hs

end Vibrator
end Haptics
