import Mathlib
import Haptics.Drive.Level
import Haptics.Proofs.GlobalLevel
import Haptics.Proofs.RealArithmetic
import Haptics.Register.Drv2624

/-!
# Volume levels

A level is a percentage of full scale, and what is written for it is the attenuation in steps of an
eighth of a decibel (`value_of_level`).  More of full scale is less attenuation, down to none at all
from 100 percent on (`percentSteps_antitone`), and the register that a DRV2624 keeps instead of the
steps follows them (`Drv2624.stepsRegister_mono`).  No attenuation leaves nothing: a level of zero
stands for full scale, so it is the loudest and not the softest (`zero_level_above_ten_percent`).
-/

namespace Haptics

/-! ## Attenuation -/

theorem attenuationSteps_of_nonpos {fraction : ℝ} (h : fraction ≤ 0) :
    attenuationSteps fraction = 0 := by
  have hz : (0.0 : ℝ) = 0 := by norm_num
  exact if_pos (.inl (hz ▸ h))

/-- A step is an eighth of a decibel. -/
theorem attenuationSteps_eq {fraction : ℝ} (h : 0 < fraction) :
    attenuationSteps fraction = nearestWord (-160 * Real.logb 10 (min fraction 1)) := by
  have hn : ¬(fraction ≤ 0.0 ∨ Scalar.isFinite fraction = false) := by
    rintro (hle | hinf)
    · norm_num at hle
      exact hle.not_gt h
    · cases hinf
  have hlimited : (if 1.0 < fraction then 1.0 else fraction) = min fraction 1 := by
    norm_num
    split
    · rename_i hlt
      exact (min_eq_right hlt.le).symm
    · rename_i hle
      exact (min_eq_left (not_lt.1 hle)).symm
  rw [attenuationSteps, if_neg hn, hlimited]
  change nearestWord (-20.0 * Real.logb 10 (min fraction 1) / 0.125) = _
  congr 1
  norm_num
  ring

theorem attenuationSteps_antitone {low high : ℝ} (hlow : 0 < low) (h : low ≤ high) :
    attenuationSteps high ≤ attenuationSteps low := by
  have hlog : Real.logb 10 (min low 1) ≤ Real.logb 10 (min high 1) :=
    Real.logb_le_logb_of_le (by norm_num) (lt_min hlow one_pos) (min_le_min_right 1 h)
  rw [attenuationSteps_eq hlow, attenuationSteps_eq (hlow.trans_le h)]
  exact nearestWord_mono (by linarith)

theorem percentSteps_eq (percent : UInt32) :
    percentSteps ℝ percent = attenuationSteps ((percent.toNat : ℝ) / 100) := by
  change attenuationSteps ((percent.toNat : ℝ) / 100.0) = _
  norm_num

theorem percentSteps_zero : percentSteps ℝ 0 = 0 := by
  rw [percentSteps_eq]
  exact attenuationSteps_of_nonpos (by simp)

theorem percentSteps_antitone {p q : UInt32} (hp : p ≠ 0) (h : p ≤ q) :
    percentSteps ℝ q ≤ percentSteps ℝ p := by
  have hpos : 0 < p.toNat := Nat.pos_of_ne_zero fun hz => hp (UInt32.toNat_inj.1 hz)
  have hreal : (0 : ℝ) < p.toNat := by exact_mod_cast hpos
  have hle : (p.toNat : ℝ) ≤ q.toNat := by exact_mod_cast UInt32.le_iff_toNat_le.1 h
  rw [percentSteps_eq, percentSteps_eq]
  exact attenuationSteps_antitone (by positivity) (by linarith)

namespace Drv2624

def stepsRegister (steps : UInt32) : UInt32 :=
  scaleRegister (Int64.ofNat steps.toNat)

/-- Of an attenuation that it is told, the driver keeps the register value. -/
theorem write_scale (s : Drv2624) (steps : UInt32) :
    Device.write .scale (.ofWord steps) s =
      ((s.nodes.set .scale (.ofWord (stepsRegister steps))).1,
        ⟨(s.nodes.set .scale (.ofWord (stepsRegister steps))).2⟩) :=
  rfl

theorem scaleRegister_eq (steps : Int64) :
    scaleRegister steps =
      if steps.toInt ≤ 9 then 0 else if steps.toInt ≤ 33 then 1
      else if steps.toInt ≤ 71 then 2 else 3 := by
  simp only [scaleRegister, Int64.le_iff_toInt_le]
  rfl

/-- More attenuation is no lower a register value. -/
theorem scaleRegister_mono {steps more : Int64} (h : steps ≤ more) :
    scaleRegister steps ≤ scaleRegister more := by
  rw [Int64.le_iff_toInt_le] at h
  rw [scaleRegister_eq, scaleRegister_eq]
  split_ifs <;> first | decide | omega

@[inherit_doc scaleRegister_mono]
theorem stepsRegister_mono {steps more : UInt32} (h : steps ≤ more) :
    stepsRegister steps ≤ stepsRegister more := by
  have hint (word : UInt32) : (Int64.ofNat word.toNat).toInt = word.toNat :=
    Int64.toInt_ofNat_of_lt (word.toNat_lt_size.trans (by decide))
  refine scaleRegister_mono (Int64.le_iff_toInt_le.2 ?_)
  rw [hint, hint]
  exact Int.ofNat_le.2 (UInt32.le_iff_toNat_le.1 h)

end Drv2624

/-! ## What is written -/

/-- A script that was run to its end has made all its writes. -/
theorem Script.Ran.exists_of_ok {script : Script} {made : List Access}
    {outcome : Except Error Unit} (h : Ran script made outcome) (hok : outcome = .ok ())
    {write : Write} (hw : write ∈ script) :
    ∃ answer, .write write.channel write.value answer ∈ made := by
  induction h with
  | done => cases hw
  | wrote _ ih | skipped _ _ _ ih =>
    rcases List.mem_cons.1 hw with rfl | hw
    · exact ⟨_, List.mem_cons_self⟩
    · obtain ⟨answer, hm⟩ := ih hok hw
      exact ⟨answer, List.mem_cons_of_mem _ hm⟩
  | stopped => cases hok

namespace Vibrator
variable {σ : Type}

/-- The level that a request attenuates a channel to, if it does.  Effects are attenuated where
their clamp is not set for them. -/
def level? (v : Vibrator σ) : Request → Channel → Option UInt32
  | .on _, .globalScale => some v.record.globalLevel
  | .external true, .globalScale => some v.record.globalLevel
  | .effect effect strength, .scale =>
    if v.drive.isSome then none
    else (v.catalog.plan? effect strength).map fun plan => v.record.slotLevel plan.slot
  | _, _ => none

variable [Device σ] {v : Vibrator σ} {request : Request} {channel : Channel} {percent : UInt32}

/-- All that an effect writes to the scale is its attenuation, where the driver has a scale. -/
theorem mem_body_scale {effect : Effect} {strength : Strength} {plan : Plan}
    (hp : v.catalog.plan? effect strength = some plan) {write : Write}
    (hc : write.channel = .scale) :
    write ∈ v.body (.effect effect strength) ↔
      Device.has v.device .scale = true ∧
        write = { channel := .scale, value := .ofWord (v.effectScale plan.slot) } := by
  have hb : v.body (.effect effect strength) = v.effectScript plan := by simp [body, hp]
  have hprogram : write ∉ programScript plan.program := by
    intro hw
    have hm := channel_mem_programScript hw
    rw [hc] at hm
    simp [programChannels] at hm
  have hplay : write ∉ v.playScript plan.duration .waveform v.effectSetting plan.slot.index := by
    intro hw
    have hm := channel_mem_playScript hw
    rw [hc] at hm
    simp [armChannels] at hm
  rw [hb, effectScript, List.mem_append, List.mem_append, or_iff_right hprogram,
    or_iff_left hplay, Script.mem_ifExposed]

theorem mem_globalScaleScript {attenuated : Bool} {write : Write} :
    write ∈ v.globalScaleScript attenuated ↔ Device.has v.device .globalScale = true ∧
      write = ⟨.globalScale,
        .ofWord (if attenuated then percentSteps Float v.record.globalLevel else 0), false⟩ :=
  Script.mem_ifExposed

/-- What a request hands to a channel that it attenuates is the attenuation for the level. -/
theorem value_of_mem_body (hl : v.level? request channel = some percent) {write : Write}
    (hw : write ∈ v.body request) (hc : write.channel = channel) :
    write.value = .ofWord (percentSteps Float percent) := by
  subst hc
  unfold level? at hl
  split at hl
  next duration hc =>
    obtain rfl := Option.some.inj hl
    rcases List.mem_append.1 hw with hw | hw
    · obtain ⟨-, rfl⟩ := mem_globalScaleScript.1 hw
      rw [v.sampleSteady_frame.1]
      rfl
    · exact absurd hc (globalScale_not_mem_playScript _ _ _ _ _ write hw)
  next hc =>
    obtain rfl := Option.some.inj hl
    simp only [body] at hw
    split at hw
    · rcases List.mem_append.1 hw with hw | hw
      · obtain ⟨-, rfl⟩ := mem_globalScaleScript.1 hw
        rfl
      · rw [List.mem_singleton.1 hw] at hc
        cases hc
    · cases hw
  next effect strength hc =>
    split at hl
    · cases hl
    · rename_i hstatic
      obtain ⟨plan, hp, rfl⟩ := Option.map_eq_some_iff.1 hl
      obtain ⟨-, rfl⟩ := (mem_body_scale hp hc).1 hw
      rw [effectScale, if_neg hstatic]
  next => cases hl

/-- A request that is not refused attenuates a channel if the driver has it. -/
theorem exists_mem_body [FixedChannels σ] (hl : v.level? request channel = some percent)
    (hc : Device.has v.device channel = true) (ho : ∀ error, v.answer request ≠ .refused error) :
    ∃ write ∈ v.body request, write.channel = channel := by
  unfold level? at hl
  split at hl
  next duration =>
    have hs : Device.has v.sampleSteady.2.device .globalScale = true := by
      rw [has_sampleSteady, hc]
    exact ⟨_, List.mem_append_left _ (mem_globalScaleScript.2 ⟨hs, rfl⟩), rfl⟩
  next =>
    have hsupported : v.supportsExternal = true := by
      by_contra hn
      exact ho .noExternalControl (if_neg hn)
    have hb : v.body (.external true) =
        v.globalScaleScript true ++ [{ channel := .aspEnable, value := .bool true }] :=
      if_pos hsupported
    rw [hb]
    exact ⟨_, List.mem_append_left _ (mem_globalScaleScript.2 ⟨hc, rfl⟩), rfl⟩
  next effect strength =>
    split at hl
    · cases hl
    · obtain ⟨plan, hp, -⟩ := Option.map_eq_some_iff.1 hl
      exact ⟨_, (mem_body_scale hp rfl).2 ⟨hc, rfl⟩, rfl⟩
  next => cases hl

theorem exists_attenuation [FixedChannels σ] (hl : v.level? request channel = some percent)
    (hc : Device.has v.device channel = true)
    (ho : ∀ error, (v.serve request).1 ≠ .refused error) :
    ∃ outcome, .write channel (.ofWord (percentSteps Float percent)) outcome ∈
      v.accesses request := by
  obtain ⟨made, outcome, ha, hr, hreply⟩ := v.accesses_ran request
  cases outcome with
  | error error => exact absurd hreply (ho error)
  | ok =>
    have hanswer : ∀ error, v.answer request ≠ .refused error := fun error he =>
      ho error (hreply.trans he)
    obtain ⟨write, hw, hch⟩ := exists_mem_body hl hc hanswer
    obtain ⟨answer, hm⟩ := hr.exists_of_ok rfl hw
    rw [value_of_mem_body hl hw hch, hch] at hm
    rw [ha]
    exact ⟨answer, List.mem_append_right _ hm⟩

/-- **A lower level is attenuated more, unless it is zero.**  Steady vibration, giving control away
and effects on a static drive write the attenuation of a level, each to its own channel, wherever
the driver has that channel and the request is not refused; and a DRV2624 keeps the register value
for it.  Of two levels of which the lower one is not zero, the lower one has the higher attenuation
or the same, and the higher register value or the same.  A level of zero is not attenuated. -/
theorem attenuation_falls_with_level [FixedChannels σ] (v : Vibrator σ) :
    (∀ request channel percent, v.level? request channel = some percent →
      (∀ value outcome, .write channel value outcome ∈ v.accesses request →
        value = .ofWord (percentSteps Float percent)) ∧
      (Device.has v.device channel = true →
        (∀ error, (v.serve request).1 ≠ .refused error) →
          ∃ outcome, .write channel (.ofWord (percentSteps Float percent)) outcome ∈
            v.accesses request)) ∧
    (∀ (s : Drv2624) (steps : UInt32), Device.write .scale (.ofWord steps) s =
      ((s.nodes.set .scale (.ofWord (Drv2624.stepsRegister steps))).1,
        ⟨(s.nodes.set .scale (.ofWord (Drv2624.stepsRegister steps))).2⟩)) ∧
    (∀ p q : UInt32, p ≠ 0 → p ≤ q →
      percentSteps ℝ q ≤ percentSteps ℝ p ∧
        Drv2624.stepsRegister (percentSteps ℝ q) ≤ Drv2624.stepsRegister (percentSteps ℝ p)) ∧
    percentSteps ℝ 0 = 0 := by
  refine ⟨fun request channel percent hl => ⟨fun value outcome h => ?_, exists_attenuation hl⟩,
    Drv2624.write_scale, fun p q hp h => ?_, percentSteps_zero⟩
  · obtain ⟨write, hw, hc, rfl⟩ := mem_body_of_mem_accesses h
    exact value_of_mem_body hl hw hc
  · have hsteps := percentSteps_antitone hp h
    exact ⟨hsteps, Drv2624.stepsRegister_mono hsteps⟩

theorem click_attenuated_to_its_level :
    ∃ v outcome, bringUp (Simulated.hot.setExposed .odClamp false) .uncalibrated = .ok v ∧
      v.level? (.effect .click .medium) .scale = some 80 ∧
      .write .scale (.ofWord (percentSteps Float 80)) outcome ∈
        v.accesses (.effect .click .medium) ∧
      percentSteps ℝ 100 ≤ percentSteps ℝ 80 := by
  obtain ⟨v, up⟩ : ∃ v,
      bringUp (Simulated.hot.setExposed .odClamp false) .uncalibrated = .ok v := ⟨_, rfl⟩
  obtain ⟨hwritten, -, hfalls, -⟩ := attenuation_falls_with_level v
  obtain ⟨hl, hc, ho⟩ : v.level? (.effect .click .medium) .scale = some 80 ∧
      Device.has v.device .scale = true ∧
      ∀ error, (v.serve (.effect .click .medium)).1 ≠ .refused error := by
    cases up
    exact ⟨rfl, rfl, fun error he => by cases he⟩
  obtain ⟨outcome, hw⟩ := (hwritten _ _ _ hl).2 hc ho
  exact ⟨v, outcome, up, hl, hw, (hfalls 80 100 (by decide) (by decide)).1⟩

/-- A level of zero is not attenuated, and one of 10 percent is by 20 decibels. -/
theorem zero_level_above_ten_percent :
    (0 : UInt32) ≤ 10 ∧ percentSteps ℝ 0 = 0 ∧ percentSteps ℝ 10 = 160 ∧
      Drv2624.stepsRegister (percentSteps ℝ 0) = 0 ∧
      Drv2624.stepsRegister (percentSteps ℝ 10) = 3 := by
  have hten : percentSteps ℝ 10 = 160 := by
    have hlog : Real.logb 10 (min (10 / 100) 1) = -1 := by
      have htenth : min (10 / 100 : ℝ) 1 = 10 ^ (-1 : ℝ) := by
        rw [Real.rpow_neg_one]
        norm_num
      rw [htenth, Real.logb_rpow (by norm_num) (by norm_num)]
    have hword : (10 : UInt32).toNat = 10 := rfl
    have hsteps : (160 : UInt32).toNat = 160 := rfl
    rw [percentSteps_eq, hword, Nat.cast_ofNat, attenuationSteps_eq (by norm_num), hlog]
    refine nearestWord_eq ?_ ?_ <;> rw [hsteps] <;> norm_num
  rw [percentSteps_zero, hten]
  exact ⟨by decide, rfl, rfl, by decide, by decide⟩

end Vibrator
end Haptics
