import Mathlib
import Haptics.Proofs.Exposure
import Haptics.Proofs.RealArithmetic
import Haptics.Proofs.Shaping

/-!
# Amplitude control

Whether an amplitude can be set may be asked without setting one.  The question and the request
decide by the same read and the same channels, so the request is refused as unsupported exactly
where the question is answered with no, and a refusal writes nothing
(`amplitude_of_not_supported`).  Only an amplitude that playback cannot have is refused first,
before the driver is even asked (`amplitude_of_invalid`).  Where the request is not refused it makes
one write, and the reply is what became of that (`amplitude_of_supported`).
-/

namespace Haptics

/-! ## Inputs of real-time playback -/

theorem playbackInput_eq (amplitude : ℝ) :
    playbackInput amplitude = nearestWord (amplitude * 127) := by
  change nearestWord (amplitude * 127.0) = _
  norm_num

theorem playbackInput_mono {amplitude louder : ℝ} (h : amplitude ≤ louder) :
    playbackInput amplitude ≤ playbackInput louder := by
  rw [playbackInput_eq, playbackInput_eq]
  exact nearestWord_mono (by linarith)

/-- Full scale is 127. -/
theorem playbackInput_one : playbackInput (1 : ℝ) = 127 := by
  have hword : (127 : UInt32).toNat = 127 := rfl
  rw [playbackInput_eq]
  apply nearestWord_eq <;> rw [hword] <;> norm_num

theorem playbackInput_le {amplitude : ℝ} (h : ValidAmplitude amplitude) :
    playbackInput amplitude ≤ 127 := by
  obtain ⟨-, -, hle⟩ := h
  have hone : amplitude ≤ 1 := by
    norm_num at hle
    exact hle
  rw [← playbackInput_one]
  exact playbackInput_mono hone

/-- The input is the word nearest to 127 times the amplitude, the greater one of two. -/
theorem playbackInput_eq_iff {amplitude : ℝ} (h : ValidAmplitude amplitude) {input : UInt32} :
    playbackInput amplitude = input ↔
      input.toNat - 1 / 2 ≤ 127 * amplitude ∧ 127 * amplitude < input.toNat + 1 / 2 := by
  obtain ⟨-, hpos, hle⟩ := h
  have hsize : (UInt32.size : ℝ) = 4294967296 := by norm_num
  norm_num at hpos hle
  rw [playbackInput_eq, mul_comm]
  exact nearestWord_eq_iff (by linarith) (by rw [hsize]; linarith)

/-! ## Runs of one write -/

/-- A run of one mandatory write makes it, and fails exactly with it. -/
theorem Script.ran_single {write : Write} {made : List Access} {outcome : Except Error Unit}
    (hm : write.mandatory = true) (h : Ran [write] made outcome) :
    (made = [.write write.channel write.value (.ok ())] ∧ outcome = .ok ()) ∨
      ∃ fault, made = [.write write.channel write.value (.error fault)] ∧
        outcome = .error (.writeFailed write.channel fault) := by
  cases h with
  | wrote hrest =>
    cases hrest
    exact .inl ⟨rfl, rfl⟩
  | skipped _ ho => rw [hm] at ho; cases ho
  | stopped fault _ => exact .inr ⟨fault, rfl, rfl⟩

namespace Vibrator
variable {σ : Type} [Device σ]

/-! ## The write of an amplitude -/

/-- Whether the driver has a channel to set an amplitude by. -/
def takesAmplitude (v : Vibrator σ) : Bool :=
  Device.has v.device .rtpInput || Device.has v.device .scale

/-- What sets an amplitude: the real-time input if the driver has one, and the attenuation if
not. -/
def amplitudeWrite (v : Vibrator σ) (amplitude : Float32) : Write :=
  if Device.has v.device .rtpInput then
    { channel := .rtpInput, value := .ofWord (playbackInput amplitude) }
  else { channel := .scale, value := .ofWord (attenuationSteps amplitude.toFloat) }

section
variable (v : Vibrator σ) {amplitude : Float32}

theorem mandatory_amplitudeWrite (amplitude : Float32) :
    (v.amplitudeWrite amplitude).mandatory = true := by
  unfold amplitudeWrite
  split <;> rfl

theorem has_amplitudeWrite (h : v.takesAmplitude = true) (amplitude : Float32) :
    Device.has v.device (v.amplitudeWrite amplitude).channel = true := by
  unfold amplitudeWrite
  unfold takesAmplitude at h
  cases hr : Device.has v.device .rtpInput with
  | true => simp [hr]
  | false => simpa [hr] using h

theorem amplitudeScript_eq (amplitude : Float32) :
    v.amplitudeScript amplitude =
      if v.takesAmplitude then [v.amplitudeWrite amplitude] else [] := by
  unfold amplitudeScript amplitudeWrite takesAmplitude
  cases Device.has v.device .rtpInput <;> cases Device.has v.device .scale <;> rfl

/-! ## Question and request -/

theorem serve_supportsAmplitude :
    (v.serve .supportsAmplitude).1 =
      .supported (!v.externalControlActive.1 && v.externalControlActive.2.takesAmplitude) :=
  rfl

/-- An amplitude that playback cannot have is refused before the driver is asked. -/
theorem amplitude_of_invalid (hv : ¬ValidAmplitude amplitude) :
    (v.serve (.amplitude amplitude)).1 = .refused (.badAmplitude amplitude) ∧
      v.accesses (.amplitude amplitude) = [] := by
  have hbody : v.body (.amplitude amplitude) = [] := by simp [body, hv]
  obtain ⟨hreply, hmade⟩ := serve_of_body_nil hbody
  constructor
  · rw [hreply, answer, if_neg hv]
  · rw [hmade, opening, if_neg hv]

/-- Where the question is answered with no, the request makes the same read and is refused. -/
theorem amplitude_of_not_supported (hv : ValidAmplitude amplitude)
    (hs : (v.serve .supportsAmplitude).1 = .supported false) :
    (∃ error, (v.serve (.amplitude amplitude)).1 = .refused error ∧ error.kind = .unsupported) ∧
      v.accesses (.amplitude amplitude) = v.inquiry := by
  rw [serve_supportsAmplitude] at hs
  -- for want of a channel only, if the audio stream has not control
  have hno : v.externalControlActive.1 = false →
      v.externalControlActive.2.takesAmplitude = false := by
    simpa using Reply.supported.inj hs
  have hscript (ha : v.externalControlActive.1 = false) :
      v.externalControlActive.2.amplitudeScript amplitude = [] := by
    rw [amplitudeScript_eq, hno ha]
    rfl
  have hbody : v.body (.amplitude amplitude) = [] := by
    simp only [body]
    split
    · rename_i h
      exact hscript h.2
    · rfl
  obtain ⟨hreply, hmade⟩ := serve_of_body_nil hbody
  refine ⟨?_, by rw [hmade, opening, if_pos hv]⟩
  rw [hreply, answer, if_pos hv]
  split
  · exact ⟨_, rfl, rfl⟩
  · rename_i ha
    rw [if_pos (hscript (Bool.eq_false_iff.2 ha))]
    exact ⟨_, rfl, rfl⟩

/-- Where it is answered with yes, the request makes one write more, and replies as it ends. -/
theorem amplitude_of_supported (hv : ValidAmplitude amplitude)
    (hs : (v.serve .supportsAmplitude).1 = .supported true) :
    let asked := v.externalControlActive.2
    let write := asked.amplitudeWrite amplitude
    Device.has asked.device write.channel = true ∧
      ((v.accesses (.amplitude amplitude) =
          v.inquiry ++ [.write write.channel write.value (.ok ())] ∧
        (v.serve (.amplitude amplitude)).1 = .done) ∨
      ∃ fault, v.accesses (.amplitude amplitude) =
          v.inquiry ++ [.write write.channel write.value (.error fault)] ∧
        (v.serve (.amplitude amplitude)).1 = .refused (.writeFailed write.channel fault)) := by
  intro asked write
  rw [serve_supportsAmplitude] at hs
  obtain ⟨ha, ht⟩ : v.externalControlActive.1 = false ∧ asked.takesAmplitude = true := by
    simpa using Reply.supported.inj hs
  have hscript : asked.amplitudeScript amplitude = [write] := by
    rw [amplitudeScript_eq, if_pos ht]
  have hbody : v.body (.amplitude amplitude) = [write] := by
    rw [body, if_pos ⟨hv, ha⟩]
    exact hscript
  have hanswer : v.answer (.amplitude amplitude) = .done := by
    rw [answer, if_pos hv, ha, if_neg Bool.false_ne_true, hscript,
      if_neg (List.cons_ne_nil _ _)]
  have hopening : v.opening (.amplitude amplitude) = v.inquiry := if_pos hv
  refine ⟨asked.has_amplitudeWrite ht amplitude, ?_⟩
  obtain ⟨made, outcome, hmade, hran, hreply⟩ := v.accesses_ran (.amplitude amplitude)
  rw [hbody] at hran
  rw [hopening] at hmade
  rw [hanswer] at hreply
  rcases Script.ran_single (asked.mandatory_amplitudeWrite amplitude) hran with
    ⟨rfl, rfl⟩ | ⟨fault, rfl, rfl⟩
  · exact .inl ⟨hmade, hreply⟩
  · exact .inr ⟨fault, hmade, hreply⟩

/-- So an amplitude that playback can have is refused for want of support or for a failed write. -/
theorem kind_of_refused (hv : ValidAmplitude amplitude) {supported : Bool}
    (hs : (v.serve .supportsAmplitude).1 = .supported supported) {error : Error}
    (hr : (v.serve (.amplitude amplitude)).1 = .refused error) :
    error.kind = if supported then .hardwareWriteFailed else .unsupported := by
  cases supported with
  | false =>
    obtain ⟨⟨refusal, hrefused, hkind⟩, -⟩ := v.amplitude_of_not_supported hv hs
    obtain rfl := Reply.refused.inj (hrefused.symm.trans hr)
    exact hkind
  | true =>
    obtain ⟨-, ⟨-, hdone⟩ | ⟨fault, -, hfailed⟩⟩ := v.amplitude_of_supported hv hs
    · rw [hdone] at hr
      cases hr
    · obtain rfl := Reply.refused.inj (hfailed.symm.trans hr)
      rfl

/-- A bad value is what playback cannot have, and nothing else. -/
theorem refused_badValue_iff :
    (∃ error, (v.serve (.amplitude amplitude)).1 = .refused error ∧ error.kind = .badValue) ↔
      ¬ValidAmplitude amplitude := by
  constructor
  · rintro ⟨error, hreply, hbad⟩ hv
    have hkind := v.kind_of_refused hv v.serve_supportsAmplitude hreply
    rw [hbad] at hkind
    split at hkind <;> cases hkind
  · intro hv
    exact ⟨_, (v.amplitude_of_invalid hv).1, rfl⟩

/-- Want of support is what the question tells. -/
theorem refused_unsupported_iff (hv : ValidAmplitude amplitude) :
    (∃ error, (v.serve (.amplitude amplitude)).1 = .refused error ∧ error.kind = .unsupported) ↔
      (v.serve .supportsAmplitude).1 = .supported false := by
  constructor
  · rintro ⟨error, hreply, hunsupported⟩
    have hkind := v.kind_of_refused hv v.serve_supportsAmplitude hreply
    rw [hunsupported] at hkind
    split at hkind
    · cases hkind
    · rename_i hno
      rw [serve_supportsAmplitude, Bool.eq_false_iff.2 hno]
  · intro hno
    exact (v.amplitude_of_not_supported hv hno).1

theorem supported_of_ne (h : (v.serve .supportsAmplitude).1 ≠ .supported false) :
    (v.serve .supportsAmplitude).1 = .supported true := by
  rw [serve_supportsAmplitude] at h ⊢
  exact congrArg Reply.supported (Bool.eq_true_of_not_eq_false fun hno => h (congrArg _ hno))

end

/-- **Amplitude control does what it says of itself.**  In every state, whatever the driver exposes
and answers: an amplitude is refused as a bad value exactly if it is not finite or outside of
(0, 1], and then the driver is not accessed.  Any other is refused as unsupported exactly if the
question whether an amplitude can be set is answered with no, and then the read of who has control
is all that is made of the driver.  Else one write follows that read, to the real-time input if the
driver has it and to the attenuation if not, and the reply is that it was done or why it failed.
Read over the reals, the real-time input of an amplitude is the word nearest to 127 times the
amplitude, so it is at most 127 and rises with the amplitude. -/
theorem amplitude_set_where_supported (v : Vibrator σ) (amplitude : Float32) :
    let reply := (v.serve (.amplitude amplitude)).1
    let made := v.accesses (.amplitude amplitude)
    let asked := v.externalControlActive.2
    let write := asked.amplitudeWrite amplitude
    ((∃ error, reply = .refused error ∧ error.kind = .badValue) ↔
      ¬(amplitude.isFinite = true ∧ 0.0 < amplitude ∧ amplitude ≤ 1.0)) ∧
    (¬ValidAmplitude amplitude → made = []) ∧
    (ValidAmplitude amplitude →
      ((∃ error, reply = .refused error ∧ error.kind = .unsupported) ↔
        (v.serve .supportsAmplitude).1 = .supported false) ∧
      ((v.serve .supportsAmplitude).1 = .supported false → made = v.inquiry) ∧
      ((v.serve .supportsAmplitude).1 ≠ .supported false →
        Device.has asked.device write.channel = true ∧
        ((made = v.inquiry ++ [.write write.channel write.value (.ok ())] ∧ reply = .done) ∨
          ∃ fault, made = v.inquiry ++ [.write write.channel write.value (.error fault)] ∧
            reply = .refused (.writeFailed write.channel fault)))) ∧
    (∀ [FixedChannels σ], Device.has asked.device = Device.has v.device) ∧
    (∀ x y : ℝ, x ≤ y → playbackInput x ≤ playbackInput y) ∧
    (∀ x : ℝ, ValidAmplitude x → playbackInput x ≤ 127) ∧
    ∀ x : ℝ, ValidAmplitude x → ∀ input : UInt32, playbackInput x = input ↔
      input.toNat - 1 / 2 ≤ 127 * x ∧ 127 * x < input.toNat + 1 / 2 := by
  intro reply made asked write
  have hfixed : ∀ [FixedChannels σ], Device.has asked.device = Device.has v.device := by
    intro _
    exact externalControlActive_keeps (FixedChannels.lasting (Device.has v.device)).read rfl
  refine ⟨v.refused_badValue_iff, fun hv => (v.amplitude_of_invalid hv).2, fun hv => ?_, hfixed,
    fun x y => playbackInput_mono, fun x => playbackInput_le,
    fun x hx input => playbackInput_eq_iff hx⟩
  refine ⟨v.refused_unsupported_iff hv, ?_, ?_⟩
  · intro hno
    exact (v.amplitude_of_not_supported hv hno).2
  · intro hyes
    exact v.amplitude_of_supported hv (v.supported_of_ne hyes)

/-- A driver whose attenuation is busy, and whose answer to who has control is no number. -/
def busyAttenuation : Simulated :=
  { Simulated.hot.setExposed .rtpInput false with
    reads := [(.aspEnable, .text "off")], failing := [(.scale, "busy")] }

theorem busy_attenuation_refuses_half :
    ∃ v, bringUp busyAttenuation .uncalibrated = .ok v ∧ ValidAmplitude (0.5 : Float32) ∧
      (v.serve .supportsAmplitude).1 ≠ .supported false ∧
      (v.serve (.amplitude 0.5)).1 = .refused (.writeFailed .scale (.simulated "busy")) ∧
      (0.25 : ℝ) ≤ 0.5 ∧ playbackInput (0.25 : ℝ) ≤ playbackInput (0.5 : ℝ) ∧
      ValidAmplitude (0.5 : ℝ) ∧ playbackInput (0.5 : ℝ) ≤ 127 ∧
      playbackInput (0.5 : ℝ) = 64 := by
  obtain ⟨v, up⟩ : ∃ v, bringUp busyAttenuation .uncalibrated = .ok v := ⟨_, rfl⟩
  have hv : ValidAmplitude (0.5 : Float32) := by decide
  have hle : (0.25 : ℝ) ≤ 0.5 := by norm_num
  have hreal : ValidAmplitude (0.5 : ℝ) := ⟨rfl, by norm_num, by norm_num⟩
  have hs : (v.serve .supportsAmplitude).1 ≠ .supported false := by
    cases up
    intro h
    cases h
  have hword : (64 : UInt32).toNat = 64 := rfl
  obtain ⟨-, -, hvalid, -, hmono, hbound, hnearest⟩ := amplitude_set_where_supported v 0.5
  obtain ⟨-, -, hwrite⟩ := hvalid hv
  obtain ⟨-, ⟨hmade, -⟩ | ⟨fault, hmade, hreply⟩⟩ := hwrite hs
  · cases up
    cases hmade
  · refine ⟨v, up, hv, hs, ?_, hle, hmono _ _ hle, hreal, hbound _ hreal,
      (hnearest _ hreal 64).2 (by rw [hword]; norm_num)⟩
    rw [hreply]
    cases up
    cases hmade
    rfl

end Vibrator
end Haptics
