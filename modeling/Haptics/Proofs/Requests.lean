import Haptics.Proofs.Scripts
import Haptics.Vibrator.Request

/-!
# What requests do

A vibrator is served on a traced copy of its device to see the accesses that a request makes;
tracing changes nothing else (`serve_untraced`).  Each request reads at most one register, runs a
script and replies (`serve_eq`), so that its accesses are those reads and a run of that script
(`accesses_ran`).
-/

namespace Haptics

/-- The refusal without the accesses kept so far. -/
def Refusal.untraced {σ : Type} (refusal : Refusal (Traced σ)) : Refusal σ :=
  { error := refusal.error, device := refusal.device.device }

namespace Vibrator
variable {σ : Type}

/-- The vibrator on a device that keeps the accesses made from here on. -/
def traced (v : Vibrator σ) : Vibrator (Traced σ) :=
  { device := ⟨v.device, []⟩, record := v.record, catalog := v.catalog, drive := v.drive }

/-- The vibrator without the accesses kept so far. -/
def untraced (v : Vibrator (Traced σ)) : Vibrator σ :=
  { device := v.device.device, record := v.record, catalog := v.catalog, drive := v.drive }

def activeSteady (v : Vibrator σ) : Option DriveSetting :=
  v.drive.map fun drive => (drive.thermal.map Thermal.current).getD drive.steady

section
variable [Device σ]

def accesses (v : Vibrator σ) (request : Request) : List Access :=
  (v.traced.serve request).2.device.trace

/-! ## Scripts -/

section
variable (v : Vibrator σ) (script : Script)

@[simp] theorem runScript_record : (v.runScript script).2.record = v.record := rfl

@[simp] theorem runScript_catalog : (v.runScript script).2.catalog = v.catalog := rfl

@[simp] theorem runScript_drive : (v.runScript script).2.drive = v.drive := rfl

@[simp] theorem runScript_nil : v.runScript [] = (.ok (), v) := rfl

end

theorem runScript_ran (v : Vibrator (Traced σ)) (script : Script) :
    ∃ made, (v.runScript script).2.device.trace = v.device.trace ++ made ∧
      Script.Ran script made (v.runScript script).1 :=
  Script.run_ran script v.device

theorem runScript_untraced (v : Vibrator (Traced σ)) (script : Script) :
    (v.runScript script).1 = (v.untraced.runScript script).1 ∧
      (v.runScript script).2.untraced = (v.untraced.runScript script).2 := by
  obtain ⟨ho, hd⟩ := Script.run_traced script v.device
  refine ⟨ho, ?_⟩
  simp only [runScript, untraced, hd]

/-! ## Sampling -/

/-- The accesses that a temperature sample takes. -/
def sampling (v : Vibrator σ) : List Access :=
  match v.thermal with
  | none => []
  | some _ => [.read .temperature (Device.read .temperature v.device).1]

theorem sampleSteady_setting (v : Vibrator σ) :
    v.sampleSteady.1 = v.sampleSteady.2.activeSteady := by
  unfold sampleSteady activeSteady
  split
  · simp [*]
  · split <;> simp [*]

theorem sampleSteady_untraced (v : Vibrator (Traced σ)) :
    v.sampleSteady.1 = v.untraced.sampleSteady.1 ∧
      v.sampleSteady.2.untraced = v.untraced.sampleSteady.2 ∧
      v.sampleSteady.2.device.trace = v.device.trace ++ v.untraced.sampling := by
  obtain ⟨device, record, catalog, drive⟩ := v
  match drive with
  | none => exact ⟨rfl, rfl, by simp [sampleSteady, sampling, untraced, thermal]⟩
  | some ⟨_, _, none⟩ => exact ⟨rfl, rfl, by simp [sampleSteady, sampling, untraced, thermal]⟩
  | some ⟨_, _, some _⟩ => exact ⟨rfl, rfl, rfl⟩

/-! ## Who has control -/

/-- The read that asks who has control, where the driver can be asked. -/
def inquiry (v : Vibrator σ) : List Access :=
  if Device.has v.device .aspEnable then [.read .aspEnable (Device.read .aspEnable v.device).1]
  else []

theorem externalControlActive_untraced (v : Vibrator (Traced σ)) :
    v.externalControlActive.1 = v.untraced.externalControlActive.1 ∧
      v.externalControlActive.2.untraced = v.untraced.externalControlActive.2 ∧
      v.externalControlActive.2.device.trace = v.device.trace ++ v.untraced.inquiry := by
  cases h : Device.has v.device.device .aspEnable with
  | false =>
    have ht : Device.has v.device .aspEnable = false := h
    have hu : Device.has v.untraced.device .aspEnable = false := h
    simp [externalControlActive, inquiry, ht, hu]
  | true =>
    have ht : Device.has v.device .aspEnable = true := h
    have hu : Device.has v.untraced.device .aspEnable = true := h
    simp only [externalControlActive, inquiry, ht, hu, if_true]
    exact ⟨rfl, rfl, rfl⟩

/-! ## Requests

Every request reads at most one register (`opened`), runs a script (`body`) and replies with its
`answer`, or with the error of the write that stopped the script (`serve_eq`). -/

/-- What starts steady vibration once the temperature is known. -/
def steadyScript (v : Vibrator σ) (duration : UInt32) : Script :=
  v.globalScaleScript true ++
    v.playScript (addUnlessTooLong duration v.catalog.startLatency) .realTime v.activeSteady 0

/-- What sets an amplitude once it is known that the audio stream does not own it. -/
def amplitudeScript (v : Vibrator σ) (amplitude : Float32) : Script :=
  if Device.has v.device .rtpInput then
    [{ channel := .rtpInput, value := .ofWord (playbackInput amplitude) }]
  else if Device.has v.device .scale then
    [{ channel := .scale, value := .ofWord (attenuationSteps amplitude.toFloat) }]
  else []

def opened (v : Vibrator σ) : Request → Vibrator σ
  | .on _ => v.sampleSteady.2
  | .amplitude amplitude => if ValidAmplitude amplitude then v.externalControlActive.2 else v
  | .supportsAmplitude => v.externalControlActive.2
  | _ => v

def opening (v : Vibrator σ) : Request → List Access
  | .on _ => v.sampling
  | .amplitude amplitude => if ValidAmplitude amplitude then v.inquiry else []
  | .supportsAmplitude => v.inquiry
  | _ => []

def body (v : Vibrator σ) : Request → Script
  | .on duration => v.sampleSteady.2.steadyScript duration
  | .off => v.globalScaleScript false ++ [{ channel := .activate, value := .bool false }]
  | .effect effect strength => ((v.catalog.plan? effect strength).map v.effectScript).getD []
  | .amplitude amplitude =>
    if ValidAmplitude amplitude ∧ v.externalControlActive.1 = false then
      v.externalControlActive.2.amplitudeScript amplitude
    else []
  | .external enabled =>
    if v.supportsExternal then
      v.globalScaleScript enabled ++ [{ channel := .aspEnable, value := .bool enabled }]
    else []
  | _ => []

/-- The reply to a request whose script is not stopped. -/
def answer (v : Vibrator σ) : Request → Reply
  | .on duration => .duration duration
  | .off => .done
  | .effect effect strength =>
    .outcome (((v.catalog.plan? effect strength).map fun plan => .played plan.duration).getD
      .unsupported)
  | .amplitude amplitude =>
    if ValidAmplitude amplitude then
      if v.externalControlActive.1 then .refused .amplitudeOwned
      else if v.externalControlActive.2.amplitudeScript amplitude = [] then
        .refused .noAmplitudeControl
      else .done
    else .refused (.badAmplitude amplitude)
  | .external _ => if v.supportsExternal then .done else .refused .noExternalControl
  | .supportsAmplitude => .supported v.supportsAmplitude.1
  | .supportsExternal => .supported v.supportsExternal
  | .report => .report v.report

/-- What every request does. -/
theorem serve_eq (v : Vibrator σ) (request : Request) :
    v.serve request =
      (Reply.ofExcept (fun _ => v.answer request) ((v.opened request).runScript (v.body request)).1,
        ((v.opened request).runScript (v.body request)).2) := by
  cases request with
  | on duration =>
    simp only [serve, on, sampleSteady_setting, opened, body, steadyScript, answer, Prod.map, id]
    cases (v.sampleSteady.2.runScript _).1 <;> rfl
  | off => rfl
  | effect effect strength =>
    simp only [serve, performEffect, opened, body, answer]
    cases v.catalog.plan? effect strength with
    | none => rfl
    | some plan =>
      simp only [Option.map_some, Option.getD_some, Prod.map, id]
      cases (v.runScript _).1 <;> rfl
  | amplitude amplitude =>
    simp only [serve, setAmplitude, opened, body, answer]
    by_cases hv : ValidAmplitude amplitude
    · cases v.externalControlActive.1 with
      | true =>
        simp only [hv, if_true, true_and, Bool.true_eq_false, if_false, runScript_nil]
        rfl
      | false =>
        simp only [hv, if_true, true_and, Bool.false_eq_true, if_false, amplitudeScript]
        split
        · rfl
        split <;> rfl
    · simp only [hv, if_false, false_and, runScript_nil]
      rfl
  | external enabled =>
    simp only [serve, setExternal, opened, body, answer]
    split <;> rfl
  | supportsAmplitude => rfl
  | supportsExternal => rfl
  | report => rfl

/-- The device after a request is that after the request's script. -/
theorem serve_device (v : Vibrator σ) (request : Request) :
    (v.serve request).2.device = ((v.body request).run (v.opened request).device).2 := by
  rw [serve_eq]
  rfl

/-! ## Tracing -/

theorem opened_untraced (v : Vibrator (Traced σ)) (request : Request) :
    (v.opened request).untraced = v.untraced.opened request ∧
      (v.opened request).device.trace = v.device.trace ++ v.untraced.opening request := by
  cases request with
  | on duration => exact v.sampleSteady_untraced.2
  | amplitude amplitude =>
    simp only [opened, opening]
    split
    · exact v.externalControlActive_untraced.2
    · exact ⟨rfl, by simp⟩
  | supportsAmplitude => exact v.externalControlActive_untraced.2
  | off | effect | external | supportsExternal | report => exact ⟨rfl, by simp [opened, opening]⟩

theorem body_untraced (v : Vibrator (Traced σ)) (request : Request) :
    v.body request = v.untraced.body request := by
  cases request with
  | on duration =>
    simp only [body]
    rw [← v.sampleSteady_untraced.2.1]
    rfl
  | amplitude amplitude =>
    simp only [body]
    rw [← v.externalControlActive_untraced.1, ← v.externalControlActive_untraced.2.1]
    rfl
  | off | effect | external | supportsAmplitude | supportsExternal | report => rfl

theorem answer_untraced (v : Vibrator (Traced σ)) (request : Request) :
    v.answer request = v.untraced.answer request := by
  cases request with
  | amplitude amplitude =>
    simp only [answer]
    rw [← v.externalControlActive_untraced.1, ← v.externalControlActive_untraced.2.1]
    rfl
  | supportsAmplitude =>
    simp only [answer, supportsAmplitude]
    rw [← v.externalControlActive_untraced.1, ← v.externalControlActive_untraced.2.1]
    rfl
  | on | off | effect | external | supportsExternal | report => rfl

/-- Tracing changes neither the reply to a request nor what becomes of the vibrator. -/
theorem serve_untraced (v : Vibrator (Traced σ)) (request : Request) :
    (v.serve request).1 = (v.untraced.serve request).1 ∧
      (v.serve request).2.untraced = (v.untraced.serve request).2 := by
  obtain ⟨ho, hv⟩ := (v.opened request).runScript_untraced (v.body request)
  rw [(v.opened_untraced request).1, body_untraced] at ho hv
  simp only [serve_eq, answer_untraced, body_untraced, ho, hv, and_self]

/-- The accesses of a request are its reads and a run of its script. -/
theorem accesses_runScript (v : Vibrator σ) (request : Request) :
    ∃ made, v.accesses request = v.opening request ++ made ∧
      Script.Ran (v.body request) made ((v.opened request).runScript (v.body request)).1 := by
  obtain ⟨made, hm, hr⟩ := (v.traced.opened request).runScript_ran (v.traced.body request)
  have ho := ((v.traced.opened request).runScript_untraced (v.traced.body request)).1
  rw [(v.traced.opened_untraced request).1] at ho
  rw [ho, body_untraced] at hr
  rw [body_untraced] at hm
  refine ⟨made, ?_, hr⟩
  simp only [accesses, serve_eq, body_untraced, hm, (v.traced.opened_untraced request).2]
  rfl

/-- A request without a script makes its reads and replies with its answer. -/
theorem serve_of_body_nil {v : Vibrator σ} {request : Request} (h : v.body request = []) :
    (v.serve request).1 = v.answer request ∧ v.accesses request = v.opening request := by
  obtain ⟨made, ha, hr⟩ := v.accesses_runScript request
  rw [h] at hr
  cases hr
  constructor
  · rw [serve_eq, h]
    rfl
  · rw [ha, List.append_nil]

/-- The outcome of the run decides between the answer and an error. -/
theorem accesses_ran (v : Vibrator σ) (request : Request) :
    ∃ made outcome, v.accesses request = v.opening request ++ made ∧
      Script.Ran (v.body request) made outcome ∧
      (v.serve request).1 = Reply.ofExcept (fun _ => v.answer request) outcome := by
  obtain ⟨made, ha, hr⟩ := v.accesses_runScript request
  exact ⟨made, _, ha, hr, by rw [serve_eq]⟩

end
end Vibrator
end Haptics
