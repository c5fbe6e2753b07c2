import Haptics.Proofs.Registers

/-!
# Falling back to the static drive

A board may ask for a dynamic drive that its driver cannot be told.  The wish is then without any
effect: no request reads it from the record (`serve_wishing`), and bring-up, which does, comes to
the same vibrator but for the wish (`bringUp_wishing`).
-/

namespace Haptics

/-- The record with another answer to whether the board asks for a dynamic drive. -/
def Record.wishing (record : Record) (dynamic : Bool) : Record :=
  { record with dynamicConfig := dynamic }

namespace Vibrator
variable {σ : Type}

def wishing (v : Vibrator σ) (dynamic : Bool) : Vibrator σ :=
  { v with record := v.record.wishing dynamic }

variable [Device σ]

/-! ## Requests -/

theorem sampleSteady_wishing (v : Vibrator σ) (dynamic : Bool) :
    (v.wishing dynamic).sampleSteady = v.sampleSteady.map id (wishing · dynamic) := by
  obtain ⟨device, record, catalog, drive⟩ := v
  match drive with
  | none => rfl
  | some ⟨_, _, none⟩ => rfl
  | some ⟨_, _, some _⟩ => rfl

theorem externalControlActive_wishing (v : Vibrator σ) (dynamic : Bool) :
    (v.wishing dynamic).externalControlActive =
      v.externalControlActive.map id (wishing · dynamic) := by
  cases h : Device.has v.device .aspEnable with
  | false =>
    have hw : Device.has (v.wishing dynamic).device .aspEnable = false := h
    simp [externalControlActive, h, hw]
  | true =>
    have hw : Device.has (v.wishing dynamic).device .aspEnable = true := h
    simp only [externalControlActive, h, hw, if_true]
    rfl

theorem opened_wishing (v : Vibrator σ) (dynamic : Bool) (request : Request) :
    (v.wishing dynamic).opened request = (v.opened request).wishing dynamic := by
  cases request with
  | on duration => exact congrArg Prod.snd (v.sampleSteady_wishing dynamic)
  | amplitude amplitude =>
    simp only [opened, externalControlActive_wishing]
    split <;> rfl
  | supportsAmplitude => exact congrArg Prod.snd (v.externalControlActive_wishing dynamic)
  | off | effect | external | supportsExternal | report => rfl

theorem body_wishing (v : Vibrator σ) (dynamic : Bool) (request : Request) :
    (v.wishing dynamic).body request = v.body request := by
  cases request with
  | on duration =>
    simp only [body, sampleSteady_wishing]
    rfl
  | amplitude amplitude =>
    simp only [body, externalControlActive_wishing]
    rfl
  | off | effect | external | supportsAmplitude | supportsExternal | report => rfl

theorem answer_wishing (v : Vibrator σ) (dynamic : Bool) (request : Request) :
    (v.wishing dynamic).answer request = v.answer request := by
  cases request with
  | amplitude amplitude =>
    simp only [answer, externalControlActive_wishing]
    rfl
  | supportsAmplitude =>
    simp only [answer, supportsAmplitude, externalControlActive_wishing]
    rfl
  | on | off | effect | external | supportsExternal | report => rfl

/-- A request does the same whatever the board asks for, and keeps what it asks for. -/
theorem serve_wishing (v : Vibrator σ) (dynamic : Bool) (request : Request) :
    (v.wishing dynamic).serve request = (v.serve request).map id (wishing · dynamic) := by
  rw [serve_eq, serve_eq, opened_wishing, body_wishing, answer_wishing]
  rfl

theorem accesses_wishing (v : Vibrator σ) (dynamic : Bool) (request : Request) :
    (v.wishing dynamic).accesses request = v.accesses request :=
  congrArg (fun served => served.2.device.trace) (v.traced.serve_wishing dynamic request)

/-! ## Runs -/

theorem serveAll_wishing (v : Vibrator σ) (dynamic : Bool) (requests : List Request) :
    (v.wishing dynamic).serveAll requests = (v.serveAll requests).map id (wishing · dynamic) := by
  induction requests generalizing v with
  | nil => rfl
  | cons request rest ih =>
    simp only [serveAll, serve_wishing, Prod.map, id, ih]

theorem history_wishing (v : Vibrator σ) (dynamic : Bool) (requests : List Request) :
    (v.wishing dynamic).history requests = v.history requests := by
  induction requests generalizing v with
  | nil => rfl
  | cons request rest ih =>
    rw [history, history, accesses_wishing, serve_wishing]
    exact congrArg _ (ih _)

/-! ## Bring-up -/

section
variable {device : σ} {record : Record}

/-- The drive of a driver that lacks a shaping channel is static, whatever the board asks for. -/
theorem isDynamic_eq_false (h : ∃ channel ∈ Channel.shaping, Device.has device channel = false)
    (record : Record) : isDynamic device record = false := by
  obtain ⟨channel, hc, hn⟩ := h
  have hall : Channel.shaping.all (Device.has device) = false :=
    List.all_eq_false.2 ⟨channel, hc, by simp [hn]⟩
  rw [isDynamic, hall, Bool.and_false]

theorem bringUp_wishing (h : ∃ channel ∈ Channel.shaping, Device.has device channel = false)
    (record : Record) (dynamic : Bool) :
    bringUp device (record.wishing dynamic) = (bringUp device record).map (wishing · dynamic) := by
  have hscript : bringUpScript device (record.wishing dynamic) = bringUpScript device record := by
    simp only [bringUpScript, isDynamic_eq_false h]
    rfl
  have hdrive : driveOf device (record.wishing dynamic) = driveOf device record := by
    simp only [driveOf, isDynamic_eq_false h]
    rfl
  have hcatalog : catalogOf device (record.wishing dynamic) = catalogOf device record := rfl
  simp only [bringUp, hscript, hdrive, hcatalog]
  split <;> rfl

theorem bringUpAccesses_wishing
    (h : ∃ channel ∈ Channel.shaping, Device.has device channel = false) (record : Record)
    (dynamic : Bool) :
    bringUpAccesses device (record.wishing dynamic) = bringUpAccesses device record := by
  have ht : ∃ channel ∈ Channel.shaping,
      Device.has (⟨device, []⟩ : Traced σ) channel = false := h
  rw [bringUpAccesses, bringUpAccesses, bringUp_wishing ht]
  cases bringUp (⟨device, []⟩ : Traced σ) record <;> rfl

/-- **A dynamic drive that the driver cannot be told is a static one.**  Whatever else the record
says and however the driver answers, a board that asks for it and one that does not are refused
alike or brought up by the same accesses, and from then on get the same replies to the same
requests by the same accesses, step by step. -/
theorem unshapeable_drive_is_static
    (h : ∃ channel ∈ Channel.shaping, Device.has device channel = false) (record : Record) :
    let asking := { record with dynamicConfig := true }
    let plain := { record with dynamicConfig := false }
    bringUpAccesses device asking = bringUpAccesses device plain ∧
    (∀ refusal, bringUp device asking = .error refusal ↔
      bringUp device plain = .error refusal) ∧
    ∀ v, bringUp device asking = .ok v → ∃ w, bringUp device plain = .ok w ∧
      v.device = w.device ∧
      ∀ requests, (v.serveAll requests).1 = (w.serveAll requests).1 ∧
        v.history requests = w.history requests ∧
        (v.serveAll requests).2.device = (w.serveAll requests).2.device := by
  intro asking plain
  have hup : bringUp device asking = (bringUp device plain).map (wishing · true) :=
    bringUp_wishing h plain true
  refine ⟨bringUpAccesses_wishing h plain true, fun refusal => ?_, fun v up => ?_⟩
  · rw [hup]
    cases bringUp device plain <;> simp [Except.map]
  · rw [hup] at up
    cases hw : bringUp device plain with
    | error refusal =>
      rw [hw] at up
      cases up
    | ok w =>
      rw [hw] at up
      obtain rfl : w.wishing true = v := Except.ok.inj up
      refine ⟨w, rfl, rfl, fun requests => ?_⟩
      rw [serveAll_wishing, history_wishing]
      exact ⟨rfl, rfl, rfl⟩

theorem clampless_driver_falls_back :
    ∃ v w, bringUp (Simulated.hot.setExposed .odClamp false) .uncalibrated = .ok v ∧
      bringUp (Simulated.hot.setExposed .odClamp false)
          { Record.uncalibrated with dynamicConfig := false } = .ok w ∧
      v.history [.on 20, .effect .click .strong] = w.history [.on 20, .effect .click .strong] := by
  obtain ⟨v, up⟩ : ∃ v, bringUp (Simulated.hot.setExposed .odClamp false)
      { Record.uncalibrated with dynamicConfig := true } = .ok v := ⟨_, rfl⟩
  obtain ⟨w, hw, -, h⟩ := (unshapeable_drive_is_static
    ⟨.odClamp, by decide, by decide⟩ Record.uncalibrated).2.2 v up
  exact ⟨v, w, up, hw, (h _).2.1⟩

end
end Vibrator
end Haptics
