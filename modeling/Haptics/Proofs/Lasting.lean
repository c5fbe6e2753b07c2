import Haptics.Proofs.Runs

/-!
# Lasting properties

What every write of a script keeps, the script keeps (`Script.run_keeps`), and what its reads and
writes keep, a request keeps (`Vibrator.serve_keeps`); what every access keeps, bring-up and all
requests keep (`Lasting.serve`).  What one mandatory write brings about and the later ones keep
holds after a run that succeeds (`Script.run_brings`).
-/

namespace Haptics

/-! ## Runs of scripts -/

namespace Script
variable {σ : Type} [Device σ]

/-- A property that the writes of a script keep holds after the script. -/
theorem run_keeps {P : σ → Prop} {script : Script}
    (hw : ∀ write ∈ script, ∀ s, P s → P (Device.write write.channel write.value s).2) {s : σ}
    (hs : P s) : P (script.run s).2 := by
  induction script generalizing s with
  | nil => exact hs
  | cons write rest ih =>
    have hrest := fun write h => hw write (List.mem_cons_of_mem _ h)
    have hnext := hw write List.mem_cons_self s hs
    obtain ⟨outcome, device, he⟩ : ∃ outcome device,
        Device.write write.channel write.value s = (outcome, device) := ⟨_, _, rfl⟩
    rw [he] at hnext
    simp only [run, he]
    cases outcome with
    | ok => exact ih hrest hnext
    | error fault =>
      cases write.mandatory with
      | true => exact hnext
      | false => exact ih hrest hnext

/-- A run of two scripts that succeeds goes on with the second one where the first one ends. -/
theorem run_append {first second : Script} {s : σ} (h : ((first ++ second).run s).1 = .ok ()) :
    (first ++ second).run s = second.run (first.run s).2 := by
  induction first generalizing s with
  | nil => rfl
  | cons write rest ih =>
    obtain ⟨outcome, device, he⟩ : ∃ outcome device,
        Device.write write.channel write.value s = (outcome, device) := ⟨_, _, rfl⟩
    simp only [List.cons_append, run, he] at h ⊢
    cases outcome with
    | ok => exact ih h
    | error fault =>
      cases hm : write.mandatory with
      | true =>
        rw [hm] at h
        cases h
      | false =>
        rw [hm] at h
        exact ih h

/-- A script whose writes may all fail is run to its end before another one. -/
theorem run_append_of_optional {first : Script} (hf : ∀ write ∈ first, write.mandatory = false)
    (second : Script) (s : σ) : (first ++ second).run s = second.run (first.run s).2 := by
  induction first generalizing s with
  | nil => rfl
  | cons write rest ih =>
    have hrest := ih fun write hw => hf write (List.mem_cons_of_mem _ hw)
    obtain ⟨outcome, device, he⟩ : ∃ outcome device,
        Device.write write.channel write.value s = (outcome, device) := ⟨_, _, rfl⟩
    simp only [List.cons_append, run, he]
    cases outcome with
    | ok => exact hrest device
    | error fault =>
      rw [hf write List.mem_cons_self]
      exact hrest device

/-- A single write that succeeds is a run that succeeds. -/
theorem run_single_of_ok {write : Write} {s : σ}
    (h : (Device.write write.channel write.value s).1 = .ok ()) :
    Script.run [write] s = (.ok (), (Device.write write.channel write.value s).2) := by
  obtain ⟨outcome, device, he⟩ : ∃ outcome device,
      Device.write write.channel write.value s = (outcome, device) := ⟨_, _, rfl⟩
  rw [he] at h
  obtain rfl : outcome = .ok () := h
  simp only [run, he]

/-- What a mandatory write brings about and no later one ends holds after a run that succeeds. -/
theorem run_brings {P : σ → Prop} {before after : Script} {write : Write} {s : σ}
    (h : ((before ++ write :: after).run s).1 = .ok ()) (hm : write.mandatory = true)
    (hw : (Device.write write.channel write.value (before.run s).2).1 = .ok () →
      P (Device.write write.channel write.value (before.run s).2).2)
    (ha : ∀ write ∈ after, ∀ s, P s → P (Device.write write.channel write.value s).2) :
    P ((before ++ write :: after).run s).2 := by
  have he := run_append h
  obtain ⟨outcome, device, hd⟩ : ∃ outcome device,
      Device.write write.channel write.value (before.run s).2 = (outcome, device) := ⟨_, _, rfl⟩
  rw [hd] at hw
  rw [he] at h ⊢
  simp only [run, hd, hm, if_true] at h ⊢
  cases outcome with
  | ok => exact run_keeps ha (hw rfl)
  | error fault => cases h

end Script

/-! ## Requests -/

namespace Vibrator
variable {σ : Type} [Device σ] {P : σ → Prop} {v : Vibrator σ}

theorem sampleSteady_keeps (hr : ∀ channel s, P s → P (Device.read channel s).2)
    (hv : P v.device) : P v.sampleSteady.2.device := by
  obtain ⟨device, record, catalog, drive⟩ := v
  match drive with
  | none => exact hv
  | some ⟨_, _, none⟩ => exact hv
  | some ⟨_, _, some _⟩ => exact hr .temperature device hv

theorem externalControlActive_keeps (hr : ∀ channel s, P s → P (Device.read channel s).2)
    (hv : P v.device) : P v.externalControlActive.2.device := by
  unfold externalControlActive
  split
  · exact hr .aspEnable v.device hv
  · exact hv

/-- A property that reads keep holds once a request has made its reads. -/
theorem opened_keeps (hr : ∀ channel s, P s → P (Device.read channel s).2) (hv : P v.device)
    (request : Request) : P (v.opened request).device := by
  cases request with
  | on duration => exact sampleSteady_keeps hr hv
  | amplitude amplitude =>
    simp only [opened]
    split
    · exact externalControlActive_keeps hr hv
    · exact hv
  | supportsAmplitude => exact externalControlActive_keeps hr hv
  | off | effect | external | supportsExternal | report => exact hv

/-- A property that reads and the writes of a request keep holds after the request. -/
theorem serve_keeps (hr : ∀ channel s, P s → P (Device.read channel s).2) {request : Request}
    (hw : ∀ write ∈ v.body request, ∀ s, P s → P (Device.write write.channel write.value s).2)
    (hv : P v.device) : P (v.serve request).2.device := by
  rw [serve_device]
  exact Script.run_keeps hw (opened_keeps hr hv request)

/-- A property that the writes of bring-up keep holds after it. -/
theorem bringUp_keeps {device : σ} {record : Record}
    (hw : ∀ write ∈ bringUpScript device record, ∀ s, P s →
      P (Device.write write.channel write.value s).2)
    (up : bringUp device record = .ok v) (hd : P device) : P v.device := by
  obtain ⟨-, rfl⟩ := bringUp_ok up
  exact Script.run_keeps hw hd

end Vibrator

/-- A property that no read and no write of a driver ends. -/
structure Lasting {σ : Type} [Device σ] (P : σ → Prop) : Prop where
  read : ∀ channel s, P s → P (Device.read channel s).2
  write : ∀ channel value s, P s → P (Device.write channel value s).2

namespace Lasting
variable {σ : Type} [Device σ] {P : σ → Prop}

theorem sampleSteady (h : Lasting P) {v : Vibrator σ} (hv : P v.device) :
    P v.sampleSteady.2.device :=
  Vibrator.sampleSteady_keeps h.read hv

/-- No request ends a lasting property. -/
theorem serve (h : Lasting P) {v : Vibrator σ} (hv : P v.device) (request : Request) :
    P (v.serve request).2.device :=
  Vibrator.serve_keeps h.read (fun write _ => h.write write.channel write.value) hv

theorem bringUp (h : Lasting P) {device : σ} {record : Record} {v : Vibrator σ}
    (up : Vibrator.bringUp device record = .ok v) (hd : P device) : P v.device :=
  Vibrator.bringUp_keeps (fun write _ => h.write write.channel write.value) up hd

end Lasting
end Haptics
