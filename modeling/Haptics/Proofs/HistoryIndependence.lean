import Haptics.Proofs.Runs

/-!
# What a history leaves behind

Two drivers are alike if they answer every access in the same way and are alike again afterwards
(`Bisimulation`); they may be two states of one driver.  Requests are then served alike by any two
vibrators with the same record, catalog and drive (`serve_alike`), and two thermal states differ
only for requests that heed them (`Request.HeedsHeat`).  Whatever was asked since bring-up and
whatever became of the driver meanwhile, a vibrator is the one that was brought up but for its
thermal state (`settled_after`).
-/

namespace Haptics

/-! ## Drivers that answer alike -/

/-- Drivers whose states are related expose and report the same, answer every access alike, and
are related again afterwards. -/
structure Bisimulation {σ τ : Type} [Device σ] [Device τ] (R : σ → τ → Prop) : Prop where
  has : ∀ {s t}, R s t → Device.has s = Device.has t
  report : ∀ {s t}, R s t → Device.report s = Device.report t
  write : ∀ channel value {s t}, R s t →
    (Device.write channel value s).1 = (Device.write channel value t).1 ∧
      R (Device.write channel value s).2 (Device.write channel value t).2
  read : ∀ channel {s t}, R s t →
    (Device.read channel s).1 = (Device.read channel t).1 ∧
      R (Device.read channel s).2 (Device.read channel t).2

namespace Bisimulation

/-- A driver in the same state answers alike. -/
theorem refl (σ : Type) [Device σ] : Bisimulation fun s t : σ => s = t where
  has h := congrArg _ h
  report h := congrArg _ h
  write _ _ {_ _} h := h ▸ ⟨rfl, rfl⟩
  read _ {_ _} h := h ▸ ⟨rfl, rfl⟩

variable {σ τ : Type} [Device σ] [Device τ] {R : σ → τ → Prop}

/-- Where drivers answer alike, the accesses kept of them stay the same. -/
theorem traced (hR : Bisimulation R) :
    Bisimulation fun (s : Traced σ) (t : Traced τ) => R s.device t.device ∧ s.trace = t.trace where
  has h := hR.has h.1
  report h := hR.report h.1
  write channel value {s t} h := by
    obtain ⟨ho, hd⟩ := hR.write channel value h.1
    refine ⟨ho, hd, ?_⟩
    change s.trace ++ [.write channel value (Device.write channel value s.device).1] =
      t.trace ++ [.write channel value (Device.write channel value t.device).1]
    rw [h.2, ho]
  read channel {s t} h := by
    obtain ⟨ho, hd⟩ := hR.read channel h.1
    refine ⟨ho, hd, ?_⟩
    change s.trace ++ [.read channel (Device.read channel s.device).1] =
      t.trace ++ [.read channel (Device.read channel t.device).1]
    rw [h.2, ho]

/-- A driver answers in the same way whatever was kept of its accesses before. -/
theorem later (σ : Type) [Device σ] (earlier : List Access) :
    Bisimulation fun s t : Traced σ => s.device = t.device ∧ s.trace = earlier ++ t.trace where
  has {s t} h := congrArg (fun device : σ => Device.has device) h.1
  report {s t} h := congrArg (fun device : σ => Device.report device) h.1
  write channel value {s t} h := by
    obtain ⟨device, trace⟩ := s
    obtain ⟨rfl, rfl⟩ := h
    exact ⟨rfl, rfl, List.append_assoc earlier t.trace _⟩
  read channel {s t} h := by
    obtain ⟨device, trace⟩ := s
    obtain ⟨rfl, rfl⟩ := h
    exact ⟨rfl, rfl, List.append_assoc earlier t.trace _⟩

end Bisimulation

namespace Script
variable {σ τ : Type} [Device σ] [Device τ] {R : σ → τ → Prop} {s : σ} {t : τ}

theorem ifExposed_alike (hR : Bisimulation R) (h : R s t) (write : Write) :
    ifExposed s write = ifExposed t write := by
  rw [ifExposed, ifExposed, hR.has h]

/-- A script comes to the same outcome on drivers that answer alike. -/
theorem run_alike (hR : Bisimulation R) (h : R s t) (script : Script) :
    (script.run s).1 = (script.run t).1 ∧ R (script.run s).2 (script.run t).2 := by
  induction script generalizing s t with
  | nil => exact ⟨rfl, h⟩
  | cons write rest ih =>
    obtain ⟨ho, hd⟩ := hR.write write.channel write.value h
    obtain ⟨outcome, s', hs⟩ : ∃ outcome s',
        Device.write write.channel write.value s = (outcome, s') := ⟨_, _, rfl⟩
    obtain ⟨other, t', ht⟩ : ∃ other t',
        Device.write write.channel write.value t = (other, t') := ⟨_, _, rfl⟩
    rw [hs, ht] at ho hd
    obtain rfl : outcome = other := ho
    simp only [run, hs, ht]
    cases outcome with
    | ok => exact ih hd
    | error fault =>
      cases write.mandatory with
      | true => exact ⟨rfl, hd⟩
      | false => exact ih hd

end Script

/-! ## Vibrators that are alike -/

/-- Whether what is done for a request depends on the thermal state: steady vibration is shaped by
it, and the report names it. -/
def Request.HeedsHeat : Request → Prop
  | .on _ => True
  | .report => True
  | _ => False

namespace Vibrator
variable {σ τ : Type}

theorem map_inState_map (drive : Option DynamicDrive) (earlier later : ThermalState) :
    (drive.map (·.inState earlier)).map (·.inState later) = drive.map (·.inState later) := by
  rcases drive with _ | ⟨_, _, _ | _⟩ <;> rfl

/-- A drive is unchanged by being put in the state that it has. -/
theorem map_inState_self (v : Vibrator σ) :
    v.drive.map (·.inState ((v.thermal.map (·.state)).getD .nominal)) = v.drive := by
  obtain ⟨device, record, catalog, drive⟩ := v
  rcases drive with _ | ⟨_, _, _ | _⟩ <;> rfl

/-- Two vibrators that differ in nothing but their thermal states, on drivers that are related. -/
structure Alike (R : σ → τ → Prop) (v : Vibrator σ) (w : Vibrator τ) : Prop where
  device : R v.device w.device
  record_eq : v.record = w.record
  catalog_eq : v.catalog = w.catalog
  drive_eq : v.drive.map (·.inState .nominal) = w.drive.map (·.inState .nominal)

section
variable {R : σ → τ → Prop} {v v' : Vibrator σ} {w w' : Vibrator τ}

/-- Where only the drivers move on, vibrators stay alike. -/
theorem Alike.move (h : Alike R v w)
    (hv : v'.record = v.record ∧ v'.catalog = v.catalog ∧ v'.drive = v.drive)
    (hw : w'.record = w.record ∧ w'.catalog = w.catalog ∧ w'.drive = w.drive)
    (hd : R v'.device w'.device) : Alike R v' w' where
  device := hd
  record_eq := by rw [hv.1, hw.1, h.record_eq]
  catalog_eq := by rw [hv.2.1, hw.2.1, h.catalog_eq]
  drive_eq := by rw [hv.2.2, hw.2.2, h.drive_eq]

theorem Alike.isSome_drive (h : Alike R v w) : v.drive.isSome = w.drive.isSome := by
  have hs := congrArg Option.isSome h.drive_eq
  simpa only [Option.isSome_map] using hs

/-- Nothing but the thermal state tells the drives apart. -/
theorem Alike.drive_eq_of_state (h : Alike R v w)
    (hs : v.thermal.map (·.state) = w.thermal.map (·.state)) : v.drive = w.drive := by
  rw [← v.map_inState_self, ← w.map_inState_self, ← hs, ← map_inState_map v.drive .nominal,
    ← map_inState_map w.drive .nominal, h.drive_eq]

theorem Alike.effectSetting_eq (h : Alike R v w) : v.effectSetting = w.effectSetting := by
  have hs := congrArg (Option.map (·.effect)) h.drive_eq
  rwa [Option.map_map, Option.map_map] at hs

end

section
variable [Device σ] [Device τ] {R : σ → τ → Prop} {v : Vibrator σ} {w : Vibrator τ}

/-! ### Reads -/

theorem sampleSteady_alike (hR : Bisimulation R) (h : Alike R v w) (hd : v.drive = w.drive) :
    R v.sampleSteady.2.device w.sampleSteady.2.device ∧
      v.sampleSteady.2.drive = w.sampleSteady.2.drive := by
  obtain ⟨ho, hdevice⟩ := hR.read .temperature h.device
  refine ⟨?_, by rw [v.sampleSteady_frame.2.2, w.sampleSteady_frame.2.2, hd, ho]⟩
  obtain ⟨device, record, catalog, drive⟩ := v
  obtain ⟨other, otherRecord, otherCatalog, _⟩ := w
  obtain rfl := hd
  match drive with
  | none => exact h.device
  | some ⟨_, _, none⟩ => exact h.device
  | some ⟨_, _, some _⟩ => exact hdevice

theorem externalControlActive_alike (hR : Bisimulation R) (h : Alike R v w) :
    v.externalControlActive.1 = w.externalControlActive.1 ∧
      R v.externalControlActive.2.device w.externalControlActive.2.device := by
  obtain ⟨ho, hdevice⟩ := hR.read .aspEnable h.device
  simp only [externalControlActive, hR.has h.device]
  split
  · exact ⟨by rw [ho], hdevice⟩
  · exact ⟨rfl, h.device⟩

theorem opened_alike (hR : Bisimulation R) (h : Alike R v w) {request : Request}
    (hs : request.HeedsHeat → v.drive = w.drive) :
    Alike R (v.opened request) (w.opened request) ∧
      (v.drive = w.drive → (v.opened request).drive = (w.opened request).drive) := by
  have hcontrol : Alike R v.externalControlActive.2 w.externalControlActive.2 ∧
      (v.drive = w.drive → v.externalControlActive.2.drive = w.externalControlActive.2.drive) := by
    have hv := v.externalControlActive_frame
    have hw := w.externalControlActive_frame
    exact ⟨h.move hv hw (externalControlActive_alike hR h).2, fun hd => by rw [hv.2.2, hw.2.2, hd]⟩
  cases request with
  | on duration =>
    obtain ⟨hdevice, hdrive⟩ := sampleSteady_alike hR h (hs trivial)
    refine ⟨⟨hdevice, ?_, ?_, congrArg _ hdrive⟩, fun _ => hdrive⟩
    · exact v.sampleSteady_frame.1.trans (h.record_eq.trans w.sampleSteady_frame.1.symm)
    · exact v.sampleSteady_frame.2.1.trans (h.catalog_eq.trans w.sampleSteady_frame.2.1.symm)
  | amplitude amplitude =>
    simp only [opened]
    split
    · exact hcontrol
    · exact ⟨h, id⟩
  | supportsAmplitude => exact hcontrol
  | off | effect | external | supportsExternal | report => exact ⟨h, id⟩

/-! ### Scripts -/

theorem globalScaleScript_alike (hR : Bisimulation R) (h : Alike R v w) (attenuated : Bool) :
    v.globalScaleScript attenuated = w.globalScaleScript attenuated := by
  simp only [globalScaleScript, h.record_eq, Script.ifExposed_alike hR h.device]

theorem playScript_alike (hR : Bisimulation R) (h : Alike R v w) (duration : UInt32)
    (mode : PlayMode) (setting : Option DriveSetting) (position : Nat) :
    v.playScript duration mode setting position = w.playScript duration mode setting position := by
  simp only [playScript, h.record_eq, Script.ifExposed_alike hR h.device]

theorem effectScript_alike (hR : Bisimulation R) (h : Alike R v w) (plan : Plan) :
    v.effectScript plan = w.effectScript plan := by
  simp only [effectScript, effectScale, h.isSome_drive, h.record_eq, h.effectSetting_eq,
    playScript_alike hR h, Script.ifExposed_alike hR h.device]

theorem amplitudeScript_alike (hR : Bisimulation R) (hd : R v.device w.device)
    (amplitude : Float32) : v.amplitudeScript amplitude = w.amplitudeScript amplitude := by
  simp only [amplitudeScript, hR.has hd]

theorem steadyScript_alike (hR : Bisimulation R) (h : Alike R v w) (hd : v.drive = w.drive)
    (duration : UInt32) : v.steadyScript duration = w.steadyScript duration := by
  have hsetting : v.activeSteady = w.activeSteady := by rw [activeSteady, activeSteady, hd]
  simp only [steadyScript, h.catalog_eq, hsetting, globalScaleScript_alike hR h,
    playScript_alike hR h]

theorem supportsExternal_alike (hR : Bisimulation R) (h : Alike R v w) :
    v.supportsExternal = w.supportsExternal :=
  congrFun (hR.has h.device) .aspEnable

theorem body_alike (hR : Bisimulation R) (h : Alike R v w) {request : Request}
    (hs : request.HeedsHeat → v.drive = w.drive) : v.body request = w.body request := by
  cases request with
  | on duration =>
    obtain ⟨hopened, hdrive⟩ : Alike R v.sampleSteady.2 w.sampleSteady.2 ∧ _ :=
      opened_alike hR h hs
    simp only [body, steadyScript_alike hR hopened (hdrive (hs trivial))]
  | off => simp only [body, globalScaleScript_alike hR h]
  | effect effect strength =>
    have hscript : v.effectScript = w.effectScript := funext (effectScript_alike hR h)
    rw [body, body, hscript, h.catalog_eq]
  | amplitude amplitude =>
    obtain ⟨hactive, hd⟩ := externalControlActive_alike hR h
    simp only [body, hactive, amplitudeScript_alike hR hd]
  | external enabled =>
    simp only [body, supportsExternal_alike hR h, globalScaleScript_alike hR h]
  | supportsAmplitude | supportsExternal | report => rfl

theorem answer_alike (hR : Bisimulation R) (h : Alike R v w) {request : Request}
    (hs : request.HeedsHeat → v.drive = w.drive) : v.answer request = w.answer request := by
  cases request with
  | effect effect strength => simp only [answer, h.catalog_eq]
  | amplitude amplitude =>
    obtain ⟨hactive, hd⟩ := externalControlActive_alike hR h
    simp only [answer, hactive, amplitudeScript_alike hR hd]
  | external enabled => simp only [answer, supportsExternal_alike hR h]
  | supportsAmplitude =>
    obtain ⟨hactive, hd⟩ := externalControlActive_alike hR h
    simp only [answer, supportsAmplitude, hactive, hR.has hd]
  | supportsExternal => simp only [answer, supportsExternal_alike hR h]
  | report =>
    have hdrive := hs trivial
    simp only [answer, report, driveLines, h.record_eq, h.catalog_eq, hR.report h.device,
      effectSetting, steadySetting, thermal, hdrive]
  | on | off => rfl

/-! ### Requests -/

/-- A request is served alike, with the same accesses. -/
theorem serve_alike (hR : Bisimulation R) (h : Alike R v w) {request : Request}
    (hs : request.HeedsHeat → v.drive = w.drive) :
    (v.serve request).1 = (w.serve request).1 ∧ Alike R (v.serve request).2 (w.serve request).2 ∧
      (v.drive = w.drive → (v.serve request).2.drive = (w.serve request).2.drive) := by
  obtain ⟨hopened, hdrive⟩ := opened_alike hR h hs
  obtain ⟨hout, hdevice⟩ := Script.run_alike hR hopened.device (w.body request)
  rw [serve_eq, serve_eq, answer_alike hR h hs, body_alike hR h hs]
  have houtcome : ((v.opened request).runScript (w.body request)).1 =
      ((w.opened request).runScript (w.body request)).1 := hout
  exact ⟨by rw [houtcome], hopened.move ⟨rfl, rfl, rfl⟩ ⟨rfl, rfl, rfl⟩ hdevice, hdrive⟩

theorem accesses_alike (hR : Bisimulation R) (h : Alike R v w) {request : Request}
    (hs : request.HeedsHeat → v.drive = w.drive) : v.accesses request = w.accesses request := by
  have ht : Alike (fun (s : Traced σ) (t : Traced τ) => R s.device t.device ∧ s.trace = t.trace)
      v.traced w.traced := ⟨⟨h.device, rfl⟩, h.record_eq, h.catalog_eq, h.drive_eq⟩
  exact (serve_alike hR.traced ht hs).2.1.device.2

/-- So are any number of requests, if the thermal states agree or none of them heeds them. -/
theorem history_alike (hR : Bisimulation R) (h : Alike R v w) {requests : List Request}
    (hs : v.drive = w.drive ∨ ∀ request ∈ requests, ¬ request.HeedsHeat) :
    (v.serveAll requests).1 = (w.serveAll requests).1 ∧ v.history requests = w.history requests := by
  induction requests generalizing v w with
  | nil => exact ⟨rfl, rfl⟩
  | cons request rest ih =>
    have hheeds : request.HeedsHeat → v.drive = w.drive := fun hh =>
      hs.resolve_right fun hn => hn request List.mem_cons_self hh
    obtain ⟨hreply, hafter, hdrive⟩ := serve_alike hR h hheeds
    have hrest := ih hafter (hs.imp hdrive fun hn r hr => hn r (List.mem_cons_of_mem _ hr))
    simp only [serveAll, history, hreply, hrest.1, hrest.2, accesses_alike hR h hheeds, and_self]

end

/-! ## Histories -/

/-- What happens to a vibrator: it is asked for something, or its driver comes to be in another
state by whatever happens outside. -/
inductive Turn (σ : Type) where
  | request (request : Request)
  | driver (state : σ)

section
variable [Device σ]

def turn (v : Vibrator σ) : Turn σ → Vibrator σ
  | .request request => (v.serve request).2
  | .driver state => { v with device := state }

def after (v : Vibrator σ) (past : List (Turn σ)) : Vibrator σ :=
  past.foldl turn v

/-- No past changes anything but the driver and the thermal state. -/
theorem settled_after {device : σ} {record : Record} {state : ThermalState} {v : Vibrator σ}
    (h : Settled device record state v) (past : List (Turn σ)) :
    ∃ state, Settled device record state (v.after past) := by
  induction past generalizing v state with
  | nil => exact ⟨state, h⟩
  | cons turn rest ih =>
    cases turn with
    | request request =>
      obtain ⟨after, ha⟩ := settled_serveAll h [request]
      exact ih ha
    | driver moved => exact ih (v := { v with device := moved }) ⟨h.record_eq, h.catalog_eq, h.drive_eq⟩

/-- What bring-up decides depends on the channels and the latency of the driver only. -/
theorem decided_alike [Device τ] {device : σ} {other : τ}
    (hhas : Device.has device = Device.has other)
    (hlatency : Device.startLatency device = Device.startLatency other) (record : Record) :
    catalogOf device record = catalogOf other record ∧ driveOf device record = driveOf other record := by
  have hdynamic : isDynamic device record = isDynamic other record := by
    rw [isDynamic, isDynamic, hhas]
  constructor
  · rw [catalogOf, catalogOf, hhas, hlatency]
  · rw [driveOf, driveOf, hdynamic, hhas]

/-- **A history leaves nothing behind but the thermal state.**  Two vibrators are brought up with
one record, on drivers with the same channels and latency, and go through any two pasts.  If their
drivers answer alike from then on, they serve any requests with the same accesses and the same
replies, as long as none of the requests heeds the thermal state or the two states agree.  No past
changes the record, the catalog, the settings or the bounds of the derating, and of all requests
only steady vibration changes the thermal state. -/
theorem served_alike_after_any_past [Device τ] {device : σ} {other : τ} {record : Record}
    {v : Vibrator σ} {w : Vibrator τ} (hhas : Device.has device = Device.has other)
    (hlatency : Device.startLatency device = Device.startLatency other)
    (upv : bringUp device record = .ok v) (upw : bringUp other record = .ok w)
    (past : List (Turn σ)) (otherPast : List (Turn τ)) :
    let v' := v.after past
    let w' := w.after otherPast
    (∀ R : σ → τ → Prop, Bisimulation R → R v'.device w'.device → ∀ requests : List Request,
      (v'.thermal.map (·.state) = w'.thermal.map (·.state) ∨
        ∀ request ∈ requests, ¬ request.HeedsHeat) →
      (v'.serveAll requests).1 = (w'.serveAll requests).1 ∧
        v'.history requests = w'.history requests) ∧
    (v'.record = v.record ∧ v'.catalog = v.catalog ∧ v'.effectSetting = v.effectSetting ∧
      v'.steadySetting = v.steadySetting ∧
      ∃ state, v'.thermal = v.thermal.map (·.inState state)) ∧
    ∀ request, (∀ duration, request ≠ .on duration) →
      (v'.serve request).2.thermal = v'.thermal := by
  intro v' w'
  have hv := settled_bringUp upv
  obtain ⟨state, hv'⟩ := settled_after hv past
  obtain ⟨otherState, hw'⟩ := settled_after (settled_bringUp upw) otherPast
  refine ⟨fun R hR hd requests hs => ?_, ⟨?_, ?_, ?_, ?_, state, ?_⟩, fun request hne => ?_⟩
  · obtain ⟨hcatalog, hdrive⟩ := decided_alike hhas hlatency record
    have halike : Alike R v' w' := {
      device := hd
      record_eq := hv'.record_eq.trans hw'.record_eq.symm
      catalog_eq := by rw [hv'.catalog_eq, hw'.catalog_eq, hcatalog]
      drive_eq := by
        rw [hv'.drive_eq, hw'.drive_eq, hdrive, map_inState_map, map_inState_map] }
    exact history_alike hR halike (hs.imp_left halike.drive_eq_of_state)
  · exact hv'.record_eq.trans hv.record_eq.symm
  · exact hv'.catalog_eq.trans hv.catalog_eq.symm
  · exact hv'.effectSetting.trans hv.effectSetting.symm
  · exact hv'.steadySetting.trans hv.steadySetting.symm
  · rw [hv'.thermal, hv.thermal]
    split <;> rfl
  · exact (settled_serve hv' hne).thermal.trans hv'.thermal.symm

/-- A vibration that heated the actuator and a click that failed leave nothing behind for a click
and a stop. -/
theorem heated_past_leaves_clicks_alone :
    let past : List (Turn Simulated) := [.request (.on 20),
      .driver (Simulated.hot.setFailing .duration (some "busy")), .request (.effect .click .strong),
      .driver Simulated.hot]
    ∃ v, bringUp Simulated.hot .uncalibrated = .ok v ∧
      (v.after past).thermal.map (·.state) ≠ v.thermal.map (·.state) ∧
      (v.after past).history [.effect .click .strong, .off] =
        v.history [.effect .click .strong, .off] := by
  intro past
  obtain ⟨v, up⟩ : ∃ v, bringUp Simulated.hot .uncalibrated = .ok v := ⟨_, rfl⟩
  have hd : (v.after past).device = (v.after []).device := by
    cases up
    rfl
  have hheeds : ∀ request ∈ [Request.effect .click .strong, .off], ¬ request.HeedsHeat := by
    simp [Request.HeedsHeat]
  have hserved := (served_alike_after_any_past rfl rfl up up past []).1 _ (.refl Simulated) hd
    [.effect .click .strong, .off] (.inr hheeds)
  refine ⟨v, up, ?_, hserved.2⟩
  cases up
  decide

end

end Vibrator
end Haptics
