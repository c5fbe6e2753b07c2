import Haptics.Proofs.Requests

/-!
# Runs of a vibrator

A run is a list of requests, served one after the other from bring-up on.  The device may answer
each access as it likes, so a run covers every pattern of faults and readings.  Whatever it
answers, a request changes nothing of the vibrator but its device and its thermal state
(`settled_serve`), and the thermal state only where it samples the temperature.
-/

namespace Haptics

def Thermal.inState (thermal : Thermal) (state : ThermalState) : Thermal :=
  { thermal with state := state }

def DynamicDrive.inState (drive : DynamicDrive) (state : ThermalState) : DynamicDrive :=
  { drive with thermal := drive.thermal.map (·.inState state) }

namespace Vibrator
variable {σ : Type} [Device σ]

/-! ## Frame -/

def sample? : Except Fault RegisterValue → Option Int64
  | .ok value => value.toInt?
  | .error _ => none

def stateAfter (bounds : ThermalBounds) (state : ThermalState)
    (reading : Except Fault RegisterValue) : ThermalState :=
  (sample? reading).elim state (Thermal.next bounds state)

theorem observe_eq (thermal : Thermal) (reading : Except Fault RegisterValue) :
    observe thermal reading =
      thermal.inState (stateAfter thermal.bounds thermal.state reading) := by
  cases reading with
  | error fault => rfl
  | ok value =>
    simp only [observe, stateAfter, sample?]
    cases value.toInt? <;> rfl

/-- Sampling moves nothing but the device and the thermal state. -/
theorem sampleSteady_frame (v : Vibrator σ) :
    v.sampleSteady.2.record = v.record ∧ v.sampleSteady.2.catalog = v.catalog ∧
      v.sampleSteady.2.drive = v.drive.map fun drive =>
        { drive with
          thermal := drive.thermal.map (observe · (Device.read .temperature v.device).1) } := by
  obtain ⟨device, record, catalog, drive⟩ := v
  match drive with
  | none => exact ⟨rfl, rfl, rfl⟩
  | some ⟨_, _, none⟩ => exact ⟨rfl, rfl, rfl⟩
  | some ⟨_, _, some _⟩ => exact ⟨rfl, rfl, rfl⟩

theorem externalControlActive_frame (v : Vibrator σ) :
    v.externalControlActive.2.record = v.record ∧
      v.externalControlActive.2.catalog = v.catalog ∧
      v.externalControlActive.2.drive = v.drive := by
  unfold externalControlActive
  split <;> exact ⟨rfl, rfl, rfl⟩

/-- Steady vibration leaves the drive that its sample decides on, whether or not its script is
stopped. -/
theorem on_frame (v : Vibrator σ) (duration : UInt32) :
    (v.serve (.on duration)).2.record = v.record ∧
      (v.serve (.on duration)).2.catalog = v.catalog ∧
      (v.serve (.on duration)).2.drive = v.sampleSteady.2.drive := by
  rw [serve_eq]
  exact ⟨v.sampleSteady_frame.1, v.sampleSteady_frame.2.1, rfl⟩

/-- All other requests leave the drive as it is. -/
theorem serve_frame (v : Vibrator σ) {request : Request} (h : ∀ duration, request ≠ .on duration) :
    (v.serve request).2.record = v.record ∧ (v.serve request).2.catalog = v.catalog ∧
      (v.serve request).2.drive = v.drive := by
  rw [serve_eq]
  cases request with
  | on duration => exact absurd rfl (h duration)
  | amplitude amplitude =>
    simp only [opened, runScript_record, runScript_catalog, runScript_drive]
    split
    · exact v.externalControlActive_frame
    · exact ⟨rfl, rfl, rfl⟩
  | supportsAmplitude => exact v.externalControlActive_frame
  | off | effect | external | supportsExternal | report => exact ⟨rfl, rfl, rfl⟩

theorem serve_record (v : Vibrator σ) (request : Request) :
    (v.serve request).2.record = v.record := by
  by_cases hon : ∃ duration, request = .on duration
  · obtain ⟨duration, rfl⟩ := hon
    exact (v.on_frame duration).1
  · exact (v.serve_frame fun duration e => hon ⟨duration, e⟩).1

theorem serve_catalog (v : Vibrator σ) (request : Request) :
    (v.serve request).2.catalog = v.catalog := by
  by_cases hon : ∃ duration, request = .on duration
  · obtain ⟨duration, rfl⟩ := hon
    exact (v.on_frame duration).2.1
  · exact (v.serve_frame fun duration e => hon ⟨duration, e⟩).2.1

/-! ## What bring-up decides -/

/-- A vibrator as bring-up leaves it, but in the given thermal state and with any state of its
device. -/
structure Settled (device : σ) (record : Record) (state : ThermalState) (v : Vibrator σ) :
    Prop where
  record_eq : v.record = record
  catalog_eq : v.catalog = catalogOf device record
  drive_eq : v.drive = (driveOf device record).map (·.inState state)

section
variable {device : σ} {record : Record} {state : ThermalState} {v : Vibrator σ}

/-- All that bring-up does. -/
theorem bringUp_ok (up : bringUp device record = .ok v) :
    missing device = [] ∧ v =
      { device := ((bringUpScript device record).run device).2, record,
        catalog := catalogOf device record, drive := driveOf device record } := by
  unfold bringUp at up
  split at up
  · rename_i hm
    exact ⟨hm, (Except.ok.inj up).symm⟩
  · cases up

theorem settled_bringUp (up : bringUp device record = .ok v) :
    Settled device record .nominal v := by
  obtain ⟨-, rfl⟩ := bringUp_ok up
  refine ⟨rfl, rfl, ?_⟩
  simp only [driveOf]
  split
  · simp only [Option.map_some, DynamicDrive.inState]
    split <;> rfl
  · rfl

theorem settled_on (h : Settled device record state v) (duration : UInt32) :
    Settled device record (stateAfter {} state (Device.read .temperature v.device).1)
      (v.serve (.on duration)).2 := by
  obtain ⟨hr, hc, hd⟩ := v.on_frame duration
  refine ⟨hr.trans h.record_eq, hc.trans h.catalog_eq, ?_⟩
  rw [hd, v.sampleSteady_frame.2.2, h.drive_eq]
  unfold driveOf
  split
  · simp only [Option.map_some, DynamicDrive.inState]
    split
    · simp only [Option.map_some, observe_eq]
      rfl
    · rfl
  · rfl

theorem settled_serve (h : Settled device record state v) {request : Request}
    (hne : ∀ duration, request ≠ .on duration) :
    Settled device record state (v.serve request).2 := by
  obtain ⟨hr, hc, hd⟩ := v.serve_frame hne
  exact ⟨hr.trans h.record_eq, hc.trans h.catalog_eq, hd.trans h.drive_eq⟩

theorem settled_serveAll (h : Settled device record state v) (requests : List Request) :
    ∃ state, Settled device record state (v.serveAll requests).2 := by
  induction requests generalizing v state with
  | nil => exact ⟨state, h⟩
  | cons request rest ih =>
    by_cases hon : ∃ duration, request = .on duration
    · obtain ⟨duration, rfl⟩ := hon
      exact ih (settled_on h duration)
    · exact ih (settled_serve h fun duration e => hon ⟨duration, e⟩)

/-! ## The settings of a settled vibrator -/

theorem Settled.effectSetting (h : Settled device record state v) :
    v.effectSetting = if isDynamic device record then some record.effectSetting else none := by
  simp only [Vibrator.effectSetting, h.drive_eq, driveOf]
  split <;> rfl

theorem Settled.steadySetting (h : Settled device record state v) :
    v.steadySetting = if isDynamic device record then some record.steadySetting else none := by
  simp only [Vibrator.steadySetting, h.drive_eq, driveOf]
  split <;> rfl

theorem Settled.thermal (h : Settled device record state v) :
    v.thermal =
      if isDynamic device record ∧ Device.has device .temperature then
        some (record.thermal.inState state)
      else none := by
  simp only [Vibrator.thermal, h.drive_eq, driveOf, DynamicDrive.inState]
  cases isDynamic device record <;> cases Device.has device .temperature <;> rfl

/-- Where the temperature is tracked, steady vibration has the setting of the thermal state; else
it has the nominal one, if any. -/
theorem Settled.activeSteady (h : Settled device record state v) :
    v.activeSteady =
      if isDynamic device record then
        some (if Device.has device .temperature then
            (record.thermal.inState state).current
          else record.steadySetting)
      else none := by
  simp only [Vibrator.activeSteady, h.drive_eq, driveOf, DynamicDrive.inState]
  cases isDynamic device record <;> cases Device.has device .temperature <;> rfl

end

/-! ## History -/

/-- The accesses that each request of a run makes. -/
def history (v : Vibrator σ) : List Request → List (Request × List Access)
  | [] => []
  | request :: rest => (request, v.accesses request) :: (v.serve request).2.history rest

theorem history_append (v : Vibrator σ) (before after : List Request) :
    v.history (before ++ after) = v.history before ++ (v.serveAll before).2.history after := by
  induction before generalizing v with
  | nil => rfl
  | cons request rest ih =>
    rw [List.cons_append, history, ih]
    rfl

/-- A request of a run is served after those before it. -/
theorem mem_history {v : Vibrator σ} {requests : List Request} {request : Request}
    {accesses : List Access} (h : (request, accesses) ∈ v.history requests) :
    ∃ before after, requests = before ++ request :: after ∧
      accesses = (v.serveAll before).2.accesses request := by
  induction requests generalizing v with
  | nil => simp [history] at h
  | cons first rest ih =>
    rcases List.mem_cons.1 h with e | h
    · obtain ⟨rfl, rfl⟩ := Prod.mk.inj e
      exact ⟨[], rest, rfl, rfl⟩
    · obtain ⟨before, after, rfl, rfl⟩ := ih h
      exact ⟨first :: before, after, rfl, rfl⟩

end Vibrator

/-! ## A hot driver -/

/-- A unit without factory data, on a board that asks for a dynamic drive. -/
def Record.uncalibrated : Record :=
  .ofSources {} { dynamicConfig := true }

/-- A driver that exposes every channel and is above the upper bound of the temperature. -/
def Simulated.hot : Simulated :=
  { exposed := Channel.all, reads := [(.temperature, .int 12000)], failing := [], latency := 0 }

end Haptics
