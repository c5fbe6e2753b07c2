import Haptics.Proofs.Shaping

/-!
# Thermal hysteresis

A sample is decisive if it lies outside the band between the two bounds.  Over a whole run the
thermal state is that of the last decisive sample (`foldl_next`): what lies between the bounds,
what cannot be read and what is no integer leaves no trace in it, and a request that fails later
on has taken its sample all the same.
-/

namespace Haptics

namespace Thermal

/-- Whether a sample lies outside the band. -/
def decisive (bounds : ThermalBounds) (sample : Int64) : Bool :=
  bounds.upper < sample || sample < bounds.lower

/-- The state that a decisive sample decides on. -/
def decided (bounds : ThermalBounds) (sample : Int64) : ThermalState :=
  if bounds.upper < sample then .derated else .nominal

theorem next_eq (bounds : ThermalBounds) (state : ThermalState) (sample : Int64) :
    next bounds state sample = if decisive bounds sample then decided bounds sample else state := by
  unfold next decisive decided
  by_cases hu : bounds.upper < sample
  · simp [hu]
  · by_cases hl : sample < bounds.lower <;> simp [hu, hl]

theorem next_below {bounds : ThermalBounds} (h : bounds.lower ≤ bounds.upper)
    {state : ThermalState} {sample : Int64} (hl : sample < bounds.lower) :
    next bounds state sample = .nominal := by
  have hu : ¬bounds.upper < sample := Int64.not_lt.2 (Int64.le_of_lt (Int64.lt_of_lt_of_le hl h))
  simp [next, hu, hl]

/-- After any samples the state is that of the last decisive one. -/
theorem foldl_next (bounds : ThermalBounds) (state : ThermalState) (samples : List Int64) :
    samples.foldl (next bounds) state =
      ((samples.filter (decisive bounds)).getLast?.map (decided bounds)).getD state := by
  induction samples generalizing state with
  | nil => rfl
  | cons sample rest ih =>
    rw [List.foldl_cons, ih, next_eq]
    by_cases hd : decisive bounds sample = true
    · rw [List.filter_cons_of_pos hd, List.getLast?_cons]
      cases (rest.filter (decisive bounds)).getLast? <;> simp [hd]
    · rw [List.filter_cons_of_neg hd]
      simp [hd]

theorem foldl_next_derated (bounds : ThermalBounds) (samples : List Int64) :
    samples.foldl (next bounds) .nominal = .derated ↔
      ∃ sample, (samples.filter (decisive bounds)).getLast? = some sample ∧
        bounds.upper < sample := by
  rw [foldl_next]
  cases (samples.filter (decisive bounds)).getLast? with
  | none => simp
  | some sample =>
    by_cases hu : bounds.upper < sample <;> simp [decided, hu]

/-- A sample within the band decides nothing. -/
theorem foldl_next_within (bounds : ThermalBounds) (state : ThermalState) {samples : List Int64}
    (h : ∀ sample ∈ samples, bounds.lower ≤ sample ∧ sample ≤ bounds.upper) :
    samples.foldl (next bounds) state = state := by
  have hf : samples.filter (decisive bounds) = [] := by
    rw [List.filter_eq_nil_iff]
    intro sample hs
    obtain ⟨hl, hu⟩ := h sample hs
    simp [decisive, Int64.not_lt.2 hl, Int64.not_lt.2 hu]
  rw [foldl_next, hf]
  rfl

end Thermal

/-! ## Samples of a run -/

namespace Vibrator
variable {σ : Type} [Device σ]

/-- The sample of an access, if it reads the temperature and the answer is an integer. -/
def sampled? : Access → Option Int64
  | .read .temperature reading => sample? reading
  | _ => none

/-- The samples that steady vibration takes, the first one first. -/
def samples (history : List (Request × List Access)) : List Int64 :=
  history.flatMap fun served =>
    match served.1 with
    | .on _ => served.2.filterMap sampled?
    | _ => []

theorem samples_cons (served : Request × List Access) (rest : List (Request × List Access)) :
    samples (served :: rest) = samples [served] ++ samples rest := by
  simp [samples]

/-- Steady vibration samples nothing but what it reads first. -/
theorem samples_on (v : Vibrator σ) (duration : UInt32) {thermal : Thermal}
    (ht : v.thermal = some thermal) :
    samples [(.on duration, v.accesses (.on duration))] =
      (sample? (Device.read .temperature v.device).1).toList := by
  obtain ⟨made, outcome, he, hr, -⟩ := v.accesses_ran (.on duration)
  have hm : made.filterMap sampled? = [] := by
    rw [List.filterMap_eq_nil_iff]
    intro access ha
    obtain ⟨write, -, _, rfl⟩ := hr.mem ha
    rfl
  have ho : v.opening (.on duration) = [.read .temperature (Device.read .temperature v.device).1] := by
    simp [opening, sampling, ht]
  simp only [samples, List.flatMap_cons, List.flatMap_nil, he, ho, List.filterMap_append, hm,
    List.append_nil]
  cases hs : sample? (Device.read .temperature v.device).1 <;> simp [sampled?, hs]

/-! ## Tracking -/

/-- Whether a device and its board have the temperature tracked. -/
def Tracked (device : σ) (record : Record) : Prop :=
  isDynamic device record = true ∧ Device.has device .temperature = true

section
variable {device : σ} {record : Record} {state : ThermalState} {v : Vibrator σ}

theorem Settled.tracked (h : Settled device record state v) (ht : Tracked device record) :
    v.thermal = some (record.thermal.inState state) :=
  h.thermal.trans (if_pos ht)

/-- A vibrator with a thermal state is one whose temperature is tracked. -/
theorem Settled.tracked_of_thermal (h : Settled device record state v) {thermal : Thermal}
    (ht : v.thermal = some thermal) :
    Tracked device record ∧ thermal.state = state := by
  rw [h.thermal] at ht
  by_cases hc : isDynamic device record ∧ Device.has device .temperature
  · rw [if_pos hc] at ht
    obtain rfl := Option.some.inj ht
    exact ⟨hc, rfl⟩
  · rw [if_neg hc] at ht
    cases ht

/-- What one request makes of the thermal state. -/
theorem settled_samples (h : Settled device record state v) (ht : Tracked device record)
    (request : Request) :
    Settled device record
      ((samples [(request, v.accesses request)]).foldl (Thermal.next {}) state)
      (v.serve request).2 := by
  by_cases hon : ∃ duration, request = .on duration
  · obtain ⟨duration, rfl⟩ := hon
    have hs := settled_on h duration
    rw [samples_on v duration (h.tracked ht)]
    unfold stateAfter at hs
    cases hr : sample? (Device.read .temperature v.device).1 <;> simpa [hr] using hs
  · have hs : samples [(request, v.accesses request)] = [] := by
      cases request with
      | on duration => exact absurd ⟨duration, rfl⟩ hon
      | off | effect | amplitude | external | supportsAmplitude | supportsExternal | report => rfl
    rw [hs]
    exact settled_serve h fun duration e => hon ⟨duration, e⟩

/-- What a run makes of the thermal state. -/
theorem settled_history (h : Settled device record state v) (ht : Tracked device record)
    (requests : List Request) :
    Settled device record ((samples (v.history requests)).foldl (Thermal.next {}) state)
      (v.serveAll requests).2 := by
  induction requests generalizing v state with
  | nil => exact h
  | cons request rest ih =>
    rw [history, samples_cons, List.foldl_append]
    exact ih (settled_samples h ht request)

def settingIn (record : Record) : ThermalState → DriveSetting
  | .nominal => record.steadySetting
  | .derated =>
    record.steadySetting.withDrive (min Thermal.floorClamp (record.steadySetting.clampAt 0))
      (shiftedPeriod record.lraPeriod record.longFrequencyShift)

/-- Steady vibration shapes the drive by the setting of the state it leaves. -/
theorem Settled.told_on {duration : UInt32} {after : ThermalState}
    (ha : Settled device record after (v.serve (.on duration)).2) (ht : Tracked device record)
    {channel : Channel}
    {value : RegisterValue} {outcome : Except Fault Unit} (hc : channel ∈ Channel.shaping)
    (hw : .write channel value outcome ∈ v.accesses (.on duration)) :
    (settingIn record after).told? 0 channel = some value := by
  obtain ⟨setting, hs, hv⟩ := mem_accesses_shaping hw hc
  rw [ha.activeSteady, if_pos ht.1, if_pos ht.2] at hs
  obtain rfl := Option.some.inj hs
  cases after <;> exact hv

/-- **The last decisive sample rules.**  After any run of a vibrator whose temperature is tracked
the state is derated exactly if some sample was decisive and the last such one was above the upper
bound.  A request without a decisive sample leaves the thermal state, a decisive sample sets it
whatever the reply, and steady vibration shapes the drive by the setting of the state after its
own sample. -/
theorem derated_iff_last_decisive_sample (up : bringUp device record = .ok v)
    (ht : Tracked device record) (requests : List Request) :
    let w := (v.serveAll requests).2
    (∃ thermal, w.thermal = some thermal ∧
      (thermal.state = .derated ↔
        ∃ sample, ((samples (v.history requests)).filter fun sample =>
            10000 < sample || sample < 5000).getLast? = some sample ∧ 10000 < sample)) ∧
    (∀ request,
      (∀ sample ∈ samples [(request, w.accesses request)], 5000 ≤ sample ∧ sample ≤ 10000) →
        (w.serve request).2.thermal = w.thermal) ∧
    ∀ duration, ∃ thermal, (w.serve (.on duration)).2.thermal = some thermal ∧
      (∀ sample ∈ samples [(.on duration, w.accesses (.on duration))],
        (10000 < sample → thermal.state = .derated) ∧
          (sample < 5000 → thermal.state = .nominal)) ∧
      ∀ channel ∈ Channel.shaping, ∀ value outcome,
        .write channel value outcome ∈ w.accesses (.on duration) →
          (settingIn record thermal.state).told? 0 channel = some value := by
  intro w
  have hw := settled_history (settled_bringUp up) ht requests
  refine ⟨⟨_, hw.tracked ht, Thermal.foldl_next_derated {} _⟩, fun request hin => ?_,
    fun duration => ?_⟩
  · have ha := (settled_samples hw ht request).tracked ht
    rw [Thermal.foldl_next_within {} _ hin] at ha
    rw [ha, hw.tracked ht]
  · have ha := settled_samples hw ht (.on duration)
    refine ⟨_, ha.tracked ht, fun sample hs => ?_, fun channel hc value outcome hm => ?_⟩
    · rw [samples_on w duration (hw.tracked ht)] at hs ⊢
      have hr : sample? (Device.read .temperature w.device).1 = some sample := by simpa using hs
      rw [hr]
      exact ⟨fun hu => if_pos hu, fun hl => Thermal.next_below (by decide) hl⟩
    · exact ha.told_on ht hc hm

theorem hot_sample_derates :
    ∃ v thermal, bringUp Simulated.hot .uncalibrated = .ok v ∧
      (v.serveAll [.on 20, .off]).2.thermal = some thermal ∧ thermal.state = .derated := by
  obtain ⟨v, up⟩ : ∃ v, bringUp Simulated.hot .uncalibrated = .ok v := ⟨_, rfl⟩
  have ht : Tracked Simulated.hot .uncalibrated := ⟨rfl, rfl⟩
  obtain ⟨thermal, h, hd⟩ := (derated_iff_last_decisive_sample up ht [.on 20, .off]).1
  refine ⟨v, thermal, up, h, hd.2 ⟨12000, ?_, by decide⟩⟩
  cases up
  rfl

end
end Vibrator
end Haptics
