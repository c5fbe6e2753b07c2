import Haptics.Proofs.Activation

/-!
# Loop selection

Every start of a playback chooses the loop anew, where the driver can be told.  Effects always play
in the open loop (`loop_of_mem_accesses`).  For steady vibration the loop is compared with the
threshold not by the duration that was asked for but by the one that the driver is told, which the
start latency is part of unless both together are too long.  So the duration asked for decides
unless the latency alone takes it past the threshold (`loop_chosen_by_padded_duration`), and then
the loop is closed for a vibration that is no longer than the threshold
(`latency_closes_loop_at_threshold`).
-/

namespace Haptics

/-! ## Padded durations -/

theorem toNat_addUnlessTooLong (a b : UInt32) :
    (addUnlessTooLong a b).toNat =
      if a.toNat + b.toNat < UInt32.size then a.toNat + b.toNat else a.toNat := by
  unfold addUnlessTooLong
  split
  · rename_i h
    rw [UInt32.toNat_add, Nat.mod_eq_of_lt h]
  · rfl

/-- Whether a duration is within a threshold and is taken past it by a latency, the sum fitting a
word. -/
def TakenPast (threshold duration latency : UInt32) : Prop :=
  duration ≤ threshold ∧ threshold.toNat < duration.toNat + latency.toNat ∧
    duration.toNat + latency.toNat < UInt32.size

theorem lt_addUnlessTooLong_iff {threshold duration latency : UInt32} :
    threshold < addUnlessTooLong duration latency ↔
      threshold < duration ∨ TakenPast threshold duration latency := by
  simp only [TakenPast, UInt32.lt_iff_toNat_lt, UInt32.le_iff_toNat_le, toNat_addUnlessTooLong]
  split <;> omega

/-- What is written for a loop: zero for the closed one. -/
theorem LoopControl.text_select (realTime : Bool) (duration threshold : UInt32) :
    (select realTime duration threshold).register.toText =
      if realTime ∧ threshold < duration then "0" else "1" := by
  unfold select
  split <;> rfl

/-! ## Scripts -/

/-- A write is made, with whatever outcome, if all writes before it may fail. -/
theorem Script.Ran.exists_mem {before after : Script} {write : Write} {made : List Access}
    {outcome : Except Error Unit} (h : Ran (before ++ write :: after) made outcome)
    (hb : ∀ other ∈ before, other.mandatory = false) :
    ∃ answer, .write write.channel write.value answer ∈ made := by
  induction before generalizing made with
  | nil =>
    cases h with
    | wrote => exact ⟨_, List.mem_cons_self⟩
    | skipped fault => exact ⟨_, List.mem_cons_self⟩
    | stopped fault => exact ⟨_, List.mem_cons_self⟩
  | cons first rest ih =>
    have hrest := fun other ho => hb other (List.mem_cons_of_mem _ ho)
    cases h with
    | wrote h =>
      obtain ⟨answer, hm⟩ := ih h hrest
      exact ⟨answer, List.mem_cons_of_mem _ hm⟩
    | skipped fault _ h =>
      obtain ⟨answer, hm⟩ := ih h hrest
      exact ⟨answer, List.mem_cons_of_mem _ hm⟩
    | stopped fault hm =>
      rw [hb first List.mem_cons_self] at hm
      cases hm

namespace Vibrator
variable {σ : Type} [Device σ]

theorem loop_of_mem_playScript {v : Vibrator σ} {duration : UInt32} {mode : PlayMode}
    {setting : Option DriveSetting} {position : Nat} {write : Write}
    (hw : write ∈ v.playScript duration mode setting position) (hc : write.channel = .ctrlLoop) :
    write.value =
      (LoopControl.select (mode = .realTime) duration v.record.closeLoopThreshold).register := by
  simp only [playScript, List.mem_append, List.mem_singleton, Script.mem_ifExposed] at hw
  rcases hw with (((⟨-, rfl⟩ | ⟨-, rfl⟩) | rfl) | hw) | rfl
  · rfl
  · cases hc
  · cases hc
  · obtain ⟨s, -, ht⟩ := told_of_mem_settingScript hw
    rw [hc] at ht
    cases ht
  · cases hc

/-- The loop that a request chooses, if it starts a playback. -/
def loop? (v : Vibrator σ) : Request → Option LoopControl
  | .on duration => some (LoopControl.select true
      (addUnlessTooLong duration v.catalog.startLatency) v.record.closeLoopThreshold)
  | .effect _ _ => some .opened
  | _ => none

/-- Whatever reaches the loop control is the request's own choice. -/
theorem loop_of_mem_accesses {v : Vibrator σ} {request : Request} {value : RegisterValue}
    {outcome : Except Fault Unit} (h : .write .ctrlLoop value outcome ∈ v.accesses request) :
    ∃ loop, v.loop? request = some loop ∧ value = loop.register := by
  obtain ⟨write, hw, hc, rfl⟩ := mem_body_of_mem_accesses h
  cases request with
  | on duration =>
    refine ⟨_, rfl, ?_⟩
    rcases List.mem_append.1 hw with hw | hw
    · obtain ⟨-, rfl⟩ := Script.mem_ifExposed.1 hw
      cases hc
    · obtain ⟨hr, hcat, -⟩ := v.sampleSteady_frame
      rw [loop_of_mem_playScript hw hc, hr, hcat]
      rfl
  | effect effect strength =>
    refine ⟨_, rfl, ?_⟩
    cases hp : v.catalog.plan? effect strength with
    | none => simp [body, hp] at hw
    | some plan =>
      have hb : v.body (.effect effect strength) = v.effectScript plan := by simp [body, hp]
      rw [hb, effectScript, List.mem_append, List.mem_append] at hw
      rcases hw with (hw | hw) | hw
      · have hm := channel_mem_programScript hw
        rw [hc] at hm
        simp [programChannels] at hm
      · obtain ⟨-, rfl⟩ := Script.mem_ifExposed.1 hw
        cases hc
      · exact loop_of_mem_playScript hw hc
  | off | amplitude | external | supportsAmplitude | supportsExternal | report =>
    have hm := channel_mem_body hw
    rw [hc] at hm
    simp [writable, preparing] at hm

/-- Steady vibration chooses a loop wherever there is one to choose: nothing that may stop it comes
first. -/
theorem exists_loop_on [FixedChannels σ] (v : Vibrator σ)
    (hc : Device.has v.device .ctrlLoop = true) (duration : UInt32) :
    ∃ value outcome, .write .ctrlLoop value outcome ∈ v.accesses (.on duration) := by
  obtain ⟨made, _, ha, hr, -⟩ := v.accesses_ran (.on duration)
  have hs : Device.has v.sampleSteady.2.device .ctrlLoop = true := by rw [has_sampleSteady, hc]
  obtain ⟨loop, after, he⟩ : ∃ loop after, v.body (.on duration) =
      v.sampleSteady.2.globalScaleScript true ++ ⟨.ctrlLoop, loop, false⟩ :: after := by
    simp only [body, steadyScript, playScript, Script.ifExposed, if_pos hs, List.append_assoc,
      List.singleton_append]
    exact ⟨_, _, rfl⟩
  rw [he] at hr
  obtain ⟨outcome, hm⟩ := hr.exists_mem fun write hw => by
    obtain ⟨-, rfl⟩ := Script.mem_ifExposed.1 hw
    rfl
  rw [ha]
  exact ⟨loop, outcome, List.mem_append_right _ hm⟩

/-! ## Runs -/

section
variable {device : σ} {record : Record} {v : Vibrator σ}

/-- **The loop is chosen by the padded duration.**  After any run on a driver with loop control,
steady vibration tells it a loop: closed, which is zero, exactly if the duration with the start
latency, or without it where both are too long, is above the threshold.  This is what the duration
asked for would choose, unless the latency takes it past the threshold.  An effect never tells it
anything but one, the open loop. -/
theorem loop_chosen_by_padded_duration [FixedChannels σ] (up : bringUp device record = .ok v)
    (hc : Device.has device .ctrlLoop = true) (requests : List Request) :
    (∀ duration,
      (∃ value outcome,
        .write .ctrlLoop value outcome ∈ (v.serveAll requests).2.accesses (.on duration)) ∧
      ∀ value outcome,
        .write .ctrlLoop value outcome ∈ (v.serveAll requests).2.accesses (.on duration) →
        (value.toText =
          if record.closeLoopThreshold <
            addUnlessTooLong duration (Device.startLatency device) then "0" else "1") ∧
        ((value.toText = if record.closeLoopThreshold < duration then "0" else "1") ↔
          ¬TakenPast record.closeLoopThreshold duration (Device.startLatency device))) ∧
    ∀ effect strength value outcome,
      .write .ctrlLoop value outcome ∈ (v.serveAll requests).2.accesses (.effect effect strength) →
        value.toText = "1" := by
  obtain ⟨state, hs⟩ := settled_serveAll (settled_bringUp up) requests
  have hlatency : (v.serveAll requests).2.catalog.startLatency = Device.startLatency device := by
    rw [hs.catalog_eq]
    rfl
  have hthreshold : (v.serveAll requests).2.record.closeLoopThreshold =
      record.closeLoopThreshold := by rw [hs.record_eq]
  refine ⟨fun duration => ⟨?_, fun value outcome hw => ?_⟩,
    fun effect strength value outcome hw => ?_⟩
  · exact exists_loop_on _ (by rw [has_serveAll, has_bringUp up, hc]) duration
  · obtain ⟨loop, hl, rfl⟩ := loop_of_mem_accesses hw
    have htext : loop.register.toText =
        if record.closeLoopThreshold < addUnlessTooLong duration (Device.startLatency device)
          then "0" else "1" := by
      rw [← Option.some.inj hl, LoopControl.text_select, hlatency, hthreshold]
      simp
    refine ⟨htext, ?_⟩
    rw [htext]
    by_cases hd : record.closeLoopThreshold < duration
    · have hn : ¬TakenPast record.closeLoopThreshold duration (Device.startLatency device) :=
        fun h => UInt32.not_le.2 hd h.1
      simp [lt_addUnlessTooLong_iff, hd, hn]
    · by_cases ht : TakenPast record.closeLoopThreshold duration (Device.startLatency device) <;>
        simp [lt_addUnlessTooLong_iff, hd, ht]
  · obtain ⟨loop, hl, rfl⟩ := loop_of_mem_accesses hw
    rw [← Option.some.inj hl]
    rfl

/-- A unit whose loop is closed for vibrations of more than 20 ms. -/
def Record.loopedAfterTwenty : Record :=
  .ofSources {} { closeLoopThreshold := 20 }

/-- A driver that exposes every channel and takes 6 ms to start. -/
def Simulated.waking : Simulated :=
  { exposed := Channel.all, reads := [], failing := [], latency := 6 }

theorem padded_vibration_within_threshold :
    ∃ v value outcome, bringUp Simulated.waking Record.loopedAfterTwenty = .ok v ∧
      Device.has Simulated.waking .ctrlLoop = true ∧
      .write .ctrlLoop value outcome ∈ (v.serveAll [.off]).2.accesses (.on 14) ∧
      value.toText = "1" := by
  obtain ⟨v, up⟩ : ∃ v, bringUp Simulated.waking Record.loopedAfterTwenty = .ok v := ⟨_, rfl⟩
  obtain ⟨hon, -⟩ := loop_chosen_by_padded_duration up rfl [.off]
  obtain ⟨⟨value, outcome, hw⟩, htext⟩ := hon 14
  exact ⟨v, value, outcome, up, rfl, hw, (htext value outcome hw).1⟩

/-- A vibration of 20 ms is not longer than a threshold of 20 ms, and yet closes the loop of a driver
that takes 6 ms to start. -/
theorem latency_closes_loop_at_threshold :
    ∃ v outcome, bringUp Simulated.waking Record.loopedAfterTwenty = .ok v ∧
      ¬Record.loopedAfterTwenty.closeLoopThreshold < 20 ∧
      .write .ctrlLoop LoopControl.closed.register outcome ∈ v.accesses (.on 20) := by
  obtain ⟨v, up⟩ : ∃ v, bringUp Simulated.waking Record.loopedAfterTwenty = .ok v := ⟨_, rfl⟩
  refine ⟨v, .ok (), up, by decide, ?_⟩
  cases up
  exact List.mem_of_getElem? (i := 1) rfl

end
end Vibrator
end Haptics
