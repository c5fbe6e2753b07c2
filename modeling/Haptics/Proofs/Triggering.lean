import Haptics.Proofs.Activation
import Haptics.Proofs.Cs40l25Nodes
import Haptics.Proofs.Programs

/-!
# Triggered waveforms

Mode, sequencer and effect index of a CS40L25 are three ways to write one node, and files may be
edited between calls.  Each request that starts playback writes the index it needs itself, and what
it writes afterwards leaves the node alone (`Cs40l25.Spares`).  So at every start the trigger nodes
hold what the request asks for (`triggers_what_is_asked`).
-/

namespace Haptics

/-! ## Programs -/

namespace Cs40l25

/-- The nodes hold what plays a program: the index of its waveform, or the program in the queue
and the index that plays the queue. -/
def Loaded (s : Cs40l25) (base : String) (program : Program) : Prop :=
  match program with
  | .sequence index => s.text base "device/cp_trigger_index" = .ok (toString index ++ "\n")
  | .queue .. => s.text base "device/cp_trigger_index" = .ok "65534\n" ∧
    s.text base "device/cp_trigger_queue" = .ok (program.text ++ "\n")

end Cs40l25

/-- A double click is played through the queue where the driver has one, and all else by the index
of one waveform. -/
theorem Catalog.program_of_plan {catalog : Catalog} {effect : Effect} {strength : Strength}
    {plan : Plan} (h : catalog.plan? effect strength = some plan) :
    (effect = .doubleClick ∧ catalog.queue = true ∧
        plan.program = .queue clickWaveform doubleClickSilence heavyClickWaveform) ∨
      (effect = .doubleClick → catalog.queue = false ∧
        plan.program = .sequence doubleClickWaveform) ∧
        ∃ index, plan.program = .sequence index := by
  cases effect with
  | doubleClick =>
    simp only [plan?] at h
    split at h
    · rename_i hq
      obtain rfl := Option.some.inj h
      exact .inl ⟨rfl, hq, rfl⟩
    · rename_i hq
      obtain rfl := Option.some.inj h
      exact .inr ⟨fun _ => ⟨by simpa using hq, rfl⟩, doubleClickWaveform, rfl⟩
  | click | tick | heavyClick | textureTick =>
    obtain rfl := Option.some.inj h
    exact .inr ⟨by simp, _, rfl⟩
  | thud | pop => cases h

/-! ## Starts -/

namespace Vibrator
open Cs40l25

section
variable {v : Vibrator Cs40l25} {files : FileTree} {base : String}

/-- The length, the drive and the start of a playback leave the trigger nodes alone, and so does
the attenuation of an effect. -/
theorem spares_of_mem {write : Write} {watched : Channel}
    (hc : write.channel ∈ [.scale, .ctrlLoop, .duration, .activate] ++ Channel.shaping)
    (hw : watched ∈ [.effectIndex, .effectQueue]) : Spares watched write := by
  have hall : ∀ channel ∈ [.scale, .ctrlLoop, .duration, .activate] ++ Channel.shaping,
      ∀ watched ∈ [Channel.effectIndex, .effectQueue], target channel ≠ watched := by decide
  exact .inl (hall _ hc _ hw)

theorem spares_settingScript {setting : Option DriveSetting} {position : Nat} {write : Write}
    (h : write ∈ settingScript setting position) {watched : Channel}
    (hw : watched ∈ [.effectIndex, .effectQueue]) : Spares watched write := by
  obtain ⟨s, -, ht⟩ := told_of_mem_settingScript h
  exact spares_of_mem (List.mem_append_right _ (DriveSetting.mem_shaping_of_told ht)) hw

/-- Playing a waveform leaves the trigger nodes alone. -/
theorem spares_playScript {duration : UInt32} {setting : Option DriveSetting} {position : Nat}
    {write : Write} (h : write ∈ v.playScript duration .waveform setting position)
    {watched : Channel} (hw : watched ∈ [.effectIndex, .effectQueue]) : Spares watched write := by
  simp only [playScript, List.mem_append, List.mem_singleton, Script.mem_ifExposed] at h
  rcases h with (((⟨-, rfl⟩ | ⟨-, rfl⟩) | rfl) | h) | rfl
  · exact spares_of_mem (by simp) hw
  · exact .inr ⟨rfl, rfl⟩
  · exact spares_of_mem (by simp) hw
  · exact spares_settingScript h hw
  · exact spares_of_mem (by simp) hw

/-- Steady vibration chooses its mode, and what follows leaves the index alone. -/
theorem steadyScript_of_has (h : Device.has v.device .mode = true) (duration : UInt32) :
    ∃ before after, v.steadyScript duration =
        before ++ { channel := .mode, value := .text PlayMode.realTime.name } :: after ∧
      ∀ write ∈ after, Spares .effectIndex write := by
  let timeout := addUnlessTooLong duration v.catalog.startLatency
  let loop := LoopControl.select (PlayMode.realTime = .realTime) timeout v.record.closeLoopThreshold
  have hmode : Script.ifExposed v.device
      { channel := .mode, value := .text PlayMode.realTime.name } =
        [{ channel := .mode, value := .text PlayMode.realTime.name }] := if_pos h
  refine ⟨v.globalScaleScript true ++ Script.ifExposed v.device ⟨.ctrlLoop, loop.register, false⟩,
    { channel := .duration, value := .ofWord timeout } :: (settingScript v.activeSteady 0 ++
      [.start]), ?_, fun write hw => ?_⟩
  · rw [steadyScript, playScript, hmode]
    simp only [List.append_assoc, List.singleton_append]
    rfl
  · have hi : Channel.effectIndex ∈ [Channel.effectIndex, .effectQueue] := List.mem_cons_self
    rcases List.mem_cons.1 hw with rfl | hw
    · exact spares_of_mem (by simp) hi
    · rcases List.mem_append.1 hw with hw | hw
      · exact spares_settingScript hw hi
      · obtain rfl := List.mem_singleton.1 hw
        exact spares_of_mem (by simp [Write.start]) hi

/-- An effect hands over its program, and what follows leaves the trigger nodes alone. -/
theorem effectScript_spares (plan : Plan) :
    ∃ after, v.effectScript plan = programScript plan.program ++ after ∧
      ∀ write ∈ after, ∀ watched ∈ [.effectIndex, .effectQueue], Spares watched write := by
  refine ⟨_, List.append_assoc _ _ _, fun write hw watched hwatched => ?_⟩
  rcases List.mem_append.1 hw with hw | hw
  · obtain ⟨-, rfl⟩ := Script.mem_ifExposed.1 hw
    exact spares_of_mem (by simp) hwatched
  · exact spares_playScript hw hwatched

/-- A program that was handed over is loaded once its effect has been started. -/
theorem loaded_of_run {s : Cs40l25} (h : Opened files base s) {program : Program}
    {after : Script} (hok : ((programScript program ++ after).run s).1 = .ok ())
    (hs : ∀ write ∈ after, ∀ watched ∈ [.effectIndex, .effectQueue], Spares watched write) :
    Loaded ((programScript program ++ after).run s).2 base program := by
  cases program with
  | sequence index =>
    have ht := text_run [] .effectIndex (.ofWord index) h rfl hok rfl
      (write_sequencer_of_leadsWith (Program.leadsWith_sequence index))
      fun write hw => hs write hw .effectIndex (by simp)
    rw [RegisterValue.toText_ofWord] at ht
    exact ht
  | queue first pause second =>
    have hi := text_run [_] .effectIndex (.ofWord Catalog.queueTrigger) h rfl hok rfl
      (fun _ => rfl) fun write hw => hs write hw .effectIndex (by simp)
    have hrest : ∀ write ∈ { channel := .effectIndex, value := .ofWord Catalog.queueTrigger } ::
        after, Spares .effectQueue write := by
      intro write hw
      rcases List.mem_cons.1 hw with rfl | hw
      · exact .inl (by decide)
      · exact hs write hw .effectQueue (by simp)
    have hq := text_run [] .effectQueue _ h rfl hok rfl (fun _ => rfl) hrest
    exact ⟨hi, hq⟩

/-- Steady vibration that is started leaves its index in the node. -/
theorem index_of_steady (h : Opened files base v.device)
    (hindex : files.contains (FileTree.join base "device/cp_trigger_index") = true)
    {duration : UInt32} (hok : ((v.opened (.on duration)).runScript (v.body (.on duration))).1 =
      .ok ()) :
    (v.serve (.on duration)).2.device.text base "device/cp_trigger_index" = .ok "0\n" := by
  have ho : Opened files base v.sampleSteady.2.device :=
    (lasting_opened files base).sampleSteady h
  have hmode : Device.has v.sampleSteady.2.device .mode = true :=
    (has_of_opened ho).1.trans hindex
  obtain ⟨before, after, he, hs⟩ := steadyScript_of_has hmode duration
  have hrun : ((v.body (.on duration)).run v.sampleSteady.2.device).1 = .ok () := hok
  rw [serve_device]
  rw [body, he] at hrun ⊢
  exact text_run before .effectIndex (.ofWord steadyWaveform) ho rfl hrun rfl (fun _ => rfl) hs

/-- An effect that is started leaves its program in the nodes. -/
theorem loaded_of_effect (h : Opened files base v.device) {effect : Effect} {strength : Strength}
    {plan : Plan} (hplan : v.catalog.plan? effect strength = some plan)
    (hok : ((v.opened (.effect effect strength)).runScript
      (v.body (.effect effect strength))).1 = .ok ()) :
    Loaded (v.serve (.effect effect strength)).2.device base plan.program := by
  have hb : v.body (.effect effect strength) = v.effectScript plan := by simp [body, hplan]
  have hrun : ((v.body (.effect effect strength)).run v.device).1 = .ok () := hok
  obtain ⟨after, he, hs⟩ := effectScript_spares (v := v) plan
  rw [serve_device]
  rw [hb, he] at hrun ⊢
  exact loaded_of_run h hrun hs

/-- **Each playback triggers what was asked for.**  A driver is opened on files that hold its
trigger index, the files are edited at will, the vibrator is brought up, and then calls and edits
come in any order.  Whenever a call starts playback, the start is its last access, and after it the
index is that of steady vibration, or the nodes hold the program of the plan.  A double click goes
through the queue where its node was there when the driver was opened, and is waveform 3 where it
was not; every other effect is a single waveform.  Choosing the mode of waveforms changes nothing.
-/
theorem triggers_what_is_asked {edited : FileTree} {record : Record}
    (hindex : files.contains (FileTree.join base "device/cp_trigger_index") = true)
    (up : bringUp ((attach files base).edit edited) record = .ok v) (events : List Event) :
    let w := v.meetAll events
    let queued := files.contains (FileTree.join base "device/cp_trigger_queue")
    (∀ request before after, w.accesses request = before ++ .started :: after →
      after = [] ∧
      match request with
      | .on _ => (w.serve request).2.device.text base "device/cp_trigger_index" = .ok "0\n"
      | .effect effect strength => ∃ plan, w.catalog.plan? effect strength = some plan ∧
        Loaded (w.serve request).2.device base plan.program ∧
        (if effect = .doubleClick then
          plan.program = if queued then
              .queue Catalog.clickWaveform Catalog.doubleClickSilence Catalog.heavyClickWaveform
            else .sequence 3
        else ∃ index, plan.program = .sequence index)
      | _ => False) ∧
    ∀ s : Cs40l25, Device.write .mode (.text PlayMode.waveform.name) s = (.ok (), s) := by
  intro w queued
  have hopened : Opened files base w.device :=
    opened_meetAll ((lasting_opened files base).bringUp up rfl) events
  have hqueue : w.catalog.queue = queued := by
    have he : Opened files base ((attach files base).edit edited) := rfl
    rw [catalog_meetAll, (settled_bringUp up).catalog_eq]
    exact (has_of_opened he).2
  refine ⟨fun request before after ha => ?_, fun s => rfl⟩
  obtain ⟨prepared, made, hp, -, -, hafter, hok⟩ := started ha
  refine ⟨hafter, ?_⟩
  cases request with
  | on duration => exact index_of_steady hopened hindex hok
  | effect effect strength =>
    obtain ⟨plan, hplan, -⟩ := Option.map_eq_some_iff.1 hp
    refine ⟨plan, hplan, loaded_of_effect hopened hplan hok, ?_⟩
    rcases Catalog.program_of_plan hplan with ⟨rfl, hq, hprogram⟩ | ⟨hd, index, hprogram⟩
    · rw [if_pos rfl, hprogram, ← hqueue, hq, if_pos rfl]
    · by_cases hdouble : effect = .doubleClick
      · obtain ⟨hq, hthree⟩ := hd hdouble
        rw [if_pos hdouble, hthree, ← hqueue, hq]
        rfl
      · rw [if_neg hdouble]
        exact ⟨index, hprogram⟩
  | off | amplitude | external | supportsAmplitude | supportsExternal | report => cases hp

end

/-- The files of a driver that has a trigger index and a queue but no attenuation. -/
def bench : FileTree :=
  { entries :=
      [(["device"], .directory), (["activate"], .file (.text "0\n")),
       (["duration"], .file (.text "0\n")), (["state"], .file (.text "0\n")),
       (["device", "cp_trigger_index"], .file (.text "0\n")),
       (["device", "cp_trigger_queue"], .file (.text "\n"))]
    workingDirectory := [] }

theorem double_click_goes_through_queue :
    ∃ v before after, bringUp ((attach bench "").edit bench) .uncalibrated = .ok v ∧
      (v.meetAll [.request (.on 20), .edit bench]).accesses (.effect .doubleClick .strong) =
        before ++ .started :: after ∧
      Loaded ((v.meetAll [.request (.on 20), .edit bench]).serve
          (.effect .doubleClick .strong)).2.device ""
        (.queue Catalog.clickWaveform Catalog.doubleClickSilence Catalog.heavyClickWaveform) := by
  obtain ⟨v, up⟩ : ∃ v, bringUp ((attach bench "").edit bench) .uncalibrated = .ok v := ⟨_, rfl⟩
  have hindex : bench.contains (FileTree.join "" "device/cp_trigger_index") = true := by decide
  have hqueue : bench.contains (FileTree.join "" "device/cp_trigger_queue") = true := by decide
  have hmem : .started ∈ (v.meetAll [.request (.on 20), .edit bench]).accesses
      (.effect .doubleClick .strong) := by
    cases up
    exact List.mem_of_getElem? (i := 4) rfl
  obtain ⟨before, after, ha⟩ := List.append_of_mem hmem
  obtain ⟨-, plan, -, hl, hp⟩ :=
    (triggers_what_is_asked hindex up [.request (.on 20), .edit bench]).1 _ before after ha
  rw [if_pos rfl, if_pos hqueue] at hp
  rw [hp] at hl
  exact ⟨v, before, after, up, ha, hl⟩

end Vibrator
end Haptics
