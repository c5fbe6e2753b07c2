import Haptics.Proofs.Exposure
import Haptics.Proofs.Shaping

/-!
# The first failure stops a playback

What starts a playback is a fixed sequence of accesses.  It is followed up to the first mandatory
write that fails and no further, so the driver is not activated past a failure; the call reports
that failure and nothing else.  Only the temperature, the global level and the loop control may
fail without consequence.
-/

namespace Haptics

/-- What is asked of a driver. -/
inductive Attempt where
  | read (channel : Channel)
  | write (channel : Channel) (value : RegisterValue)
deriving DecidableEq

def Attempt.channel : Attempt → Channel
  | read channel => channel
  | write channel _ => channel

namespace Access

/-- What an access asked for, whatever the driver answered. -/
def attempt : Access → Attempt
  | write channel value _ => .write channel value
  | read channel _ => .read channel

theorem map_channel_attempt (made : List Access) :
    (made.map attempt).map Attempt.channel = made.map channel := by
  rw [List.map_map]
  refine List.map_congr_left fun access _ => ?_
  cases access <;> rfl

/-- The channels that a playback can do without. -/
def dispensable : List Channel :=
  [.temperature, .globalScale, .ctrlLoop]

/-- The error that an access ends a playback with. -/
def fatal? : Access → Option Error
  | write channel _ (.error fault) =>
    if channel ∈ dispensable then none else some (.writeFailed channel fault)
  | _ => none

end Access

/-- All attempts of a sequence are made and no access is fatal, or the accesses end with the first
that is. -/
def MadeUntilFatal (sequence : List Attempt) (made : List Access) : Prop :=
  (made.map Access.attempt = sequence ∧ ∀ access ∈ made, access.fatal? = none) ∨
    ∃ before last, made = before ++ [last] ∧ (∀ access ∈ before, access.fatal? = none) ∧
      last.fatal? ≠ none

theorem MadeUntilFatal.cons {sequence : List Attempt} {made : List Access} {access : Access}
    (h : MadeUntilFatal sequence made) (hn : access.fatal? = none) :
    MadeUntilFatal (access.attempt :: sequence) (access :: made) := by
  rcases h with ⟨rfl, hall⟩ | ⟨before, last, rfl, hall, hl⟩
  · exact .inl ⟨rfl, by simpa [hn] using hall⟩
  · exact .inr ⟨access :: before, last, rfl, by simpa [hn] using hall, hl⟩

/-- The accesses follow a sequence of attempts up to the first that is fatal, none of them is made
twice, and the reply is the fatal error or, without one, the answer. -/
structure Followed (sequence : List Attempt) (made : List Access) (answer reply : Reply) :
    Prop where
  isPrefix : made.map Access.attempt <+: sequence
  ends : MadeUntilFatal sequence made
  once : (made.map Access.channel).Nodup
  refused : ∀ error, reply = .refused error ↔ ∃ access ∈ made, access.fatal? = some error
  answered : (∀ access ∈ made, access.fatal? = none) → reply = answer

/-! ## Runs of scripts -/

namespace Script

def attempts (script : Script) : List Attempt :=
  script.map fun write => .write write.channel write.value

/-- A script whose mandatory writes are those of channels that a playback cannot do without. -/
def Strict (script : Script) : Prop :=
  ∀ write ∈ script, write.mandatory = true ↔ write.channel ∉ Access.dispensable

theorem strict_nil : Strict [] :=
  List.forall_mem_nil _

theorem strict_cons {write : Write} {rest : Script} :
    Strict (write :: rest) ↔
      (write.mandatory = true ↔ write.channel ∉ Access.dispensable) ∧ Strict rest :=
  List.forall_mem_cons

theorem strict_append {first second : Script} :
    Strict (first ++ second) ↔ Strict first ∧ Strict second :=
  List.forall_mem_append

theorem attempts_append (first second : Script) :
    attempts (first ++ second) = attempts first ++ attempts second :=
  List.map_append

section
variable {σ : Type} [Device σ] {device : σ} {write : Write}

theorem strict_ifExposed (h : write.mandatory = true ↔ write.channel ∉ Access.dispensable) :
    Strict (ifExposed device write) := by
  unfold ifExposed
  split <;> simp [Strict, h]

theorem attempts_ifExposed :
    (ifExposed device write).attempts =
      if Device.has device write.channel then [.write write.channel write.value] else [] := by
  unfold ifExposed
  split <;> rfl

end

section
variable {script : Script} {made : List Access} {outcome : Except Error Unit}

theorem Ran.isPrefix (h : Ran script made outcome) : made.map Access.attempt <+: script.attempts := by
  induction h with
  | done => exact List.prefix_rfl
  | wrote _ ih | skipped _ _ _ ih => exact (List.prefix_cons_inj _).2 ih
  | stopped => exact ⟨_, rfl⟩

theorem Ran.madeUntilFatal (h : Ran script made outcome) (hs : Strict script) :
    MadeUntilFatal script.attempts made := by
  induction h with
  | done => exact .inl ⟨rfl, by simp⟩
  | wrote _ ih => exact (ih (strict_cons.1 hs).2).cons rfl
  | @skipped write rest made outcome fault hm _ ih =>
    have hd : write.channel ∈ Access.dispensable := by
      simpa [hm] using (strict_cons.1 hs).1
    have hn : (Access.write write.channel write.value (.error fault)).fatal? = none := by
      simp [Access.fatal?, hd]
    exact (ih (strict_cons.1 hs).2).cons hn
  | @stopped write rest fault hm =>
    have hd : write.channel ∉ Access.dispensable := (strict_cons.1 hs).1.1 hm
    exact .inr ⟨[], _, rfl, by simp, by simp [Access.fatal?, hd]⟩

/-- A run fails with the error of its fatal access, and succeeds if there is none. -/
theorem Ran.outcome_error (h : Ran script made outcome) (hs : Strict script) (error : Error) :
    outcome = .error error ↔ ∃ access ∈ made, access.fatal? = some error := by
  induction h with
  | done => simp
  | wrote _ ih =>
    rw [ih (strict_cons.1 hs).2]
    simp [Access.fatal?]
  | @skipped write rest made outcome fault hm _ ih =>
    have hd : write.channel ∈ Access.dispensable := by
      simpa [hm] using (strict_cons.1 hs).1
    rw [ih (strict_cons.1 hs).2]
    simp [Access.fatal?, hd]
  | @stopped write rest fault hm =>
    have hd : write.channel ∉ Access.dispensable := (strict_cons.1 hs).1.1 hm
    simp [Access.fatal?, hd]

end
end Script

/-! ## Sequences -/

namespace Vibrator
variable {σ : Type} [Device σ]

/-- The attempts whose condition holds. -/
def offered (items : List (Bool × Attempt)) : List Attempt :=
  (items.filter (·.1)).map (·.2)

/-- What tells the driver a setting and then starts it. -/
def startSequence (setting : Option DriveSetting) (position : Nat) : List Attempt :=
  (setting.map fun s =>
    [.write .waveShape s.shape.register, .write .odClamp (.ofWord (s.clampAt position)),
     .write .lraPeriod (.ofWord s.period)]).getD []
    ++ [.write .activate (.bool true)]

/-- All that starts steady vibration in a setting. -/
def steadySequence (v : Vibrator σ) (duration : UInt32) (setting : Option DriveSetting) :
    List Attempt :=
  let has := Device.has v.device
  let timeout := addUnlessTooLong duration v.catalog.startLatency
  let loop := LoopControl.select true timeout v.record.closeLoopThreshold
  offered
      [(v.thermal.isSome, .read .temperature),
       (has .globalScale, .write .globalScale (.ofWord (percentSteps Float v.record.globalLevel))),
       (has .ctrlLoop, .write .ctrlLoop loop.register),
       (has .mode, .write .mode (.text "rtp")),
       (true, .write .duration (.ofWord timeout))]
    ++ startSequence setting 0

def programSequence : Program → List Attempt
  | .sequence index => [.write .sequencer (.text (Program.sequence index).text)]
  | .queue first pause second =>
    [.write .effectQueue (.text (Program.queue first pause second).text),
     .write .effectIndex (.ofWord Catalog.queueTrigger)]

/-- All that starts an effect. -/
def effectSequence (v : Vibrator σ) (plan : Plan) : List Attempt :=
  let has := Device.has v.device
  let loop := LoopControl.select false plan.duration v.record.closeLoopThreshold
  programSequence plan.program
    ++ offered
      [(has .scale, .write .scale (.ofWord (v.effectScale plan.slot))),
       (has .ctrlLoop, .write .ctrlLoop loop.register),
       (has .mode, .write .mode (.text "waveform")),
       (true, .write .duration (.ofWord plan.duration))]
    ++ startSequence v.effectSetting plan.slot.index

section
variable (v : Vibrator σ)

theorem offered_cons (condition : Bool) (attempt : Attempt) (rest : List (Bool × Attempt)) :
    offered ((condition, attempt) :: rest) =
      (if condition then [attempt] else []) ++ offered rest := by
  cases condition <;> rfl

theorem attempts_settingScript (setting : Option DriveSetting) (position : Nat) :
    (settingScript setting position).attempts ++ [.write .activate (.bool true)] =
      startSequence setting position := by
  cases setting <;> rfl

theorem sampling_attempts :
    v.sampling.map Access.attempt = if v.thermal.isSome then [.read .temperature] else [] := by
  unfold sampling
  cases v.thermal <;> rfl

theorem attempts_playScript (duration : UInt32) (mode : PlayMode) (setting : Option DriveSetting)
    (position : Nat) :
    (v.playScript duration mode setting position).attempts =
      offered
        [(Device.has v.device .ctrlLoop, .write .ctrlLoop
            (LoopControl.select (mode = .realTime) duration v.record.closeLoopThreshold).register),
         (Device.has v.device .mode, .write .mode (.text mode.name)),
         (true, .write .duration (.ofWord duration))]
        ++ startSequence setting position := by
  simp only [playScript, Script.attempts_append, Script.attempts_ifExposed, offered_cons,
    List.append_assoc, ← attempts_settingScript]
  rfl

theorem attempts_effectScript (plan : Plan) :
    (v.effectScript plan).attempts = v.effectSequence plan := by
  have hp : (programScript plan.program).attempts = programSequence plan.program := by
    cases plan.program <;> rfl
  simp only [effectScript, effectSequence, Script.attempts_append, Script.attempts_ifExposed,
    attempts_playScript, hp, offered_cons, List.append_assoc]
  rfl

theorem attempts_steadyScript [FixedChannels σ] (duration : UInt32) :
    v.sampling.map Access.attempt ++ (v.sampleSteady.2.steadyScript duration).attempts =
      v.steadySequence duration v.sampleSteady.2.activeSteady := by
  obtain ⟨hr, hc, -⟩ := v.sampleSteady_frame
  simp only [steadyScript, steadySequence, globalScaleScript, sampling_attempts,
    Script.attempts_append, Script.attempts_ifExposed, attempts_playScript, offered_cons,
    has_sampleSteady, hr, hc, List.append_assoc]
  rfl

end

/-! ## Playbacks -/

theorem strict_playScript (v : Vibrator σ) (duration : UInt32) (mode : PlayMode)
    (setting : Option DriveSetting) (position : Nat) :
    (v.playScript duration mode setting position).Strict := by
  have hs : (settingScript setting position).Strict := by
    cases setting <;> simp [settingScript, Script.Strict, Access.dispensable]
  simp [playScript, Script.strict_append, Script.strict_ifExposed, Script.strict_cons, hs,
    Script.strict_nil, Access.dispensable]

theorem strict_steadyScript (v : Vibrator σ) (duration : UInt32) :
    (v.steadyScript duration).Strict :=
  Script.strict_append.2
    ⟨Script.strict_ifExposed (by simp [Access.dispensable]), strict_playScript _ _ _ _ _⟩

theorem strict_effectScript (v : Vibrator σ) (plan : Plan) : (v.effectScript plan).Strict := by
  have hp : (programScript plan.program).Strict := by
    cases plan.program <;> simp [programScript, Script.Strict, Access.dispensable]
  exact Script.strict_append.2 ⟨Script.strict_append.2
    ⟨hp, Script.strict_ifExposed (by simp [Access.dispensable])⟩, strict_playScript _ _ _ _ _⟩

theorem offered_channels (items : List (Bool × Attempt)) :
    ((offered items).map Attempt.channel).Sublist (items.map fun item => item.2.channel) := by
  rw [offered, List.map_map]
  exact List.filter_sublist.map _

theorem startSequence_channels (setting : Option DriveSetting) (position : Nat) :
    ((startSequence setting position).map Attempt.channel).Sublist
      [.waveShape, .odClamp, .lraPeriod, .activate] := by
  cases setting with
  | none => exact List.sublist_append_right [Channel.waveShape, .odClamp, .lraPeriod] _
  | some => exact List.Sublist.refl _

theorem nodup_steadySequence (v : Vibrator σ) (duration : UInt32) (setting : Option DriveSetting) :
    ((v.steadySequence duration setting).map Attempt.channel).Nodup := by
  rw [steadySequence, List.map_append]
  exact List.Nodup.sublist ((offered_channels _).append (startSequence_channels setting 0))
    (by simp [Attempt.channel])

theorem nodup_effectSequence (v : Vibrator σ) (plan : Plan) :
    ((v.effectSequence plan).map Attempt.channel).Nodup := by
  rw [effectSequence, List.map_append, List.map_append]
  refine List.Nodup.sublist (((List.Sublist.refl _).append (offered_channels _)).append
    (startSequence_channels v.effectSetting plan.slot.index)) ?_
  cases plan.program <;> simp [programSequence, Attempt.channel]

theorem fatal_opening (v : Vibrator σ) (request : Request) :
    ∀ access ∈ v.opening request, access.fatal? = none := by
  intro access ha
  cases access with
  | write channel value outcome => exact absurd ha (write_not_mem_opening _ _ _ _ _)
  | read => rfl

theorem madeUntilFatal_append {sequence : List Attempt} {reads made : List Access}
    (h : MadeUntilFatal sequence made) (hr : ∀ access ∈ reads, access.fatal? = none) :
    MadeUntilFatal (reads.map Access.attempt ++ sequence) (reads ++ made) := by
  induction reads with
  | nil => exact h
  | cons access rest ih =>
    obtain ⟨hn, hr⟩ := List.forall_mem_cons.1 hr
    exact (ih hr).cons hn

theorem exists_fatal_append {reads made : List Access} {error : Error}
    (hr : ∀ access ∈ reads, access.fatal? = none) :
    (∃ access ∈ reads ++ made, access.fatal? = some error) ↔
      ∃ access ∈ made, access.fatal? = some error := by
  constructor
  · rintro ⟨access, hm, hf⟩
    rcases List.mem_append.1 hm with hm | hm
    · rw [hr access hm] at hf
      cases hf
    · exact ⟨access, hm, hf⟩
  · rintro ⟨access, hm, hf⟩
    exact ⟨access, List.mem_append_right _ hm, hf⟩

/-- A request follows its reads and its script, if the script is strict and addresses each channel
once. -/
theorem followed_of_strict (v : Vibrator σ) (request : Request) (hs : (v.body request).Strict)
    (hn : (((v.opening request).map Access.attempt ++ (v.body request).attempts).map
      Attempt.channel).Nodup)
    (ha : ∀ error, v.answer request ≠ .refused error) :
    Followed ((v.opening request).map Access.attempt ++ (v.body request).attempts)
      (v.accesses request) (v.answer request) (v.serve request).1 := by
  obtain ⟨made, outcome, he, hr, ho⟩ := v.accesses_ran request
  have hp : (v.accesses request).map Access.attempt <+:
      (v.opening request).map Access.attempt ++ (v.body request).attempts := by
    rw [he, List.map_append]
    exact (List.prefix_append_right_inj _).2 hr.isPrefix
  have hf (error : Error) : outcome = .error error ↔
      ∃ access ∈ v.accesses request, access.fatal? = some error := by
    rw [hr.outcome_error hs, he, exists_fatal_append (v.fatal_opening request)]
  refine ⟨hp, ?_, ?_, fun error => ?_, fun hall => ?_⟩
  · rw [he]
    exact madeUntilFatal_append (hr.madeUntilFatal hs) (v.fatal_opening request)
  · rw [← Access.map_channel_attempt]
    exact hn.sublist (hp.sublist.map _)
  · rw [← hf, ho]
    cases outcome with
    | ok => simpa [Reply.ofExcept] using ha error
    | error => simp [Reply.ofExcept]
  · rw [ho]
    cases outcome with
    | ok => rfl
    | error error =>
      obtain ⟨access, hm, hfatal⟩ := (hf error).1 rfl
      rw [hall access hm] at hfatal; cases hfatal

/-- **Steady vibration and effects stop at their first failure**, in every state of the vibrator
and on every device whose channels are fixed.  The accesses of a call are those of its sequence up
to the first mandatory write that fails, none is made twice, and the call fails with that write's
error or else succeeds. -/
theorem playback_stops_at_first_failure [FixedChannels σ] (v : Vibrator σ) :
    (∀ duration,
      Followed (v.steadySequence duration (v.serve (.on duration)).2.activeSteady)
          (v.accesses (.on duration)) (.duration duration) (v.serve (.on duration)).1 ∧
        (v.serve (.on duration)).2.activeSteady.isSome = v.steadySetting.isSome) ∧
    ∀ effect strength plan, v.catalog.plan? effect strength = some plan →
      Followed (v.effectSequence plan) (v.accesses (.effect effect strength))
        (.outcome (.played plan.duration)) (v.serve (.effect effect strength)).1 := by
  refine ⟨fun duration => ?_, fun effect strength plan hp => ?_⟩
  · have ha : (v.serve (.on duration)).2.activeSteady = v.sampleSteady.2.activeSteady := by
      simp only [activeSteady, (v.on_frame duration).2.2]
    have hq : (v.opening (.on duration)).map Access.attempt ++ (v.body (.on duration)).attempts =
        v.steadySequence duration v.sampleSteady.2.activeSteady := v.attempts_steadyScript duration
    refine ⟨?_, ?_⟩
    · rw [ha, ← hq]
      exact v.followed_of_strict _ (strict_steadyScript _ _)
        (by rw [hq]; exact v.nodup_steadySequence _ _) (by simp [answer])
    · rw [ha, activeSteady, v.sampleSteady_frame.2.2]
      cases hd : v.drive <;> simp [steadySetting, hd]
  · have hb : v.body (.effect effect strength) = v.effectScript plan := by simp [body, hp]
    have hq : (v.opening (.effect effect strength)).map Access.attempt ++
        (v.body (.effect effect strength)).attempts = v.effectSequence plan := by
      rw [hb, v.attempts_effectScript]; rfl
    have ha : v.answer (.effect effect strength) = .outcome (.played plan.duration) := by
      simp [answer, hp]
    rw [← hq, ← ha]
    exact v.followed_of_strict _ (hb ▸ strict_effectScript v plan)
      (by rw [hq]; exact v.nodup_effectSequence plan) (by simp [ha])

theorem busy_duration_stops_click :
    ∃ v, bringUp { Simulated.hot with failing := [(.duration, "busy")] } .uncalibrated = .ok v ∧
      (v.serve (.effect .click .strong)).1 =
        .refused (.writeFailed .duration (.simulated "busy")) := by
  obtain ⟨v, up⟩ : ∃ v, bringUp { Simulated.hot with failing := [(.duration, "busy")] }
      .uncalibrated = .ok v := ⟨_, rfl⟩
  refine ⟨v, up, ?_⟩
  obtain ⟨plan, hp⟩ : ∃ plan, v.catalog.plan? .click .strong = some plan := by
    cases up
    exact ⟨_, rfl⟩
  have hf := (playback_stops_at_first_failure v).2 .click .strong plan hp
  refine (hf.refused _).2 ?_
  cases up
  exact ⟨_, List.mem_of_getElem? (i := 4) rfl, rfl⟩

end Vibrator
end Haptics
