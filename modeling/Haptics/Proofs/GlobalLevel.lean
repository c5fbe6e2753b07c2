import Haptics.Proofs.Activation

/-!
# The global level

One register attenuates every playback on top of its own strength.  Steady vibration and external
control set it to the record's level, stopping and taking control back set it to nothing, and no
other request touches it: it always stands as the last of these four left it
(`globalScale_follows_requests`).  An effect that follows steady vibration is therefore attenuated
like it, and stopping takes the attenuation from an audio stream that still has control.
-/

namespace Haptics

/-- The attenuation that a request sets, if it sets one. -/
def Record.globalSteps? (record : Record) : Request → Option UInt32
  | .on _ => some (percentSteps Float record.globalLevel)
  | .off => some 0
  | .external enabled => some (if enabled then percentSteps Float record.globalLevel else 0)
  | _ => none

/-- Who gets control by a request, if it changes hands. -/
def Request.control? : Request → Option Bool
  | .external enabled => some enabled
  | _ => none

/-- What maps to the last result of a partial map stands before only such elements as map to
nothing. -/
theorem exists_of_getLast?_filterMap {α β : Type} {f : α → Option β} {items : List α} {b : β}
    (h : (items.filterMap f).getLast? = some b) :
    ∃ earlier a later, items = earlier ++ a :: later ∧ f a = some b ∧
      ∀ x ∈ later, f x = none := by
  rw [List.getLast?_filterMap, List.findSome?_eq_some_iff] at h
  obtain ⟨first, a, rest, he, hb, hn⟩ := h
  refine ⟨rest.reverse, a, first.reverse, ?_, hb, fun x hx => hn x (List.mem_reverse.1 hx)⟩
  rw [← List.reverse_reverse items, he]
  simp

namespace Script

/-- If the first write of a script is not mandatory and the only one to its channel, a run in which
it succeeds leaves its value there. -/
theorem Ran.stored_first {write : Write} {rest : Script} {made : List Access}
    {outcome : Except Error Unit} (h : Ran (write :: rest) made outcome)
    (hm : write.mandatory = false) (hrest : ∀ other ∈ rest, other.channel ≠ write.channel)
    (hok : ∀ value answer, .write write.channel value answer ∈ made → answer = .ok ()) :
    made.filterMap (Access.stored? write.channel) = [write.value] := by
  cases h with
  | @wrote _ _ made _ h =>
    have hn : made.filterMap (Access.stored? write.channel) = [] :=
      List.filterMap_eq_nil_iff.2 (h.stored?_eq_none hrest)
    simp [Access.stored?, hn]
  | skipped fault _ h => cases hok _ _ List.mem_cons_self
  | stopped fault hmandatory =>
    rw [hm] at hmandatory
    cases hmandatory

end Script

namespace Vibrator
variable {σ : Type} [Device σ]

/-! ## One request -/

theorem globalScaleScript_of_has {v : Vibrator σ}
    (hg : Device.has v.device .globalScale = true) (attenuated : Bool) :
    v.globalScaleScript attenuated =
      [⟨.globalScale, .ofWord (if attenuated then percentSteps Float v.record.globalLevel else 0),
        false⟩] := by
  rw [globalScaleScript, Script.ifExposed, if_pos hg]

/-- A playback does not touch the global attenuation once it is to be armed. -/
theorem globalScale_not_mem_playScript (v : Vibrator σ) (duration : UInt32) (mode : PlayMode)
    (setting : Option DriveSetting) (position : Nat) :
    ∀ write ∈ v.playScript duration mode setting position, write.channel ≠ .globalScale := by
  intro write hw hc
  have hm := channel_mem_playScript hw
  rw [hc] at hm
  simp [armChannels] at hm

theorem globalScale_not_mem_preparation {v : Vibrator σ} {effect : Effect} {strength : Strength}
    {prepared : Script} (hp : v.preparation? (.effect effect strength) = some prepared) :
    ∀ write ∈ prepared, write.channel ≠ .globalScale := by
  intro write hw hc
  have hm := channel_mem_preparation hp hw
  rw [hc] at hm
  simp [preparing, programChannels, armChannels] at hm

/-- An effect does not touch the global attenuation. -/
theorem globalScale_not_mem_effect (v : Vibrator σ) (effect : Effect) (strength : Strength) :
    ∀ write ∈ v.body (.effect effect strength), write.channel ≠ .globalScale := by
  intro write hw hc
  have hm := channel_mem_body hw
  rw [hc] at hm
  simp [writable, preparing, programChannels, armChannels] at hm

/-- A request sets the global attenuation first of all, or not at all. -/
theorem body_globalScale [FixedChannels σ] (v : Vibrator σ) (request : Request)
    (hg : Device.has v.device .globalScale = true) (he : Device.has v.device .aspEnable = true) :
    match v.record.globalSteps? request with
    | some steps => ∃ rest, v.body request = ⟨.globalScale, .ofWord steps, false⟩ :: rest ∧
        ∀ write ∈ rest, write.channel ≠ .globalScale
    | none => ∀ write ∈ v.body request, write.channel ≠ .globalScale := by
  cases request with
  | on duration =>
    have hs : Device.has v.sampleSteady.2.device .globalScale = true := by
      rw [has_sampleSteady, hg]
    have hb : v.body (.on duration) =
        ⟨.globalScale, .ofWord (percentSteps Float v.record.globalLevel), false⟩ ::
          v.sampleSteady.2.playScript
            (addUnlessTooLong duration v.sampleSteady.2.catalog.startLatency) .realTime
            v.sampleSteady.2.activeSteady 0 := by
      rw [body, steadyScript, globalScaleScript_of_has hs, v.sampleSteady_frame.1]
      rfl
    exact ⟨_, hb, globalScale_not_mem_playScript _ _ _ _ _⟩
  | off =>
    have hb : v.body .off = [⟨.globalScale, .ofWord 0, false⟩,
        { channel := .activate, value := .bool false }] := by
      rw [body, globalScaleScript_of_has hg]
      rfl
    exact ⟨_, hb, by simp⟩
  | effect effect strength => exact v.globalScale_not_mem_effect effect strength
  | external enabled =>
    have hb : v.body (.external enabled) =
        [⟨.globalScale, .ofWord (if enabled then percentSteps Float v.record.globalLevel else 0),
          false⟩, { channel := .aspEnable, value := .bool enabled }] := by
      rw [body, Vibrator.supportsExternal, if_pos he, globalScaleScript_of_has hg]
      rfl
    exact ⟨_, hb, by simp⟩
  | amplitude amplitude =>
    intro write hw hc
    have hm := channel_mem_body_amplitude hw
    rw [hc] at hm
    simp at hm
  | supportsAmplitude | supportsExternal | report =>
    intro write hw
    cases hw

/-- The reads that open a request leave nothing in a register. -/
theorem stored_opening (v : Vibrator σ) (request : Request) (channel : Channel) :
    ∀ access ∈ v.opening request, access.stored? channel = none := by
  intro access ha
  cases access with
  | read => rfl
  | write => exact absurd ha (write_not_mem_opening _ _ _ _ _)

/-- What is done before an effect starts leaves the register of the global attenuation alone. -/
theorem stored_before_start {v : Vibrator σ} {effect : Effect} {strength : Strength}
    {before after : List Access}
    (h : v.accesses (.effect effect strength) = before ++ .started :: after) :
    ∀ access ∈ before, access.stored? .globalScale = none := by
  obtain ⟨prepared, made, hp, hmade, hr, -⟩ := started h
  intro access hm
  rw [hmade] at hm
  rcases List.mem_append.1 hm with hm | hm
  · exact stored_opening _ _ _ access hm
  · exact hr.stored?_eq_none (globalScale_not_mem_preparation hp) access hm

/-- What a request leaves in the register of the global attenuation. -/
theorem stored_accesses [FixedChannels σ] (v : Vibrator σ) (request : Request)
    (hg : Device.has v.device .globalScale = true) (he : Device.has v.device .aspEnable = true)
    (hok : ∀ value answer, .write .globalScale value answer ∈ v.accesses request →
      answer = .ok ()) :
    (v.accesses request).filterMap (Access.stored? .globalScale) =
      (v.record.globalSteps? request).toList.map .ofWord := by
  obtain ⟨made, outcome, ha, hr, -⟩ := v.accesses_ran request
  have hb := v.body_globalScale request hg he
  have hopen := List.filterMap_eq_nil_iff.2 (v.stored_opening request .globalScale)
  rw [ha, List.filterMap_append, hopen, List.nil_append]
  cases hs : v.record.globalSteps? request with
  | none =>
    rw [hs] at hb
    exact List.filterMap_eq_nil_iff.2 (hr.stored?_eq_none hb)
  | some steps =>
    rw [hs] at hb
    obtain ⟨rest, he, hrest⟩ := hb
    rw [he] at hr
    refine hr.stored_first rfl hrest fun value answer hm => hok value answer ?_
    rw [ha]
    exact List.mem_append_right _ hm

/-! ## Runs -/

/-- What a run leaves in the register of the global attenuation. -/
theorem stored_history [FixedChannels σ] (v : Vibrator σ) (requests : List Request)
    (hg : Device.has v.device .globalScale = true) (he : Device.has v.device .aspEnable = true)
    (hok : ∀ value answer,
      .write .globalScale value answer ∈ (v.history requests).flatMap (·.2) → answer = .ok ()) :
    ((v.history requests).flatMap (·.2)).filterMap (Access.stored? .globalScale) =
      (requests.filterMap v.record.globalSteps?).map .ofWord := by
  induction requests generalizing v with
  | nil => rfl
  | cons request rest ih =>
    rw [history, List.flatMap_cons] at hok ⊢
    have hfirst := v.stored_accesses request hg he fun value answer hm =>
      hok value answer (List.mem_append_left _ hm)
    have hrest := ih (v.serve request).2 (by rw [has_serve, hg]) (by rw [has_serve, he])
      fun value answer hm => hok value answer (List.mem_append_right _ hm)
    rw [List.filterMap_append, hfirst, hrest, serve_record, List.filterMap_cons]
    cases v.record.globalSteps? request <;> rfl

section
variable {device : σ} {record : Record} {v : Vibrator σ}

/-- After any run in which the driver took every write to it, the register of the global attenuation
holds what the last request set that sets it, and nothing before the first such request. -/
theorem lastWritten_log [FixedChannels σ] (up : bringUp device record = .ok v)
    (hg : Device.has device .globalScale = true) (he : Device.has device .aspEnable = true)
    (requests : List Request)
    (hok : ∀ value answer,
      .write .globalScale value answer ∈ log device record v requests → answer = .ok ()) :
    Access.lastWritten .globalScale (log device record v requests) =
      (requests.filterMap record.globalSteps?).getLast?.map .ofWord := by
  obtain ⟨_, hr⟩ := bringUpAccesses_ran up
  have hnot : ∀ write ∈ bringUpScript device record, write.channel ≠ .globalScale := by
    intro write hw hc
    rcases mem_bringUpScript hw with hm | ⟨hm, -⟩
    · rw [hc] at hm
      simp at hm
    · rw [hc] at hm
      cases hm
  have hup := List.filterMap_eq_nil_iff.2 (hr.stored?_eq_none hnot)
  have hh := v.stored_history requests (by rw [has_bringUp up, hg]) (by rw [has_bringUp up, he])
    fun value answer hm => hok value answer (List.mem_append_right _ hm)
  rw [Access.lastWritten, log, List.filterMap_append, hup, hh, List.nil_append,
    (settled_bringUp up).record_eq, List.getLast?_map]

/-- While none of the last requests stops playback or takes control back, all that is written to
the register is the level. -/
theorem stored_later [FixedChannels σ] (v : Vibrator σ) (requests : List Request)
    (hg : Device.has v.device .globalScale = true) (he : Device.has v.device .aspEnable = true)
    (hok : ∀ value answer,
      .write .globalScale value answer ∈ (v.history requests).flatMap (·.2) → answer = .ok ())
    (hlater : ∀ request ∈ requests, request ≠ .off ∧ request ≠ .external false) :
    ∀ value ∈ ((v.history requests).flatMap (·.2)).filterMap (Access.stored? .globalScale),
      value = .ofWord (percentSteps Float v.record.globalLevel) := by
  intro value hv
  rw [v.stored_history requests hg he hok] at hv
  obtain ⟨steps, hs, rfl⟩ := List.mem_map.1 hv
  obtain ⟨request, hr, hs⟩ := List.mem_filterMap.1 hs
  obtain ⟨hoff, hback⟩ := hlater request hr
  cases request with
  | on duration => rw [← Option.some.inj hs]
  | off => exact absurd rfl hoff
  | external enabled =>
    cases enabled with
    | false => exact absurd rfl hback
    | true => rw [← Option.some.inj hs]; rfl
  | effect | amplitude | supportsAmplitude | supportsExternal | report => cases hs

/-- The register holds nothing but zero after requests of which the last one that gave control away
or took it back took it back, and steady vibration, if any, was stopped or followed by taking
control back. -/
theorem globalSteps_of_quiet {requests : List Request}
    (hcontrol : (requests.filterMap Request.control?).getLast? ≠ some true)
    (hsteady : ∀ earlier duration later, requests = earlier ++ .on duration :: later →
      .off ∈ later ∨ .external false ∈ later) :
    (requests.filterMap record.globalSteps?).getLast? = none ∨
      (requests.filterMap record.globalSteps?).getLast? = some 0 := by
  cases hl : (requests.filterMap record.globalSteps?).getLast? with
  | none => exact .inl rfl
  | some steps =>
    refine .inr ?_
    obtain ⟨earlier, request, later, rfl, hs, hn⟩ := exists_of_getLast?_filterMap hl
    cases request with
    | on duration =>
      -- a stop or a taking back after it would have set the register itself
      rcases hsteady earlier duration later rfl with h | h
      · cases hn _ h
      · cases hn _ h
    | off => rw [← Option.some.inj hs]
    | external enabled =>
      cases enabled with
      | false => rw [← Option.some.inj hs]; rfl
      | true =>
        have hc : later.filterMap Request.control? = [] := by
          rw [List.filterMap_eq_nil_iff]
          intro request hr
          have hr := hn request hr
          cases request with
          | external enabled => cases hr
          | on | off | effect | amplitude | supportsAmplitude | supportsExternal | report => rfl
        refine absurd ?_ hcontrol
        rw [List.filterMap_append, List.filterMap_cons]
        simp [Request.control?, hc]
    | effect | amplitude | supportsAmplitude | supportsExternal | report => cases hs

/-- Once control was given away, the register holds the level at every point up to a stop or to
taking control back. -/
theorem level_of_given_away [FixedChannels σ] (up : bringUp device record = .ok v)
    (hg : Device.has device .globalScale = true) (he : Device.has device .aspEnable = true)
    {earlier later : List Request}
    (hok : ∀ value answer, .write .globalScale value answer ∈
      log device record v (earlier ++ .external true :: later) → answer = .ok ())
    (hlater : ∀ request ∈ later, request ≠ .off ∧ request ≠ .external false)
    {extra : List Access} (hpoint : log device record v (earlier ++ [.external true]) ++ extra <+:
      log device record v (earlier ++ .external true :: later)) :
    Access.lastWritten .globalScale
        (log device record v (earlier ++ [.external true]) ++ extra) =
      some (.ofWord (percentSteps Float record.globalLevel)) := by
  obtain ⟨rest, hpoint⟩ := hpoint
  have hsplit : log device record v (earlier ++ .external true :: later) =
      log device record v (earlier ++ [.external true]) ++
        ((v.serveAll (earlier ++ [.external true])).2.history later).flatMap (·.2) := by
    rw [← log_append, List.append_assoc]
    rfl
  rw [hsplit, List.append_assoc] at hpoint
  have hextra := List.append_cancel_left hpoint
  rw [hsplit] at hok
  have hgiven : Access.lastWritten .globalScale
        (log device record v (earlier ++ [.external true])) =
      some (.ofWord (percentSteps Float record.globalLevel)) := by
    rw [lastWritten_log up hg he _ fun value answer hm => hok value answer
      (List.mem_append_left _ hm)]
    simp [Record.globalSteps?]
  have hw : Device.has (v.serveAll (earlier ++ [.external true])).2.device = Device.has device := by
    rw [has_serveAll, has_bringUp up]
  obtain ⟨state, hset⟩ := settled_serveAll (settled_bringUp up) (earlier ++ [.external true])
  have hlevel := stored_later _ later (by rw [hw, hg]) (by rw [hw, he])
    (fun value answer hm => hok value answer (List.mem_append_right _ hm)) hlater
  rw [hset.record_eq, ← hextra, List.filterMap_append] at hlevel
  rw [Access.lastWritten_append, hgiven]
  cases hl : Access.lastWritten .globalScale extra with
  | none => rfl
  | some value =>
    have hmem : value ∈ extra.filterMap (Access.stored? .globalScale) := List.mem_of_getLast? hl
    rw [hlevel value (List.mem_append_left _ hmem)]
    rfl

/-- **The global attenuation follows the last request that sets it.**  Where the driver takes every
write to its register, the register holds the level after steady vibration or giving control away,
zero after a stop or taking control back, whichever was last, and was never written before the
first of them.  So an effect starts without global attenuation if control is not given away and
steady vibration, if any, was stopped or followed by taking control back; and from giving control
away on the register holds the level until a stop or until control is taken back. -/
theorem globalScale_follows_requests [FixedChannels σ] (up : bringUp device record = .ok v)
    (hg : Device.has device .globalScale = true) (he : Device.has device .aspEnable = true)
    (requests : List Request)
    (hok : ∀ value answer,
      .write .globalScale value answer ∈ log device record v requests → answer = .ok ()) :
    Access.lastWritten .globalScale (log device record v requests) =
      (requests.filterMap record.globalSteps?).getLast?.map .ofWord ∧
    ((requests.filterMap Request.control?).getLast? ≠ some true →
      (∀ earlier duration later, requests = earlier ++ .on duration :: later →
        .off ∈ later ∨ .external false ∈ later) →
      ∀ effect strength before after,
        (v.serveAll requests).2.accesses (.effect effect strength) =
            before ++ .started :: after →
          Access.lastWritten .globalScale (log device record v requests ++ before) = none ∨
            Access.lastWritten .globalScale (log device record v requests ++ before) =
              some (.ofWord 0)) ∧
    ∀ earlier later, requests = earlier ++ .external true :: later →
      (∀ request ∈ later, request ≠ .off ∧ request ≠ .external false) →
      ∀ point, log device record v (earlier ++ [.external true]) <+: point →
        point <+: log device record v requests →
          Access.lastWritten .globalScale point =
            some (.ofWord (percentSteps Float record.globalLevel)) := by
  have hlog := lastWritten_log up hg he requests hok
  refine ⟨hlog, fun hcontrol hsteady effect strength before after ha => ?_, ?_⟩
  · rw [Access.lastWritten_append_of_none _ (stored_before_start ha), hlog]
    rcases globalSteps_of_quiet hcontrol hsteady with h | h
    · exact .inl (by rw [h]; rfl)
    · exact .inr (by rw [h]; rfl)
  · rintro earlier later rfl hlater point ⟨extra, rfl⟩ hpoint
    exact level_of_given_away up hg he hok hlater hpoint

theorem stop_ends_attenuation :
    ∃ v before after, bringUp Simulated.hot .uncalibrated = .ok v ∧
      (v.serveAll [.on 20, .off]).2.accesses (.effect .click .strong) =
        before ++ .started :: after ∧
      (Access.lastWritten .globalScale
            (log Simulated.hot .uncalibrated v [.on 20, .off] ++ before) = none ∨
        Access.lastWritten .globalScale
            (log Simulated.hot .uncalibrated v [.on 20, .off] ++ before) = some (.ofWord 0)) := by
  obtain ⟨v, up⟩ : ∃ v, bringUp Simulated.hot .uncalibrated = .ok v := ⟨_, rfl⟩
  have hmem : .started ∈ (v.serveAll [.on 20, .off]).2.accesses (.effect .click .strong) := by
    cases up
    exact List.mem_of_getElem? (i := 8) rfl
  obtain ⟨before, after, ha⟩ := List.append_of_mem hmem
  have hall : (log Simulated.hot .uncalibrated v [.on 20, .off]).all Access.isDone = true := by
    cases up
    rfl
  have hok : ∀ value answer, .write .globalScale value answer ∈
      log Simulated.hot .uncalibrated v [.on 20, .off] → answer = .ok () := by
    intro value answer hm
    have hdone := List.all_eq_true.1 hall _ hm
    cases answer with
    | ok => rfl
    | error fault => cases hdone
  have hsteady : ∀ earlier duration later,
      [Request.on 20, .off] = earlier ++ .on duration :: later →
        .off ∈ later ∨ .external false ∈ later := by
    intro earlier duration later he
    cases earlier with
    | nil =>
      obtain ⟨-, rfl⟩ := List.cons.inj he
      exact .inl List.mem_cons_self
    | cons first rest => cases rest <;> simp at he
  have hnever : ([Request.on 20, .off].filterMap Request.control?).getLast? ≠ some true := by decide
  exact ⟨v, before, after, up, ha, (globalScale_follows_requests up rfl rfl [.on 20, .off] hok).2.1
    hnever hsteady .click .strong before after ha⟩

/-- On a driver that does whatever is asked of it, steady vibration that is not stopped leaves its
level, 76 percent or 19 steps, to an effect, and a stop takes the level from an audio stream that
has control. -/
theorem level_outlasts_vibration_and_not_stop :
    Device.has Simulated.hot .globalScale = true ∧ Device.has Simulated.hot .aspEnable = true ∧
    ∃ v before after, bringUp Simulated.hot .uncalibrated = .ok v ∧
      (v.serveAll [.on 20]).2.accesses (.effect .click .strong) = before ++ .started :: after ∧
      (log Simulated.hot .uncalibrated v [.on 20, .effect .click .strong]).all Access.isDone =
        true ∧
      Access.lastWritten .globalScale (log Simulated.hot .uncalibrated v [.on 20] ++ before) =
        some (.ofWord (percentSteps Float 76)) ∧
      (log Simulated.hot .uncalibrated v [.external true, .off]).all Access.isDone = true ∧
      Access.lastWritten .globalScale (log Simulated.hot .uncalibrated v [.external true, .off]) =
        some (.ofWord 0) := by
  refine ⟨rfl, rfl, ?_⟩
  obtain ⟨v, up⟩ : ∃ v, bringUp Simulated.hot .uncalibrated = .ok v := ⟨_, rfl⟩
  cases up
  exact ⟨_, List.take 8 _, [], rfl, (List.take_append_drop 8 _).symm, rfl, rfl, rfl, rfl⟩

end
end Vibrator
end Haptics
