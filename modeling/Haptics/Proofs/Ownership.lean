import Haptics.Proofs.Cs40l25Nodes
import Haptics.Proofs.GlobalLevel
import Haptics.Proofs.RegisterTexts

/-!
# Who has control on a CS40L25

Whether the audio stream has control is kept nowhere but in a file of the driver, as text, and is
read again for each question.  Giving control away and taking it back write that file and no other
request does (`found_of_control`, `found_of_no_control`); read back, the text says what was
written.  So the answer is that of the last such request, and that of the file's first text before
there was one (`amplitude_refused_while_given_away`).
-/

namespace Haptics

def Event.control? : Event → Option Bool
  | .request asked => asked.control?
  | .edit _ => none

namespace Contents

/-- The contents spell an integer other than zero between blanks. -/
def SpellsNonzero (contents : Contents) : Prop :=
  ∃ text n, contents = .text text ∧ Numeral.readInt64 (Text.trim text) = .ok n ∧ n ≠ 0

/-- What is left of a file by writing a switch to it. -/
def ofSwitch (enabled : Bool) : Contents :=
  .text ((RegisterValue.bool enabled).toText ++ "\n")

theorem spellsNonzero_ofSwitch (enabled : Bool) :
    (ofSwitch enabled).SpellsNonzero ↔ enabled = true := by
  have hone : Numeral.readInt64 (Text.trim "1\n") = .ok 1 := rfl
  have hzero : Numeral.readInt64 (Text.trim "0\n") = .ok 0 := rfl
  cases enabled with
  | true => exact ⟨fun _ => rfl, fun _ => ⟨_, 1, rfl, hone, by decide⟩⟩
  | false =>
    refine ⟨?_, fun h => nomatch h⟩
    rintro ⟨text, n, ht, hn, hne⟩
    obtain rfl : "0\n" = text := Contents.text.inj ht
    exact absurd (Except.ok.inj (hzero.symm.trans hn)).symm hne

end Contents

namespace Vibrator
open Cs40l25

section
variable {v : Vibrator Cs40l25} {files : FileTree} {base : String} {place : Location}
  {contents : Contents}

/-! ## Asking -/

/-- The audio stream has control exactly if the file spells an integer other than zero. -/
theorem externalControlActive_iff (h : Opened files base v.device)
    (hp : files.contains (FileTree.join base "device/asp_enable") = true)
    (hfile : v.device.found base "device/asp_enable" = .ok (place, .file contents)) :
    v.externalControlActive.1 = true ↔ contents.SpellsNonzero := by
  have hhas : Device.has v.device .aspEnable = true :=
    (has_node_of_opened .aspEnable h rfl).trans hp
  have hread := read_of_opened .aspEnable h rfl hp
  have hresolve : v.device.nodes.files.resolve (FileTree.join base "device/asp_enable") =
      .ok (place, .file contents) := hfile
  rw [Cs40l25.text, FileTree.readText, hresolve] at hread
  cases contents with
  | binary bytes =>
    have hfailed : (Device.read .aspEnable v.device).1 = .error (.node .notText) := hread
    simp [externalControlActive, hhas, hfailed, Contents.SpellsNonzero]
  | text raw =>
    have hanswer : (Device.read .aspEnable v.device).1 = .ok (.ofText raw) := hread
    simp only [externalControlActive, hhas, if_true, hanswer, RegisterValue.toBool?,
      RegisterValue.toInt?_ofText]
    cases hn : Numeral.readInt64 (Text.trim raw) with
    | ok n => simp [Contents.SpellsNonzero, Except.toOption, hn]
    | error fault => simp [Contents.SpellsNonzero, Except.toOption, hn]

/-! ## Requests -/

/-- The driver is the one that was opened, and this stands at the file of control. -/
def Holding (files : FileTree) (base : String) (standing : Except FileFault (Location × Entry))
    (s : Cs40l25) : Prop :=
  Opened files base s ∧ s.found base "device/asp_enable" = standing

section
variable {standing : Except FileFault (Location × Entry)} {s : Cs40l25}

theorem holding_read (h : Holding files base standing s) (channel : Channel) :
    Holding files base standing (Device.read channel s).2 :=
  ⟨(lasting_opened files base).read channel s h.1, (found_read channel s base _).trans h.2⟩

/-- A write to another channel leaves the file alone. -/
theorem holding_write (h : Holding files base standing s) {made : Write}
    (hne : made.channel ≠ .aspEnable) :
    Holding files base standing (Device.write made.channel made.value s).2 := by
  have htarget : target made.channel ≠ .aspEnable := by
    intro ht
    obtain ⟨channel, value, mandatory⟩ := made
    cases channel <;> first | exact hne rfl | cases ht
  exact ⟨(lasting_opened files base).write _ _ s h.1,
    (found_write h.1 rfl (.inl htarget)).trans h.2⟩

end

/-- Bring-up leaves the file alone. -/
theorem found_of_bringUp {record : Record} (up : bringUp (attach files base) record = .ok v)
    (hfile : files.resolve (FileTree.join base "device/asp_enable") =
      .ok (place, .file contents)) :
    v.device.found base "device/asp_enable" = .ok (place, .file contents) := by
  have hwrites : ∀ write ∈ bringUpScript (attach files base) record,
      write.channel ≠ .aspEnable := by
    intro write hw hc
    rcases mem_bringUpScript hw with hm | ⟨hm, -⟩
    · rw [hc] at hm
      simp at hm
    · rw [hc] at hm
      cases hm
  exact (bringUp_keeps (P := Holding files base (.ok (place, .file contents)))
    (fun write hw _ hs => holding_write hs (hwrites write hw)) up ⟨rfl, hfile⟩).2

/-- A request that does not change control leaves the file alone. -/
theorem found_of_no_control (h : Opened files base v.device) {request : Request}
    (hr : request.control? = none) :
    (v.serve request).2.device.found base "device/asp_enable" =
      v.device.found base "device/asp_enable" := by
  have hwrites : ∀ write ∈ v.body request, write.channel ≠ .aspEnable := by
    intro write hw hc
    have hm := channel_mem_body hw
    rw [hc] at hm
    cases request with
    | external enabled => cases hr
    | on | off | effect | amplitude | supportsAmplitude | supportsExternal | report =>
      simp [writable, preparing, programChannels, armChannels] at hm
  exact (serve_keeps (P := Holding files base (v.device.found base "device/asp_enable"))
    (fun channel _ hs => holding_read hs channel)
    (fun write hw _ hs => holding_write hs (hwrites write hw)) ⟨h, rfl⟩).2

/-- Giving control away or taking it back is written to the file. -/
theorem found_of_control (h : Opened files base v.device)
    (hp : files.contains (FileTree.join base "device/asp_enable") = true)
    (hfile : v.device.found base "device/asp_enable" = .ok (place, .file contents))
    (enabled : Bool) :
    (v.serve (.external enabled)).2.device.found base "device/asp_enable" =
      .ok (place, .file (.ofSwitch enabled)) := by
  have hhas : Device.has v.device .aspEnable = true :=
    (has_node_of_opened .aspEnable h rfl).trans hp
  have hbody : v.body (.external enabled) = v.globalScaleScript enabled ++
      [{ channel := .aspEnable, value := .bool enabled }] := by
    rw [body, Vibrator.supportsExternal, if_pos hhas]
  have hscaled : ∀ write ∈ v.globalScaleScript enabled,
      write.mandatory = false ∧ write.channel ≠ .aspEnable := by
    intro write hw
    obtain ⟨-, rfl⟩ := Script.mem_ifExposed.1 hw
    exact ⟨rfl, by simp⟩
  -- the global level comes first and may fail, but leaves the file alone
  have hbefore := Script.run_keeps (P := Holding files base (.ok (place, .file contents)))
    (fun write hw _ hs => holding_write hs (hscaled write hw).2) (s := v.device) ⟨h, hfile⟩
  obtain ⟨hok, hset⟩ := set_of_file .aspEnable hbefore.1 rfl hp hbefore.2 (.bool enabled)
  rw [serve_device, hbody, Script.run_append_of_optional fun write hw => (hscaled write hw).1]
  have hrun : Script.run [{ channel := .aspEnable, value := .bool enabled }]
      ((v.globalScaleScript enabled).run v.device).2 = (.ok (), _) := Script.run_single_of_ok hok
  change (Script.run [{ channel := .aspEnable, value := .bool enabled }]
    ((v.globalScaleScript enabled).run v.device).2).2.found base _ = _
  rw [hrun]
  exact hset

/-! ## Runs -/

/-- No edit touches the files of some names. -/
def Untouched (base : String) (names : List String) : Vibrator Cs40l25 → List Event → Prop
  | _, [] => True
  | v, .request request :: rest => Untouched base names (v.serve request).2 rest
  | v, .edit files :: rest =>
    (∀ name ∈ names, files.resolve (FileTree.join base name) = v.device.found base name) ∧
      Untouched base names { v with device := v.device.edit files } rest

/-- The file holds what was last written to it, or what it held first, and the file of the
attenuation of effects is still one. -/
theorem found_meetAll (h : Opened files base v.device)
    (hp : files.contains (FileTree.join base "device/asp_enable") = true)
    (hfile : v.device.found base "device/asp_enable" = .ok (place, .file contents))
    (hscale : ∃ place contents,
      v.device.found base "device/cp_dig_scale" = .ok (place, .file contents))
    {events : List Event}
    (hu : Untouched base ["device/asp_enable", "device/cp_dig_scale"] v events) :
    (v.meetAll events).device.found base "device/asp_enable" = .ok (place, .file
        (((events.filterMap Event.control?).getLast?.map Contents.ofSwitch).getD contents)) ∧
      ∃ place contents, (v.meetAll events).device.found base "device/cp_dig_scale" =
        .ok (place, .file contents) := by
  induction events generalizing v contents with
  | nil => exact ⟨hfile, hscale⟩
  | cons event rest ih =>
    cases event with
    | edit edited =>
      have hasp : (v.device.edit edited).found base "device/asp_enable" = _ :=
        hu.1 "device/asp_enable" (by simp)
      have hdig : (v.device.edit edited).found base "device/cp_dig_scale" = _ :=
        hu.1 "device/cp_dig_scale" (by simp)
      exact ih (v := { v with device := v.device.edit edited }) h (hasp.trans hfile)
        (by rw [hdig]; exact hscale) hu.2
    | request request =>
      have hopened := (lasting_opened files base).serve h request
      have hdig := (lasting_file base "device/cp_dig_scale").serve hscale request
      cases hc : request.control? with
      | none =>
        have hasp := (found_of_no_control h hc).trans hfile
        have he : Event.control? (.request request) = none := hc
        rw [List.filterMap_cons_none he]
        exact ih hopened hasp hdig hu
      | some enabled =>
        obtain rfl : request = .external enabled := by
          cases request with
          | external other => rw [Option.some.inj hc]
          | on | off | effect | amplitude | supportsAmplitude | supportsExternal | report =>
            cases hc
        have hasp := found_of_control h hp hfile enabled
        obtain ⟨hrest, hfiles⟩ := ih hopened hasp hdig hu
        refine ⟨hrest.trans ?_, hfiles⟩
        have he : Event.control? (.request (.external enabled)) = some enabled := hc
        rw [List.filterMap_cons_some he, List.getLast?_cons]
        cases (rest.filterMap Event.control?).getLast? <;> rfl

/-! ## Answers -/

/-- What a driver that has the attenuation of effects and no real-time input sets an amplitude
by. -/
theorem amplitudeScript_of_opened (h : Opened files base v.device)
    (hp : files.contains (FileTree.join base "device/cp_dig_scale") = true) (amplitude : Float32) :
    v.amplitudeScript amplitude =
      [{ channel := .scale, value := .ofWord (attenuationSteps amplitude.toFloat) }] := by
  have hrtp : Device.has v.device .rtpInput = false :=
    has_eq_false_of_opened .rtpInput h rfl
  have hscale : Device.has v.device .scale = true :=
    (has_node_of_opened .scale h rfl).trans hp
  rw [amplitudeScript, hrtp, if_neg Bool.false_ne_true, if_pos hscale]

theorem supportsAmplitude_of_opened (h : Opened files base v.device)
    (hp : files.contains (FileTree.join base "device/cp_dig_scale") = true) :
    (v.serve .supportsAmplitude).1 = .supported !v.externalControlActive.1 := by
  have ho : Opened files base v.externalControlActive.2.device :=
    externalControlActive_keeps (lasting_opened files base).read h
  have hscale : Device.has v.externalControlActive.2.device .scale = true :=
    (has_node_of_opened .scale ho rfl).trans hp
  change Reply.supported (!v.externalControlActive.1 &&
    (Device.has v.externalControlActive.2.device .rtpInput ||
      Device.has v.externalControlActive.2.device .scale)) = _
  rw [hscale, Bool.or_true, Bool.and_true]

/-- An amplitude is refused without a write while the audio stream has control. -/
theorem amplitude_of_active {amplitude : Float32} (hv : ValidAmplitude amplitude)
    (ha : v.externalControlActive.1 = true) :
    (v.serve (.amplitude amplitude)).1 = .refused .amplitudeOwned ∧
      ∀ channel value outcome,
        .write channel value outcome ∉ v.accesses (.amplitude amplitude) := by
  have hbody : v.body (.amplitude amplitude) = [] := by
    rw [body, if_neg]
    rw [ha]
    simp
  obtain ⟨hreply, hmade⟩ := serve_of_body_nil hbody
  refine ⟨?_, fun channel value outcome hw => ?_⟩
  · rw [hreply, answer, if_pos hv, if_pos ha]
  · rw [hmade] at hw
    exact write_not_mem_opening _ _ _ _ _ hw

/-- An amplitude is set while it has not. -/
theorem amplitude_of_not_active (h : Opened files base v.device)
    (hp : files.contains (FileTree.join base "device/cp_dig_scale") = true)
    (hscale : ∃ place contents,
      v.device.found base "device/cp_dig_scale" = .ok (place, .file contents))
    {amplitude : Float32} (hv : ValidAmplitude amplitude)
    (ha : v.externalControlActive.1 = false) :
    (v.serve (.amplitude amplitude)).1 = .done := by
  have ho : Opened files base v.externalControlActive.2.device :=
    externalControlActive_keeps (lasting_opened files base).read h
  obtain ⟨place, contents, hfile⟩ : ∃ place contents,
      v.externalControlActive.2.device.found base "device/cp_dig_scale" =
        .ok (place, .file contents) :=
    externalControlActive_keeps (lasting_file base "device/cp_dig_scale").read hscale
  have hscript := amplitudeScript_of_opened ho hp amplitude
  have hbody : v.body (.amplitude amplitude) =
      [{ channel := .scale, value := .ofWord (attenuationSteps amplitude.toFloat) }] := by
    rw [body, if_pos ⟨hv, ha⟩, hscript]
  have hopen : v.opened (.amplitude amplitude) = v.externalControlActive.2 := if_pos hv
  have hanswer : v.answer (.amplitude amplitude) = .done := by
    rw [answer, if_pos hv, ha, if_neg Bool.false_ne_true, hscript, if_neg (List.cons_ne_nil _ _)]
  obtain ⟨hok, -⟩ := set_of_file .scale ho rfl hp hfile
    (.ofWord (attenuationSteps amplitude.toFloat))
  have hrun : Script.run
      [{ channel := .scale, value := .ofWord (attenuationSteps amplitude.toFloat) }]
      v.externalControlActive.2.device = (.ok (), _) := Script.run_single_of_ok hok
  rw [serve_eq, hanswer, hopen, hbody]
  simp [runScript, hrun, Reply.ofExcept]

/-- **An amplitude is refused exactly while control is given away.**  A CS40L25 is opened on files
of which `asp_enable` and `cp_dig_scale` are regular ones, and these two are not edited, whatever
happens to the others.  After any run control is given away if the last request that changes it
gave it away, or if there was none and `asp_enable` spelled an integer other than zero when the
driver was opened.  Then, and only then, amplitude control is not supported, and every amplitude is
refused as unsupported without a write; else every valid amplitude is set.  No request but those
that change control touches the file. -/
theorem amplitude_refused_while_given_away {record : Record} {scalePlace : Location}
    {scaleContents : Contents}
    (hasp : files.resolve (FileTree.join base "device/asp_enable") = .ok (place, .file contents))
    (hscale : files.resolve (FileTree.join base "device/cp_dig_scale") =
      .ok (scalePlace, .file scaleContents))
    (up : bringUp (attach files base) record = .ok v) {events : List Event}
    (hu : Untouched base ["device/asp_enable", "device/cp_dig_scale"] v events) :
    let w := v.meetAll events
    let givenAway :=
      match (events.filterMap Event.control?).getLast? with
      | some enabled => enabled = true
      | none => contents.SpellsNonzero
    ((w.serve .supportsAmplitude).1 = .supported false ↔ givenAway) ∧
    (∀ amplitude, ValidAmplitude amplitude →
      (((∃ error, (w.serve (.amplitude amplitude)).1 = .refused error ∧
          error.kind = .unsupported) ∧
        ∀ channel value outcome,
          .write channel value outcome ∉ w.accesses (.amplitude amplitude)) ↔ givenAway) ∧
      (¬ givenAway → (w.serve (.amplitude amplitude)).1 = .done)) ∧
    ∀ request, (∀ enabled, request ≠ .external enabled) →
      (w.serve request).2.device.found base "device/asp_enable" =
        w.device.found base "device/asp_enable" := by
  intro w givenAway
  have hpresent : files.contains (FileTree.join base "device/asp_enable") = true := by
    rw [FileTree.contains, hasp]
  have hscalePresent : files.contains (FileTree.join base "device/cp_dig_scale") = true := by
    rw [FileTree.contains, hscale]
  have hlasting := lasting_opened files base
  have hv : Opened files base v.device := hlasting.bringUp up rfl
  have hfirst : v.device.found base "device/asp_enable" = .ok (place, .file contents) :=
    found_of_bringUp up hasp
  have hscaled : ∃ place contents,
      v.device.found base "device/cp_dig_scale" = .ok (place, .file contents) :=
    (lasting_file base "device/cp_dig_scale").bringUp up ⟨scalePlace, scaleContents, hscale⟩
  have hopened : Opened files base w.device := opened_meetAll hv events
  obtain ⟨hfile, hfiles⟩ := found_meetAll hv hpresent hfirst hscaled hu
  have hactive : w.externalControlActive.1 = true ↔ givenAway := by
    rw [externalControlActive_iff hopened hpresent hfile]
    simp only [givenAway]
    cases (events.filterMap Event.control?).getLast? with
    | none => exact Iff.rfl
    | some enabled => exact Contents.spellsNonzero_ofSwitch enabled
  refine ⟨?_, fun amplitude hvalid => ?_, fun request hr => ?_⟩
  · rw [supportsAmplitude_of_opened hopened hscalePresent, ← hactive]
    simp
  · have hdone (hn : ¬ givenAway) : (w.serve (.amplitude amplitude)).1 = .done :=
      amplitude_of_not_active hopened hscalePresent hfiles hvalid
        (Bool.eq_false_iff.2 fun ha => hn (hactive.1 ha))
    refine ⟨⟨fun hrefused => ?_, fun hg => ?_⟩, hdone⟩
    · obtain ⟨⟨error, he, -⟩, -⟩ := hrefused
      refine Classical.byContradiction fun hn => ?_
      rw [hdone hn] at he
      cases he
    · obtain ⟨hrefused, hno⟩ := amplitude_of_active hvalid (hactive.2 hg)
      exact ⟨⟨_, hrefused, rfl⟩, hno⟩
  · refine found_of_no_control hopened ?_
    cases request with
    | external enabled => exact absurd rfl (hr enabled)
    | on | off | effect | amplitude | supportsAmplitude | supportsExternal | report => rfl

end

/-- The files of a driver that can leave control to the audio stream and has not. -/
def audioBench : FileTree :=
  { entries :=
      [(["device"], .directory), (["activate"], .file (.text "0\n")),
       (["duration"], .file (.text "0\n")), (["state"], .file (.text "0\n")),
       (["device", "asp_enable"], .file (.text " 0 \n")),
       (["device", "cp_dig_scale"], .file (.text "\n"))]
    workingDirectory := [] }

theorem given_away_amplitude_refused :
    ∃ v, bringUp (attach audioBench "") .uncalibrated = .ok v ∧
      ((v.meetAll [.request (.external true), .request (.on 20)]).serve .supportsAmplitude).1 =
        .supported false ∧
      ∃ error, ((v.meetAll [.request (.external true), .request (.on 20)]).serve
        (.amplitude 0.5)).1 = .refused error ∧ error.kind = .unsupported := by
  obtain ⟨v, up⟩ : ∃ v, bringUp (attach audioBench "") .uncalibrated = .ok v := ⟨_, rfl⟩
  have hvalid : ValidAmplitude (0.5 : Float32) := by decide
  have hcontrol : audioBench.resolve (FileTree.join "" "device/asp_enable") =
      .ok (["device", "asp_enable"], .file (.text " 0 \n")) := rfl
  have hscale : audioBench.resolve (FileTree.join "" "device/cp_dig_scale") =
      .ok (["device", "cp_dig_scale"], .file (.text "\n")) := rfl
  have hu : Untouched "" ["device/asp_enable", "device/cp_dig_scale"] v
      [.request (.external true), .request (.on 20)] := trivial
  have hlast : ([Event.request (.external true), .request (.on 20)].filterMap
      Event.control?).getLast? = some true := rfl
  have hrefused := amplitude_refused_while_given_away hcontrol hscale up hu
  simp only [hlast] at hrefused
  exact ⟨v, up, hrefused.1.2 trivial, ((hrefused.2.1 0.5 hvalid).1.2 trivial).1⟩

end Vibrator
end Haptics
