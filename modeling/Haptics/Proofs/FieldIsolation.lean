import Haptics.Calibration.Source
import Haptics.Proofs.Numerals
import Mathlib.Data.List.Forall2

/-!
# Calibration, field by field

Nothing that stands in a factory file makes a record unusable: each field holds a value that is
fit for its use or the field's default (`Record.Usable`).  Each field also reads its own keys or
its own property and nothing else (`FactoryField`, `BoardField`), so what is wrong elsewhere in
either file does not reach it, and a file that is of no use at all counts as one that is not
there (`record_resolved_field_by_field`).
-/

namespace Haptics

/-! ## What a file holds under a key -/

namespace FactoryData
variable {factory other : FactoryData} {key : String}

def HoldsWord (factory : FactoryData) (key : String) (w : UInt32) : Prop :=
  ∃ value, factory.text? key = some value ∧ Numeral.SpellsWord value w

/-- The value of the key spells words between blanks. -/
def HoldsWords (factory : FactoryData) (key : String) (ws : List UInt32) : Prop :=
  ∃ value, factory.text? key = some value ∧
    List.Forall₂ Numeral.SpellsWord (Text.words value) ws

theorem scan_word {value : String} {w : UInt32} :
    Scannable.scan value = some w ↔ Numeral.SpellsWord value w := by
  rw [← Numeral.readWord_eq_ok]
  exact Numeral.toOption_eq_some

theorem scalar?_word_eq_some {w : UInt32} :
    factory.scalar? UInt32 key = some w ↔ factory.HoldsWord key w := by
  simp only [scalar?, Option.bind_eq_some_iff, scan_word, HoldsWord]

/-- Items are read one by one, and all of them or none. -/
theorem mapM_eq_some {α β : Type} {read : α → Option β} {items : List α} {values : List β} :
    items.mapM read = some values ↔ List.Forall₂ (fun a b => read a = some b) items values := by
  induction items generalizing values with
  | nil => simp [eq_comm]
  | cons a rest ih =>
    rw [List.mapM_cons, List.forall₂_cons_left_iff]
    simp only [Option.bind_eq_bind, Option.bind_eq_some_iff, Option.pure_def, Option.some.injEq, ih]
    constructor
    · rintro ⟨b, hb, bs, hbs, rfl⟩
      exact ⟨b, bs, hb, hbs, rfl⟩
    · rintro ⟨b, bs, hb, hbs, rfl⟩
      exact ⟨b, hb, bs, hbs, rfl⟩

theorem scalars?_word_eq_some {count : Nat} {ws : List UInt32} :
    factory.scalars? UInt32 count key = some ws
      ↔ factory.HoldsWords key ws ∧ ws.length = count := by
  simp only [scalars?, Option.filter_eq_some_iff, Option.bind_eq_some_iff, mapM_eq_some, scan_word,
    HoldsWords, beq_iff_eq]

variable (h : factory.text? key = other.text? key)
include h

/-- Readers of a key see its value only. -/
theorem scalar?_congr (α : Type) [Scannable α] :
    factory.scalar? α key = other.scalar? α key := by
  rw [scalar?, h, scalar?]

theorem scalars?_congr (α : Type) [Scannable α] (count : Nat) :
    factory.scalars? α count key = other.scalars? α count key := by
  rw [scalars?, h, scalars?]

end FactoryData

/-! ## Values fit for use -/

namespace Record
variable {factory : FactoryData}

/-- The quality factor that a factory file stands for: the measured one, else that of the index if
it fits a word, else fifteen and a half. -/
inductive QualityFactor (factory : FactoryData) : UInt32 → Prop
  | measured {q : UInt32} (hmeasured : factory.HoldsWord "q_measured" q) : QualityFactor factory q
  | indexed {q index : UInt32} (hmeasured : ∀ q, ¬ factory.HoldsWord "q_measured" q)
      (hindex : factory.HoldsWord "q_index" index)
      (hq : q.toNat = index.toNat * 98304 + 131072) : QualityFactor factory q
  | unknown (hmeasured : ∀ q, ¬ factory.HoldsWord "q_measured" q)
      (hindex : ∀ index, factory.HoldsWord "q_index" index →
        UInt32.size ≤ index.toNat * 98304 + 131072) : QualityFactor factory 1015808

inductive VolumeLevels (factory : FactoryData) : Vector UInt32 6 → Prop
  | given {levels : Vector UInt32 6} (hlevels : factory.HoldsWords "v_levels" levels.toList) :
      VolumeLevels factory levels
  | unknown (hlevels : ∀ levels : Vector UInt32 6, ¬ factory.HoldsWords "v_levels" levels.toList) :
      VolumeLevels factory #v[60, 70, 80, 90, 100, 76]

/-- A record whose values are fit for use, whatever the factory file holds. -/
structure Usable (factory : FactoryData) (record : Record) : Prop where
  lraPeriod : 1 ≤ record.lraPeriod
  steadyAmplitude : ∀ amplitude, record.steadyAmplitude = some amplitude →
    amplitude.isFinite = true ∧ 0.0 < amplitude
  effectCoefficients : ∀ coefficients, record.effectCoefficients = some coefficients →
    ∀ c ∈ coefficients.toList, c.isFinite = true
  volumeLevels : VolumeLevels factory record.volumeLevels
  q : QualityFactor factory record.q

theorem one_le_periodOf (factory : FactoryData) : 1 ≤ periodOf factory := by
  rw [periodOf]
  cases hperiod : (factory.scalar? UInt32 "lra_period").filter fun period => 0 < period with
  | none => decide
  | some period =>
    have hpos : 0 < period := by simpa using (Option.filter_eq_some_iff.1 hperiod).2
    exact UInt32.le_iff_toNat_le.2 (UInt32.lt_iff_toNat_lt.1 hpos)

theorem usable_of_amplitudeOf {amplitude : Float32} (h : amplitudeOf factory = some amplitude) :
    amplitude.isFinite = true ∧ 0.0 < amplitude := by
  simpa using (Option.filter_eq_some_iff.1 h).2

theorem usable_of_coefficientsOf {coefficients : Cubic Float32}
    (h : coefficientsOf factory = some coefficients) :
    ∀ c ∈ coefficients.toList, c.isFinite = true := by
  obtain ⟨values, hvalues, hcubic⟩ := Option.bind_eq_some_iff.1 h
  have hfinite := List.all_eq_true.1 (Option.filter_eq_some_iff.1 hvalues).2
  have hlist : coefficients.toList = values := by
    unfold Cubic.ofList? at hcubic
    split at hcubic
    · obtain rfl := Option.some.inj hcubic
      rfl
    · cases hcubic
  rwa [hlist]

theorem volumeLevels_volumeLevelsOf (factory : FactoryData) :
    VolumeLevels factory (volumeLevelsOf factory) := by
  rw [volumeLevelsOf]
  split
  · rename_i levels hlevels
    obtain ⟨hholds, hlength⟩ := FactoryData.scalars?_word_eq_some.1 hlevels
    rw [dif_pos hlength]
    exact .given hholds
  · rename_i hnone
    refine .unknown fun levels hholds => ?_
    have hsome := FactoryData.scalars?_word_eq_some.2 ⟨hholds, Vector.length_toList⟩
    rw [hnone] at hsome
    cases hsome

/-- The factor of an index is computed in the naturals and never wraps. -/
theorem qOfIndex?_eq (index : UInt32) :
    qOfIndex? index =
      if index.toNat * 98304 + 131072 < UInt32.size then
        some (UInt32.ofNat (index.toNat * 98304 + 131072))
      else none := by
  have hstep : fixedOne * 3 / 2 = 98304 := rfl
  have hzero : 2 * fixedOne = 131072 := rfl
  rw [qOfIndex?, hstep, hzero]

theorem toNat_of_qOfIndex? {index q : UInt32} (h : qOfIndex? index = some q) :
    q.toNat = index.toNat * 98304 + 131072 := by
  rw [qOfIndex?_eq] at h
  split at h
  · rename_i hfits
    obtain rfl := Option.some.inj h
    exact UInt32.toNat_ofNat_of_lt' hfits
  · cases h

theorem le_of_qOfIndex?_eq_none {index : UInt32} (h : qOfIndex? index = none) :
    UInt32.size ≤ index.toNat * 98304 + 131072 := by
  rw [qOfIndex?_eq] at h
  split at h
  · cases h
  · rename_i hfits
    exact Nat.le_of_not_lt hfits

theorem defaultQ_eq : defaultQ = 1015808 := by decide

theorem not_holdsWord_of_none {key : String} (h : factory.scalar? UInt32 key = none) (w : UInt32) :
    ¬ factory.HoldsWord key w := by
  intro hholds
  rw [FactoryData.scalar?_word_eq_some.2 hholds] at h
  cases h

theorem qualityFactor_qOf (factory : FactoryData) : QualityFactor factory (qOf factory) := by
  rw [qOf]
  split
  · rename_i q hq
    exact .measured (FactoryData.scalar?_word_eq_some.1 hq)
  · rename_i hnone
    have hmeasured := not_holdsWord_of_none hnone
    cases hq : (factory.scalar? UInt32 "q_index").bind qOfIndex? with
    | some q =>
      obtain ⟨index, hindex, hfits⟩ := Option.bind_eq_some_iff.1 hq
      exact .indexed hmeasured (FactoryData.scalar?_word_eq_some.1 hindex)
        (toNat_of_qOfIndex? hfits)
    | none =>
      rw [Option.getD_none, defaultQ_eq]
      have hindex : ∀ index, factory.HoldsWord "q_index" index →
          UInt32.size ≤ index.toNat * 98304 + 131072 := by
        intro index hindex
        rw [FactoryData.scalar?_word_eq_some.2 hindex, Option.bind_some] at hq
        exact le_of_qOfIndex?_eq_none hq
      exact .unknown hmeasured hindex

theorem usable_ofSources (factory : FactoryData) (properties : BoardProperties) :
    Usable factory (ofSources factory properties) where
  lraPeriod := one_le_periodOf factory
  steadyAmplitude _ := usable_of_amplitudeOf
  effectCoefficients _ := usable_of_coefficientsOf
  volumeLevels := volumeLevels_volumeLevelsOf factory
  q := qualityFactor_qOf factory

end Record

/-! ## What each field reads -/

/-- The fields of a record that are resolved from the factory file. -/
inductive FactoryField where
  | autocal | lraPeriod | effectCoefficients | steadyAmplitude | f0 | redc | q | volumeLevels

namespace FactoryField

def keys : FactoryField → List String
  | autocal => ["autocal"]
  | lraPeriod => ["lra_period"]
  | effectCoefficients => ["effect_coeffs"]
  | steadyAmplitude => ["steady_amp_max"]
  | f0 => ["f0_measured"]
  | redc => ["redc_measured"]
  | q => ["q_measured", "q_index"]
  | volumeLevels => ["v_levels"]

abbrev Value : FactoryField → Type
  | autocal => Option String
  | lraPeriod | q => UInt32
  | effectCoefficients => Option (Cubic Float32)
  | steadyAmplitude => Option Float32
  | f0 | redc => Option UInt32
  | volumeLevels => Vector UInt32 6

def ofRecord (record : Record) : (field : FactoryField) → field.Value
  | autocal => record.autocal
  | lraPeriod => record.lraPeriod
  | effectCoefficients => record.effectCoefficients
  | steadyAmplitude => record.steadyAmplitude
  | f0 => record.f0
  | redc => record.redc
  | q => record.q
  | volumeLevels => record.volumeLevels

/-- Files that agree on the keys of a field give the same field. -/
theorem ofRecord_ofSources {factory other : FactoryData} {field : FactoryField}
    (h : ∀ key ∈ field.keys, factory.text? key = other.text? key)
    (properties otherProperties : BoardProperties) :
    field.ofRecord (Record.ofSources factory properties)
      = field.ofRecord (Record.ofSources other otherProperties) := by
  cases field with
  | autocal => exact h "autocal" List.mem_cons_self
  | lraPeriod =>
    have hkey := FactoryData.scalar?_congr (h "lra_period" List.mem_cons_self) UInt32
    change Record.periodOf factory = Record.periodOf other
    rw [Record.periodOf, hkey, Record.periodOf]
  | effectCoefficients =>
    have hkey := FactoryData.scalars?_congr (h "effect_coeffs" List.mem_cons_self) Float32 4
    change Record.coefficientsOf factory = Record.coefficientsOf other
    rw [Record.coefficientsOf, hkey, Record.coefficientsOf]
  | steadyAmplitude =>
    have hkey := FactoryData.scalar?_congr (h "steady_amp_max" List.mem_cons_self) Float32
    change Record.amplitudeOf factory = Record.amplitudeOf other
    rw [Record.amplitudeOf, hkey, Record.amplitudeOf]
  | f0 => exact FactoryData.scalar?_congr (h "f0_measured" List.mem_cons_self) UInt32
  | redc => exact FactoryData.scalar?_congr (h "redc_measured" List.mem_cons_self) UInt32
  | q =>
    have hmeasured := FactoryData.scalar?_congr (h "q_measured" List.mem_cons_self) UInt32
    have hindex := FactoryData.scalar?_congr
      (h "q_index" (List.mem_cons_of_mem _ List.mem_cons_self)) UInt32
    change Record.qOf factory = Record.qOf other
    rw [Record.qOf, hmeasured, hindex, Record.qOf]
  | volumeLevels =>
    have hkey := FactoryData.scalars?_congr (h "v_levels" List.mem_cons_self) UInt32 6
    change Record.volumeLevelsOf factory = Record.volumeLevelsOf other
    rw [Record.volumeLevelsOf, hkey, Record.volumeLevelsOf]

end FactoryField

/-- The properties of a board; each is a field of a record too. -/
inductive BoardField where
  | closeLoopThreshold | dynamicConfig | longFrequencyShift | shortVoltage | longVoltage
  | clickDuration | tickDuration | doubleClickDuration | heavyClickDuration
  | effectShape | steadyShape | lpTriggerEffect

namespace BoardField

abbrev Value : BoardField → Type
  | dynamicConfig => Bool
  | effectShape | steadyShape => Option WaveShape
  | _ => UInt32

def ofProperties (properties : BoardProperties) : (field : BoardField) → field.Value
  | closeLoopThreshold => properties.closeLoopThreshold
  | dynamicConfig => properties.dynamicConfig
  | longFrequencyShift => properties.longFrequencyShift
  | shortVoltage => properties.shortVoltage
  | longVoltage => properties.longVoltage
  | clickDuration => properties.durations.click
  | tickDuration => properties.durations.tick
  | doubleClickDuration => properties.durations.doubleClick
  | heavyClickDuration => properties.durations.heavyClick
  | effectShape => properties.effectShape
  | steadyShape => properties.steadyShape
  | lpTriggerEffect => properties.lpTriggerEffect

def ofRecord (record : Record) : (field : BoardField) → field.Value
  | closeLoopThreshold => record.closeLoopThreshold
  | dynamicConfig => record.dynamicConfig
  | longFrequencyShift => record.longFrequencyShift
  | shortVoltage => record.shortVoltageMax
  | longVoltage => record.longVoltageMax
  | clickDuration => record.durations.click
  | tickDuration => record.durations.tick
  | doubleClickDuration => record.durations.doubleClick
  | heavyClickDuration => record.durations.heavyClick
  | effectShape => record.effectShape
  | steadyShape => record.steadyShape
  | lpTriggerEffect => record.lpTriggerEffect

theorem ofRecord_ofSources (field : BoardField) (factory : FactoryData)
    (properties : BoardProperties) :
    field.ofRecord (Record.ofSources factory properties) = field.ofProperties properties := by
  cases field <;> rfl

end BoardField

/-! ## Loading -/

namespace Sources
variable {files : FileTree} {path : String}

/-- A factory file that cannot be read. -/
def NoFactory (files : FileTree) (path : String) : Prop :=
  ∀ text, files.readText path ≠ .ok text

/-- A properties file that cannot be read or is invalid. -/
def NoProperties (files : FileTree) (path : String) : Prop :=
  ∀ text, files.readText path = .ok text → BoardProperties.ofText? text = none

theorem loadOr_factory (h : NoFactory files path) :
    loadOr {} (FactoryData.open? files) (some path) = {} := by
  rw [loadOr, FactoryData.open?]
  cases hread : files.readText path with
  | ok text => exact absurd hread (h text)
  | error fault => rfl

theorem loadOr_properties (h : NoProperties files path) :
    loadOr {} (BoardProperties.open? files) (some path) = {} := by
  rw [loadOr, BoardProperties.open?]
  cases hread : files.readText path with
  | ok text =>
    dsimp only
    rw [h text hread]
  | error fault => rfl

/-- What a unit has for factory data: nothing unless a file is named that can be read. -/
inductive FactoryHeld (files : FileTree) : Option String → FactoryData → Prop
  | unnamed : FactoryHeld files none {}
  | unreadable {path : String} (h : NoFactory files path) : FactoryHeld files (some path) {}
  | read {path text : String} (h : files.readText path = .ok text) :
      FactoryHeld files (some path) { FactoryData.ofText text with path := some path }

/-- What a unit has for properties: the default ones unless a file is named that can be read and is
valid. -/
inductive PropertiesHeld (files : FileTree) : Option String → BoardProperties → Prop
  | unnamed : PropertiesHeld files none {}
  | invalid {path : String} (h : NoProperties files path) : PropertiesHeld files (some path) {}
  | read {path text : String} {properties : BoardProperties} (h : files.readText path = .ok text)
      (hvalid : BoardProperties.ofText? text = some properties) :
      PropertiesHeld files (some path) properties

theorem FactoryHeld.loadOr_eq {named : Option String} {factory : FactoryData}
    (h : FactoryHeld files named factory) :
    loadOr {} (FactoryData.open? files) named = factory := by
  cases h with
  | unnamed => rfl
  | unreadable h => exact loadOr_factory h
  | read h => rw [loadOr, FactoryData.open?, h]

theorem PropertiesHeld.loadOr_eq {named : Option String} {properties : BoardProperties}
    (h : PropertiesHeld files named properties) :
    loadOr {} (BoardProperties.open? files) named = properties := by
  cases h with
  | unnamed => rfl
  | invalid h => exact loadOr_properties h
  | read h hvalid =>
    rw [loadOr, BoardProperties.open?, h]
    dsimp only
    rw [hvalid]

end Sources

/-- **A record is resolved field by field.**  Whatever the sources hold, its values are fit for
use.  A field changes only with the values of its own keys, or with its own property.  A factory
file that cannot be read counts as none, and so does a properties file that cannot be read or is
invalid, of which no property is kept; neither file reaches the fields of the other.  What is loaded
is resolved from what the two files hold. -/
theorem record_resolved_field_by_field :
    (∀ factory properties, Record.Usable factory (Record.ofSources factory properties)) ∧
    (∀ (factory other : FactoryData) (properties otherProperties : BoardProperties)
      (field : FactoryField), (∀ key ∈ field.keys, factory.text? key = other.text? key) →
      field.ofRecord (Record.ofSources factory properties)
        = field.ofRecord (Record.ofSources other otherProperties)) ∧
    (∀ (factory other : FactoryData) (properties otherProperties : BoardProperties)
      (field : BoardField), field.ofProperties properties = field.ofProperties otherProperties →
      field.ofRecord (Record.ofSources factory properties)
        = field.ofRecord (Record.ofSources other otherProperties)) ∧
    (∀ files path properties, Sources.NoFactory files path →
      Sources.load ⟨some path, properties⟩ files = Sources.load ⟨none, properties⟩ files) ∧
    (∀ files path factory, Sources.NoProperties files path →
      Sources.load ⟨factory, some path⟩ files = Sources.load ⟨factory, none⟩ files ∧
      (Sources.load ⟨factory, some path⟩ files).properties = {}) ∧
    (∀ (files : FileTree) (sources other : Sources) (field : FactoryField),
      sources.factory = other.factory →
      field.ofRecord (sources.load files) = field.ofRecord (other.load files)) ∧
    (∀ (files : FileTree) (sources other : Sources) (field : BoardField),
      sources.properties = other.properties →
      field.ofRecord (sources.load files) = field.ofRecord (other.load files)) ∧
    (∀ (files : FileTree) (sources : Sources) (factory : FactoryData)
      (properties : BoardProperties), Sources.FactoryHeld files sources.factory factory →
      Sources.PropertiesHeld files sources.properties properties →
      sources.load files = Record.ofSources factory properties) := by
  refine ⟨Record.usable_ofSources, fun _ _ properties otherProperties _ hkeys =>
    FactoryField.ofRecord_ofSources hkeys properties otherProperties, ?_, ?_, ?_, ?_, ?_, ?_⟩
  · intro factory other properties otherProperties field hproperty
    rw [BoardField.ofRecord_ofSources, hproperty, BoardField.ofRecord_ofSources]
  · intro files path properties hfile
    rw [Sources.load, Sources.loadOr_factory hfile]
    rfl
  · intro files path factory hfile
    rw [Sources.load, Sources.loadOr_properties hfile]
    exact ⟨rfl, rfl⟩
  · intro files sources other field hpath
    rw [Sources.load, Sources.load, hpath]
    exact FactoryField.ofRecord_ofSources (fun _ _ => rfl) _ _
  · intro files sources other field hpath
    rw [Sources.load, Sources.load, BoardField.ofRecord_ofSources, hpath,
      BoardField.ofRecord_ofSources]
  · intro files sources factory properties hfactory hproperties
    rw [Sources.load, hfactory.loadOr_eq, hproperties.loadOr_eq]

/-- A directory that holds a properties file with one property set and another of the wrong type,
and a factory file under another name than the usual one. -/
def damagedFiles : FileTree :=
  { entries :=
      [(["board.toml"], .file (.text "short_voltage = 20\nlong_voltage = true\n")),
       (["spare"], .file (.text "f0_measured: 7\n"))]
    workingDirectory := [] }

/-- The measured frequency outlives a period of zero and an index out of range, and no property
outlives a wrong one. -/
theorem damage_spares_resonant_frequency :
    let factory := FactoryData.ofText "f0_measured: 7\nlra_period: 255\nq_measured: 9"
    let damaged := FactoryData.ofText "lra_period: 0\nf0_measured : 7\nq_index: 43690"
    (Record.ofSources damaged {}).f0 = (Record.ofSources factory {}).f0 ∧
    (Record.ofSources factory {}).f0 = some 7 ∧ (Record.ofSources damaged {}).q = 1015808 ∧
    Sources.load ⟨some "factory", some "board.toml"⟩ damagedFiles = Sources.load {} damagedFiles ∧
    (Sources.load ⟨some "factory", some "board.toml"⟩ damagedFiles).properties = {} ∧
    Sources.load ⟨some "spare", some "board.toml"⟩ damagedFiles =
      Record.ofSources { FactoryData.ofText "f0_measured: 7\n" with path := some "spare" } {} := by
  intro factory damaged
  obtain ⟨-, hkeys, -, hfactory, hproperties, -, -, hheld⟩ := record_resolved_field_by_field
  have hf0 : ∀ key ∈ FactoryField.f0.keys, damaged.text? key = factory.text? key := by decide
  have hmissing : Sources.NoFactory damagedFiles "factory" := by
    intro text hread
    have hfault : damagedFiles.readText "factory" = .error .notFound := by rfl
    rw [hfault] at hread
    cases hread
  have hinvalid : Sources.NoProperties damagedFiles "board.toml" := by
    intro text hread
    have htext : damagedFiles.readText "board.toml"
        = .ok "short_voltage = 20\nlong_voltage = true\n" := by rfl
    obtain rfl := Except.ok.inj (htext.symm.trans hread)
    decide +kernel
  have hload := hproperties damagedFiles "board.toml" (some "factory") hinvalid
  refine ⟨hkeys damaged factory {} {} .f0 hf0, by decide, by decide, ?_, hload.2,
    hheld damagedFiles _ _ _ (.read rfl) (.invalid hinvalid)⟩
  rw [hload.1, hfactory damagedFiles "factory" none hmissing]

end Haptics
