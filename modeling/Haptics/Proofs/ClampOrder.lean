import Mathlib
import Haptics.Proofs.SolvedClamps

/-!
# The order of clamps

On a rising line a stronger slot needs a higher level and gets a higher code, and the ceiling is
above all codes.  The clamps of two slots are therefore in the order of the slots as long as the
weaker one has a code (`effectClamp_le_of_coded`), and with them the clamps of an effect's strengths
(`clamps_rise_from_coded_slot`).  A line that is above a target from the start has no level for it,
and its slot is driven at the ceiling: then a light click may be driven harder than a medium one
(`light_click_above_medium`).
-/

namespace Haptics

/-! ## Slots -/

namespace Slot

theorem target_le_of_index_le {slot stronger : Slot} (h : slot.index ≤ stronger.index) :
    (slot.target : ℝ) ≤ stronger.target := by
  cases slot <;> cases stronger <;> try exact absurd h (by decide)
  all_goals norm_num [target]

theorem shifted_index_le (slot : Slot) {weaker stronger : Strength}
    (h : weaker.slotOffset ≤ stronger.slotOffset) :
    (slot.shifted weaker).index ≤ (slot.shifted stronger).index := by
  cases weaker <;> cases stronger <;> try exact absurd h (by decide)
  all_goals cases slot <;> decide

end Slot

/-- A stronger request is driven at the same slot or at one further up. -/
theorem Catalog.slot_index_le {catalog : Catalog} {effect : Effect} {weaker stronger : Strength}
    (h : weaker.slotOffset ≤ stronger.slotOffset) {weak strong : Plan}
    (hw : catalog.plan? effect weaker = some weak)
    (hs : catalog.plan? effect stronger = some strong) : weak.slot.index ≤ strong.slot.index := by
  cases effect with
  | click =>
    obtain rfl := Option.some.inj hw
    obtain rfl := Option.some.inj hs
    exact Slot.click.shifted_index_le h
  | tick =>
    obtain rfl := Option.some.inj hw
    obtain rfl := Option.some.inj hs
    exact Slot.tick.shifted_index_le h
  | heavyClick =>
    obtain rfl := Option.some.inj hw
    obtain rfl := Option.some.inj hs
    exact Slot.heavyClick.shifted_index_le h
  | textureTick =>
    obtain rfl := Option.some.inj hw
    obtain rfl := Option.some.inj hs
    exact le_rfl
  | doubleClick =>
    simp only [plan?] at hw hs
    split at hw <;> split at hs
    all_goals
      obtain rfl := Option.some.inj hw
      obtain rfl := Option.some.inj hs
      exact Slot.click.shifted_index_le h
  | thud | pop => cases hw

/-! ## Lines -/

noncomputable def lineLevel (p : Haptics.Cubic ℝ) (slot : Slot) : ℝ :=
  (slot.target - p.b) / p.a

/-- Whether a line reaches the target of a slot at no less than half a step of the clamp code, where
there is time to drive at all. -/
def Coded (p : Haptics.Cubic ℝ) (period : UInt32) (slot : Slot) : Prop :=
  freqPeriod period < 1250 → codeVolts period / 2.0 ≤ lineLevel p slot

theorem coded_iff {p : Haptics.Cubic ℝ} {period : UInt32} {slot : Slot} :
    Coded p period slot ↔
      (freqPeriod period < 1250 → codeVolts period / 2 ≤ lineLevel p slot) := by
  have htwo : (2.0 : ℝ) = 2 := by norm_num
  rw [Coded, htwo]

theorem clampCode_zero (period : UInt32) : clampCode (0 : ℝ) period = 0 := by
  by_cases hf : freqPeriod period < 1250
  · have hpos := codeVolts_pos hf
    exact (clampCode_eq_zero_iff hf).2 (by linarith)
  · exact clampCode_of_no_time hf 0

/-- Levels that have a code are above the tolerance. -/
theorem tolerance_lt_half_codeVolts {period : UInt32} (hf : freqPeriod period < 1250) :
    1e-6 < codeVolts period / 2 := by
  have htime : (1e-6 : ℝ) < driveTime period := tolerance_lt_driveTime_iff.2 hf
  have hroot : (1e-3 : ℝ) < √(driveTime period) := by
    refine Real.lt_sqrt_of_sq_lt ?_
    norm_num at htime ⊢
    linarith
  rw [codeVolts, voltsPerCode_eq]
  norm_num at hroot ⊢
  linarith

/-- A clamp is the ceiling or the code of the level. -/
theorem effectClamp_cases {α : Type} [Analytic α] (curve : TransferCurve α)
    (period ceiling : UInt32) (slot : Slot) :
    effectClamp (some curve) period ceiling slot = ceiling ∨
      clampCode (curve.levelFor slot.target) period ≠ 0 ∧
        effectClamp (some curve) period ceiling slot =
          clampCode (curve.levelFor slot.target) period := by
  by_cases hcode : clampCode (curve.levelFor slot.target) period = 0
  · exact .inl (effectClamp_of_code_eq_zero hcode)
  · have hsolved : solvedClamp (some curve) period ceiling slot =
        clampCode (curve.levelFor slot.target) period := if_neg hcode
    simp only [effectClamp, hsolved]
    split
    · exact .inl (if_pos (UInt32.le_refl _))
    · by_cases hle : clampCode (curve.levelFor slot.target) period ≤ ceiling
      · exact .inr ⟨hcode, if_pos hle⟩
      · exact .inl (if_neg hle)

section
variable {p : Haptics.Cubic ℝ} {period ceiling : UInt32} {slot stronger : Slot}
  (hline : NearZero p.c ∧ NearZero p.d) (ha : 1e-6 < p.a)
include ha

theorem lineLevel_le (h : slot.index ≤ stronger.index) :
    lineLevel p slot ≤ lineLevel p stronger := by
  have hpos : 0 < p.a := by
    norm_num at ha
    linarith
  exact div_le_div_of_nonneg_right (sub_le_sub_right (Slot.target_le_of_index_le h) _) hpos.le

include hline

theorem levelFor_target :
    (TransferCurve.ofCoefficients p).levelFor slot.target =
      if Drivable (lineLevel p slot) then lineLevel p slot else 0 :=
  TransferCurve.levelFor_line hline (fun h => ha.not_ge h.2) slot.target

theorem effectClamp_of_not_drivable (h : ¬Drivable (lineLevel p slot)) :
    effectClamp (some (TransferCurve.ofCoefficients p)) period ceiling slot = ceiling := by
  refine effectClamp_of_code_eq_zero ?_
  rw [levelFor_target hline ha, if_neg h, clampCode_zero]

/-- If the weaker of two slots has a code, its clamp is not above that of the stronger one. -/
theorem effectClamp_le_of_coded (h : slot.index ≤ stronger.index) (hc : Coded p period slot) :
    effectClamp (some (TransferCurve.ofCoefficients p)) period ceiling slot ≤
      effectClamp (some (TransferCurve.ofCoefficients p)) period ceiling stronger := by
  rcases effectClamp_cases (TransferCurve.ofCoefficients p) period ceiling stronger with
    hceiling | ⟨hcode, hclamp⟩
  · rw [hceiling]
    exact (effectClamp_within _ period ceiling slot).1
  · by_cases hs : slot = .top
    · have heq : stronger = .top := by
        subst hs
        cases stronger <;> first | rfl | exact absurd h (by decide)
      rw [hs, heq]
      exact UInt32.le_refl _
    · have hf : freqPeriod period < 1250 := by
        by_contra hn
        exact hcode (clampCode_of_no_time hn _)
      have hd : Drivable (lineLevel p stronger) := by
        by_contra hn
        rw [levelFor_target hline ha, if_neg hn] at hcode
        exact hcode (clampCode_zero period)
      have hle := lineLevel_le ha h
      have hhalf := coded_iff.1 hc hf
      -- the weaker level lies between half a step and the stronger one, so it can be produced too
      have hdrivable : Drivable (lineLevel p slot) :=
        drivable_iff.2 ⟨(tolerance_lt_half_codeVolts hf).trans_le hhalf,
          hle.trans (drivable_iff.1 hd).2⟩
      have hweak : (TransferCurve.ofCoefficients p).levelFor slot.target = lineLevel p slot := by
        rw [levelFor_target hline ha, if_pos hdrivable]
      have hstrong : (TransferCurve.ofCoefficients p).levelFor stronger.target =
          lineLevel p stronger := by
        rw [levelFor_target hline ha, if_pos hd]
      have hne : clampCode ((TransferCurve.ofCoefficients p).levelFor slot.target) period ≠ 0 := by
        rw [hweak]
        exact fun he => hhalf.not_gt ((clampCode_eq_zero_iff hf).1 he)
      rw [hclamp, effectClamp_of_code_ne_zero hne hs, hweak, hstrong]
      exact UInt32.le_trans Std.min_le_left (clampCode_mono hle)

end

/-! ## Strengths -/

noncomputable def Record.clampOn (record : Record) (p : Haptics.Cubic ℝ) (slot : Slot) : UInt32 :=
  (record.effectSettingOn (.ofCoefficients p)).clampAt slot.index

/-- **Clamps rise with the slots from the first one that has a code.**  The setting of a record is
the one that is solved from its own curve.  On a line that rises by more than the tolerance, a slot
whose target the line reaches at no level above the tolerance has the ceiling for its clamp.  Of two
slots of which the weaker one has a code, the stronger one has the higher clamp or the same; if the
weakest slot has a code, all five clamps rise.  So a light request is not driven harder than a
medium one, nor a medium one harder than a strong one, if the slot of the weaker request has a
code. -/
theorem clamps_rise_from_coded_slot (record : Record) {p : Haptics.Cubic ℝ}
    (hline : NearZero p.c ∧ NearZero p.d) (ha : 1e-6 < p.a) :
    (∀ curve, record.curve = some curve →
      record.effectSetting = record.effectSettingOn curve) ∧
    (∀ slot, lineLevel p slot ≤ 1e-6 → record.clampOn p slot = record.shortVoltageMax) ∧
    (∀ slot stronger : Slot, slot.index ≤ stronger.index → Coded p record.lraPeriod slot →
      record.clampOn p slot ≤ record.clampOn p stronger) ∧
    (Coded p record.lraPeriod .textureTick →
      (record.effectSettingOn (.ofCoefficients p)).clamps.Pairwise (· ≤ ·)) ∧
    ∀ (catalog : Catalog) (effect : Effect) (light medium strong : Plan),
      catalog.plan? effect .light = some light → catalog.plan? effect .medium = some medium →
      catalog.plan? effect .strong = some strong →
        (Coded p record.lraPeriod light.slot →
          record.clampOn p light.slot ≤ record.clampOn p medium.slot) ∧
        (Coded p record.lraPeriod medium.slot →
          record.clampOn p medium.slot ≤ record.clampOn p strong.slot) := by
  have hrise (slot stronger : Slot) (h : slot.index ≤ stronger.index)
      (hc : Coded p record.lraPeriod slot) : record.clampOn p slot ≤ record.clampOn p stronger := by
    rw [Record.clampOn, Record.clampOn, record.effectSettingOn_clampAt,
      record.effectSettingOn_clampAt]
    exact effectClamp_le_of_coded hline ha h hc
  refine ⟨fun _ => Record.effectSetting_eq_effectSettingOn, fun slot hl => ?_, hrise, fun hc => ?_,
    fun catalog effect light medium strong hl hm hs => ?_⟩
  · rw [Record.clampOn, record.effectSettingOn_clampAt]
    exact effectClamp_of_not_drivable hline ha fun hd => hl.not_gt (drivable_iff.1 hd).1
  · have hordered : Slot.all.Pairwise fun slot stronger => slot.index ≤ stronger.index := by decide
    refine List.pairwise_map.2 (hordered.imp fun {slot stronger} h => ?_)
    have hcoded : Coded p record.lraPeriod slot := fun hf =>
      (hc hf).trans (lineLevel_le ha (Nat.zero_le _))
    exact effectClamp_le_of_coded hline ha h hcoded
  · exact ⟨hrise _ _ (Catalog.slot_index_le (by decide) hl hm),
      hrise _ _ (Catalog.slot_index_le (by decide) hm hs)⟩

/-- Half a unit per volt and no offset: every slot has a code and the clamps rise. -/
theorem clamps_rise_through_origin :
    NearZero (0 : ℝ) ∧ (1e-6 : ℝ) < 0.5 ∧
      Coded ⟨0.5, 0, 0, 0⟩ Record.uncalibrated.lraPeriod .textureTick ∧
      (Record.uncalibrated.effectSettingOn
        (.ofCoefficients (⟨0.5, 0, 0, 0⟩ : Haptics.Cubic ℝ))).clamps.Pairwise (· ≤ ·) := by
  have hslope : (1e-6 : ℝ) < 0.5 := by norm_num
  have hcoded : Coded ⟨0.5, 0, 0, 0⟩ Record.uncalibrated.lraPeriod .textureTick := by
    intro _
    have hhigh := codeVolts_uncalibrated.2
    norm_num [lineLevel, Slot.target] at hhigh ⊢
    linarith
  exact ⟨nearZero_zero, hslope, hcoded,
    (clamps_rise_from_coded_slot Record.uncalibrated ⟨nearZero_zero, nearZero_zero⟩
      hslope).2.2.2.1 hcoded⟩

/-- A line that is at 0.2 without a drive level is above the target of a tick.  A light click, which
is driven at that slot, gets the ceiling of 107, and a medium one the code of 0.14 volts. -/
theorem light_click_above_medium :
    NearZero (0 : ℝ) ∧ (1e-6 : ℝ) < 0.5 ∧
      ∃ light medium, ({} : Catalog).plan? .click .light = some light ∧
        ({} : Catalog).plan? .click .medium = some medium ∧
        Record.uncalibrated.clampOn ⟨0.5, 0.2, 0, 0⟩ light.slot = 107 ∧
        Record.uncalibrated.clampOn ⟨0.5, 0.2, 0, 0⟩ medium.slot = 7 := by
  have hslope : (1e-6 : ℝ) < 0.5 := by norm_num
  have hline : NearZero (0 : ℝ) ∧ NearZero (0 : ℝ) := ⟨nearZero_zero, nearZero_zero⟩
  refine ⟨nearZero_zero, hslope, _, _, rfl, rfl, ?_, ?_⟩
  · have hnot : ¬Drivable (lineLevel ⟨0.5, 0.2, 0, 0⟩ .tick) := by
      norm_num [drivable_iff, lineLevel, Slot.target]
    change Record.uncalibrated.clampOn _ .tick = 107
    rw [Record.clampOn, Record.effectSettingOn_clampAt]
    exact effectClamp_of_not_drivable hline hslope hnot
  · have hlevel : lineLevel ⟨0.5, 0.2, 0, 0⟩ .click = 0.14 := by
      norm_num [lineLevel, Slot.target]
    have hdrivable : Drivable (0.14 : ℝ) := by norm_num [drivable_iff]
    have hcode : clampCode (0.14 : ℝ) Record.uncalibrated.lraPeriod = 7 := by
      have hword : (7 : UInt32).toNat = 7 := rfl
      apply clampCode_uncalibrated <;> norm_num [hword]
    have hsolved : clampCode ((TransferCurve.ofCoefficients
        (⟨0.5, 0.2, 0, 0⟩ : Haptics.Cubic ℝ)).levelFor Slot.click.target)
          Record.uncalibrated.lraPeriod = 7 := by
      have hfound := @levelFor_target ⟨0.5, 0.2, 0, 0⟩ .click hline hslope
      rw [hlevel, if_pos hdrivable] at hfound
      rw [hfound, hcode]
    change Record.uncalibrated.clampOn _ .click = 7
    rw [Record.clampOn, Record.effectSettingOn_clampAt,
      effectClamp_of_code_ne_zero (by rw [hsolved]; decide) (by decide), hsolved]
    decide

end Haptics
