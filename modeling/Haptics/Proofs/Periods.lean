import Haptics.Drive.Period

/-!
# Periods and frequencies

A period and its frequency have a product of at most 40625, the ticks of a second; the truncating
division makes each the largest number for which that holds (`toNat_freqPeriod`).  So a period is at
most that of a frequency exactly if the frequency is at most that of the period
(`le_freqPeriod_comm`), and all else follows from this exchange: a longer period never has a higher
frequency, what was converted once is found again by converting it twice more
(`freqPeriod_inverse_on_image`), and lowering the frequency never shortens the period nor lowers
the frequency by more than was asked (`shiftedPeriod_between`).
-/

namespace Haptics

def ticksPerSecond : Nat := 40625

theorem toNat_freqPeriod (value : UInt32) :
    (freqPeriod value).toNat = ticksPerSecond / value.toNat := by
  have hd : nanosPerSecond / (nanosPerTick * value.toNat) = ticksPerSecond / value.toNat := by
    rw [← Nat.div_div_eq_div_mul]; rfl
  have hle : ticksPerSecond / value.toNat ≤ ticksPerSecond := Nat.div_le_self _ _
  rw [freqPeriod, hd, UInt32.toNat_ofNat_of_lt']
  exact Nat.lt_of_le_of_lt hle (by decide)

theorem freqPeriod_zero : freqPeriod 0 = 0 := rfl

theorem freqPeriod_le (value : UInt32) : freqPeriod value ≤ 40625 := by
  rw [UInt32.le_iff_toNat_le, toNat_freqPeriod]
  exact Nat.div_le_self _ _

/-- Only what is not zero has a conversion that is not. -/
theorem pos_of_freqPeriod_pos {value : UInt32} (h : 0 < freqPeriod value) : 0 < value := by
  by_cases hz : value = 0
  · rw [hz, freqPeriod_zero] at h
    exact absurd h (UInt32.lt_irrefl 0)
  · exact UInt32.pos_iff_ne_zero.2 hz

/-- Longer periods have lower frequencies. -/
theorem freqPeriod_antitone {period longer : UInt32} (hp : 0 < period) (h : period ≤ longer) :
    freqPeriod longer ≤ freqPeriod period := by
  rw [UInt32.le_iff_toNat_le, toNat_freqPeriod, toNat_freqPeriod]
  exact Nat.div_le_div_left (UInt32.le_iff_toNat_le.1 h) (UInt32.lt_iff_toNat_lt.1 hp)

/-! ## Exchange of period and frequency -/

section
variable {value period frequency : UInt32}

theorem le_freqPeriod_iff (h : 0 < period) :
    frequency ≤ freqPeriod period ↔ period.toNat * frequency.toNat ≤ ticksPerSecond := by
  have hp : 0 < period.toNat := UInt32.lt_iff_toNat_lt.1 h
  rw [UInt32.le_iff_toNat_le, toNat_freqPeriod, Nat.le_div_iff_mul_le hp, Nat.mul_comm]

/-- The ticks of a second are rounded down, which does not matter to whole products. -/
theorem nanos_le_iff (product : Nat) :
    nanosPerTick * product ≤ nanosPerSecond ↔ product ≤ ticksPerSecond := by
  unfold nanosPerTick nanosPerSecond ticksPerSecond
  omega

theorem le_freqPeriod_comm (hp : 0 < period) (hf : 0 < frequency) :
    period ≤ freqPeriod frequency ↔ frequency ≤ freqPeriod period := by
  rw [le_freqPeriod_iff hf, le_freqPeriod_iff hp, Nat.mul_comm]

/-- A frequency of at most that of a period has a period of at least that one. -/
theorem le_freqPeriod (hf : 0 < frequency) (h : frequency ≤ freqPeriod period) :
    period ≤ freqPeriod frequency := by
  have hp : 0 < period := pos_of_freqPeriod_pos (UInt32.lt_of_lt_of_le hf h)
  exact (le_freqPeriod_comm hp hf).2 h

/-- To and fro is never less than at first, unless the way there leads to zero. -/
theorem le_freqPeriod_freqPeriod (h : 0 < freqPeriod value) :
    value ≤ freqPeriod (freqPeriod value) :=
  le_freqPeriod h (UInt32.le_refl _)

theorem freqPeriod_freqPeriod_freqPeriod (value : UInt32) :
    freqPeriod (freqPeriod (freqPeriod value)) = freqPeriod value := by
  by_cases hz : freqPeriod value = 0
  · rw [hz]
    rfl
  · have hpos : 0 < freqPeriod value := UInt32.pos_iff_ne_zero.2 hz
    have hv : 0 < value := pos_of_freqPeriod_pos hpos
    have hle : value ≤ freqPeriod (freqPeriod value) := le_freqPeriod_freqPeriod hpos
    have hback : 0 < freqPeriod (freqPeriod value) := UInt32.lt_of_lt_of_le hv hle
    apply UInt32.le_antisymm
    · exact freqPeriod_antitone hv hle
    · exact le_freqPeriod hback (UInt32.le_refl _)

/-- Just the results of a conversion are found again. -/
theorem freqPeriod_freqPeriod_eq_iff :
    freqPeriod (freqPeriod value) = value ↔ ∃ other, freqPeriod other = value := by
  constructor
  · intro h
    exact ⟨_, h⟩
  · rintro ⟨other, rfl⟩
    exact freqPeriod_freqPeriod_freqPeriod other

end

/-! ## Machine words -/

/-- The nanoseconds of a number of ticks, in a word of 64 bits. -/
def tickNanos (value : UInt32) : UInt64 :=
  24615 * value.toUInt64

theorem toNat_tickNanos (value : UInt32) :
    (tickNanos value).toNat = nanosPerTick * value.toNat := by
  have hlt := value.toNat_lt
  have htick : (24615 : UInt64).toNat = nanosPerTick := rfl
  rw [tickNanos, UInt64.toNat_mul, htick, UInt32.toNat_toUInt64, Nat.mod_eq_of_lt]
  unfold nanosPerTick
  omega

/-- The quotient of the two words fits half a word. -/
theorem toNat_div_tickNanos (value : UInt32) :
    (1000000000 / tickNanos value).toNat = (freqPeriod value).toNat := by
  have hsecond : (1000000000 : UInt64).toNat = nanosPerSecond := rfl
  have hfits : nanosPerSecond / (nanosPerTick * value.toNat) < UInt32.size :=
    Nat.lt_of_le_of_lt (Nat.div_le_self _ _) (by decide)
  rw [UInt64.toNat_div, toNat_tickNanos, hsecond, freqPeriod, UInt32.toNat_ofNat_of_lt' hfits]

theorem div_tickNanos_toUInt32 (value : UInt32) :
    (1000000000 / tickNanos value).toUInt32 = freqPeriod value := by
  rw [← UInt32.toNat_inj, UInt64.toNat_toUInt32, toNat_div_tickNanos]
  exact Nat.mod_eq_of_lt (freqPeriod value).toNat_lt

/-- **Period and frequency are each other's, as far as whole numbers go.**  A period is at most that
of a frequency exactly if the frequency is at most that of the period, which is the case exactly if
their product takes no more than a second.  Converting three times is converting once, and
converting twice gives back just what some number is converted to.  No number is converted to more
than 40625, and computing in words, of 64 bits for product and quotient and of 32 for the result,
loses nothing. -/
theorem freqPeriod_inverse_on_image :
    (∀ period frequency : UInt32, 0 < period → 0 < frequency →
      (period ≤ freqPeriod frequency ↔ frequency ≤ freqPeriod period) ∧
      (frequency ≤ freqPeriod period ↔
        nanosPerTick * period.toNat * frequency.toNat ≤ nanosPerSecond)) ∧
    ∀ value : UInt32,
      freqPeriod (freqPeriod (freqPeriod value)) = freqPeriod value ∧
      (freqPeriod (freqPeriod value) = value ↔ ∃ other, freqPeriod other = value) ∧
      freqPeriod value ≤ 40625 ∧
      (tickNanos value).toNat = nanosPerTick * value.toNat ∧
      (1000000000 / tickNanos value).toUInt32 = freqPeriod value ∧
      (1000000000 / tickNanos value).toNat = (freqPeriod value).toNat := by
  constructor
  · intro period frequency hp hf
    refine ⟨le_freqPeriod_comm hp hf, ?_⟩
    rw [le_freqPeriod_iff hp, Nat.mul_assoc, nanos_le_iff]
  · intro value
    exact ⟨freqPeriod_freqPeriod_freqPeriod value, freqPeriod_freqPeriod_eq_iff,
      freqPeriod_le value, toNat_tickNanos value, div_tickNanos_toUInt32 value,
      toNat_div_tickNanos value⟩

/-- 301 ticks have a frequency of 134 Hz, whose period is longer: 301 is no period of a
frequency. -/
theorem period_301_not_found_again :
    (0 : UInt32) < 301 ∧ (0 : UInt32) < 134 ∧ 301 ≤ freqPeriod 134 ∧ 134 ≤ freqPeriod 301 ∧
      (¬∃ other, freqPeriod other = 301) ∧ freqPeriod (freqPeriod (freqPeriod 301)) = 134 := by
  have hp : (0 : UInt32) < 301 := by decide
  have hf : (0 : UInt32) < 134 := by decide
  obtain ⟨hexchange, hwords⟩ := freqPeriod_inverse_on_image
  obtain ⟨hcomm, hproduct⟩ := hexchange 301 134 hp hf
  obtain ⟨hthrice, himage, -⟩ := hwords 301
  have hsecond : 134 ≤ freqPeriod 301 := hproduct.2 (by decide)
  refine ⟨hp, hf, hcomm.2 hsecond, hsecond, ?_, hthrice⟩
  rw [← himage]
  decide

/-! ## Shifted periods -/

section
variable {period shift : UInt32}

/-- What is left of a frequency is positive and no higher. -/
theorem sub_of_lt {frequency : UInt32} (h : shift < frequency) :
    0 < frequency - shift ∧ frequency - shift ≤ frequency := by
  have hsub := UInt32.toNat_sub_of_le frequency shift (UInt32.le_of_lt h)
  have hlt := UInt32.lt_iff_toNat_lt.1 h
  rw [UInt32.lt_iff_toNat_lt, UInt32.le_iff_toNat_le, hsub, UInt32.toNat_zero]
  omega

/-- The period of a lowered frequency is positive, so the shift always counts. -/
theorem freqPeriod_sub_pos (h : shift < freqPeriod period) :
    0 < freqPeriod (freqPeriod period - shift) := by
  obtain ⟨hpos, hle⟩ := sub_of_lt h
  have hp : 0 < period := pos_of_freqPeriod_pos (UInt32.lt_of_le_of_lt UInt32.zero_le h)
  exact UInt32.lt_of_lt_of_le hp (le_freqPeriod hpos hle)

theorem shiftedPeriod_of_lt (h : shift < freqPeriod period) :
    shiftedPeriod period shift = freqPeriod (freqPeriod period - shift) := by
  simp only [shiftedPeriod, if_pos h, if_pos (freqPeriod_sub_pos h)]

theorem shiftedPeriod_of_le (h : freqPeriod period ≤ shift) :
    shiftedPeriod period shift = period := by
  simp only [shiftedPeriod, if_neg (UInt32.not_lt.2 h)]

/-- Lowering the frequency does not shorten the period, whatever the shift. -/
theorem le_shiftedPeriod (period shift : UInt32) : period ≤ shiftedPeriod period shift := by
  by_cases h : shift < freqPeriod period
  · obtain ⟨hpos, hle⟩ := sub_of_lt h
    rw [shiftedPeriod_of_lt h]
    exact le_freqPeriod hpos hle
  · rw [shiftedPeriod_of_le (UInt32.not_lt.1 h)]
    exact UInt32.le_refl _

/-- Nor does it raise the frequency. -/
theorem freqPeriod_shiftedPeriod_le (period shift : UInt32) :
    freqPeriod (shiftedPeriod period shift) ≤ freqPeriod period := by
  by_cases hp : 0 < period
  · exact freqPeriod_antitone hp (le_shiftedPeriod period shift)
  · have hz : period = 0 := Decidable.not_not.1 fun hn => hp (UInt32.pos_iff_ne_zero.2 hn)
    rw [hz, shiftedPeriod_of_le UInt32.zero_le]
    exact UInt32.le_refl _

/-- And it does not lower the frequency by more than the shift. -/
theorem sub_le_freqPeriod_shiftedPeriod (h : shift < freqPeriod period) :
    freqPeriod period - shift ≤ freqPeriod (shiftedPeriod period shift) := by
  rw [shiftedPeriod_of_lt h]
  exact le_freqPeriod_freqPeriod (freqPeriod_sub_pos h)

/-- The more the frequency is lowered, the longer the period, as long as there is one. -/
theorem shiftedPeriod_mono {more : UInt32} (hle : shift ≤ more) (h : more < freqPeriod period) :
    shiftedPeriod period shift ≤ shiftedPeriod period more := by
  have hless : shift < freqPeriod period := UInt32.lt_of_le_of_lt hle h
  have hfewer : freqPeriod period - more ≤ freqPeriod period - shift := by
    rw [UInt32.le_iff_toNat_le, UInt32.toNat_sub_of_le _ _ (UInt32.le_of_lt h),
      UInt32.toNat_sub_of_le _ _ (UInt32.le_of_lt hless)]
    exact Nat.sub_le_sub_left (UInt32.le_iff_toNat_le.1 hle) _
  rw [shiftedPeriod_of_lt hless, shiftedPeriod_of_lt h]
  exact freqPeriod_antitone (sub_of_lt h).1 hfewer

end

/-- **A shifted period stays between the shifted and the nominal frequency.**  A shift below the
frequency of a period gives the period of what is left of it, which is positive, no shorter than
the period, and the longer the larger the shift; its own frequency is at least what is left and at
most the nominal one.  Any other shift leaves the period as it is.  No shift at all does so too,
of a period that has a frequency, exactly if the period is that of some frequency. -/
theorem shiftedPeriod_between (period : UInt32) (hp : 0 < period) :
    (∀ shift, shift < freqPeriod period →
      shiftedPeriod period shift = freqPeriod (freqPeriod period - shift) ∧
      0 < shiftedPeriod period shift ∧
      period ≤ shiftedPeriod period shift ∧
      (∀ more, shift ≤ more → more < freqPeriod period →
        shiftedPeriod period shift ≤ shiftedPeriod period more) ∧
      freqPeriod period - shift ≤ freqPeriod (shiftedPeriod period shift) ∧
      freqPeriod (shiftedPeriod period shift) ≤ freqPeriod period) ∧
    (∀ shift, freqPeriod period ≤ shift → shiftedPeriod period shift = period) ∧
    (0 < freqPeriod period →
      (shiftedPeriod period 0 = period ↔ ∃ frequency, freqPeriod frequency = period)) := by
  refine ⟨fun shift h => ?_, fun shift h => shiftedPeriod_of_le h, fun h => ?_⟩
  · have hle := le_shiftedPeriod period shift
    exact ⟨shiftedPeriod_of_lt h, UInt32.lt_of_lt_of_le hp hle, hle,
      fun more hmore hlt => shiftedPeriod_mono hmore hlt, sub_le_freqPeriod_shiftedPeriod h,
      freqPeriod_shiftedPeriod_le period shift⟩
  · rw [shiftedPeriod_of_lt h, UInt32.sub_zero]
    exact freqPeriod_freqPeriod_eq_iff

/-- Lowering the 134 Hz of 301 ticks by 14 Hz gives 338 ticks, which are 120 Hz; by nothing, 303
ticks. -/
theorem period_301_shifted :
    (0 : UInt32) < 301 ∧ (14 : UInt32) < freqPeriod 301 ∧ shiftedPeriod 301 14 = 338 ∧
      120 ≤ freqPeriod (shiftedPeriod 301 14) ∧ shiftedPeriod 301 10 ≤ shiftedPeriod 301 14 ∧
      shiftedPeriod 301 0 ≠ 301 ∧ shiftedPeriod 301 134 = 301 := by
  have hp : (0 : UInt32) < 301 := by decide
  have hs : (14 : UInt32) < freqPeriod 301 := by decide
  obtain ⟨hshift, hbeyond, hnone⟩ := shiftedPeriod_between 301 hp
  obtain ⟨heq, -, -, -, hfreq, -⟩ := hshift 14 hs
  obtain ⟨-, -, -, hmono, -, -⟩ := hshift 10 (by decide)
  refine ⟨hp, hs, heq, hfreq, hmono 14 (by decide) hs, ?_, hbeyond 134 (by decide)⟩
  intro h
  exact absurd (freqPeriod_freqPeriod_eq_iff.2 ((hnone (by decide)).1 h)) (by decide)

end Haptics
