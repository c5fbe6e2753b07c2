import Mathlib
import Haptics.Proofs.NodeContents
import Haptics.Proofs.RegisterTexts
import Haptics.Proofs.VolumeLevels

/-!
# The steps of a scale register

A DRV2624 is told attenuations and keeps one of four.  The bounds between its register values are
the midpoints between the four, so the one it keeps is the nearest for every integer there is, the
higher one where there are two (`nearest_of_midpoints`, `nearest_scaleRegister`); and the four are
what leaves 100, 75, 50 and 25 percent (`keptSteps_eq_percentSteps`).  A write reads its value as an
integer first (`RegisterValue.Reads`): it leaves the register value in the node's file, or is refused
and changes nothing (`scale_keeps_nearest_step`).
-/

namespace Haptics

/-! ## Attenuations -/

/-- An attenuation in steps is known by the powers of ten that the fraction lies between: a step is
the hundred-and-sixtieth part of a power of ten. -/
theorem attenuationSteps_of_powers {fraction : ℝ} {steps : UInt32} (hpos : 0 < fraction)
    (hle : fraction ≤ 1) (hlow : (10 : ℝ) ^ (2 * steps.toNat) ≤ 10 * fraction⁻¹ ^ 320)
    (hhigh : fraction⁻¹ ^ 320 < 10 * (10 : ℝ) ^ (2 * steps.toNat)) :
    attenuationSteps fraction = steps := by
  have hten : (1 : ℝ) < 10 := by norm_num
  have hpower : 0 < fraction⁻¹ ^ 320 := by positivity
  have hlog : Real.logb 10 (fraction⁻¹ ^ 320) = -320 * Real.logb 10 fraction := by
    rw [Real.logb_pow, Real.logb_inv]
    push_cast
    ring
  have hexact : Real.logb 10 ((10 : ℝ) ^ (2 * steps.toNat)) = 2 * steps.toNat := by
    rw [Real.logb_pow, Real.logb_self_eq_one hten]
    push_cast
    ring
  have hshift {x : ℝ} (hx : 0 < x) : Real.logb 10 (10 * x) = 1 + Real.logb 10 x := by
    rw [Real.logb_mul (by norm_num) hx.ne', Real.logb_self_eq_one hten]
  have hbelow := Real.logb_le_logb_of_le hten (by positivity) hlow
  have habove := Real.logb_lt_logb hten hpower hhigh
  rw [hshift hpower, hexact, hlog] at hbelow
  rw [hshift (by positivity), hexact, hlog] at habove
  rw [attenuationSteps_eq hpos, min_eq_left hle]
  apply nearestWord_eq <;> linarith

/-- The attenuation that leaves a percentage.  The powers are taken in two steps, as numerals are
computed for small exponents only. -/
theorem percentSteps_of_powers {percent steps : UInt32} (p n : Nat) (hp : percent.toNat = p)
    (hn : steps.toNat = n) (hpos : 0 < p) (hle : p ≤ 100)
    (hlow : (10 : ℝ) ^ (2 * n) ≤ 10 * (((p : ℝ) / 100)⁻¹ ^ 20) ^ 16)
    (hhigh : (((p : ℝ) / 100)⁻¹ ^ 20) ^ 16 < 10 * (10 : ℝ) ^ (2 * n)) :
    percentSteps ℝ percent = steps := by
  subst hp hn
  have hreal : (percent.toNat : ℝ) ≤ 100 := by exact_mod_cast hle
  rw [← pow_mul] at hlow hhigh
  rw [percentSteps_eq]
  exact attenuationSteps_of_powers (by positivity) (by linarith) hlow hhigh

namespace Drv2624

/-- The attenuations that the register can stand for, by its value, in eighths of a decibel. -/
def keptSteps : Fin 4 → Int
  | 0 => 0
  | 1 => 20
  | 2 => 48
  | 3 => 96

/-- What these attenuations leave, in percent of full scale. -/
def keptPercent : Fin 4 → UInt32
  | 0 => 100
  | 1 => 75
  | 2 => 50
  | 3 => 25

theorem keptSteps_eq_percentSteps (register : Fin 4) :
    keptSteps register = (percentSteps ℝ (keptPercent register)).toNat := by
  have hfull : percentSteps ℝ 100 = 0 := by
    apply percentSteps_of_powers 100 0 rfl rfl <;> norm_num
  have hthree : percentSteps ℝ 75 = 20 := by
    apply percentSteps_of_powers 75 20 rfl rfl <;> norm_num
  have hhalf : percentSteps ℝ 50 = 48 := by
    apply percentSteps_of_powers 50 48 rfl rfl <;> norm_num
  have hquarter : percentSteps ℝ 25 = 96 := by
    apply percentSteps_of_powers 25 96 rfl rfl <;> norm_num
  match register with
  | 0 => exact congrArg (fun steps => (steps.toNat : Int)) hfull.symm
  | 1 => exact congrArg (fun steps => (steps.toNat : Int)) hthree.symm
  | 2 => exact congrArg (fun steps => (steps.toNat : Int)) hhalf.symm
  | 3 => exact congrArg (fun steps => (steps.toNat : Int)) hquarter.symm

/-- The attenuation that a register value stands for is the nearest, and the highest of those that
are equally near. -/
def Nearest (steps : Int) (register : Fin 4) : Prop :=
  ∀ other, other ≠ register →
    (steps - keptSteps register).natAbs < (steps - keptSteps other).natAbs ∨
      (steps - keptSteps register).natAbs = (steps - keptSteps other).natAbs ∧
        keptSteps other < keptSteps register

theorem keptSteps_strictMono : StrictMono keptSteps := by
  unfold StrictMono
  decide

/-- The nearest one is that between whose midpoints to the others the attenuation is.  At a midpoint
it is the higher one. -/
theorem nearest_of_midpoints {steps : Int} {register : Fin 4}
    (h : ∀ other, (other < register → keptSteps other + keptSteps register ≤ 2 * steps) ∧
      (register < other → 2 * steps < keptSteps register + keptSteps other)) :
    Nearest steps register := by
  intro other hne
  obtain ⟨hbelow, habove⟩ := h other
  rcases lt_or_gt_of_ne hne with hlt | hgt
  · have hmid := hbelow hlt
    have hless := keptSteps_strictMono hlt
    omega
  · have hmid := habove hgt
    have hmore := keptSteps_strictMono hgt
    omega

/-- The register value that is kept for an attenuation is the nearest one. -/
theorem nearest_scaleRegister (steps : Int64) :
    ∃ register : Fin 4, (scaleRegister steps).toNat = register ∧ Nearest steps.toInt register := by
  rw [scaleRegister_eq]
  split_ifs with h₀ h₁ h₂
  · refine ⟨0, rfl, nearest_of_midpoints fun other => ?_⟩
    match other with
    | 0 | 1 | 2 | 3 => simp [keptSteps] <;> omega
  · refine ⟨1, rfl, nearest_of_midpoints fun other => ?_⟩
    match other with
    | 0 | 1 | 2 | 3 => simp [keptSteps] <;> omega
  · refine ⟨2, rfl, nearest_of_midpoints fun other => ?_⟩
    match other with
    | 0 | 1 | 2 | 3 => simp [keptSteps] <;> omega
  · refine ⟨3, rfl, nearest_of_midpoints fun other => ?_⟩
    match other with
    | 0 | 1 | 2 | 3 => simp [keptSteps] <;> omega

/-! ## Writes of an attenuation -/

section
variable {driver : Drv2624} {value : RegisterValue} {steps : Int64} {place : Location}

/-- What a write of an attenuation does to the nodes is to keep the register value. -/
theorem write_scale_of_reads (h : value.Reads steps) :
    Device.write .scale value driver =
      ((driver.nodes.set .scale (.ofWord (scaleRegister steps))).1,
        ⟨(driver.nodes.set .scale (.ofWord (scaleRegister steps))).2⟩) := by
  change write .scale value driver = _
  rw [write, RegisterValue.toInt?_eq_some.2 h]

theorem write_scale_of_not_reads (h : ∀ steps, ¬ value.Reads steps) :
    Device.write .scale value driver = (.error (.badScale value), driver) := by
  change write .scale value driver = _
  rw [write, RegisterValue.toInt?_eq_none.2 h]

end

/-- **The register holds the nearest step.**  What its four values stand for are the attenuations
that leave 100, 75, 50 and 25 percent.  For every attenuation the value that is kept stands for the
nearest of the four, and for the higher one where two are equally near; so it does not fall as the
attenuation rises.  A write whose value reads as an attenuation succeeds where the channel's node is
a file: the file holds the register value and everything else is as before.  A write whose value
does not read as one is refused as invalid input and changes nothing at all. -/
theorem scale_keeps_nearest_step :
    (∀ register, keptSteps register = (percentSteps ℝ (keptPercent register)).toNat) ∧
    (∀ steps : Int64, ∃ register : Fin 4,
      (scaleRegister steps).toNat = register ∧ Nearest steps.toInt register) ∧
    (∀ steps more : Int64, steps ≤ more → scaleRegister steps ≤ scaleRegister more) ∧
    (∀ (driver : Drv2624) (value : RegisterValue) (steps : Int64) (place : Location),
      value.Reads steps → driver.nodes.place? .scale = some place →
        (Device.write .scale value driver).1 = .ok () ∧
        ∀ location, (Device.write .scale value driver).2.nodes.files.find? location =
          if location = place then
            some (.file (.text (toString (scaleRegister steps) ++ "\n")))
          else driver.nodes.files.find? location) ∧
    ∀ (driver : Drv2624) (value : RegisterValue), (∀ steps, ¬ value.Reads steps) →
      Device.write .scale value driver = (.error (.badScale value), driver) ∧
      (Fault.badScale value).kind = .invalidInput := by
  refine ⟨keptSteps_eq_percentSteps, nearest_scaleRegister, fun _ _ => scaleRegister_mono,
    fun driver value steps place hr hp => ?_, fun driver value hn =>
      ⟨write_scale_of_not_reads hn, rfl⟩⟩
  rw [write_scale_of_reads hr]
  refine ⟨NodeTable.set_ok_of_place? hp _, fun location => ?_⟩
  rw [← RegisterValue.toText_ofWord]
  exact NodeTable.find?_set_of_place? hp _ location

theorem half_kept_for_padded_text :
    scaleRegister 33 ≤ scaleRegister 34 ∧
    (Device.write .scale (.text " 48\n") (attach sharedBench "" "temp")).2.nodes.files.find?
      ["device", "scale"] = some (.file (.text "2\n")) ∧
    (Device.write .scale (.text "4 8") (attach sharedBench "" "temp")).1 =
      .error (.badScale (.text "4 8")) := by
  have hplace : (attach sharedBench "" "temp").nodes.place? .scale = some ["device", "scale"] := rfl
  have hreads : (RegisterValue.text " 48\n").Reads 48 := RegisterValue.toInt?_eq_some.1 (by decide)
  have hnone : ∀ steps, ¬ (RegisterValue.text "4 8").Reads steps :=
    RegisterValue.toInt?_eq_none.1 (by decide)
  exact ⟨scale_keeps_nearest_step.2.2.1 33 34 (by decide),
    (scale_keeps_nearest_step.2.2.2.1 _ _ 48 _ hreads hplace).2 ["device", "scale"],
    congrArg Prod.fst (scale_keeps_nearest_step.2.2.2.2 _ _ hnone).1⟩

end Drv2624
end Haptics
