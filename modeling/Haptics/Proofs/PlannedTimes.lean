import Haptics.Waveform.Catalog

/-!
# Planned times

Words of milliseconds are added one after the other, each sum limited to the longest word.  Such a
chain of sums is the exact sum limited once (`toNat_foldl_addSaturating`), so a plan lasts what
`Catalog.total?` says of its effect in the naturals, up to the longest word
(`Catalog.lasts?_eq`).  What plans have to do with each other is then arithmetic: the queued double
click is as long as the two plans it is made of and its pause, and longer parts never make a
shorter plan.
-/

namespace Haptics

def longestTime : Nat := UInt32.size - 1

theorem min_toNat_longestTime (time : UInt32) : min longestTime time.toNat = time.toNat :=
  Nat.min_eq_right (Nat.le_pred_of_lt time.toNat_lt_size)

theorem toNat_addSaturating (a b : UInt32) :
    (addSaturating a b).toNat = min longestTime (a.toNat + b.toNat) := by
  have hfits : min (UInt32.size - 1) (a.toNat + b.toNat) < UInt32.size := by
    have hsize : 0 < UInt32.size := by decide
    omega
  rw [addSaturating, UInt32.toNat_ofNat_of_lt' hfits, longestTime]

/-- Limiting every sum on the way is limiting the last one, from any start that is limited itself. -/
theorem toNat_foldl_addSaturating (times : List UInt32) {start : UInt32} {total : Nat}
    (hstart : start.toNat = min longestTime total) :
    (times.foldl addSaturating start).toNat =
      min longestTime (times.foldl (fun total time => total + time.toNat) total) := by
  induction times generalizing start total with
  | nil => exact hstart
  | cons time rest ih =>
    have hnext : (addSaturating start time).toNat = min longestTime (total + time.toNat) := by
      rw [toNat_addSaturating, hstart]
      omega
    exact ih hnext

namespace Catalog

/-- How long an effect is played, in the naturals: a stored waveform takes the start latency and
its own time, a double click through the queue both halves, the silence and the margin of its
pause. -/
def total? (catalog : Catalog) : Effect → Option Nat
  | .click => some (catalog.durations.click.toNat + catalog.startLatency.toNat)
  | .tick => some (catalog.durations.tick.toNat + catalog.startLatency.toNat)
  | .heavyClick => some (catalog.durations.heavyClick.toNat + catalog.startLatency.toNat)
  | .textureTick => some (catalog.durations.tick.toNat + catalog.startLatency.toNat)
  | .doubleClick =>
    if catalog.queue then
      some (catalog.durations.click.toNat + catalog.startLatency.toNat + 101 +
        catalog.durations.heavyClick.toNat + catalog.startLatency.toNat)
    else some (catalog.durations.doubleClick.toNat + catalog.startLatency.toNat)
  | .thud => none
  | .pop => none

def lasts? (catalog : Catalog) (effect : Effect) (strength : Strength) : Option Nat :=
  (catalog.plan? effect strength).map fun plan => plan.duration.toNat

variable (catalog : Catalog)

theorem toNat_duration_simple (index time : UInt32) (slot : Slot) :
    (catalog.simple index time slot).duration.toNat =
      min longestTime (time.toNat + catalog.startLatency.toNat) :=
  toNat_addSaturating time catalog.startLatency

theorem toNat_duration_compound (slot : Slot) :
    (catalog.compound slot).duration.toNat =
      min longestTime (catalog.durations.click.toNat + catalog.startLatency.toNat + 101 +
        catalog.durations.heavyClick.toNat + catalog.startLatency.toNat) := by
  have hpause : (doubleClickSilence + pauseMargin).toNat = 101 := rfl
  have hchain : (catalog.compound slot).duration =
      [catalog.startLatency, doubleClickSilence + pauseMargin, catalog.durations.heavyClick,
        catalog.startLatency].foldl addSaturating catalog.durations.click := rfl
  rw [hchain, toNat_foldl_addSaturating _ (min_toNat_longestTime _).symm]
  simp only [List.foldl_cons, List.foldl_nil, hpause]

/-- A plan lasts the total of its effect, limited once. -/
theorem lasts?_eq (effect : Effect) (strength : Strength) :
    catalog.lasts? effect strength = (catalog.total? effect).map (min longestTime) := by
  unfold lasts? plan? total?
  cases effect with
  | click | tick | heavyClick | textureTick =>
    exact congrArg some (catalog.toNat_duration_simple ..)
  | doubleClick =>
    dsimp only
    split
    · exact congrArg some (catalog.toNat_duration_compound _)
    · exact congrArg some (catalog.toNat_duration_simple ..)
  | thud | pop => rfl

/-! ## Longer parts -/

/-- No part of the second catalog is shorter, and both or neither take compound programs. -/
structure Within (catalog longer : Catalog) : Prop where
  queue : longer.queue = catalog.queue
  startLatency : catalog.startLatency ≤ longer.startLatency
  click : catalog.durations.click ≤ longer.durations.click
  tick : catalog.durations.tick ≤ longer.durations.tick
  doubleClick : catalog.durations.doubleClick ≤ longer.durations.doubleClick
  heavyClick : catalog.durations.heavyClick ≤ longer.durations.heavyClick

variable {catalog} {longer : Catalog}

theorem total?_of_within (h : catalog.Within longer) {effect : Effect} {total : Nat}
    (htotal : catalog.total? effect = some total) :
    ∃ other, longer.total? effect = some other ∧ total ≤ other := by
  obtain ⟨hqueue, hlatency, hclick, htick, hdouble, hheavy⟩ := h
  rw [UInt32.le_iff_toNat_le] at hlatency hclick htick hdouble hheavy
  unfold total? at htotal ⊢
  cases effect with
  | click | tick | heavyClick | textureTick =>
    obtain rfl := Option.some.inj htotal
    exact ⟨_, rfl, by omega⟩
  | doubleClick =>
    dsimp only at htotal ⊢
    rw [hqueue]
    split at htotal
    · rename_i hq
      obtain rfl := Option.some.inj htotal
      rw [if_pos hq]
      exact ⟨_, rfl, by omega⟩
    · rename_i hq
      obtain rfl := Option.some.inj htotal
      rw [if_neg hq]
      exact ⟨_, rfl, by omega⟩
  | thud | pop => cases htotal

/-- A plan becomes no shorter where parts become longer. -/
theorem lasts?_of_within (h : catalog.Within longer) {effect : Effect} {strength : Strength}
    {time : Nat} (htime : catalog.lasts? effect strength = some time) :
    ∃ other, longer.lasts? effect strength = some other ∧ time ≤ other := by
  rw [lasts?_eq] at htime ⊢
  obtain ⟨total, htotal, rfl⟩ := Option.map_eq_some_iff.1 htime
  obtain ⟨other, hother, hle⟩ := total?_of_within h htotal
  refine ⟨min longestTime other, ?_, by omega⟩
  rw [hother]
  rfl

/-- **A plan lasts the exact total of its effect, limited once to the longest word.**  The queued
double click lasts as long as the plans of click and heavy click with the silence and margin
between them, is the programs of both with the silence between them, and is driven at the slot of
the click; without a queue it lasts as long as its own stored waveform, at the same slot.  No plan
gets shorter where a duration or the start latency gets longer. -/
theorem planned_times_are_exact_totals (catalog : Catalog) (strength : Strength) :
    let latency := catalog.startLatency.toNat
    let click := catalog.durations.click.toNat
    let heavyClick := catalog.durations.heavyClick.toNat
    (catalog.lasts? .click strength = some (min longestTime (click + latency)) ∧
      catalog.lasts? .tick strength =
        some (min longestTime (catalog.durations.tick.toNat + latency)) ∧
      catalog.lasts? .heavyClick strength = some (min longestTime (heavyClick + latency)) ∧
      catalog.lasts? .textureTick strength =
        some (min longestTime (catalog.durations.tick.toNat + latency))) ∧
    (∃ first second double, catalog.plan? .click strength = some first ∧
      catalog.plan? .heavyClick strength = some second ∧
      catalog.plan? .doubleClick strength = some double ∧ double.slot = first.slot ∧
      (catalog.queue = true →
        double.duration.toNat =
          min longestTime (click + latency + 101 + heavyClick + latency) ∧
        double.duration.toNat =
          min longestTime (first.duration.toNat + 101 + second.duration.toNat) ∧
        (∃ i j, first.program = .sequence i ∧ second.program = .sequence j ∧
          double.program = .queue i 100 j) ∧
        double.program.text = ",".intercalate [first.program.text, "100", second.program.text]) ∧
      (catalog.queue = false →
        double.duration.toNat =
          min longestTime (catalog.durations.doubleClick.toNat + latency))) ∧
    ∀ longer, catalog.Within longer → ∀ effect time,
      catalog.lasts? effect strength = some time →
        ∃ other, longer.lasts? effect strength = some other ∧ time ≤ other := by
  intro latency click heavyClick
  refine ⟨⟨lasts?_eq catalog .click strength, lasts?_eq catalog .tick strength,
    lasts?_eq catalog .heavyClick strength, lasts?_eq catalog .textureTick strength⟩, ?_,
    fun longer h effect time => lasts?_of_within h⟩
  have hfirst := catalog.toNat_duration_simple clickWaveform catalog.durations.click
    (Slot.click.shifted strength)
  have hsecond := catalog.toNat_duration_simple heavyClickWaveform catalog.durations.heavyClick
    (Slot.heavyClick.shifted strength)
  cases hqueue : catalog.queue with
  | true =>
    have hdouble := catalog.toNat_duration_compound (Slot.click.shifted strength)
    refine ⟨_, _, catalog.compound (Slot.click.shifted strength), rfl, rfl,
      by rw [plan?, hqueue]; rfl, rfl, fun _ => ⟨hdouble, ?_, ⟨_, _, rfl, rfl, rfl⟩, rfl⟩, nofun⟩
    -- the two halves are limited first; then so is their sum, and by the same bound
    rw [hdouble, hfirst, hsecond]
    omega
  | false =>
    have hdouble := catalog.toNat_duration_simple doubleClickWaveform
      catalog.durations.doubleClick (Slot.click.shifted strength)
    exact ⟨_, _, catalog.simple doubleClickWaveform catalog.durations.doubleClick
      (Slot.click.shifted strength), rfl, rfl, by rw [plan?, hqueue]; rfl, rfl, nofun,
      fun _ => hdouble⟩

/-- A click that is short of the longest time on its own makes a double click that is not, through
the queue and without one, and a longer latency keeps the click's plan from getting shorter. -/
theorem double_click_reaches_longest_time :
    let late : Catalog :=
      { durations := { click := 4294967200, doubleClick := 4294967292 }, startLatency := 6 }
    (∃ double, late.plan? .doubleClick .strong = some double ∧
      double.duration.toNat = 4294967295 ∧ double.program.text = "1 0,100,4 0") ∧
    (∃ double, { late with queue := false }.plan? .doubleClick .strong = some double ∧
      double.duration.toNat = 4294967295) ∧
    ∃ time, { late with startLatency := 90 }.lasts? .click .strong = some time ∧
      4294967206 ≤ time := by
  intro late
  have hlonger : late.Within { late with startLatency := 90 } := by
    constructor <;> decide
  obtain ⟨-, ⟨first, second, queued, hfirst, hsecond, hqueued, -, hparts, -⟩, hlasts⟩ :=
    planned_times_are_exact_totals late .strong
  obtain rfl := Option.some.inj hfirst
  obtain rfl := Option.some.inj hsecond
  obtain ⟨-, ⟨_, _, stored, -, -, hstored, -, -, htime⟩, -⟩ :=
    planned_times_are_exact_totals { late with queue := false } .strong
  obtain ⟨htotal, -, -, htext⟩ := hparts rfl
  exact ⟨⟨queued, hqueued, htotal, htext⟩, ⟨stored, hstored, htime rfl⟩,
    hlasts _ hlonger .click _ rfl⟩

end Catalog
end Haptics
