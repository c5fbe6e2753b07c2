import Haptics.Waveform.Effect

/-!
# The effect catalog

Effects are played by waveforms that the driver holds, addressed by index.  The catalog turns an
effect and a strength into the program that plays it, the time it takes and the slot it is
driven at.  Times are words of milliseconds and saturate.
-/

namespace Haptics

/-! ## Durations -/

/-- The sum of two times, limited to the longest one. -/
def addSaturating (a b : UInt32) : UInt32 :=
  UInt32.ofNat (min (UInt32.size - 1) (a.toNat + b.toNat))

/-- The sum of two times, or the first of them where the sum is too long for a word. -/
def addUnlessTooLong (a b : UInt32) : UInt32 :=
  if a.toNat + b.toNat < UInt32.size then a + b else a

/-- How long the stored waveforms play, in milliseconds. -/
structure Durations where
  click : UInt32 := 6
  tick : UInt32 := 2
  doubleClick : UInt32 := 135
  heavyClick : UInt32 := 8
deriving DecidableEq, Repr

/-! ## Programs -/

inductive Program where
  /-- The waveform at an index, played through the sequencer. -/
  | sequence (index : UInt32)
  /-- The waveforms at two indices with a pause between them, played through the effect queue. -/
  | queue (first pause second : UInt32)
deriving DecidableEq, Repr

namespace Program

/-- A sequencer program is a waveform's index and how often it is repeated. -/
def sequenceText (index : UInt32) : String :=
  s!"{index} 0"

def text : Program → String
  | sequence index => sequenceText index
  | queue first pause second => s!"{sequenceText first},{pause},{sequenceText second}"

end Program

structure Plan where
  program : Program
  duration : UInt32
  slot : Slot
deriving DecidableEq, Repr

/-! ## The catalog -/

/-- What the plans depend on. -/
structure Catalog where
  durations : Durations := {}
  /-- Whether the driver takes compound programs. -/
  queue : Bool := true
  /-- The time the driver needs before a waveform starts, in milliseconds. -/
  startLatency : UInt32 := 0
deriving DecidableEq, Repr

namespace Catalog

/-- The index of each stored waveform. -/
def clickWaveform : UInt32 := 1

@[inherit_doc clickWaveform]
def tickWaveform : UInt32 := 2

@[inherit_doc clickWaveform]
def doubleClickWaveform : UInt32 := 3

@[inherit_doc clickWaveform]
def heavyClickWaveform : UInt32 := 4

/-- The effect index that plays what the effect queue holds. -/
def queueTrigger : UInt32 := 65534

def doubleClickSilence : UInt32 := 100

def pauseMargin : UInt32 := 1

/-- A stored waveform takes the start latency and its own time. -/
def simple (catalog : Catalog) (index duration : UInt32) (slot : Slot) : Plan :=
  { program := .sequence index
    duration := addSaturating duration catalog.startLatency
    slot := slot }

/-- A double click through the effect queue: both halves take the start latency. -/
def compound (catalog : Catalog) (slot : Slot) : Plan :=
  let first := addSaturating catalog.durations.click catalog.startLatency
  let paused := addSaturating first (doubleClickSilence + pauseMargin)
  { program := .queue clickWaveform doubleClickSilence heavyClickWaveform
    duration :=
      addSaturating (addSaturating paused catalog.durations.heavyClick) catalog.startLatency
    slot := slot }

/-- How an effect is played, or nothing for an effect that the driver has no waveform for.  The
texture tick is always driven at its own slot, whatever the strength. -/
def plan? (catalog : Catalog) (effect : Effect) (strength : Strength) : Option Plan :=
  match effect with
  | .click =>
    some (catalog.simple clickWaveform catalog.durations.click (Slot.click.shifted strength))
  | .tick => some (catalog.simple tickWaveform catalog.durations.tick (Slot.tick.shifted strength))
  | .heavyClick =>
    some (catalog.simple heavyClickWaveform catalog.durations.heavyClick
      (Slot.heavyClick.shifted strength))
  | .textureTick => some (catalog.simple tickWaveform catalog.durations.tick .textureTick)
  | .doubleClick =>
    if catalog.queue then some (catalog.compound (Slot.click.shifted strength))
    else
      some (catalog.simple doubleClickWaveform catalog.durations.doubleClick
        (Slot.click.shifted strength))
  | .thud => none
  | .pop => none

end Catalog
end Haptics
