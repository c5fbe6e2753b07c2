/-!
# Periods and frequencies

The driver counts the resonant period in ticks of 24.615 µs.  Period and frequency are turned
into each other by the same truncating division.
-/

namespace Haptics

def nanosPerSecond : Nat := 1000000000

def nanosPerTick : Nat := 24615

/-- The frequency (Hz) of a period (ticks), and the period of a frequency; zero for zero. -/
def freqPeriod (value : UInt32) : UInt32 :=
  UInt32.ofNat (nanosPerSecond / (nanosPerTick * value.toNat))

/-- The period after the resonant frequency is lowered by `shift` Hz.  A shift that leaves no
positive frequency leaves the period as it is. -/
def shiftedPeriod (period shift : UInt32) : UInt32 :=
  let frequency := freqPeriod period
  if shift < frequency then
    let shifted := freqPeriod (frequency - shift)
    if 0 < shifted then shifted else period
  else period

end Haptics
