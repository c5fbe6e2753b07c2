import Haptics.Error
import Haptics.Register.Device

/-!
# Scripts of register writes

What a request does to the driver is a script: writes in a fixed order, each of them mandatory or
not.  A script runs up to its first mandatory write that fails; nothing is tried twice.
-/

namespace Haptics

structure Write where
  channel : Channel
  value : RegisterValue
  /-- Whether the script stops when the write fails. -/
  mandatory : Bool := true
deriving DecidableEq, Repr

/-- Writes in the order in which they are made. -/
abbrev Script := List Write

namespace Script

/-- The write of a value to a channel if the driver has the channel, and nothing otherwise. -/
def ifExposed {σ : Type} [Device σ] (device : σ) (write : Write) : Script :=
  if Device.has device write.channel then [write] else []

def run {σ : Type} [Device σ] : Script → σ → Except Error Unit × σ
  | [], device => (.ok (), device)
  | write :: rest, device =>
    match Device.write write.channel write.value device with
    | (.ok _, device) => run rest device
    | (.error fault, device) =>
      if write.mandatory then (.error (.writeFailed write.channel fault), device)
      else run rest device

end Script
end Haptics
