import Haptics.Numeral.Integer
import Haptics.Text.Cut

/-!
# Register values

Nodes hold text.  A value is written as one, and a node's text is read as an integer where it is
one and as itself otherwise.
-/

namespace Haptics

/-- A scalar written to a register or read from one. -/
inductive RegisterValue where
  | bool (value : Bool)
  | int (value : Int64)
  | text (value : String)
deriving DecidableEq, Repr

namespace RegisterValue

def ofWord (word : UInt32) : RegisterValue :=
  .int (Int64.ofNat word.toNat)

/-- Reads a node's text: blanks at its ends are dropped, and an integer is preferred. -/
def ofText (raw : String) : RegisterValue :=
  let trimmed := Text.trim raw
  match Numeral.readInt64 trimmed with
  | .ok value => .int value
  | .error _ => .text trimmed

def toText : RegisterValue → String
  | .bool value => if value then "1" else "0"
  | .int value => toString value.toInt
  | .text value => value

/-- The value as an integer, if it can be read as one. -/
def toInt? : RegisterValue → Option Int64
  | .bool value => some (if value then 1 else 0)
  | .int value => some value
  | .text value => (Numeral.readInt64 (Text.trim value)).toOption

/-- The value as a switch: any integer but zero is on. -/
def toBool? (value : RegisterValue) : Option Bool :=
  value.toInt?.map fun n => n != 0

def toText? : RegisterValue → Option String
  | .text value => some value
  | _ => none

end RegisterValue
end Haptics
