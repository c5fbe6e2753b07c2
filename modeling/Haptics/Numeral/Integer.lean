/-!
# Integer numerals

A numeral is an optional sign and at least one ASCII digit; leading zeros are allowed, blanks
and separators are not.  It is read from the left, so that of a bad digit and a value out of
range the one met first is the fault.
-/

namespace Haptics.Numeral

inductive IntegerFault where
  | empty
  | badDigit
  | tooLarge
  | tooSmall
deriving DecidableEq, Repr

def IntegerFault.message : IntegerFault → String
  | .empty => "cannot parse integer from empty string"
  | .badDigit => "invalid digit found in string"
  | .tooLarge => "number too large to fit in target type"
  | .tooSmall => "number too small to fit in target type"

def digit? (c : Char) : Option Nat :=
  if '0' ≤ c ∧ c ≤ '9' then some (c.toNat - '0'.toNat) else none

/-- Reads digits after those of `value`, refusing any value above the limit. -/
def readDigits (limit : Nat) (value : Nat) : List Char → Except IntegerFault Nat
  | [] => .ok value
  | c :: rest =>
    match digit? c with
    | none => .error .badDigit
    | some d =>
      if limit < 10 * value + d then .error .tooLarge
      else readDigits limit (10 * value + d) rest

/-- Reads a numeral that may carry a plus sign. -/
def readNat (limit : Nat) : List Char → Except IntegerFault Nat
  | [] => .error .empty
  | '+' :: c :: rest => readDigits limit 0 (c :: rest)
  | cs => readDigits limit 0 cs

def readWord (text : String) : Except IntegerFault UInt32 :=
  (readNat (UInt32.size - 1) text.toList).map UInt32.ofNat

/-- The greatest signed 64-bit integer; the least one is one further from zero. -/
def greatestInt64 : Nat := 9223372036854775807

/-- Reads a numeral that may carry either sign. -/
def readSigned : List Char → Except IntegerFault Int
  | '-' :: c :: rest =>
    match readDigits (greatestInt64 + 1) 0 (c :: rest) with
    | .ok n => .ok (-(n : Int))
    | .error .tooLarge => .error .tooSmall
    | .error fault => .error fault
  | cs => (readNat greatestInt64 cs).map Int.ofNat

def readInt64 (text : String) : Except IntegerFault Int64 :=
  (readSigned text.toList).map Int64.ofInt

end Haptics.Numeral
