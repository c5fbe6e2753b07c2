import Haptics.Numeral.Integer

/-!
# Decimal numerals

A decimal numeral is an optional sign followed by digits with at most one point among or beside
them and an optional exponent, or by the name of an infinity or of the value that is no number.
Its value is an exact decimal, rounded once to the nearest float of the wanted width.
-/

namespace Haptics.Numeral

inductive DecimalFault where
  | empty
  | malformed
deriving DecidableEq, Repr

def DecimalFault.message : DecimalFault → String
  | .empty => "cannot parse float from empty string"
  | .malformed => "invalid float literal"

inductive Magnitude where
  /-- `coefficient` times ten to the power `exponent`. -/
  | decimal (coefficient : Nat) (exponent : Int)
  | infinite
  | notANumber
deriving DecidableEq, Repr

structure Decimal where
  negative : Bool
  magnitude : Magnitude
deriving DecidableEq, Repr

/-- The number written by digits, the first of them the most significant. -/
def valueOfDigits (digits : List Char) : Nat :=
  digits.foldl (fun value c => 10 * value + (c.toNat - '0'.toNat)) 0

/-- The sign of a text, a plus sign counting as none, and what follows it. -/
def splitSign : List Char → Bool × List Char
  | '-' :: rest => (true, rest)
  | '+' :: rest => (false, rest)
  | cs => (false, cs)

/-- Reads what may follow the digits: nothing, or an exponent mark and a signed exponent. -/
def readExponent : List Char → Option Int
  | [] => some 0
  | mark :: rest =>
    let (negative, digits) := splitSign rest
    if (mark = 'e' ∨ mark = 'E') ∧ digits ≠ [] ∧ digits.all Char.isDigit then
      let value : Int := valueOfDigits digits
      some (if negative then -value else value)
    else none

def readPositional (cs : List Char) : Option Magnitude :=
  let whole := cs.takeWhile Char.isDigit
  let (fraction, rest) :=
    match cs.dropWhile Char.isDigit with
    | '.' :: rest => (rest.takeWhile Char.isDigit, rest.dropWhile Char.isDigit)
    | rest => ([], rest)
  if whole = [] ∧ fraction = [] then none
  else
    (readExponent rest).map fun exponent =>
      .decimal (valueOfDigits (whole ++ fraction)) (exponent - fraction.length)

/-- Reads a magnitude; the names may be written in capitals or not. -/
def readMagnitude (cs : List Char) : Option Magnitude :=
  let name := cs.map Char.toLower
  if name = "inf".toList ∨ name = "infinity".toList then some .infinite
  else if name = "nan".toList then some .notANumber
  else readPositional cs

def readDecimal (text : String) : Except DecimalFault Decimal :=
  if text.isEmpty then .error .empty
  else
    let (negative, rest) := splitSign text.toList
    match readMagnitude rest with
    | some magnitude => .ok ⟨negative, magnitude⟩
    | none => .error .malformed

/-! ## Rounding to floats -/

/-- The exponent that a decimal has when it is written as a fraction below one: its value lies
below ten to this power, and not below a tenth of that. -/
def decimalScale (coefficient : Nat) (exponent : Int) : Int :=
  (Nat.toDigits 10 coefficient).length + exponent

/-- Beyond this scale a decimal is infinite in both float formats, and below its negative
zero. -/
def extremeScale : Int := 400

/-- The nearest float, with ties to the even neighbour. -/
def Magnitude.toFloat : Magnitude → Float
  | .infinite => 1.0 / 0.0
  | .notANumber => 0.0 / 0.0
  | .decimal coefficient exponent =>
    let scale := decimalScale coefficient exponent
    if coefficient = 0 ∨ scale < -extremeScale then 0.0
    else if extremeScale < scale then 1.0 / 0.0
    else Float.ofScientific coefficient (exponent < 0) exponent.natAbs

/-- The nearest single-width float, with ties to the even neighbour. -/
def Magnitude.toFloat32 : Magnitude → Float32
  | .infinite => 1.0 / 0.0
  | .notANumber => 0.0 / 0.0
  | .decimal coefficient exponent =>
    let scale := decimalScale coefficient exponent
    if coefficient = 0 ∨ scale < -extremeScale then 0.0
    else if extremeScale < scale then 1.0 / 0.0
    else Float32.ofScientific coefficient (exponent < 0) exponent.natAbs

def Decimal.toFloat (d : Decimal) : Float :=
  if d.negative then -d.magnitude.toFloat else d.magnitude.toFloat

def Decimal.toFloat32 (d : Decimal) : Float32 :=
  if d.negative then -d.magnitude.toFloat32 else d.magnitude.toFloat32

def readFloat (text : String) : Except DecimalFault Float :=
  (readDecimal text).map Decimal.toFloat

def readFloat32 (text : String) : Except DecimalFault Float32 :=
  (readDecimal text).map Decimal.toFloat32

end Haptics.Numeral
