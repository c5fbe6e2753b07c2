/-!
# Shortest decimal text of a float

A finite single-width float is `m · 2^q`.  The reals that round to it form an interval around
it, and its text is the shortest decimal in that interval, written without an exponent.  On the
grid of decimals with a given count of digits only the two neighbours of the value can be the
nearest ones of the interval, so the first grid on which a neighbour lies in it gives the text.
-/

namespace Haptics.Numeral

/-- The digits of a positive decimal and its scale: the value is `0.d₁d₂…dₙ` times ten to the
power `scale`. -/
structure Digits where
  digits : List Char
  scale : Int
deriving DecidableEq, Repr

/-- A positive real and the interval that rounds to it, as multiples of `1 / unit`. -/
structure Rounding where
  low : Nat
  value : Nat
  high : Nat
  unit : Nat
  /-- Whether the ends of the interval belong to it. -/
  closed : Bool

/-- The bit above the 23 fraction bits, which all but the least floats have. -/
def leadingBit : Nat := 8388608

/-- The interval of the float with the given exponent and fraction bits.  Below a power of two
the floats lie twice as dense, save at the least exponent. -/
def Rounding.ofBits (exponent fraction : Nat) : Rounding :=
  let m := if exponent = 0 then fraction else fraction + leadingBit
  let q : Int := if exponent = 0 then -149 else (exponent : Int) - 150
  let below := if fraction = 0 ∧ 1 < exponent then 1 else 2
  let factor := Nat.pow 2 (q - 2).toNat
  { low := (4 * m - below) * factor
    value := 4 * m * factor
    high := (4 * m + 2) * factor
    unit := Nat.pow 2 (2 - q).toNat
    closed := m % 2 = 0 }

/-- Compares `a · 10^g` with `n / unit`. -/
def compareScaled (a : Nat) (g : Int) (n unit : Nat) : Ordering :=
  compare (a * Nat.pow 10 g.toNat * unit) (n * Nat.pow 10 (-g).toNat)

def Rounding.holds (r : Rounding) (a : Nat) (g : Int) : Bool :=
  let low := compareScaled a g r.low r.unit
  let high := compareScaled a g r.high r.unit
  if r.closed then low != .lt && high != .gt else low == .gt && high == .lt

/-- The least scale `e` with `value < 10^e`, searched upwards from a bound that is never above
it. -/
def Rounding.scale (r : Rounding) : Int :=
  let rec search : Nat → Int → Int
    | 0, e => e
    | fuel + 1, e => if compareScaled 1 e r.value r.unit = .gt then e else search fuel (e + 1)
  search 90 (-45)

/-- The multiple of `10^g` in the interval that is nearest to the value, the greater of two
equally near ones. -/
def Rounding.nearest? (r : Rounding) (g : Int) : Option Nat :=
  let numerator := r.value * Nat.pow 10 (-g).toNat
  let denominator := Nat.pow 10 g.toNat * r.unit
  let a := numerator / denominator
  let excess := numerator % denominator
  match r.holds a g, r.holds (a + 1) g with
  | true, true => some (if 2 * excess < denominator then a else a + 1)
  | true, false => some a
  | false, true => some (a + 1)
  | false, false => none

/-- The nearest member of the interval on the coarsest grid that has one, tried for `count`
digits and more. -/
def Rounding.shortestFrom (r : Rounding) (scale : Int) : Nat → Nat → Nat × Int
  | 0, count => (r.value / r.unit, scale - count)
  | fuel + 1, count =>
    let g := scale - count
    match r.nearest? g with
    | some a => (a, g)
    | none => r.shortestFrom scale fuel (count + 1)

/-- The shortest decimal that rounds to the value, without zeros at its end.  Nine digits tell
any two single-width floats apart. -/
def Rounding.shortest (r : Rounding) : Digits :=
  let (a, g) := r.shortestFrom r.scale 9 1
  let all := Nat.toDigits 10 a
  { digits := (all.reverse.dropWhile (· == '0')).reverse
    scale := g + all.length }

/-- Writes digits without an exponent; a whole number has no point. -/
def Digits.positional (d : Digits) : List Char :=
  let count : Int := d.digits.length
  if d.scale ≤ 0 then
    '0' :: '.' :: (List.replicate d.scale.natAbs '0' ++ d.digits)
  else if count ≤ d.scale then
    d.digits ++ List.replicate (d.scale - count).toNat '0'
  else
    d.digits.take d.scale.toNat ++ '.' :: d.digits.drop d.scale.toNat

/-- The text of a single-width float: the fewest digits that read back the same. -/
def shortestText (x : Float32) : String :=
  let bits := x.toBits.toNat
  let exponent := bits / leadingBit % 256
  let fraction := bits % leadingBit
  let sign := if x.toBits < 2147483648 then "" else "-"
  if exponent = 255 then
    if fraction = 0 then sign ++ "inf" else "NaN"
  else if exponent = 0 ∧ fraction = 0 then sign ++ "0"
  else sign ++ String.ofList (Rounding.ofBits exponent fraction).shortest.positional

end Haptics.Numeral
