import Haptics.Scalar

/-!
# Transfer curves

Each actuator is measured at the factory: a polynomial gives the acceleration (g) it reaches at a
drive level (volts peak).  To reach a wanted acceleration the polynomial is inverted in closed
form, and of its roots the first that the amplifier can produce is taken.
-/

namespace Haptics

/-- The coefficients of `a·x³ + b·x² + c·x + d`. -/
structure Cubic (α : Type) where
  a : α
  b : α
  c : α
  d : α
deriving Repr, BEq, DecidableEq

def Cubic.map {α β : Type} (f : α → β) (p : Cubic α) : Cubic β :=
  ⟨f p.a, f p.b, f p.c, f p.d⟩

/-- The coefficients, the leading one first. -/
def Cubic.toList {α : Type} (p : Cubic α) : List α :=
  [p.a, p.b, p.c, p.d]

def Cubic.ofList? {α : Type} : List α → Option (Cubic α)
  | [a, b, c, d] => some ⟨a, b, c, d⟩
  | _ => none

/-- The acceleration of an actuator as a function of its drive level. -/
inductive TransferCurve (α : Type) where
  /-- `slope·level + intercept`. -/
  | linear (slope intercept : α)
  | cubic (coefficients : Cubic α)
deriving Repr

section
variable {α : Type}

/-! ## Levels the amplifier can produce -/

section
variable [Scalar α]

/-- Values this close to zero count as zero. -/
def tolerance : α := 1e-6

/-- The highest level the amplifier can produce, in volts peak. -/
def levelMax : α := 3.2

def NearZero (x : α) : Prop := -tolerance ≤ x ∧ x ≤ tolerance

instance (x : α) : Decidable (NearZero x) :=
  inferInstanceAs (Decidable (_ ∧ _))

/-- Whether the amplifier can produce a level. -/
def Drivable (level : α) : Prop :=
  Scalar.isFinite level = true ∧ tolerance < level ∧ level ≤ levelMax

instance (level : α) : Decidable (Drivable level) :=
  inferInstanceAs (Decidable (_ ∧ _))

def firstDrivable (levels : List α) : α :=
  (levels.find? fun level => Drivable level).getD 0.0

/-! ## Straight lines -/

/-- The level at which `slope·level + intercept` reaches the target. -/
def solveLinear (slope intercept target : α) : α :=
  if NearZero slope then 0.0 else firstDrivable [(target - intercept) / slope]

end

/-! ## Curves -/

section
variable [Analytic α]
open Analytic

def ascending (x y : α) : List α :=
  if y < x then [y, x] else [x, y]

/-- The least level that can be produced at which `b·level² + c·level + d` reaches the target. -/
def solveQuadratic (b c d target : α) : α :=
  let e := d - target
  let discriminant := c * c - 4.0 * b * e
  if discriminant < -tolerance then 0.0
  else
    let root := sqrt (if 0.0 < discriminant then discriminant else 0.0)
    firstDrivable (ascending ((-c - root) / (2.0 * b)) ((-c + root) / (2.0 * b)))

/-- The quantities that decide the shape of the roots of `a·x³ + b·x² + c·x + e`:
`b² - 3ac`, `bc - 9ae`, `c² - 3be`, and the discriminant `second² - 4·first·third`. -/
structure Resolvent (α : Type) where
  first : α
  second : α
  third : α
  discriminant : α

/-- The resolvent of a cubic whose last coefficient is taken less the target. -/
def Cubic.resolvent (p : Cubic α) (target : α) : Resolvent α :=
  let e := p.d - target
  let first := p.b * p.b - 3.0 * p.a * p.c
  let second := p.b * p.c - 9.0 * p.a * e
  let third := p.c * p.c - 3.0 * p.b * e
  ⟨first, second, third, second * second - 4.0 * first * third⟩

/-- With a positive discriminant the one real root is `(-b - (∛y₁ + ∛y₂)) / 3a`.  A cube root of
a negative number is the negated root of its magnitude, so no power of a negative base is taken;
where either number lies within the tolerance of zero the cube roots are taken directly. -/
def Cubic.singleRoot (p : Cubic α) (r : Resolvent α) : α :=
  let root := sqrt r.discriminant
  let y₁ := r.first * p.b + 3.0 * p.a * (-r.second + root) / 2.0
  let y₂ := r.first * p.b + 3.0 * p.a * (-r.second - root) / 2.0
  let third : α := 1.0 / 3.0
  let numerator :=
    if y₁ < -tolerance ∧ tolerance < y₂ then -p.b + pow (-y₁) third - pow y₂ third
    else if tolerance < y₁ ∧ y₂ < -tolerance then -p.b - pow y₁ third + pow (-y₂) third
    else if y₁ < -tolerance ∧ y₂ < -tolerance then -p.b + pow (-y₁) third + pow (-y₂) third
    else -p.b - cbrt y₁ - cbrt y₂
  numerator / (3.0 * p.a)

def limitToUnit (x : α) : α :=
  if x < -1.0 then -1.0 else if 1.0 < x then 1.0 else x

/-- With a negative discriminant the three real roots come from a third of the angle whose cosine
is `(2·first·b - 3a·second) / (2·first·√first)`. -/
def Cubic.threeRoots (p : Cubic α) (r : Resolvent α) : List α :=
  let root := sqrt r.first
  let cosine := (2.0 * r.first * p.b - 3.0 * p.a * r.second) / (2.0 * r.first * root)
  let angle := arccos (limitToUnit cosine) / 3.0
  let c := cos angle
  let s := sqrt 3.0 * sin angle
  [(-p.b - 2.0 * root * c) / (3.0 * p.a),
   (-p.b + root * (c + s)) / (3.0 * p.a),
   (-p.b + root * (c - s)) / (3.0 * p.a)]

/-- With a discriminant of zero one root is `-b/a + k` and `-k/2` is a double root, where `k` is
`second / first`. -/
def Cubic.doubleRoots (p : Cubic α) (r : Resolvent α) : List α :=
  let k := r.second / r.first
  [-p.b / p.a + k, -k / 2.0]

/-- A level at which the cubic reaches the target, or zero if there is none the amplifier can
produce.  A leading coefficient within the tolerance of zero makes it a quadratic or a line. -/
def solveCubic (p : Cubic α) (target : α) : α :=
  if NearZero p.a then
    if NearZero p.b then solveLinear p.c p.d target
    else solveQuadratic p.b p.c p.d target
  else
    let r := p.resolvent target
    if NearZero r.first ∧ NearZero r.second then firstDrivable [-p.b / (3.0 * p.a)]
    else if tolerance < r.discriminant then firstDrivable [p.singleRoot r]
    else if r.discriminant < -tolerance then
      if r.first ≤ tolerance then 0.0 else firstDrivable (p.threeRoots r)
    else if NearZero r.first then 0.0
    else firstDrivable (p.doubleRoots r)

namespace TransferCurve

/-- The curve of stored coefficients: where the last two are zero, the first two hold a straight
line. -/
def ofCoefficients (p : Cubic α) : TransferCurve α :=
  if NearZero p.c ∧ NearZero p.d then .linear p.a p.b else .cubic p

/-- The drive level that gives the target acceleration, or zero if none can be produced. -/
def levelFor (curve : TransferCurve α) (target : α) : α :=
  match curve with
  | .linear slope intercept => solveLinear slope intercept target
  | .cubic p => solveCubic p target

end TransferCurve
end
end
end Haptics
