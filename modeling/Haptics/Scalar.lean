/-!
# Scalars

The drive arithmetic is written once, over any type with the operations below.  On the hardware
it runs on floats; read over the reals the same definitions say what it approximates.
-/

namespace Haptics

/-- Arithmetic, comparison and rounding of drive quantities. -/
class Scalar (α : Type) extends Add α, Sub α, Mul α, Div α, Neg α, LT α, LE α,
    OfScientific α where
  decLt : DecidableLT α
  decLe : DecidableLE α
  /-- Whether the value is a number and not infinite. -/
  isFinite : α → Bool
  /-- The value of a word. -/
  ofWord : UInt32 → α
  /-- The nearest word: halves go away from zero, values beyond either end of the range give that
  end, and what is no number gives zero. -/
  roundToWord : α → UInt32

instance Scalar.decidableLT {α : Type} [Scalar α] : DecidableLT α := Scalar.decLt

instance Scalar.decidableLE {α : Type} [Scalar α] : DecidableLE α := Scalar.decLe

/-- The functions that roots, clamp codes and attenuations need. -/
class Analytic (α : Type) extends Scalar α where
  sqrt : α → α
  cbrt : α → α
  /-- `pow x y` is `x` to the power `y`, for positive `x`. -/
  pow : α → α → α
  arccos : α → α
  cos : α → α
  sin : α → α
  log10 : α → α

instance : Analytic Float where
  decLt := inferInstance
  decLe := inferInstance
  isFinite := Float.isFinite
  ofWord := UInt32.toFloat
  roundToWord x := x.round.toUInt32
  sqrt := Float.sqrt
  cbrt := Float.cbrt
  pow := Float.pow
  arccos := Float.acos
  cos := Float.cos
  sin := Float.sin
  log10 := Float.log10

instance : Scalar Float32 where
  decLt := inferInstance
  decLe := inferInstance
  isFinite := Float32.isFinite
  ofWord := UInt32.toFloat32
  roundToWord x := x.round.toUInt32

end Haptics
