import ControllerRemap.Number.Scalar
import ControllerRemap.Geometry.Vector

/-! Differences and intervals on a circle. A difference of two angles is folded into
half a period to either side; exactly half a period keeps the sign of the plain
difference. An interval holds every angle that some number of full turns brings
between its ends. -/

namespace ControllerRemap

namespace Geometry

section
variable {α : Type} [Scalar α]

/-- The signed difference `a - b` up to multiples of the period. -/
def wrapDiff (a b period : α) : α :=
  let whole := a - b
  if !Scalar.isFinite whole then whole
  else
    let folded := whole - period * Scalar.round (whole / period)
    if Scalar.eq (Scalar.abs folded) (period / Scalar.ofInt 2) &&
        !Scalar.eq (Scalar.sign whole) (Scalar.sign folded) then -folded
    else folded

/-- The shortest way from `b` to `a` in degrees. -/
def shortestDeg (a b : α) : α := wrapDiff a b (Scalar.ofInt 360)

end

/-- The shortest way from `b` to `a` in radians. -/
def shortest (a b : Float) : Float := wrapDiff a b 6.283185307179586

end Geometry

/-- An interval of angles in degrees, both ends included. -/
structure AngleRange (α : Type) where
  min : α
  max : α
  deriving BEq

namespace AngleRange

variable {α : Type} [Scalar α]

/-- Compares the turn of the angle that lies within a full turn below the upper end. -/
def contains (r : AngleRange α) (angle : α) : Bool :=
  if !(Scalar.isFinite angle && Scalar.isFinite r.min && Scalar.isFinite r.max) then false
  else
    let turned := r.max - Scalar.remEuclid (r.max - angle) (Scalar.ofInt 360)
    Scalar.le r.min turned

end AngleRange

end ControllerRemap
