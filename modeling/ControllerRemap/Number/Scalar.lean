import ControllerRemap.Number.Binary64

/-! The arithmetic that angles and steps are computed in. Code over `Scalar` is
written once and can be read over double-precision numbers, which is how it
runs, or over an exact field. -/

namespace ControllerRemap

/-- An ordered field with the rounding operations of the stepping code.
Comparisons are Boolean, since a NaN compares with nothing. -/
class Scalar (α : Type) extends Add α, Sub α, Mul α, Div α, Neg α where
  ofInt : Int → α
  abs : α → α
  /-- One with the sign of its argument. -/
  sign : α → α
  /-- Toward zero. -/
  trunc : α → α
  /-- To the nearest integer, halves away from zero. -/
  round : α → α
  /-- The remainder in `[0, y)` of a division by a positive `y`. -/
  remEuclid : α → α → α
  isFinite : α → Bool
  eq : α → α → Bool
  lt : α → α → Bool
  le : α → α → Bool
  /-- Toward zero, clamped to the range. -/
  toInt32 : α → Int32

namespace Scalar

variable {α : Type} [Scalar α]

def clamp (x low high : α) : α :=
  if lt x low then low else if lt high x then high else x

end Scalar

instance : Scalar Float where
  ofInt := Float.ofInt
  abs := Float.abs
  sign := Binary64.sign
  trunc := Binary64.trunc
  round := Binary64.round
  remEuclid := Binary64.remEuclid
  isFinite := Float.isFinite
  eq x y := x == y
  lt x y := x < y
  le x y := x ≤ y
  toInt32 := Binary64.toInt32

end ControllerRemap
