import ControllerRemap.Number.Scalar
import Mathlib

/-! The exact reading of code over `Scalar`, in rational numbers. Every number is finite, zero counts
as positive, and rounding gives integers. -/

namespace ControllerRemap

namespace Rational

/-- Toward zero. -/
def trunc (x : ℚ) : ℤ := if 0 ≤ x then ⌊x⌋ else ⌈x⌉

/-- To the nearest integer, halves away from zero. -/
def nearestInt (x : ℚ) : ℤ := if 0 ≤ x then round x else -round (-x)

@[simp] theorem trunc_intCast (n : ℤ) : trunc n = n := by
  rw [trunc, Int.floor_intCast, Int.ceil_intCast, ite_self]

theorem trunc_of_nonneg {x : ℚ} (h : 0 ≤ x) : trunc x = ⌊x⌋ := if_pos h

theorem trunc_neg (x : ℚ) : trunc (-x) = -trunc x := by
  rcases lt_trichotomy x 0 with h | rfl | h
  · rw [trunc, trunc, if_pos (by linarith), if_neg h.not_ge, Int.floor_neg]
  · simp [trunc]
  · rw [trunc, trunc, if_neg (by linarith), if_pos h.le, Int.ceil_neg]

theorem abs_sub_nearestInt_le (x : ℚ) : |x - nearestInt x| ≤ 1 / 2 := by
  rw [nearestInt]
  split
  · exact abs_sub_round x
  · rw [← abs_neg, neg_sub', ← Int.cast_neg, neg_neg]
    exact abs_sub_round (-x)

end Rational

instance : Scalar ℚ where
  ofInt n := n
  abs x := |x|
  sign x := if 0 ≤ x then 1 else -1
  trunc x := Rational.trunc x
  round x := Rational.nearestInt x
  remEuclid x y := x - |y| * ⌊x / |y|⌋
  isFinite _ := true
  eq x y := x = y
  lt x y := x < y
  le x y := x ≤ y
  toInt32 x := Binary64.saturate (Rational.trunc x)

namespace Rational

variable (x y : ℚ)

@[simp] theorem ofInt_eq (n : ℤ) : (Scalar.ofInt n : ℚ) = n := rfl
@[simp] theorem abs_eq : Scalar.abs x = |x| := rfl
@[simp] theorem sign_eq : Scalar.sign x = if 0 ≤ x then 1 else -1 := rfl
@[simp] theorem trunc_eq : Scalar.trunc x = (trunc x : ℚ) := rfl
@[simp] theorem round_eq : Scalar.round x = (nearestInt x : ℚ) := rfl
@[simp] theorem remEuclid_eq : Scalar.remEuclid x y = x - |y| * ⌊x / |y|⌋ := rfl
@[simp] theorem isFinite_eq : Scalar.isFinite x = true := rfl
@[simp] theorem eq_eq : Scalar.eq x y = decide (x = y) := rfl
@[simp] theorem lt_eq : Scalar.lt x y = decide (x < y) := rfl
@[simp] theorem le_eq : Scalar.le x y = decide (x ≤ y) := rfl
@[simp] theorem toInt32_eq : Scalar.toInt32 x = Binary64.saturate (trunc x) := rfl

end Rational

end ControllerRemap
