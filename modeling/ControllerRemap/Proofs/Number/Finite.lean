import ControllerRemap.Proofs.Number.Parts
import ControllerRemap.Proofs.Number.Scientific

/-! Finite numbers and NaN. The number of a 32-bit integer is finite, and the difference of two NaNs
is no zero. -/

namespace ControllerRemap.Binary64

open Float.Model Float.Model.UnpackedFloat

theorem isFinite_of_finite {x : Float} {s : Sign} {m : Nat} {e : Int} {hm : 0 < m}
    (h : x.toModel.unpack = .finite s m e hm) : x.isFinite = true := by
  rw [Float.isFinite, Float.Model.isFinite, h]
  rfl

theorem isFinite_neg (x : Float) : (-x).isFinite = x.isFinite := by
  rw [Float.isFinite, Float.Model.isFinite, unpack_neg, Float.isFinite, Float.Model.isFinite]
  cases x.toModel.unpack <;> rfl

/-- An integer of at most 53 bits is converted by the same operation in two ways. -/
theorem ofNat_eq_toFloat {n : Nat} (hn : 0 < n) (high : n < 2 ^ 53) :
    Float.ofNat n = n.toUInt64.toFloat := by
  have hsmall := ofScientific_of_small hn high (e := 0) (by decide)
  rw [zpow_zero, mul_one] at hsmall
  refine hsmall.trans ?_
  change Float.ofModel (.pack (nearest .positive n)) =
    Float.ofModel (.pack (UnpackedFloat.ofNat format n.toUInt64.toNat))
  rw [Nat.toUInt64, UInt64.toNat_ofNat_of_lt' (high.trans (by decide)), ofNat_eq_nearest hn]

theorem isFinite_ofNat {n : Nat} (high : n < 2 ^ 53) : (Float.ofNat n).isFinite = true := by
  rcases Nat.eq_zero_or_pos n with rfl | hn
  · rfl
  · obtain ⟨m, e, hm, hunpack, -⟩ := exists_unpack_toFloat hn high
    rw [ofNat_eq_toFloat hn high]
    exact isFinite_of_finite hunpack

theorem isFinite_ofInt32 (v : Int32) : (ofInt32 v).isFinite = true := by
  have hlow : -2147483648 ≤ v.toInt := v.le_toInt
  have hhigh : v.toInt ≤ 2147483647 := v.toInt_le
  rw [ofInt32]
  cases hv : v.toInt with
  | ofNat n =>
    rw [hv, Int.ofNat_eq_natCast] at hhigh
    exact isFinite_ofNat (by omega)
  | negSucc n => exact (isFinite_neg _).trans (isFinite_ofNat (by omega))

theorem eq_nan_of_isNaN {x : Float} (h : x.isNaN = true) : x = 0.0 / 0.0 := by
  rw [Float.isNaN, Float.Model.isNaN] at h
  apply eq_nan
  cases hu : x.toModel.unpack with
  | notANumber => rfl
  | _ => rw [hu] at h; cases h

theorem sub_nan_beq_zero {x y : Float} (hx : x.isNaN = true) (hy : y.isNaN = true) :
    (x - y == 0.0) = false := by
  rw [eq_nan_of_isNaN hx, eq_nan_of_isNaN hy]
  rfl

end ControllerRemap.Binary64
