import ControllerRemap.Number.Decimal
import ControllerRemap.Proofs.Number.Rounding
import Mathlib

/-! Decimals as double-precision numbers. -/

namespace ControllerRemap.Binary64

open Float.Model Float.Model.UnpackedFloat

/-! ### Conversions -/

theorem cast_shiftLeft (n k : Nat) : ((n <<< k : ℕ) : ℚ) * 2 ^ (-k : Int) = n := by
  rw [Nat.shiftLeft_eq, zpow_neg, zpow_natCast]
  push_cast
  field_simp

theorem round_eq_nearest {s : Sign} {m : Nat} {e : Int} (hm : 0 < m) :
    UnpackedFloat.round format s m e = nearest s (m * 2 ^ e) := by
  have hplace : format.targetExponent (totalExponent m e) = lastPlace (m * 2 ^ e) := by
    rw [targetExponent_eq, totalExponent, lastPlace, log_mul_two_zpow (by positivity), log_natCast]
    omega
  simp only [UnpackedFloat.round, decreaseExponent, hplace]
  generalize hk : (e - lastPlace (m * 2 ^ e)).toNat = k
  have hvalue : (m * 2 ^ e : ℚ) = (m <<< k : ℕ) * 2 ^ (e - k) := by
    rw [sub_eq_neg_add, zpow_add₀ two_ne_zero, ← mul_assoc, cast_shiftLeft]
  have hpos : (0 : ℚ) < (m <<< k : ℕ) := by
    rw [Nat.shiftLeft_eq]
    positivity
  rw [roundWithAccuracy_eq hpos (ofMantissaAndAccuracy_exact _), ← hvalue]
  rw [← hvalue]
  omega

theorem ofNat_eq_nearest {n : Nat} (hn : 0 < n) :
    UnpackedFloat.ofNat format n = nearest .positive n := by
  have hcompare : compare (n : Int) 0 = .gt := compare_gt_iff_gt.mpr (by omega)
  rw [UnpackedFloat.ofNat, UnpackedFloat.ofInt, UnpackedFloat.normalize, hcompare]
  simp only [Int.toNat_natCast]
  rw [round_eq_nearest hn, zpow_zero, mul_one]

/-- An integer of at most 53 bits is represented exactly, with its leading bit in front. -/
theorem exists_unpack_toFloat {n : Nat} (hn : 0 < n) (high : n < 2 ^ 53) :
    ∃ (m : Nat) (e : Int) (hm : 0 < m),
      n.toUInt64.toFloat.toModel.unpack = .finite .positive m e hm ∧ 2 ^ 52 ≤ m ∧
      (m * 2 ^ e : ℚ) = n := by
  obtain ⟨k, hk⟩ : ∃ k, n.log2 + k = 52 :=
    Nat.le.dest (Nat.le_of_lt_succ ((Nat.log2_lt hn.ne').mpr high))
  have hlow : 2 ^ 52 ≤ n <<< k := by
    rw [Nat.shiftLeft_eq, ← hk, pow_add]
    exact Nat.mul_le_mul_right _ (Nat.log2_self_le hn.ne')
  have hhigh : n <<< k < 2 ^ 53 := by
    rw [Nat.shiftLeft_eq, show 53 = n.log2 + 1 + k by omega, pow_add]
    exact Nat.mul_lt_mul_of_pos_right Nat.lt_log2_self (by positivity)
  have hcanonical : Canonical (.finite .positive (n <<< k) (-k) (by omega)) :=
    ⟨hhigh, by omega, by omega, fun h => by omega⟩
  refine ⟨n <<< k, -k, by omega, ?_, hlow, cast_shiftLeft n k⟩
  change (Float.Model.pack (UnpackedFloat.ofNat format n.toUInt64.toNat)).unpack = _
  rw [Nat.toUInt64, UInt64.toNat_ofNat_of_lt' (high.trans (by decide)), ofNat_eq_nearest hn,
    ← cast_shiftLeft n k, nearest_of_canonical hcanonical, unpack_pack hcanonical]

/-- Whether a number is the given power of ten, compared in integers. -/
def isPower (u : UnpackedFloat) (n : Nat) : Bool :=
  match u with
  | .finite .positive m e _ => m * 2 ^ e.toNat == 10 ^ n * 2 ^ (-e).toNat
  | _ => false

theorem isPower_table : ∀ i : Fin 23,
    isPower (Float.exactlyRepresentablePowersOfTen[i]).toModel.unpack i = true := by
  decide +kernel

theorem exists_unpack_power {n : Nat} (hn : n < 23) :
    ∃ (m : Nat) (e : Int) (hm : 0 < m),
      (Float.exactlyRepresentablePowersOfTen[n]).toModel.unpack = .finite .positive m e hm ∧
      (m * 2 ^ e : ℚ) = 10 ^ n := by
  have hpower := isPower_table ⟨n, hn⟩
  change isPower (Float.exactlyRepresentablePowersOfTen[n]).toModel.unpack n = true at hpower
  generalize (Float.exactlyRepresentablePowersOfTen[n]).toModel.unpack = u at hpower
  unfold isPower at hpower
  split at hpower
  · next m e hm =>
    refine ⟨m, e, hm, rfl, ?_⟩
    have h : (m * 2 ^ e.toNat : ℚ) = 10 ^ n * 2 ^ (-e).toNat := by
      exact_mod_cast beq_iff_eq.mp hpower
    have he : e = e.toNat - (-e).toNat := by omega
    rw [he, zpow_sub₀ two_ne_zero, zpow_natCast, zpow_natCast, mul_div_assoc', h]
    field_simp
  · cases hpower

/-! ### Decimals -/

/-- The nearest number to `v`, for a positive `v`. -/
def ofRat (v : ℚ) : Float := .ofModel (.pack (nearest .positive v))

section

variable {x y : Float} {m n : Nat} {e f : Int} {hm : 0 < m} {hn : 0 < n}
  (hx : x.toModel.unpack = .finite .positive m e hm)
  (hy : y.toModel.unpack = .finite .positive n f hn)
include hx hy

theorem mul_eq_ofRat (large : 2 ^ 52 ≤ m * n) : x * y = ofRat ((m * 2 ^ e) * (n * 2 ^ f)) := by
  change Float.ofModel (.pack (UnpackedFloat.mul format x.toModel.unpack y.toModel.unpack)) = _
  rw [hx, hy, mul_eq_nearest hm hn large]
  rfl

theorem div_eq_ofRat : x / y = ofRat ((m * 2 ^ e) / (n * 2 ^ f)) := by
  change Float.ofModel (.pack (UnpackedFloat.div format x.toModel.unpack y.toModel.unpack)) = _
  rw [hx, hy, div_eq_nearest hm hn]
  rfl

end

section

variable {m : Nat} {e : Int} (hm : 0 < m)
include hm

/-- With few digits, a single operation on numbers that are represented exactly. -/
theorem ofScientific_of_small (high : m < 2 ^ 53) (he : e.natAbs ≤ 22) :
    Float.ofScientific m (e < 0) e.natAbs = ofRat (m * 10 ^ e) := by
  obtain ⟨a, i, ha, hunpack, hlarge, hvalue⟩ := exists_unpack_toFloat hm high
  obtain ⟨b, j, hb, hpower, hten⟩ := exists_unpack_power (Nat.lt_succ_of_le he)
  rw [Float.ofScientific, dif_pos ⟨high, he⟩]
  by_cases neg : e < 0
  · have he : e = -(e.natAbs : Int) := by omega
    rw [if_pos (decide_eq_true neg)]
    refine (div_eq_ofRat hunpack hpower).trans ?_
    rw [hvalue, hten]
    conv_rhs => rw [he, zpow_neg, zpow_natCast, ← div_eq_mul_inv]
  · have he : e = (e.natAbs : Int) := by omega
    rw [if_neg (by simpa using neg)]
    refine (mul_eq_ofRat hunpack hpower (hlarge.trans (Nat.le_mul_of_pos_right a hb))).trans ?_
    rw [hvalue, hten]
    conv_rhs => rw [he, zpow_natCast]

/-- With many digits, an operation on mantissas of any length. -/
theorem ofScientific_of_large (large : ¬(m < 2 ^ 53 ∧ e.natAbs ≤ 22)) (high : e ≤ 2048)
    (low : -(2048 + m.log2) ≤ e) : Float.ofScientific m (e < 0) e.natAbs = ofRat (m * 10 ^ e) := by
  have hexponent : (if e < 0 then Int.negOfNat e.natAbs else Int.ofNat e.natAbs) = e := by
    rw [Int.negOfNat_eq, Int.ofNat_eq_natCast]
    split <;> omega
  have hmodel : UnpackedFloat.ofScientific format m e = nearest .positive (m * 10 ^ e) := by
    have high : ¬e > 2 ^ 11 := by omega
    have low : ¬e < -((2 ^ 11 : Int) + m.log2) := by omega
    rw [UnpackedFloat.ofScientific, dif_neg hm.ne', if_neg high, if_neg low]
    split
    · next nonneg =>
      have hlarge : 2 ^ 52 ≤ m <<< 53 * 10 ^ e.toNat :=
        calc 2 ^ 52 ≤ m * 2 ^ 53 * 1 := by omega
          _ ≤ m <<< 53 * 10 ^ e.toNat := by
            rw [Nat.shiftLeft_eq]
            exact Nat.mul_le_mul_left _ (Nat.pow_pos (by decide))
      refine (mul_eq_nearest _ _ hlarge).trans ?_
      have he : e = (e.toNat : Int) := by omega
      have hvalue : ((m <<< 53 : ℕ) * 2 ^ (-53 : Int) * ((10 ^ e.toNat : ℕ) * 2 ^ (0 : Int)) : ℚ) =
          m * 10 ^ e := by
        have hmantissa : ((m <<< 53 : ℕ) : ℚ) * 2 ^ (-53 : Int) = m := cast_shiftLeft m 53
        conv_rhs => rw [he, zpow_natCast]
        rw [hmantissa, zpow_zero, mul_one, Nat.cast_pow]
        rfl
      exact congrArg (nearest .positive) hvalue
    · next neg =>
      refine (div_eq_nearest _ _).trans ?_
      have he : e = -((-e).toNat : Int) := by omega
      have hvalue : (m * 2 ^ (0 : Int) / ((10 ^ (-e).toNat : ℕ) * 2 ^ (0 : Int)) : ℚ) = m * 10 ^ e := by
        conv_rhs => rw [he, zpow_neg, zpow_natCast]
        rw [zpow_zero, mul_one, mul_one, div_eq_mul_inv, Nat.cast_pow]
        rfl
      exact congrArg (nearest .positive) hvalue
  rw [Float.ofScientific, dif_neg large]
  simp only [decide_eq_true_eq, hexponent]
  rw [Float.Model.ofScientific, hmodel, ofRat]

theorem ofScientific_eq (high : e ≤ 2048) (low : -(2048 + m.log2) ≤ e) :
    Float.ofScientific m (e < 0) e.natAbs = ofRat (m * 10 ^ e) := by
  by_cases small : m < 2 ^ 53 ∧ e.natAbs ≤ 22
  · exact ofScientific_of_small hm small.1 small.2
  · exact ofScientific_of_large hm small high low

end

end ControllerRemap.Binary64
