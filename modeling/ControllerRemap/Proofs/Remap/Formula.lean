import ControllerRemap.Remap.Transform
import Mathlib.Algebra.Order.Ring.Int

/-! The arithmetic of formulas. A linear formula takes three steps in 64-bit words, and none of them
wraps around: a product of 32-bit values has 62 bits, a quotient is no larger than what is divided,
and an offset adds less than one bit. So a formula gives the exact value, clamped once. -/

namespace ControllerRemap.Formula

/-- An integer clamped to the 32-bit range. -/
def clamped (n : Int) : Int := max Int32.minValue.toInt (min Int32.maxValue.toInt n)

theorem clamped_mono {m n : Int} (h : m ≤ n) : clamped m ≤ clamped n :=
  max_le_max le_rfl (min_le_min le_rfl h)

theorem toInt_saturate (n : Int) : (Binary64.saturate n).toInt = clamped n := by
  rw [clamped, Int32.toInt_minValue, Int32.toInt_maxValue, Binary64.saturate,
    Int32.toInt_ofInt_of_le]
  all_goals omega

/-! ### Words -/

theorem natAbs_toInt_le (v : Int32) : v.toInt.natAbs ≤ 2 ^ 31 := by
  have := v.le_toInt
  have := v.toInt_lt
  omega

theorem natAbs_mul_le (mult v : Int32) : (mult.toInt * v.toInt).natAbs ≤ 2 ^ 62 := by
  rw [Int.natAbs_mul, show 2 ^ 62 = 2 ^ 31 * 2 ^ 31 by decide]
  exact Nat.mul_le_mul (natAbs_toInt_le mult) (natAbs_toInt_le v)

theorem toInt_product (mult v : Int32) : (product mult v).toInt = mult.toInt * v.toInt := by
  have hle := natAbs_mul_le mult v
  rw [product, Int64.toInt_mul, Int32.toInt_toInt64, Int32.toInt_toInt64]
  apply Int.bmod_eq_of_le <;> omega

theorem toInt_quotient (mult div v : Int32) :
    (quotient mult div v).toInt = (mult.toInt * v.toInt).tdiv div.toInt := by
  have hle := natAbs_mul_le mult v
  -- only the least word has a quotient that does not fit
  have hmin : product mult v ≠ Int64.minValue := by
    intro h
    have hproduct := toInt_product mult v
    rw [h, Int64.toInt_minValue] at hproduct
    omega
  rw [quotient, Int64.toInt_div_of_ne_left _ _ hmin, toInt_product, Int32.toInt_toInt64]

theorem toInt_total (mult div offset v : Int32) : (total mult div offset v).toInt =
    (mult.toInt * v.toInt).tdiv div.toInt + offset.toInt := by
  have hquotient := (Int.natAbs_tdiv_le_natAbs _ div.toInt).trans (natAbs_mul_le mult v)
  have hoffset := natAbs_toInt_le offset
  rw [total, Int64.toInt_add, toInt_quotient, Int32.toInt_toInt64]
  apply Int.bmod_eq_of_le <;> omega

/-! ### Direction -/

/-- Factors of one sign scale upward. -/
theorem tdiv_mul_mono {m d x y : Int} (hd : d ≠ 0) (h : m = 0 ∨ m.sign = d.sign) (hxy : x ≤ y) :
    (m * x).tdiv d ≤ (m * y).tdiv d := by
  rcases lt_or_gt_of_ne hd with hneg | hpos
  · have hm : m ≤ 0 := by
      rcases h with h | h
      · exact h.le
      · exact (Int.sign_eq_neg_one_iff_neg.1 (h.trans (Int.sign_eq_neg_one_of_neg hneg))).le
    have hdiv := Int.tdiv_le_tdiv (Int.neg_pos_of_neg hneg) (mul_le_mul_of_nonpos_left hxy hm)
    rw [Int.tdiv_neg, Int.tdiv_neg] at hdiv
    exact Int.neg_le_neg_iff.1 hdiv
  · have hm : 0 ≤ m := by
      rcases h with h | h
      · exact h.ge
      · exact (Int.sign_eq_one_iff_pos.1 (h.trans (Int.sign_eq_one_of_pos hpos))).le
    exact Int.tdiv_le_tdiv hpos (mul_le_mul_of_nonneg_left hxy hm)

/-- Factors of two signs scale downward. -/
theorem tdiv_mul_anti {m d x y : Int} (hd : d ≠ 0) (h : ¬(m = 0 ∨ m.sign = d.sign)) (hxy : x ≤ y) :
    (m * y).tdiv d ≤ (m * x).tdiv d := by
  obtain ⟨hm, hsign⟩ := not_or.1 h
  have hsame : (-m).sign = d.sign := by
    rw [Int.sign_neg]
    rcases lt_or_gt_of_ne hm with hm | hm <;> rcases lt_or_gt_of_ne hd with hd | hd
    · rw [Int.sign_eq_neg_one_of_neg hm, Int.sign_eq_neg_one_of_neg hd] at hsign
      exact absurd rfl hsign
    · rw [Int.sign_eq_neg_one_of_neg hm, Int.sign_eq_one_of_pos hd]
      rfl
    · rw [Int.sign_eq_one_of_pos hm, Int.sign_eq_neg_one_of_neg hd]
    · rw [Int.sign_eq_one_of_pos hm, Int.sign_eq_one_of_pos hd] at hsign
      exact absurd rfl hsign
  have hdiv := tdiv_mul_mono hd (.inr hsame) hxy
  rw [Int.neg_mul, Int.neg_mul, Int.neg_tdiv, Int.neg_tdiv] at hdiv
  exact Int.neg_le_neg_iff.1 hdiv

/-! ### Values -/

theorem toInt_apply_linear {mult div offset : Int32} (hdiv : div ≠ 0) (v : Int32) :
    ((linear mult div offset).apply v).toInt =
      clamped ((mult.toInt * v.toInt).tdiv div.toInt + offset.toInt) := by
  rw [apply, if_neg hdiv, toInt_saturate, toInt_total]

theorem toInt_apply_negate (v : Int32) : (negate.apply v).toInt = clamped (-v.toInt) :=
  toInt_saturate _

/-- Only the least value has no negation. -/
theorem negate_negate_iff (v : Int32) :
    negate.apply (negate.apply v) = v ↔ v ≠ Int32.minValue := by
  have hlow := v.le_toInt
  have hhigh := v.toInt_lt
  rw [← Int32.toInt_inj, ← Int32.toInt_inj.ne, toInt_apply_negate, toInt_apply_negate, clamped,
    clamped, Int32.toInt_minValue, Int32.toInt_maxValue]
  omega

/-- A linear formula with a divisor that is not zero gives the quotient toward zero plus the offset,
clamped, and none of its words wraps around. It grows with the value if the factor is zero or has
the sign of the divisor, and falls otherwise. Negation gives the clamped negation, and twice the
value itself unless that is the least one. -/
theorem gives_clamped_value {mult div offset : Int32} (hdiv : div ≠ 0) :
    let scale := Transform.formula (linear mult div offset)
    let minus := Transform.formula negate
    let upward := mult = 0 ∨ mult.toInt.sign = div.toInt.sign
    (∀ v, (product mult v).toInt = mult.toInt * v.toInt ∧
      (quotient mult div v).toInt = (mult.toInt * v.toInt).tdiv div.toInt ∧
      (total mult div offset v).toInt = (mult.toInt * v.toInt).tdiv div.toInt + offset.toInt ∧
      (scale.apply v).toInt =
        clamped ((mult.toInt * v.toInt).tdiv div.toInt + offset.toInt)) ∧
    (∀ v w, v ≤ w →
      (upward → scale.apply v ≤ scale.apply w) ∧ (¬upward → scale.apply w ≤ scale.apply v)) ∧
    ∀ v, (minus.apply v).toInt = clamped (-v.toInt) ∧
      (minus.apply (minus.apply v) = v ↔ v ≠ Int32.minValue) := by
  intro scale minus upward
  have hd : div.toInt ≠ 0 := fun h => hdiv (Int32.toInt_inj.1 h)
  have hupward : upward ↔ mult.toInt = 0 ∨ mult.toInt.sign = div.toInt.sign :=
    or_congr_left Int32.toInt_inj.symm
  have hvalue (v : Int32) : (scale.apply v).toInt = _ := toInt_apply_linear hdiv v
  refine ⟨fun v => ⟨toInt_product mult v, toInt_quotient mult div v, toInt_total mult div offset v,
    hvalue v⟩, fun v w hvw => ⟨fun h => ?_, fun h => ?_⟩, fun v => ⟨toInt_apply_negate v,
    negate_negate_iff v⟩⟩
  · rw [Int32.le_iff_toInt_le, hvalue, hvalue]
    have hquotients := tdiv_mul_mono hd (hupward.1 h) (Int32.le_iff_toInt_le.1 hvw)
    exact clamped_mono (Int.add_le_add_right hquotients _)
  · rw [Int32.le_iff_toInt_le, hvalue, hvalue]
    have hquotients := tdiv_mul_anti hd (mt hupward.2 h) (Int32.le_iff_toInt_le.1 hvw)
    exact clamped_mono (Int.add_le_add_right hquotients _)

/-- The least factor and value make the largest product. Divided by minus one, with the least offset,
it leaves the 32-bit range at the lower end, and two leaves it at the upper one. -/
theorem gives_clamped_value_of_least :
    let least := Int32.minValue
    let scale := Transform.formula (linear least (-1) least)
    (-1 : Int32) ≠ 0 ∧ (product least least).toInt = 2 ^ 62 ∧
      (total least (-1) least least).toInt = -2 ^ 62 - 2 ^ 31 ∧ scale.apply least = least ∧
      scale.apply 1 = 0 ∧ scale.apply 2 = Int32.maxValue ∧ scale.apply 1 ≤ scale.apply 2 := by
  intro least scale
  have hdiv : (-1 : Int32) ≠ 0 := by decide
  obtain ⟨hvalues, hdirection, -⟩ := @gives_clamped_value least (-1) least hdiv
  obtain ⟨hproduct, -, htotal, hleast⟩ := hvalues least
  obtain ⟨-, -, -, hone⟩ := hvalues 1
  obtain ⟨-, -, -, htwo⟩ := hvalues 2
  exact ⟨hdiv, hproduct, htotal, Int32.toInt_inj.1 hleast, Int32.toInt_inj.1 hone,
    Int32.toInt_inj.1 htwo, (hdirection 1 2 (by decide)).1 (.inr rfl)⟩

end ControllerRemap.Formula
