import ControllerRemap.Proofs.Number.Digits
import ControllerRemap.Proofs.Number.Scientific
import Mathlib

/-! The decimal that is written for a number reads back as the number. -/

namespace ControllerRemap

open Float.Model Float.Model.UnpackedFloat

namespace Decimal

/-! ### Values -/

/-- The rational number that a decimal is. -/
def value (d : Decimal) : ℚ := d.mantissa * 10 ^ d.exponent

theorem value_eq_zero_iff {d : Decimal} : d.value = 0 ↔ d.mantissa = 0 := by
  simp [value, zpow_ne_zero]

theorem log_value {d : Decimal} (h : 0 < d.mantissa) :
    Int.log 10 d.value = d.exponent + Nat.log 10 d.mantissa := by
  have h' : (0 : ℚ) < d.mantissa := by exact_mod_cast h
  rw [value, add_comm, ← Int.log_natCast (R := ℚ)]
  exact Binary64.log_mul_zpow (by decide) h' d.exponent

/-- Only the value of a decimal counts for the number that it reads as. -/
theorem toFloat_eq {d : Decimal} (h : 0 < d.mantissa) : d.toFloat =
    if 309 ≤ Int.log 10 d.value then infinity
    else if Int.log 10 d.value ≤ -325 then 0.0
    else Binary64.ofRat d.value := by
  have hlength := Digits.length_digits (show 2 ≤ 10 by decide) d.mantissa
  have hlog : Nat.log 10 d.mantissa ≤ d.mantissa.log2 := by
    rw [Nat.log2_eq_log_two]
    exact Nat.log_anti_left (by decide) (by decide)
  have hmagnitude : d.exponent + ((Digits.digits 10 d.mantissa).length : Int) =
      Int.log 10 d.value + 1 := by
    rw [log_value h, hlength]
    push_cast
    ring
  simp only [toFloat, hmagnitude, if_neg h.ne']
  have hlow : Int.log 10 d.value + 1 ≤ -324 ↔ Int.log 10 d.value ≤ -325 := by omega
  have hhigh : 310 ≤ Int.log 10 d.value + 1 ↔ 309 ≤ Int.log 10 d.value := by omega
  simp only [hlow, hhigh]
  split
  · rfl
  split
  · rfl
  rw [Binary64.ofScientific_eq h (by rw [log_value h] at *; omega) (by rw [log_value h] at *; omega)]
  rfl

theorem toFloat_congr {d d' : Decimal} (h : d.value = d'.value) : d.toFloat = d'.toFloat := by
  rcases Nat.eq_zero_or_pos d.mantissa with zero | pos
  · have zero' : d'.mantissa = 0 := by rwa [← value_eq_zero_iff, ← h, value_eq_zero_iff]
    simp only [toFloat, zero, zero', if_true]
  · have pos' : 0 < d'.mantissa := by
      rw [Nat.pos_iff_ne_zero, ne_eq, ← value_eq_zero_iff, ← h, value_eq_zero_iff]
      omega
    rw [toFloat_eq pos, toFloat_eq pos', h]

theorem value_reduce (d : Decimal) : d.reduce.value = d.value := by
  fun_induction reduce d with
  | case1 d h ih =>
    rw [ih, value, value, zpow_add₀ (by norm_num)]
    have hten : (d.mantissa : ℚ) = (d.mantissa / 10 : ℕ) * 10 := by
      exact_mod_cast (Nat.div_mul_cancel (Nat.dvd_of_mod_eq_zero h.2)).symm
    conv_rhs => rw [hten]
    ring
  | case2 d h => rfl

theorem value_exact (m : Nat) (e : Int) : (exact m e).value = m * 2 ^ e := by
  rw [exact]
  split
  · next h =>
    obtain ⟨n, rfl⟩ := Int.eq_ofNat_of_zero_le h
    simp [value]
  · next h =>
    obtain ⟨n, rfl⟩ : ∃ n : Nat, e = -n := ⟨(-e).toNat, by omega⟩
    have hten : (10 : ℚ) ^ n = 5 ^ n * 2 ^ n := by rw [← mul_pow]; norm_num
    simp only [value, neg_neg, Int.toNat_natCast, Nat.pow_eq, zpow_neg, zpow_natCast, hten]
    push_cast
    field_simp

/-! ### Reading back -/

section

variable {m : Nat} {e : Int} {hm : 0 < m} (hc : Binary64.Canonical (.finite .positive m e hm))
include hc

theorem log_lt_of_canonical : Int.log 10 (m * 2 ^ e : ℚ) < 309 := by
  obtain ⟨high, -, he, -⟩ := hc
  have hpow : (2 ^ 53 * 2 ^ 971 : ℕ) < 10 ^ 309 := by decide +kernel
  refine (Int.lt_zpow_iff_log_lt (by decide) (by positivity)).mp ?_
  calc (m * 2 ^ e : ℚ) ≤ 2 ^ 53 * 2 ^ (971 : Int) := by
        gcongr
        · exact_mod_cast high.le
        · norm_num
    _ < ((10 : ℕ) : ℚ) ^ (309 : Int) := by exact_mod_cast hpow

theorem le_log_of_canonical : -324 ≤ Int.log 10 (m * 2 ^ e : ℚ) := by
  obtain ⟨-, he, -, -⟩ := hc
  have hpow : (2 ^ 1074 : ℕ) ≤ 10 ^ 324 := by decide +kernel
  refine (Int.zpow_le_iff_le_log (by decide) (by positivity)).mp ?_
  calc ((10 : ℕ) : ℚ) ^ (-324 : Int) ≤ 2 ^ (-1074 : Int) := by
        rw [zpow_neg, zpow_neg]
        exact inv_anti₀ (by positivity) (by exact_mod_cast hpow)
    _ ≤ (1 : ℕ) * 2 ^ e := by
      rw [Nat.cast_one, one_mul]
      exact zpow_le_zpow_right₀ one_le_two he
    _ ≤ m * 2 ^ e := by gcongr; exact hm

/-- A decimal with the value of a number that fits reads as that number. -/
theorem toFloat_of_canonical {d : Decimal} (h : d.value = m * 2 ^ e) :
    d.toFloat = .ofModel (.pack (.finite .positive m e hm)) := by
  have hpos : 0 < d.mantissa := by
    rw [Nat.pos_iff_ne_zero, ne_eq, ← value_eq_zero_iff, h]
    positivity
  have hhigh := log_lt_of_canonical hc
  have hlow := le_log_of_canonical hc
  rw [toFloat_eq hpos, h, if_neg (by omega), if_neg (by omega), Binary64.ofRat,
    Binary64.nearest_of_canonical hc]

end

theorem toBits_injective {x y : Float} (h : x.toBits = y.toBits) : x = y := by
  cases x
  cases y
  exact congrArg _ (Binary64.eq_of_toBitVec_eq (congrArg UInt64.toBitVec h))

theorem toFloat_shortest {x : Float} {m : Nat} {e : Int} {hm : 0 < m}
    (h : x.toModel.unpack = .finite .positive m e hm) : (shortest x m e).toFloat = x := by
  have hexact : (exact m e).toFloat = x := by
    have hc : Binary64.Canonical (.finite .positive m e hm) := h ▸ Binary64.canonical_unpack _
    rw [toFloat_of_canonical hc (value_exact m e), ← h, Binary64.pack_unpack]
  rw [shortest, toFloat_congr (value_reduce _)]
  generalize hhit : List.findSome? _ (List.range 17) = found
  cases found with
  | none => exact hexact
  | some d =>
    obtain ⟨count, -, hd⟩ := List.exists_of_findSome?_eq_some hhit
    exact toBits_injective (eq_of_beq (by simpa using List.find?_some hd))

end Decimal

end ControllerRemap
