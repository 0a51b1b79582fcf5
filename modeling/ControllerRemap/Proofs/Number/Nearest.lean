import ControllerRemap.Proofs.Number.Rounding
import Mathlib

/-! Rounding to double precision as a function of rational numbers, the range of exponents left aside.
It is off by half a unit of the last place at most. As it takes the numbers that fit to themselves and
keeps the order, a number between two that fit is rounded between them. The difference of two numbers
that fit and lie within a factor of two fits as well. -/

namespace ControllerRemap.Binary64

open Float.Model Float.Model.UnpackedFloat

/-! ### Mantissas -/

/-- Ties go to the even mantissa. -/
theorem roundedMantissa_eq (n : ℕ) (f : ℚ) :
    (⟨n, decide (1 / 2 ≤ f), decide (f ≠ 0 ∧ f ≠ 1 / 2)⟩ : ExtendedMantissa).roundedMantissa =
      if f < 1 / 2 then n else if f = 1 / 2 then n + n % 2 else n + 1 := by
  rcases lt_trichotomy f (1 / 2) with h | h | h
  · rw [decide_eq_false (not_le.2 h), if_pos h]
    cases decide (f ≠ 0 ∧ f ≠ 1 / 2) <;> rfl
  · rw [decide_eq_true h.ge, decide_eq_false (fun hne => hne.2 h), if_neg h.not_lt, if_pos h]
    rfl
  · have hpos : f ≠ 0 := (one_half_pos.trans h).ne'
    rw [decide_eq_true h.le, decide_eq_true ⟨hpos, h.ne'⟩, if_neg h.not_gt, if_neg h.ne']
    rfl

theorem abs_roundedMantissa_sub_le {q : ℚ} (hq : 0 ≤ q) :
    |((extend q).roundedMantissa : ℚ) - q| ≤ 1 / 2 := by
  obtain ⟨n, f, rfl, nonneg, lt⟩ := exists_floor_add hq
  have heven : ((n % 2 : ℕ) : ℚ) ≤ 1 := by exact_mod_cast Nat.le_of_lt_succ (Nat.mod_lt n two_pos)
  have hnonneg : (0 : ℚ) ≤ (n % 2 : ℕ) := Nat.cast_nonneg _
  rw [extend_of_floor rfl nonneg lt, roundedMantissa_eq, abs_le]
  split
  · constructor <;> linarith
  · split
    · push_cast
      constructor <;> linarith
    · push_cast
      constructor <;> linarith

/-- The mantissa that a positive number is rounded to. -/
def mantissaOf (v : ℚ) : ℕ := (extend (v / 2 ^ lastPlace v)).roundedMantissa

section

variable {v w : ℚ} (hv : 0 < v)
include hv

theorem abs_mantissaOf_sub_le : |(mantissaOf v : ℚ) - v / 2 ^ lastPlace v| ≤ 1 / 2 :=
  abs_roundedMantissa_sub_le (by positivity)

theorem mantissaOf_le : mantissaOf v ≤ 2 ^ 53 := roundedMantissa_extend_le hv

/-- Above the least exponent the leading bit is in front. -/
theorem le_mantissaOf (h : -1074 < lastPlace v) : 2 ^ 52 ≤ mantissaOf v := by
  have hplace : lastPlace v + 52 ≤ Int.log 2 v := by
    rw [lastPlace] at h ⊢
    omega
  have hlow : (2 : ℚ) ^ 52 ≤ v / 2 ^ lastPlace v := by
    rw [le_div_iff₀ (by positivity), ← zpow_natCast, ← zpow_add₀ two_ne_zero, add_comm]
    exact (le_log_iff hv).1 hplace
  have hle := (abs_le.1 (abs_mantissaOf_sub_le hv)).1
  have : (2 : ℚ) ^ 52 - 1 < mantissaOf v := by linarith
  have : 2 ^ 52 < mantissaOf v + 1 := by exact_mod_cast sub_lt_iff_lt_add.1 this
  omega

theorem lastPlace_mono (h : v ≤ w) : lastPlace v ≤ lastPlace w :=
  max_le_max (sub_le_sub_right (Int.log_mono_right hv h) 52) le_rfl

theorem mantissaOf_mul_mono (h : v ≤ w) :
    (mantissaOf v * 2 ^ lastPlace v : ℚ) ≤ mantissaOf w * 2 ^ lastPlace w := by
  have hw : 0 < w := hv.trans_le h
  rcases (lastPlace_mono hv h).lt_or_eq with hplace | hplace
  · -- the mantissas are on either side of a power of two
    have hsmall : (mantissaOf v : ℚ) ≤ 2 ^ 53 := by exact_mod_cast mantissaOf_le hv
    have hlarge : (2 : ℚ) ^ 52 ≤ mantissaOf w := by
      exact_mod_cast le_mantissaOf hw ((neg_le_lastPlace v).trans_lt hplace)
    calc (mantissaOf v * 2 ^ lastPlace v : ℚ)
        ≤ 2 ^ 53 * 2 ^ lastPlace v := by gcongr
      _ = 2 ^ 52 * 2 ^ (lastPlace v + 1) := by
        rw [zpow_add_one₀ two_ne_zero]
        ring
      _ ≤ 2 ^ 52 * 2 ^ lastPlace w := by
        gcongr
        · norm_num
        · omega
      _ ≤ mantissaOf w * 2 ^ lastPlace w := by gcongr
  · have hmantissa : mantissaOf v ≤ mantissaOf w := by
      by_contra hlt
      have hsucc : (mantissaOf w : ℚ) + 1 ≤ mantissaOf v := by exact_mod_cast not_le.1 hlt
      have hle := (abs_le.1 (abs_mantissaOf_sub_le hv)).2
      have hle' := (abs_le.1 (abs_mantissaOf_sub_le hw)).1
      have hdiv : v / 2 ^ lastPlace v ≤ w / 2 ^ lastPlace w := by
        rw [hplace]
        gcongr
      -- both roundings are off by a half, so the numbers are the same
      have heq : v / 2 ^ lastPlace w = w / 2 ^ lastPlace w := by
        rw [hplace] at hle hdiv
        linarith
      rw [div_left_inj' (by positivity)] at heq
      exact hlt (heq ▸ le_rfl)
    rw [hplace]
    gcongr

theorem abs_mantissaOf_mul_sub_le :
    |mantissaOf v * 2 ^ lastPlace v - v| ≤ 2 ^ (lastPlace v - 1) := by
  have hsplit : mantissaOf v * 2 ^ lastPlace v - v =
      (mantissaOf v - v / 2 ^ lastPlace v) * 2 ^ lastPlace v := by
    rw [sub_mul, div_mul_cancel₀ _ (by positivity)]
  calc |mantissaOf v * 2 ^ lastPlace v - v|
      = |mantissaOf v - v / 2 ^ lastPlace v| * 2 ^ lastPlace v := by
        rw [hsplit, abs_mul, abs_of_pos (a := (2 : ℚ) ^ lastPlace v) (by positivity)]
    _ ≤ 1 / 2 * 2 ^ lastPlace v := by
        gcongr
        exact abs_mantissaOf_sub_le hv
    _ = 2 ^ (lastPlace v - 1) := by
        rw [zpow_sub_one₀ two_ne_zero]
        ring

end

/-- A multiple of the last place is exact. -/
theorem mantissaOf_mul_of_multiple {v : ℚ} {m : ℕ} (h : v = m * 2 ^ lastPlace v) :
    (mantissaOf v * 2 ^ lastPlace v : ℚ) = v := by
  have hq : v / 2 ^ lastPlace v = m := by
    rw [div_eq_iff (by positivity)]
    exact h
  have hm : mantissaOf v = m := by
    rw [mantissaOf, hq, extend_natCast]
    rfl
  rw [hm]
  exact h.symm

/-! ### Rounded numbers -/

/-- A number rounded to its last place. -/
def rounded (v : ℚ) : ℚ := (if v < 0 then -1 else 1) * (mantissaOf |v| * 2 ^ lastPlace |v|)

theorem rounded_of_nonneg {v : ℚ} (hv : 0 ≤ v) : rounded v = mantissaOf v * 2 ^ lastPlace v := by
  rw [rounded, if_neg hv.not_gt, abs_of_nonneg hv, one_mul]

theorem rounded_zero : rounded 0 = 0 := by
  have hzero : mantissaOf 0 = 0 := by
    rw [mantissaOf, zero_div, ← Nat.cast_zero, extend_natCast]
    rfl
  rw [rounded_of_nonneg le_rfl, hzero, Nat.cast_zero, zero_mul]

theorem rounded_neg (v : ℚ) : rounded (-v) = -rounded v := by
  rcases lt_trichotomy v 0 with h | rfl | h
  · rw [rounded, rounded, abs_neg, if_pos h, if_neg (by linarith), neg_one_mul, one_mul, neg_neg]
  · rw [neg_zero, rounded_zero, neg_zero]
  · rw [rounded, rounded, abs_neg, if_neg h.not_gt, if_pos (neg_lt_zero.2 h), neg_one_mul, one_mul]

theorem rounded_nonneg {v : ℚ} (hv : 0 ≤ v) : 0 ≤ rounded v := by
  rw [rounded_of_nonneg hv]
  positivity

theorem rounded_mono {v w : ℚ} (hv : 0 ≤ v) (h : v ≤ w) : rounded v ≤ rounded w := by
  rcases hv.eq_or_lt with rfl | hpos
  · rw [rounded_zero]
    exact rounded_nonneg h
  · rw [rounded_of_nonneg hv, rounded_of_nonneg (hv.trans h)]
    exact mantissaOf_mul_mono hpos h

/-- For a multiple of the least number the error is relative. -/
theorem abs_rounded_sub_le (k : ℕ) :
    |rounded (k * 2 ^ (-1074 : ℤ)) - k * 2 ^ (-1074 : ℤ)| ≤ k * 2 ^ (-1074 : ℤ) / 2 ^ 53 := by
  rcases Nat.eq_zero_or_pos k with rfl | hk
  · simp [rounded_zero]
  generalize hv : (k * 2 ^ (-1074 : ℤ) : ℚ) = v
  have hpos : 0 < v := by
    rw [← hv]
    positivity
  rw [rounded_of_nonneg hpos.le]
  rcases max_choice (Int.log 2 v - 52) (-1074) with h | h
  · have hlog : (2 : ℚ) ^ Int.log 2 v ≤ v := Int.zpow_log_le_self one_lt_two hpos
    calc |mantissaOf v * 2 ^ lastPlace v - v|
        ≤ 2 ^ (lastPlace v - 1) := abs_mantissaOf_mul_sub_le hpos
      _ = 2 ^ Int.log 2 v / 2 ^ 53 := by
        rw [lastPlace, h, sub_sub, zpow_sub₀ two_ne_zero]
        norm_num
      _ ≤ v / 2 ^ 53 := by gcongr
  · have hmultiple : v = k * 2 ^ lastPlace v := by
      rw [lastPlace, h]
      exact hv.symm
    rw [mantissaOf_mul_of_multiple hmultiple, sub_self, abs_zero]
    positivity

/-! ### Numbers that fit -/

/-- A multiple of a power of two with at most 53 bits, the power being the least one of the format or
larger. -/
def Fits (v : ℚ) : Prop := ∃ (m : ℕ) (e : ℤ), m < 2 ^ 53 ∧ -1074 ≤ e ∧ v = m * 2 ^ e

section

variable {v w : ℚ}

theorem fits_natCast {n : ℕ} (h : n < 2 ^ 53) : Fits n :=
  ⟨n, 0, h, by decide, by rw [zpow_zero, mul_one]⟩

theorem Fits.nonneg (h : Fits v) : 0 ≤ v := by
  obtain ⟨m, e, -, -, rfl⟩ := h
  positivity

theorem Fits.rounded_eq (h : Fits v) : rounded v = v := by
  obtain ⟨m, e, hm, he, rfl⟩ := h
  rcases Nat.eq_zero_or_pos m with rfl | hpos
  · rw [Nat.cast_zero, zero_mul, rounded_zero]
  have hplace : lastPlace (m * 2 ^ e) ≤ e := by
    have hlog : m.log2 < 53 := (Nat.log2_lt hpos.ne').2 hm
    rw [lastPlace, log_mul_two_zpow (by positivity), log_natCast]
    omega
  obtain ⟨i, hi⟩ := Int.le.dest hplace
  rw [rounded_of_nonneg (by positivity), mantissaOf_mul_of_multiple (m := m * 2 ^ i)]
  conv_lhs => rw [← hi, zpow_add₀ two_ne_zero, zpow_natCast]
  push_cast
  ring

theorem Fits.rounded_le (hw : Fits w) (hv : 0 ≤ v) (h : v ≤ w) : rounded v ≤ w :=
  (rounded_mono hv h).trans_eq hw.rounded_eq

theorem Fits.le_rounded (hv : Fits v) (h : v ≤ w) : v ≤ rounded w :=
  hv.rounded_eq.symm.trans_le (rounded_mono hv.nonneg h)

/-- So it is for a multiple of a number that fits. -/
theorem Fits.abs_rounded_mul_sub_le (hv : Fits v) (n : ℕ) :
    |rounded (n * v) - n * v| ≤ n * v / 2 ^ 53 := by
  obtain ⟨m, e, -, he, rfl⟩ := hv
  obtain ⟨i, rfl⟩ := Int.le.dest he
  have hunits : (n * (m * 2 ^ (-1074 + i : ℤ)) : ℚ) = (n * (m * 2 ^ i) : ℕ) * 2 ^ (-1074 : ℤ) := by
    rw [zpow_add₀ two_ne_zero, zpow_natCast, Nat.cast_mul, Nat.cast_mul, Nat.cast_pow, Nat.cast_two,
      mul_comm (2 ^ (-1074 : ℤ)), mul_assoc, mul_assoc]
  rw [hunits]
  exact abs_rounded_sub_le _

/-- Of numbers with one last place the difference is counted in it. -/
theorem fits_sub_mul {k l : ℕ} {e : ℤ} (he : -1074 ≤ e) (h : (k * 2 ^ e : ℚ) ≤ l * 2 ^ e)
    (hl : l < 2 ^ 53 + k) : Fits (l * 2 ^ e - k * 2 ^ e) := by
  have hkl : k ≤ l := by
    exact_mod_cast le_of_mul_le_mul_right h (by positivity)
  exact ⟨l - k, e, by omega, he, by rw [Nat.cast_sub hkl, sub_mul]⟩

/-- Numbers within a factor of two are subtracted without rounding. -/
theorem Fits.sub (hv : Fits v) (hw : Fits w) (h : v ≤ w) (h' : w ≤ 2 * v) : Fits (w - v) := by
  obtain ⟨m, e, hm, he, rfl⟩ := hv
  obtain ⟨n, f, hn, hf, rfl⟩ := hw
  have hshift (a : ℕ) (g : ℤ) (i : ℕ) : (a * 2 ^ (g + i) : ℚ) = (a * 2 ^ i : ℕ) * 2 ^ g := by
    rw [zpow_add₀ two_ne_zero, zpow_natCast]
    push_cast
    ring
  rcases le_total e f with hef | hef
  · obtain ⟨i, rfl⟩ := Int.le.dest hef
    rw [hshift] at h h' ⊢
    rw [← mul_assoc] at h'
    have hle : n * 2 ^ i ≤ 2 * m := by
      exact_mod_cast le_of_mul_le_mul_right h' (by positivity)
    exact fits_sub_mul he h (by omega)
  · obtain ⟨i, rfl⟩ := Int.le.dest hef
    rw [hshift] at h ⊢
    exact fits_sub_mul hf h (by omega)

end

end ControllerRemap.Binary64
