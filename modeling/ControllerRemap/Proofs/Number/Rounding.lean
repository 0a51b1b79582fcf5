import ControllerRemap.Proofs.Number.Packing
import Mathlib

/-! Rounding of positive rational numbers to double precision. The mantissas that the
operations round are exact: together with their round and sticky bits they say where the number
lies between two multiples of the last place. So the rounded number depends on the
number alone, however it was computed. -/

namespace ControllerRemap.Binary64

open Float.Model Float.Model.UnpackedFloat

/-! ### Mantissas with a rest -/

/-- The whole part of a number, and where the rest lies between zero, a half and one. -/
def extend (q : ℚ) : ExtendedMantissa :=
  ⟨⌊q⌋₊, decide (1 / 2 ≤ Int.fract q), decide (Int.fract q ≠ 0 ∧ Int.fract q ≠ 1 / 2)⟩

theorem extend_of_floor {q f : ℚ} {n : Nat} (h : q = n + f) (nonneg : 0 ≤ f) (lt : f < 1) :
    extend q = ⟨n, decide (1 / 2 ≤ f), decide (f ≠ 0 ∧ f ≠ 1 / 2)⟩ := by
  have hfloor : ⌊q⌋₊ = n := by
    rw [Nat.floor_eq_iff (by rw [h]; positivity)]
    constructor <;> linarith
  have hfract : Int.fract q = f := by
    rw [h, Int.fract_natCast_add, Int.fract_eq_self.mpr ⟨nonneg, lt⟩]
  rw [extend, hfloor, hfract]

theorem extend_natCast (n : Nat) : extend n = ⟨n, false, false⟩ := by
  rw [extend_of_floor (by rw [add_zero]) le_rfl one_pos]
  norm_num

theorem exists_floor_add {q : ℚ} (hq : 0 ≤ q) :
    ∃ (n : Nat) (f : ℚ), q = n + f ∧ 0 ≤ f ∧ f < 1 := by
  have hfloor := Nat.floor_le hq
  have hlt := Nat.lt_floor_add_one q
  exact ⟨⌊q⌋₊, q - ⌊q⌋₊, by ring, sub_nonneg.mpr hfloor, by linarith⟩

theorem shiftRightOne_extend {q : ℚ} (hq : 0 ≤ q) : (extend q).shiftRightOne = extend (q / 2) := by
  obtain ⟨n, f, rfl, nonneg, lt⟩ := exists_floor_add hq
  have hmod : (n : ℚ) = 2 * (n / 2 : ℕ) + (n % 2 : ℕ) := by exact_mod_cast (Nat.div_add_mod n 2).symm
  have hhalf : (n + f) / 2 = (n / 2 : ℕ) + ((n % 2 : ℕ) + f) / 2 := by linarith
  rw [extend_of_floor rfl nonneg lt, ExtendedMantissa.shiftRightOne]
  -- the lost digit becomes the round bit, and the old rest is zero or not
  have hsticky : (1 / 2 ≤ f ∨ f ≠ 0 ∧ f ≠ 1 / 2) ↔ f ≠ 0 := by
    constructor
    · rintro (h | h) rfl
      · norm_num at h
      · exact h.1 rfl
    · intro h
      by_cases half : f = 1 / 2
      · exact .inl half.ge
      · exact .inr ⟨h, half⟩
  rcases Nat.mod_two_eq_zero_or_one n with even | odd
  · rw [even, Nat.cast_zero, zero_add] at hhalf
    have hround : ¬1 / 2 ≤ f / 2 := by linarith
    have hrest : (f / 2 ≠ 0 ∧ f / 2 ≠ 1 / 2) ↔ f ≠ 0 :=
      ⟨fun h => by simpa using h.1, fun h => ⟨by simpa using h, by linarith⟩⟩
    rw [extend_of_floor hhalf (by linarith) (by linarith)]
    simp only [ExtendedMantissa.mk.injEq, even, ← Bool.decide_or, hsticky, hround, hrest, decide_false,
      and_true, true_and]
    rfl
  · rw [odd, Nat.cast_one] at hhalf
    have hround : 1 / 2 ≤ (1 + f) / 2 := by linarith
    have hrest : ((1 + f) / 2 ≠ 0 ∧ (1 + f) / 2 ≠ 1 / 2) ↔ f ≠ 0 := by
      refine ⟨?_, fun h => ⟨by linarith, fun h' => h (by linarith)⟩⟩
      rintro ⟨-, h⟩ rfl
      norm_num at h
    rw [extend_of_floor hhalf (by linarith) (by linarith)]
    simp only [ExtendedMantissa.mk.injEq, odd, ← Bool.decide_or, hsticky, hround, hrest, decide_true,
      and_true, true_and]
    rfl

theorem shiftRight_extend {q : ℚ} (hq : 0 ≤ q) (n : Nat) : extend q >>> n = extend (q / 2 ^ n) := by
  change n.repeat ExtendedMantissa.shiftRightOne (extend q) = _
  induction n with
  | zero => simp [Nat.repeat]
  | succ n ih =>
    rw [Nat.repeat, ih, shiftRightOne_extend (by positivity), div_div, ← pow_succ]

theorem ofMantissaAndAccuracy_exact (n : Nat) :
    ExtendedMantissa.ofMantissaAndAccuracy n .exact = extend n := by
  rw [extend_natCast]
  rfl

theorem ofMantissaAndAccuracy_div (a : Nat) {b : Nat} (hb : 0 < b) :
    ExtendedMantissa.ofMantissaAndAccuracy (a / b) (accuracyOfFraction (a % b) b) =
      extend (a / b : ℚ) := by
  have hb' : (0 : ℚ) < b := by exact_mod_cast hb
  have hlt : a % b < b := Nat.mod_lt a hb
  have hsplit : (a / b : ℚ) = (a / b : ℕ) + (a % b : ℕ) / (b : ℚ) := by
    field_simp
    exact_mod_cast (Nat.div_add_mod a b).symm
  rw [extend_of_floor hsplit (by positivity) ((div_lt_one hb').mpr (by exact_mod_cast hlt)),
    accuracyOfFraction]
  by_cases zero : a % b = 0
  · simp [zero, ExtendedMantissa.ofMantissaAndAccuracy]
  have hne : ((a % b : ℕ) / (b : ℚ)) ≠ 0 := by positivity
  have hhalf : ((a % b : ℕ) / (b : ℚ)) = 1 / 2 ↔ 2 * (a % b) = b := by
    rw [div_eq_div_iff hb'.ne' two_ne_zero]
    norm_cast
    omega
  have hle : 1 / 2 ≤ ((a % b : ℕ) / (b : ℚ)) ↔ b ≤ 2 * (a % b) := by
    rw [div_le_div_iff₀ two_pos hb']
    norm_cast
    omega
  rw [if_neg zero]
  simp only [hne, hhalf, hle, ne_eq, not_false_eq_true, true_and]
  rcases lt_trichotomy (2 * (a % b)) b with h | h | h
  · rw [Nat.compare_eq_lt.mpr h]
    simp [ExtendedMantissa.ofMantissaAndAccuracy, h.ne, h]
  · rw [Nat.compare_eq_eq.mpr h]
    simp [ExtendedMantissa.ofMantissaAndAccuracy, h]
  · rw [Nat.compare_eq_gt.mpr h]
    simp [ExtendedMantissa.ofMantissaAndAccuracy, h.ne', h.le]

/-! ### The nearest number -/

/-- The exponent of the last place of a number. -/
def lastPlace (v : ℚ) : Int := max (Int.log 2 v - 52) (-1074)

theorem neg_le_lastPlace (v : ℚ) : -1074 ≤ lastPlace v := le_max_right _ _

/-- A positive number rounded to 53 bits or to the least exponent, ties to even. -/
def nearest (s : Sign) (v : ℚ) : UnpackedFloat :=
  let e := lastPlace v
  let m := (extend (v / 2 ^ e)).roundedMantissa
  if h : m = 0 then .zero s
  else if m < 2 ^ 53 then .finite s m e (Nat.pos_of_ne_zero h)
  else .finite s (2 ^ 52) (e + 1) (by decide)

/-- A factor that is a power of the base adds its exponent to a logarithm. -/
theorem log_mul_zpow {b : Nat} (hb : 1 < b) {q : ℚ} (hq : 0 < q) (e : Int) :
    Int.log b (q * (b : ℚ) ^ e) = Int.log b q + e := by
  have hb' : (0 : ℚ) < b := by exact_mod_cast zero_lt_one.trans hb
  refine eq_of_forall_le_iff fun k => ?_
  rw [← sub_le_iff_le_add, ← Int.zpow_le_iff_le_log hb (by positivity),
    ← Int.zpow_le_iff_le_log hb hq, zpow_sub₀ hb'.ne', div_le_iff₀ (by positivity)]

theorem le_log_iff {v : ℚ} (hv : 0 < v) {k : Int} : k ≤ Int.log 2 v ↔ (2 : ℚ) ^ k ≤ v :=
  (Int.zpow_le_iff_le_log one_lt_two hv).symm

theorem log_lt_iff {v : ℚ} (hv : 0 < v) {k : Int} : Int.log 2 v < k ↔ v < (2 : ℚ) ^ k :=
  (Int.lt_zpow_iff_log_lt one_lt_two hv).symm

theorem log_mul_two_zpow {q : ℚ} (hq : 0 < q) (e : Int) :
    Int.log 2 (q * 2 ^ e) = Int.log 2 q + e :=
  log_mul_zpow one_lt_two hq e

theorem log_natCast (n : Nat) : Int.log 2 (n : ℚ) = n.log2 := by
  rw [Int.log_natCast, Nat.log2_eq_log_two]

theorem targetExponent_eq (k : Int) : format.targetExponent k = max (k - 53) (-1074) := rfl

theorem mantissa_ofMantissaAndAccuracy (m : Nat) (a : Accuracy) :
    (ExtendedMantissa.ofMantissaAndAccuracy m a).mantissa = m := by
  cases a with
  | exact => rfl
  | inexact o => cases o <;> rfl

theorem roundedMantissa_le (em : ExtendedMantissa) : em.roundedMantissa ≤ em.mantissa + 1 := by
  obtain ⟨m, r, t⟩ := em
  cases r <;> cases t <;>
    simp [ExtendedMantissa.roundedMantissa, ExtendedMantissa.accuracy, Accuracy.roundToNearestEven]
  omega

theorem roundedMantissa_extend_le {v : ℚ} (hv : 0 < v) :
    (extend (v / 2 ^ lastPlace v)).roundedMantissa ≤ 2 ^ 53 := by
  have hlt : v / 2 ^ lastPlace v < 2 ^ 53 := by
    have hlog : Int.log 2 v < 53 + lastPlace v := by
      have := le_max_left (Int.log 2 v - 52) (-1074)
      rw [← lastPlace] at this
      omega
    rw [div_lt_iff₀ (by positivity)]
    rw [log_lt_iff hv, zpow_add₀ two_ne_zero] at hlog
    exact_mod_cast hlog
  have hfloor : ⌊v / 2 ^ lastPlace v⌋₊ < 2 ^ 53 := by
    rw [Nat.floor_lt (by positivity)]
    exact_mod_cast hlt
  exact (roundedMantissa_le _).trans hfloor

/-- A mantissa that rounding has carried into a new digit loses its last one, a zero. -/
theorem shiftToTargetExponent_of_le {m : Nat} {e : Int} (hm : m ≤ 2 ^ 53) (he : -1074 ≤ e) :
    shiftToTargetExponent format m e .exact =
      if m < 2 ^ 53 then (⟨m, false, false⟩, e) else (⟨2 ^ 52, false, false⟩, e + 1) := by
  rw [shiftToTargetExponent, shiftToExponent, targetExponent_eq, totalExponent]
  split
  · next hlt =>
    have hlog : m.log2 ≤ 52 := by
      rcases Nat.eq_zero_or_pos m with rfl | pos
      · decide
      · exact Nat.le_of_lt_succ ((Nat.log2_lt (by omega)).mpr hlt)
    have hshift : (max (((m.log2 : Int) + 1 + e) - 53) (-1074) - e).toNat = 0 := by omega
    rw [hshift, Nat.cast_zero, add_zero]
    rfl
  · have hm : m = 2 ^ 53 := by omega
    have hlog : m.log2 = 53 := by rw [hm, Nat.log2_two_pow]
    have hshift : (max (((m.log2 : Int) + 1 + e) - 53) (-1074) - e).toNat = 1 := by omega
    rw [hshift, hm]
    rfl

/-- A mantissa with its rest, not too far to the left, is rounded to the nearest number. -/
theorem roundWithAccuracy_eq {s : Sign} {m : Nat} {e : Int} {a : Accuracy} {q : ℚ} (hq : 0 < q)
    (h : ExtendedMantissa.ofMantissaAndAccuracy m a = extend q) (he : e ≤ lastPlace (q * 2 ^ e)) :
    roundWithAccuracy format s m e a = nearest s (q * 2 ^ e) := by
  have hfloor : m = ⌊q⌋₊ := by
    rw [← mantissa_ofMantissaAndAccuracy m a, h, extend]
  have hplace : format.targetExponent (totalExponent m e) = lastPlace (q * 2 ^ e) := by
    rw [targetExponent_eq, totalExponent, lastPlace, log_mul_two_zpow hq]
    rw [lastPlace, log_mul_two_zpow hq] at he
    -- below one the mantissa is zero and tells no length; both exponents are then the least
    rcases lt_or_ge q 1 with small | large
    · have hzero : m = 0 := by rw [hfloor, Nat.floor_eq_zero.mpr small]
      have hlog : Int.log 2 q < 0 := (log_lt_iff hq).mpr (by simpa using small)
      simp only [hzero, Nat.log2_zero]
      omega
    · rw [Int.log_of_one_le_right _ large, ← Nat.log2_eq_log_two, ← hfloor]
      omega
  have hfirst : shiftToTargetExponent format m e a =
      (extend (q * 2 ^ e / 2 ^ lastPlace (q * 2 ^ e)), lastPlace (q * 2 ^ e)) := by
    rw [shiftToTargetExponent, shiftToExponent, hplace, h]
    generalize lastPlace (q * 2 ^ e) = k at he
    obtain ⟨n, rfl⟩ := Int.le.dest he
    have hshift : (e + n - e).toNat = n := by omega
    rw [hshift, shiftRight_extend hq.le, zpow_add₀ two_ne_zero, zpow_natCast,
      mul_comm q, mul_div_mul_left _ _ (by positivity)]
  have hle := roundedMantissa_extend_le (v := q * 2 ^ e) (by positivity)
  have hplace := neg_le_lastPlace (q * 2 ^ e)
  simp only [roundWithAccuracy, hfirst, nearest]
  by_cases lt : (extend (q * 2 ^ e / 2 ^ lastPlace (q * 2 ^ e))).roundedMantissa < 2 ^ 53
  · simp only [shiftToTargetExponent_of_le hle hplace, if_pos lt]
  · have hne : (extend (q * 2 ^ e / 2 ^ lastPlace (q * 2 ^ e))).roundedMantissa ≠ 0 := by omega
    simp only [shiftToTargetExponent_of_le hle hplace, if_neg lt, dif_neg hne]
    rfl

section

variable {s t : Sign} {m n : Nat} {e f : Int} (hm : 0 < m) (hn : 0 < n)
include hm hn

theorem mul_eq_nearest (large : 2 ^ 52 ≤ m * n) :
    UnpackedFloat.mul format (.finite s m e hm) (.finite t n f hn) =
      nearest (s * t) ((m * 2 ^ e) * (n * 2 ^ f)) := by
  have hpos : 0 < m * n := Nat.mul_pos hm hn
  have hvalue : (m * 2 ^ e) * (n * 2 ^ f) = ((m * n : ℕ) : ℚ) * 2 ^ (e + f) := by
    rw [zpow_add₀ two_ne_zero]
    push_cast
    ring
  have hlog : 52 ≤ (m * n).log2 := (Nat.le_log2 hpos.ne').mpr large
  rw [hvalue, UnpackedFloat.mul,
    roundWithAccuracy_eq (by exact_mod_cast hpos) (ofMantissaAndAccuracy_exact _)]
  rw [lastPlace, log_mul_two_zpow (by exact_mod_cast hpos), log_natCast]
  omega

theorem le_log_div :
    (m.log2 : Int) + e - n.log2 - f - 1 ≤ Int.log 2 ((m * 2 ^ e) / (n * 2 ^ f) : ℚ) := by
  have hpos : (0 : ℚ) < n * 2 ^ f := by positivity
  have hm' : (2 : ℚ) ^ m.log2 ≤ m := by exact_mod_cast Nat.log2_self_le hm.ne'
  have hn' : (n : ℚ) ≤ 2 ^ (n.log2 + 1) := by exact_mod_cast Nat.lt_log2_self.le
  rw [le_log_iff (by positivity), le_div_iff₀ hpos]
  calc (2 : ℚ) ^ ((m.log2 : Int) + e - n.log2 - f - 1) * (n * 2 ^ f)
      ≤ 2 ^ ((m.log2 : Int) + e - n.log2 - f - 1) * (2 ^ (n.log2 + 1) * 2 ^ f) := by gcongr
    _ = 2 ^ m.log2 * 2 ^ e := by
      simp only [← zpow_natCast, ← zpow_add₀ (two_ne_zero (α := ℚ))]
      congr 1
      push_cast
      ring
    _ ≤ m * 2 ^ e := by gcongr

theorem div_eq_nearest : UnpackedFloat.div format (.finite s m e hm) (.finite t n f hn) =
    nearest (s / t) ((m * 2 ^ e) / (n * 2 ^ f)) := by
  have hlog := le_log_div (e := e) (f := f) hm hn
  rw [UnpackedFloat.div, divCore]
  simp only [totalExponent, targetExponent_eq]
  generalize htarget : min (e - f) _ = k
  obtain ⟨i, hi⟩ := Int.le.dest (htarget ▸ min_le_left _ _ : k ≤ e - f)
  have hshift : (e - f - k).toNat = i := by omega
  have hvalue : (m * 2 ^ e) / (n * 2 ^ f) = ((m <<< i : ℕ) / n : ℚ) * 2 ^ k := by
    have he : e = k + i + f := by omega
    rw [he, zpow_add₀ two_ne_zero, zpow_add₀ two_ne_zero, zpow_natCast, Nat.shiftLeft_eq]
    push_cast
    field_simp
  have hpos : (0 : ℚ) < (m <<< i : ℕ) / n := by
    rw [Nat.shiftLeft_eq]
    positivity
  rw [hvalue, hshift, roundWithAccuracy_eq hpos (ofMantissaAndAccuracy_div _ hn)]
  rw [← hvalue, lastPlace]
  omega

end

/-- A number that fits is the nearest to itself. -/
theorem nearest_of_canonical {s : Sign} {m : Nat} {e : Int} {hm : 0 < m}
    (h : Canonical (.finite s m e hm)) : nearest s (m * 2 ^ e) = .finite s m e hm := by
  obtain ⟨high, he, -, hsub⟩ := h
  have hplace : lastPlace (m * 2 ^ e) = e := by
    rw [lastPlace, log_mul_two_zpow (by positivity), log_natCast]
    rcases Nat.lt_or_ge m (2 ^ 52) with hlt | low
    · have hlog : m.log2 < 52 := (Nat.log2_lt hm.ne').mpr hlt
      have := hsub hlt
      omega
    · rw [log2_of_normal low high]
      omega
  have hmantissa : (extend (m * 2 ^ e / 2 ^ e)).roundedMantissa = m := by
    rw [mul_div_cancel_right₀ _ (by positivity), extend_natCast]
    rfl
  simp only [nearest, hplace, hmantissa, dif_neg hm.ne', if_pos high]

end ControllerRemap.Binary64
