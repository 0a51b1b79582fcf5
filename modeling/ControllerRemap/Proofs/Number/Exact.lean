import ControllerRemap.Proofs.Number.Finite
import ControllerRemap.Proofs.Number.Nearest
import ControllerRemap.Proofs.Number.Rational

/-! The rational numbers that finite numbers stand for. An operation on finite numbers rounds the exact
result and overflows if that is out of range; comparing, truncating and converting to an integer are
exact. -/

namespace ControllerRemap.Binary64

open Float.Model Float.Model.UnpackedFloat

/-! ### Values -/

def unit (negative : Bool) : ℚ := if negative then -1 else 1

def Parts.value (p : Parts) : ℚ := unit p.negative * (p.mantissa * 2 ^ p.exponent)

/-- The number that the bits stand for, if it is finite. -/
def toRat? (x : Float) : Option ℚ := (parts? x).map Parts.value

@[simp] theorem unit_true : unit true = -1 := rfl

@[simp] theorem unit_false : unit false = 1 := rfl

@[simp] theorem unit_positive : unit (isMinus .positive) = 1 := rfl

@[simp] theorem unit_negative : unit (isMinus .negative) = -1 := rfl

theorem abs_unit_mul (b : Bool) (v : ℚ) : |unit b * v| = |v| := by cases b <;> simp

theorem unit_mul_self (b : Bool) : unit b * unit b = 1 := by cases b <;> simp

theorem unit_mul_natCast (b : Bool) (n : ℕ) :
    unit b * n = ((if b then -(n : ℤ) else n : ℤ) : ℚ) := by
  cases b <;> simp

theorem unit_mul_sign (s t : Sign) : unit (isMinus (s * t)) = unit (isMinus s) * unit (isMinus t) := by
  cases s <;> cases t <;> simp [unit, isMinus]

theorem unit_div_sign (s t : Sign) : unit (isMinus (s / t)) = unit (isMinus s) / unit (isMinus t) := by
  cases s <;> cases t <;> simp [unit, isMinus] <;> rfl

theorem rounded_unit_mul (b : Bool) (v : ℚ) : rounded (unit b * v) = unit b * rounded v := by
  cases b with
  | false => simp
  | true => simp [rounded_neg]

/-- The number that an unpacked one stands for. -/
def valueOf? : UnpackedFloat → Option ℚ
  | .zero _ => some 0
  | .finite s m e _ => some (unit (isMinus s) * (m * 2 ^ e))
  | _ => none

theorem toRat?_eq (x : Float) : toRat? x = valueOf? x.toModel.unpack := by
  cases h : x.toModel.unpack with
  | notANumber => rw [toRat?, parts?_of_notANumber h]; rfl
  | infinity s => rw [toRat?, parts?_of_infinity h]; rfl
  | zero s => rw [toRat?, parts?_of_zero h]; simp [Parts.value, valueOf?]
  | finite s m e hm => rw [toRat?, parts?_of_finite h]; rfl

theorem toRat?_pack {u : UnpackedFloat} (h : Canonical u) :
    toRat? (.ofModel (.pack u)) = valueOf? u := by
  rw [toRat?_eq, unpack_pack h]

/-- A number with a value is a zero or has digits. -/
theorem unpack_of_toRat? {x : Float} {a : ℚ} (h : toRat? x = some a) :
    (∃ s, x.toModel.unpack = .zero s ∧ a = 0) ∨
      ∃ s m e hm, x.toModel.unpack = .finite s m e hm ∧ a = unit (isMinus s) * (m * 2 ^ e) := by
  rw [toRat?_eq] at h
  cases hu : x.toModel.unpack with
  | notANumber => rw [hu] at h; cases h
  | infinity s => rw [hu] at h; cases h
  | zero s => rw [hu] at h; cases h; exact .inl ⟨s, rfl, rfl⟩
  | finite s m e hm => rw [hu] at h; cases h; exact .inr ⟨s, m, e, hm, rfl, rfl⟩

theorem unpack_of_toRat?_eq_none {x : Float} (h : toRat? x = none) :
    x.toModel.unpack = .notANumber ∨ ∃ s, x.toModel.unpack = .infinity s := by
  rw [toRat?_eq] at h
  cases hu : x.toModel.unpack with
  | notANumber => exact .inl rfl
  | infinity s => exact .inr ⟨s, rfl⟩
  | zero s => rw [hu] at h; cases h
  | finite s m e hm => rw [hu] at h; cases h

/-! ### The range -/

/-- A number if it is in the range of the format. -/
def bounded? (v : ℚ) : Option ℚ := if |v| < 2 ^ (1024 : ℤ) then some v else none

theorem bounded?_zero : bounded? 0 = some 0 := if_pos (by simp)

theorem eq_of_bounded? {v w : ℚ} (h : bounded? v = some w) : w = v := by
  rw [bounded?] at h
  split at h
  · exact (Option.some.inj h).symm
  · cases h

/-- What fits and is in the range is not rounded. -/
theorem bounded?_rounded_of_fits {v : ℚ} (hv : Fits |v|) (hlt : |v| < 2 ^ (1024 : ℤ)) :
    bounded? (rounded v) = some v := by
  have hrounded : rounded v = v := by
    rcases abs_choice v with h | h
    · rw [← h]
      exact hv.rounded_eq
    · rw [← neg_eq_iff_eq_neg.2 h, rounded_neg, hv.rounded_eq]
  rw [hrounded, bounded?, if_pos hlt]

theorem mul_zpow_lt {m : ℕ} {e : ℤ} (hm : m < 2 ^ 53) (he : e ≤ 971) : (m * 2 ^ e : ℚ) < 2 ^ (1024 : ℤ) := by
  have hm' : (m : ℚ) < 2 ^ 53 := by exact_mod_cast hm
  calc (m * 2 ^ e : ℚ) < 2 ^ 53 * 2 ^ e := by gcongr
    _ ≤ 2 ^ 53 * 2 ^ (971 : ℤ) := by gcongr; norm_num
    _ = 2 ^ (1024 : ℤ) := by rw [← zpow_natCast, ← zpow_add₀ two_ne_zero]; rfl

section

variable {x y : Float} {a b : ℚ}

theorem abs_lt_of_toRat? (h : toRat? x = some a) : |a| < 2 ^ (1024 : ℤ) := by
  have hcanonical := canonical_unpack x.toModel
  rcases unpack_of_toRat? h with ⟨s, hu, rfl⟩ | ⟨s, m, e, hm, hu, rfl⟩
  · simp
  · rw [hu] at hcanonical
    rw [abs_unit_mul, abs_of_nonneg (by positivity)]
    exact mul_zpow_lt hcanonical.1 hcanonical.2.2.1

theorem fits_of_toRat? (h : toRat? x = some a) : Fits |a| := by
  have hcanonical := canonical_unpack x.toModel
  rcases unpack_of_toRat? h with ⟨s, hu, rfl⟩ | ⟨s, m, e, hm, hu, rfl⟩
  · exact ⟨0, 0, by decide, by decide, by simp⟩
  · rw [hu] at hcanonical
    refine ⟨m, e, hcanonical.1, hcanonical.2.1, ?_⟩
    rw [abs_unit_mul, abs_of_nonneg (by positivity)]

end

/-! ### Rounded results -/

/-- A result in canonical form, or an overflow. -/
def Settles (s : Sign) (u : UnpackedFloat) (v : ℚ) : Prop :=
  Canonical u ∧ v < 2 ^ (1024 : ℤ) ∨
    (Float.Model.pack u).unpack = .infinity s ∧ 2 ^ (1024 : ℤ) ≤ v

theorem unpack_pack_of_overflow (s : Sign) {m : ℕ} {e : ℤ} (he : 971 < e) (hm : 0 < m) :
    (Float.Model.pack (.finite s m e hm)).unpack = .infinity s := by
  have hpack : UnpackedFloat.pack format (.finite s m e hm) = packedInfinity format s := by
    simp only [UnpackedFloat.pack]
    rw [if_pos (by simp [Format.exponentBias]; omega)]
  change UnpackedFloat.unpack format (UnpackedFloat.pack format _) = _
  rw [hpack]
  exact unpack_special s

theorem settles_normal (s : Sign) {m : ℕ} {e : ℤ} (low : 2 ^ 52 ≤ m) (high : m < 2 ^ 53)
    (he : -1074 ≤ e) (hm : 0 < m) : Settles s (.finite s m e hm) (m * 2 ^ e) := by
  rcases le_or_gt e 971 with he' | he'
  · exact .inl ⟨⟨high, he, he', fun h => absurd low h.not_ge⟩, mul_zpow_lt high he'⟩
  · have hm' : (2 : ℚ) ^ 52 ≤ m := by exact_mod_cast low
    refine .inr ⟨unpack_pack_of_overflow s he' hm, ?_⟩
    calc (2 : ℚ) ^ (1024 : ℤ) = 2 ^ 52 * 2 ^ (972 : ℤ) := by
          rw [← zpow_natCast, ← zpow_add₀ two_ne_zero]; rfl
      _ ≤ m * 2 ^ e := by
          gcongr
          · norm_num
          · omega

section

variable (s : Sign) {v : ℚ}

theorem nearest_eq (v : ℚ) : nearest s v =
    if h : mantissaOf v = 0 then .zero s
    else if mantissaOf v < 2 ^ 53 then
      .finite s (mantissaOf v) (lastPlace v) (Nat.pos_of_ne_zero h)
    else .finite s (2 ^ 52) (lastPlace v + 1) (by decide) := rfl

variable (hv : 0 < v)
include hv

theorem carried_eq (h : ¬mantissaOf v < 2 ^ 53) :
    (mantissaOf v * 2 ^ lastPlace v : ℚ) = (2 ^ 52 : ℕ) * 2 ^ (lastPlace v + 1) := by
  rw [le_antisymm (mantissaOf_le hv) (not_lt.1 h), zpow_add_one₀ two_ne_zero]
  push_cast
  ring

theorem valueOf?_nearest : valueOf? (nearest s v) = some (unit (isMinus s) * rounded v) := by
  rw [rounded_of_nonneg hv.le, nearest_eq]
  split
  · next hzero => rw [hzero, Nat.cast_zero, zero_mul, mul_zero, valueOf?]
  · split
    · rfl
    · next hge =>
      rw [carried_eq hv hge]
      rfl

theorem settles_nearest : Settles s (nearest s v) (rounded v) := by
  have hplace := neg_le_lastPlace v
  rw [rounded_of_nonneg hv.le, nearest_eq]
  split
  · next hzero =>
    refine .inl ⟨trivial, ?_⟩
    rw [hzero, Nat.cast_zero, zero_mul]
    positivity
  · split
    · next hpos hlt =>
      rcases lt_or_ge (mantissaOf v) (2 ^ 52) with hsmall | hlarge
      · have hleast : lastPlace v = -1074 := by
          by_contra hne
          exact hsmall.not_ge (le_mantissaOf hv (lt_of_le_of_ne hplace (Ne.symm hne)))
        exact .inl ⟨⟨hlt, hplace, by omega, fun _ => hleast⟩, mul_zpow_lt hlt (by omega)⟩
      · exact settles_normal s hlarge hlt hplace _
    · next hpos hge =>
      rw [carried_eq hv hge]
      exact settles_normal s le_rfl (by decide) (by omega) _

/-- The nearest number, or nothing if it is out of range. -/
theorem toRat?_nearest :
    toRat? (.ofModel (.pack (nearest s v))) = bounded? (unit (isMinus s) * rounded v) := by
  have habs : |unit (isMinus s) * rounded v| = rounded v := by
    rw [abs_unit_mul, abs_of_nonneg (rounded_nonneg hv.le)]
  rw [bounded?, habs]
  rcases settles_nearest s hv with ⟨hcanonical, hlt⟩ | ⟨hinfinity, hge⟩
  · rw [toRat?_pack hcanonical, valueOf?_nearest s hv, if_pos hlt]
  · rw [toRat?_eq, hinfinity, if_neg hge.not_gt]
    rfl

theorem eq_infinity_of_overflow (h : toRat? (.ofModel (.pack (nearest s v))) = none) :
    Float.ofModel (.pack (nearest s v)) = signed (isMinus s) Decimal.infinity := by
  rcases settles_nearest s hv with ⟨hcanonical, -⟩ | ⟨hinfinity, -⟩
  · rw [toRat?_pack hcanonical, valueOf?_nearest s hv] at h
    cases h
  · exact eq_signed_infinity hinfinity

end

/-! ### Operations -/

theorem toRat?_zero (s : Sign) : toRat? (.ofModel (.pack (.zero s))) = some 0 :=
  toRat?_pack (u := .zero s) trivial

/-- Digits with a sign, rounded to the nearest number. -/
theorem toRat?_normalize (m : ℤ) (e : ℤ) (s : Sign) :
    toRat? (.ofModel (.pack (UnpackedFloat.normalize format m e s))) =
      bounded? (rounded (m * 2 ^ e)) := by
  rw [UnpackedFloat.normalize]
  rcases lt_trichotomy m 0 with h | rfl | h
  · have hvalue : (m * 2 ^ e : ℚ) = unit true * ((-m).toNat * 2 ^ e) := by
      have hm : ((-m).toNat : ℚ) = -m := by exact_mod_cast Int.toNat_of_nonneg (by omega)
      rw [hm, unit_true]
      ring
    have hpos : 0 < (-m).toNat := by omega
    simp only [compare_lt_iff_lt.2 h]
    rw [round_eq_nearest hpos, toRat?_nearest _ (by positivity), hvalue, rounded_unit_mul]
    rfl
  · simp only [compare_eq_iff_eq.2 (rfl : (0 : ℤ) = 0)]
    rw [toRat?_zero, Int.cast_zero, zero_mul, rounded_zero, bounded?_zero]
  · have hvalue : (m * 2 ^ e : ℚ) = unit false * (m.toNat * 2 ^ e) := by
      have hm : (m.toNat : ℚ) = m := by exact_mod_cast Int.toNat_of_nonneg h.le
      rw [hm, unit_false, one_mul]
    have hpos : 0 < m.toNat := by omega
    simp only [compare_gt_iff_gt.2 h]
    rw [round_eq_nearest hpos, toRat?_nearest _ (by positivity), hvalue, rounded_unit_mul]
    rfl

/-- A product of two numbers of the least exponent is far below it. -/
theorem mul_eq_nearest_of_canonical {s t : Sign} {m n : ℕ} {e f : ℤ} {hm : 0 < m} {hn : 0 < n}
    (hx : Canonical (.finite s m e hm)) (hy : Canonical (.finite t n f hn)) :
    UnpackedFloat.mul format (.finite s m e hm) (.finite t n f hn) =
      nearest (s * t) ((m * 2 ^ e) * (n * 2 ^ f)) := by
  rcases le_or_gt (2 ^ 52) (m * n) with large | small
  · exact mul_eq_nearest hm hn large
  have he := hx.2.2.2 ((Nat.le_mul_of_pos_right m hn).trans_lt small)
  have hf := hy.2.2.2 ((Nat.le_mul_of_pos_left n hm).trans_lt small)
  have hpos : 0 < m * n := Nat.mul_pos hm hn
  have hvalue : (m * 2 ^ e) * (n * 2 ^ f) = ((m * n : ℕ) : ℚ) * 2 ^ (e + f) := by
    rw [zpow_add₀ two_ne_zero]
    push_cast
    ring
  have hplace := neg_le_lastPlace ((m * n : ℕ) * 2 ^ (e + f))
  rw [hvalue, UnpackedFloat.mul,
    roundWithAccuracy_eq (by exact_mod_cast hpos) (ofMantissaAndAccuracy_exact _) (by omega)]

/-- Digits with a sign, moved to a smaller exponent. -/
theorem apply_shiftLeft (s : Sign) (m : ℕ) {e k : ℤ} (h : k ≤ e) :
    (s.apply (m <<< (e - k).toNat : ℕ) * 2 ^ k : ℚ) = unit (isMinus s) * (m * 2 ^ e) := by
  obtain ⟨i, rfl⟩ := Int.le.dest h
  have hshift : (k + i - k).toNat = i := by omega
  rw [hshift, Nat.shiftLeft_eq, zpow_add₀ two_ne_zero, zpow_natCast]
  cases s <;> simp [Sign.apply, unit, isMinus] <;> ring

section

variable {x y : Float} {a b : ℚ} (hx : toRat? x = some a) (hy : toRat? y = some b)

include hx in
theorem toRat?_neg : toRat? (-x) = some (-a) := by
  rw [toRat?_eq, unpack_neg]
  rcases unpack_of_toRat? hx with ⟨s, hu, rfl⟩ | ⟨s, m, e, hm, hu, rfl⟩
  · rw [hu, neg_zero]
    rfl
  · rw [hu]
    cases s <;> simp [valueOf?, UnpackedFloat.neg, unit, isMinus]

include hx in
theorem toRat?_abs : toRat? x.abs = some |a| := by
  rw [toRat?_eq, unpack_abs]
  rcases unpack_of_toRat? hx with ⟨s, hu, rfl⟩ | ⟨s, m, e, hm, hu, rfl⟩
  · rw [hu, abs_zero]
    rfl
  · rw [hu, abs_unit_mul, abs_of_nonneg (by positivity)]
    simp [valueOf?, UnpackedFloat.abs, unit, isMinus]

include hx in
/-- A number is its own rounding. -/
theorem bounded?_rounded : bounded? (rounded a) = some a :=
  bounded?_rounded_of_fits (fits_of_toRat? hx) (abs_lt_of_toRat? hx)

include hx hy

theorem toRat?_mul : toRat? (x * y) = bounded? (rounded (a * b)) := by
  have hcx := canonical_unpack x.toModel
  have hcy := canonical_unpack y.toModel
  change toRat? (.ofModel (.pack (UnpackedFloat.mul format x.toModel.unpack y.toModel.unpack))) = _
  rcases unpack_of_toRat? hx with ⟨s, hu, rfl⟩ | ⟨s, m, e, hm, hu, rfl⟩
  · rw [zero_mul, rounded_zero, bounded?_zero, hu]
    rcases unpack_of_toRat? hy with ⟨t, hw, -⟩ | ⟨t, n, f, hn, hw, -⟩ <;> rw [hw] <;>
      exact toRat?_zero _
  rcases unpack_of_toRat? hy with ⟨t, hw, rfl⟩ | ⟨t, n, f, hn, hw, rfl⟩
  · rw [mul_zero, rounded_zero, bounded?_zero, hu, hw]
    exact toRat?_zero _
  · rw [hu] at hcx
    rw [hw] at hcy
    have hvalue : unit (isMinus s) * (m * 2 ^ e : ℚ) * (unit (isMinus t) * (n * 2 ^ f)) =
        unit (isMinus (s * t)) * ((m * 2 ^ e) * (n * 2 ^ f)) := by
      rw [unit_mul_sign, mul_mul_mul_comm]
    rw [hu, hw, mul_eq_nearest_of_canonical hcx hcy, toRat?_nearest _ (by positivity), hvalue,
      rounded_unit_mul]

theorem toRat?_div (hb : b ≠ 0) : toRat? (x / y) = bounded? (rounded (a / b)) := by
  change toRat? (.ofModel (.pack (UnpackedFloat.div format x.toModel.unpack y.toModel.unpack))) = _
  rcases unpack_of_toRat? hy with ⟨t, -, rfl⟩ | ⟨t, n, f, hn, hw, rfl⟩
  · exact absurd rfl hb
  rcases unpack_of_toRat? hx with ⟨s, hu, rfl⟩ | ⟨s, m, e, hm, hu, rfl⟩
  · rw [zero_div, rounded_zero, bounded?_zero, hu, hw]
    exact toRat?_zero _
  · have hvalue : unit (isMinus s) * (m * 2 ^ e : ℚ) / (unit (isMinus t) * (n * 2 ^ f)) =
        unit (isMinus (s / t)) * ((m * 2 ^ e) / (n * 2 ^ f)) := by
      rw [unit_div_sign, mul_div_mul_comm]
    rw [hu, hw, div_eq_nearest hm hn, toRat?_nearest _ (by positivity), hvalue, rounded_unit_mul]

/-- A quotient overflows to an infinity. -/
theorem exists_div_eq_infinity (hb : b ≠ 0) (h : toRat? (x / y) = none) :
    ∃ negative, x / y = signed negative Decimal.infinity := by
  change toRat? (.ofModel (.pack (UnpackedFloat.div format x.toModel.unpack y.toModel.unpack))) = _ at h
  change ∃ _, Float.ofModel (.pack (UnpackedFloat.div format x.toModel.unpack y.toModel.unpack)) = _
  rcases unpack_of_toRat? hy with ⟨t, -, rfl⟩ | ⟨t, n, f, hn, hw, rfl⟩
  · exact absurd rfl hb
  rcases unpack_of_toRat? hx with ⟨s, hu, -⟩ | ⟨s, m, e, hm, hu, -⟩
  · rw [hu, hw] at h
    cases h.symm.trans (toRat?_zero (s / t))
  · rw [hu, hw, div_eq_nearest hm hn] at h ⊢
    exact ⟨_, eq_infinity_of_overflow (s / t) (by positivity) h⟩

theorem toRat?_sub : toRat? (x - y) = bounded? (rounded (a - b)) := by
  have hself := bounded?_rounded hx
  have hneg := bounded?_rounded (toRat?_neg hy)
  have hcanonical := canonical_unpack x.toModel
  change toRat? (.ofModel (.pack (UnpackedFloat.sub format x.toModel.unpack y.toModel.unpack))) = _
  rcases unpack_of_toRat? hx with ⟨s, hu, rfl⟩ | ⟨s, m, e, hm, hu, rfl⟩ <;>
    rcases unpack_of_toRat? hy with ⟨t, hw, rfl⟩ | ⟨t, n, f, hn, hw, rfl⟩
  · rw [sub_self, rounded_zero, bounded?_zero, hu, hw]
    cases s <;> cases t <;> exact toRat?_zero _
  · have hnegated : UnpackedFloat.sub format (.zero s) y.toModel.unpack = y.toModel.unpack.neg := by
      rw [hw]
      rfl
    rw [zero_sub, hneg, hu, hnegated]
    exact toRat?_neg hy
  · rw [sub_zero, hself, hw]
    rw [hu] at hcanonical ⊢
    exact toRat?_pack hcanonical
  · have hdigits : UnpackedFloat.sub format (.finite s m e hm) (.finite t n f hn) =
        UnpackedFloat.normalize format (s.apply (m <<< (e - min e f).toNat : ℕ) -
          t.apply (n <<< (f - min e f).toNat : ℕ)) (min e f) .positive := rfl
    rw [hu, hw, hdigits, toRat?_normalize, Int.cast_sub, sub_mul,
      apply_shiftLeft s m (min_le_left e f), apply_shiftLeft t n (min_le_right e f)]

end

end ControllerRemap.Binary64
