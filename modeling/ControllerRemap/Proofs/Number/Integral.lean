import ControllerRemap.Proofs.Number.Finite

/-! Integers in double precision. One is neutral in a product, an integer is rounded to itself, and
it comes back from a conversion to an integer of 16 bits. -/

namespace ControllerRemap.Binary64

open Float.Model Float.Model.UnpackedFloat

theorem mul_positive (s : Sign) : s * .positive = s := by cases s <;> rfl

theorem unpack_one : (1.0 : Float).toModel.unpack = .finite .positive (2 ^ 52) (-52) (by decide) := by
  rfl

theorem unpack_mul_one (u : UnpackedFloat) (h : Canonical u) :
    UnpackedFloat.mul format u (.finite .positive (2 ^ 52) (-52) (by decide)) = u := by
  cases u with
  | notANumber => rfl
  | infinity s => exact congrArg _ (mul_positive s)
  | zero s => exact congrArg _ (mul_positive s)
  | finite s m e hm =>
    have hone : ((2 ^ 52 : ℕ) * 2 ^ (-52 : Int) : ℚ) = 1 := by norm_num
    rw [mul_eq_nearest hm (by decide) (Nat.le_mul_of_pos_left _ hm), hone, mul_one, mul_positive,
      nearest_of_canonical h]

theorem mul_one_eq (x : Float) : x * 1.0 = x := by
  apply eq_of_unpack_eq
  have hcanonical := canonical_unpack x.toModel
  change (Float.Model.pack (UnpackedFloat.mul format x.toModel.unpack _)).unpack = _
  rw [unpack_one, unpack_mul_one _ hcanonical, unpack_pack hcanonical]

/-- An integer of at most 52 bits is moved to the left, so that its leading bit is in front. -/
theorem exists_unpack_ofNat {n : Nat} (hn : 0 < n) (high : n < 2 ^ 52) :
    ∃ (k : Nat) (hm : 0 < n * 2 ^ k), 0 < k ∧
      (Float.ofNat n).toModel.unpack = .finite .positive (n * 2 ^ k) (-k) hm := by
  obtain ⟨m, e, hm, hunpack, hlow, hvalue⟩ := exists_unpack_toFloat hn (high.trans (by decide))
  have he : e < 0 := by
    by_contra hge
    obtain ⟨i, rfl⟩ := Int.eq_ofNat_of_zero_le (not_lt.1 hge)
    have hnat : m * 2 ^ i = n := by exact_mod_cast hvalue
    have := Nat.le_mul_of_pos_right m (Nat.two_pow_pos i)
    omega
  obtain ⟨k, rfl⟩ : ∃ k : Nat, e = -k := ⟨(-e).toNat, by omega⟩
  have hdigits : m = n * 2 ^ k := by
    rw [zpow_neg, zpow_natCast, ← div_eq_mul_inv, div_eq_iff (by positivity)] at hvalue
    exact_mod_cast hvalue
  subst hdigits
  exact ⟨k, hm, by omega, ofNat_eq_toFloat hn (high.trans (by decide)) ▸ hunpack⟩

theorem exists_parts?_ofNat {n : Nat} (high : n < 2 ^ 52) :
    ∃ k : Nat, 0 < k ∧ parts? (Float.ofNat n) = some ⟨false, n * 2 ^ k, -k⟩ := by
  rcases Nat.eq_zero_or_pos n with rfl | hn
  · have hzero : (Float.ofNat 0).toModel.unpack = .zero .positive := rfl
    exact ⟨1074, by decide, (Nat.zero_mul (2 ^ 1074)).symm ▸ parts?_of_zero hzero⟩
  · obtain ⟨k, hm, hk, hunpack⟩ := exists_unpack_ofNat hn high
    exact ⟨k, hk, parts?_of_finite hunpack⟩

theorem round_ofNat {n : Nat} (high : n < 2 ^ 52) : round (Float.ofNat n) = Float.ofNat n := by
  obtain ⟨k, hk, hparts⟩ := exists_parts?_ofNat high
  have hhalf : 2 ^ (k - 1) < 2 ^ k := Nat.pow_lt_pow_right (by decide) (by omega)
  have hquotient : (n * 2 ^ k + 2 ^ (k - 1)) / 2 ^ k = n := by
    rw [Nat.mul_comm, Nat.mul_add_div (Nat.two_pow_pos k), Nat.div_eq_of_lt hhalf, Nat.add_zero]
  rw [round, hparts]
  simp only [Nat.pow_eq, neg_neg, Int.toNat_natCast, hquotient]
  rw [if_neg (by omega)]
  rfl

theorem roundToInt_shifted (s : Sign) (n k : Nat) :
    roundToInt s (n * 2 ^ k) (-k) = s.apply n := by
  have hinteger : ((n * 2 ^ k : ℕ) : ℚ) / 2 ^ k = n := by
    push_cast
    exact mul_div_cancel_right₀ _ (by positivity)
  have hleft : (-(k : Int) - 0).toNat = 0 := by omega
  have hright : (0 - (-(k : Int) - (0 : ℕ))).toNat = k := by omega
  simp only [roundToInt, decreaseExponent, shiftToExponent, hleft, hright, Nat.shiftLeft_zero]
  rw [ofMantissaAndAccuracy_exact, shiftRight_extend (by positivity), hinteger, extend_natCast]

theorem toUInt16_ofNat {n : Nat} (high : n < 2 ^ 16) :
    (Float.ofNat n).toUInt16 = UInt16.ofNat n := by
  rcases Nat.eq_zero_or_pos n with rfl | hn
  · rfl
  obtain ⟨k, hm, -, hunpack⟩ := exists_unpack_ofNat hn (high.trans (by decide))
  change UInt16.ofNatClamp ((Float.ofNat n).toModel.unpack.toInt 0 _).toNat = _
  rw [hunpack, UnpackedFloat.toInt, roundToInt_shifted, Sign.apply, Int.toNat_natCast]
  exact UInt16.ofNatClamp_eq_ofNat n high

theorem toFloat_eq_ofNat (n : UInt16) : n.toFloat = Float.ofNat n.toNat := by
  rcases Nat.eq_zero_or_pos n.toNat with hzero | hn
  · rw [hzero, UInt16.toNat_inj.1 (hzero.trans UInt16.toNat_zero.symm)]
    rfl
  · have high := n.toNat_lt
    rw [ofNat_eq_toFloat hn (high.trans (by decide))]
    change Float.ofModel (.pack (UnpackedFloat.ofNat format n.toNat)) =
      Float.ofModel (.pack (UnpackedFloat.ofNat format n.toNat.toUInt64.toNat))
    rw [Nat.toUInt64, UInt64.toNat_ofNat_of_lt' (high.trans (by decide))]

end ControllerRemap.Binary64
