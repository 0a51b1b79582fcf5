import ControllerRemap.Proofs.Number.Exact
import ControllerRemap.Proofs.Number.Integral

/-! Comparing numbers, and integers out of numbers. The order, the integer part and the sign of a
finite number are those of the number that it stands for. A number that is not finite is below no
positive one, and a difference with one is not finite. -/

namespace ControllerRemap.Binary64

open Float.Model Float.Model.UnpackedFloat

/-! ### Order -/

section

variable {s t : Sign} {m n : ℕ} {e f : ℤ} {hm : 0 < m} {hn : 0 < n}

/-- The exponent decides first, as only numbers of the least exponent have few digits. -/
theorem mul_zpow_lt_of_exponent (hx : Canonical (.finite s m e hm)) (hy : Canonical (.finite t n f hn))
    (h : e < f) : (m * 2 ^ e : ℚ) < n * 2 ^ f := by
  obtain ⟨high, he, -, -⟩ := hx
  have low : 2 ^ 52 ≤ n := by
    by_contra hlt
    have := hy.2.2.2 (not_le.1 hlt)
    omega
  have hm' : (m : ℚ) < 2 ^ 53 := by exact_mod_cast high
  have hn' : (2 : ℚ) ^ 52 ≤ n := by exact_mod_cast low
  calc (m * 2 ^ e : ℚ) < 2 ^ 53 * 2 ^ e := by gcongr
    _ = 2 ^ 52 * 2 ^ (e + 1) := by
      rw [zpow_add_one₀ two_ne_zero]
      ring
    _ ≤ n * 2 ^ f := by
      gcongr
      · norm_num
      · omega

theorem compare_parts (hx : Canonical (.finite s m e hm)) (hy : Canonical (.finite t n f hn)) :
    (compare e f).then (compare m n) = compare (m * 2 ^ e : ℚ) (n * 2 ^ f) := by
  rcases lt_trichotomy e f with h | rfl | h
  · rw [compare_lt_iff_lt.2 h, compare_lt_iff_lt.2 (mul_zpow_lt_of_exponent hx hy h)]
    rfl
  · have hpos : (0 : ℚ) < 2 ^ e := by positivity
    rw [compare_eq_iff_eq.2 rfl]
    rcases lt_trichotomy m n with h | rfl | h
    · have hlt : (m * 2 ^ e : ℚ) < n * 2 ^ e := by gcongr
      rw [compare_lt_iff_lt.2 h, compare_lt_iff_lt.2 hlt]
      rfl
    · rw [compare_eq_iff_eq.2 rfl, compare_eq_iff_eq.2 rfl]
      rfl
    · have hgt : (n * 2 ^ e : ℚ) < m * 2 ^ e := by gcongr
      rw [compare_gt_iff_gt.2 h, compare_gt_iff_gt.2 hgt]
      rfl
  · rw [compare_gt_iff_gt.2 h, compare_gt_iff_gt.2 (mul_zpow_lt_of_exponent hy hx h)]
    rfl

end

theorem compare_neg_neg (a b : ℚ) : compare (-a) (-b) = (compare a b).swap := by
  rcases lt_trichotomy a b with h | rfl | h
  · rw [compare_lt_iff_lt.2 h, compare_gt_iff_gt.2 (neg_lt_neg h)]
    rfl
  · rw [compare_eq_iff_eq.2 rfl, compare_eq_iff_eq.2 rfl]
    rfl
  · rw [compare_gt_iff_gt.2 h, compare_lt_iff_lt.2 (neg_lt_neg h)]
    rfl

theorem lt_iff_compare {x y : Float} :
    x < y ↔ x.toModel.unpack.compare y.toModel.unpack = some .lt :=
  ⟨fun h => beq_iff_eq.1 (of_decide_eq_true h : Float.Model.lt x.toModel y.toModel = true),
    fun h => decide_eq_true (beq_iff_eq.2 h : Float.Model.lt x.toModel y.toModel = true)⟩

section

variable {x y : Float} {a b : ℚ}

theorem compare_unpack (hx : toRat? x = some a) (hy : toRat? y = some b) :
    x.toModel.unpack.compare y.toModel.unpack = some (compare a b) := by
  have hcx := canonical_unpack x.toModel
  have hcy := canonical_unpack y.toModel
  rcases unpack_of_toRat? hx with ⟨s, hu, rfl⟩ | ⟨s, m, e, hm, hu, rfl⟩ <;>
    rcases unpack_of_toRat? hy with ⟨t, hw, rfl⟩ | ⟨t, n, f, hn, hw, rfl⟩ <;>
    rw [hu] at hcx ⊢ <;> rw [hw] at hcy ⊢
  · rw [compare_eq_iff_eq.2 rfl]
    rfl
  · have hpos : (0 : ℚ) < n * 2 ^ f := by positivity
    cases t with
    | positive =>
      rw [unit_positive, one_mul, compare_lt_iff_lt.2 hpos]
      rfl
    | negative =>
      rw [unit_negative, neg_one_mul, compare_gt_iff_gt.2 (neg_lt_zero.2 hpos)]
      rfl
  · have hpos : (0 : ℚ) < m * 2 ^ e := by positivity
    cases s with
    | positive =>
      rw [unit_positive, one_mul, compare_gt_iff_gt.2 hpos]
      rfl
    | negative =>
      rw [unit_negative, neg_one_mul, compare_lt_iff_lt.2 (neg_lt_zero.2 hpos)]
      rfl
  · have hm' : (0 : ℚ) < m * 2 ^ e := by positivity
    have hn' : (0 : ℚ) < n * 2 ^ f := by positivity
    have hparts := compare_parts hcx hcy
    cases s with
    | positive =>
      cases t with
      | positive =>
        rw [unit_positive, one_mul, one_mul, ← hparts]
        rfl
      | negative =>
        rw [unit_positive, unit_negative, one_mul, neg_one_mul,
          compare_gt_iff_gt.2 ((neg_lt_zero.2 hn').trans hm')]
        rfl
    | negative =>
      cases t with
      | positive =>
        rw [unit_positive, unit_negative, one_mul, neg_one_mul,
          compare_lt_iff_lt.2 ((neg_lt_zero.2 hm').trans hn')]
        rfl
      | negative =>
        rw [unit_negative, neg_one_mul, neg_one_mul, compare_neg_neg, ← hparts]
        rfl

theorem lt_iff (hx : toRat? x = some a) (hy : toRat? y = some b) : x < y ↔ a < b := by
  rw [lt_iff_compare, compare_unpack hx hy, Option.some_inj, compare_lt_iff_lt]

theorem beq_eq (hx : toRat? x = some a) (hy : toRat? y = some b) : (x == y) = decide (a = b) := by
  change (x.toModel.unpack.compare y.toModel.unpack == some .eq) = _
  rw [compare_unpack hx hy, Bool.eq_iff_iff, beq_iff_eq, Option.some_inj, compare_eq_iff_eq,
    decide_eq_true_iff]

theorem toRat?_clamp {low high : Float} {l h : ℚ} (hx : toRat? x = some a) (hlow : toRat? low = some l)
    (hhigh : toRat? high = some h) : toRat? (Scalar.clamp x low high) =
      some (if a < l then l else if h < a then h else a) := by
  change toRat? (if decide (x < low) then low else if decide (high < x) then high else x) = _
  simp only [decide_eq_true_eq, lt_iff hx hlow, lt_iff hhigh hx]
  split
  · exact hlow
  · split
    · exact hhigh
    · exact hx

end

/-! ### Numbers that are not finite -/

section

variable {x y : Float}

theorem not_abs_lt_of_toRat?_eq_none {b : ℚ} (hx : toRat? x = none) (hy : toRat? y = some b) :
    ¬x.abs < y := by
  rw [lt_iff_compare, unpack_abs]
  rcases unpack_of_toRat?_eq_none hx with hu | ⟨s, hu⟩ <;>
    rcases unpack_of_toRat? hy with ⟨t, hw, -⟩ | ⟨t, n, f, hn, hw, -⟩ <;> rw [hu, hw] <;> exact nofun

theorem toRat?_sub_of_left (hx : toRat? x = none) : toRat? (x - y) = none := by
  change toRat? (.ofModel (.pack (UnpackedFloat.sub format x.toModel.unpack y.toModel.unpack))) = _
  rcases unpack_of_toRat?_eq_none hx with hu | ⟨s, hu⟩ <;> rw [hu]
  · exact toRat?_pack (u := .notANumber) trivial
  · cases y.toModel.unpack with
    | infinity t => cases s <;> cases t <;> rfl
    | notANumber => exact toRat?_pack (u := .notANumber) trivial
    | _ => exact toRat?_pack (u := .infinity s) trivial

theorem toRat?_sub_of_right (hy : toRat? y = none) : toRat? (x - y) = none := by
  cases hx : toRat? x with
  | none => exact toRat?_sub_of_left hx
  | some a =>
    change toRat? (.ofModel (.pack (UnpackedFloat.sub format x.toModel.unpack y.toModel.unpack))) = _
    rcases unpack_of_toRat?_eq_none hy with hw | ⟨s, hw⟩ <;>
      rcases unpack_of_toRat? hx with ⟨t, hu, -⟩ | ⟨t, n, f, hn, hu, -⟩ <;> rw [hu, hw]
    · exact toRat?_pack (u := .notANumber) trivial
    · exact toRat?_pack (u := .notANumber) trivial
    · exact toRat?_pack (u := .infinity (-s)) trivial
    · exact toRat?_pack (u := .infinity (-s)) trivial

end

/-! ### Integers -/

/-- The integer part of the absolute value. -/
def Parts.whole (p : Parts) : ℕ :=
  if 0 ≤ p.exponent then p.mantissa * 2 ^ p.exponent.toNat else p.mantissa / 2 ^ (-p.exponent).toNat

theorem floor_mul_zpow (m : ℕ) (e : ℤ) : ⌊(m * 2 ^ e : ℚ)⌋ =
    (if 0 ≤ e then m * 2 ^ e.toNat else m / 2 ^ (-e).toNat : ℕ) := by
  split
  · next he =>
    obtain ⟨k, rfl⟩ := Int.eq_ofNat_of_zero_le he
    rw [Int.toNat_natCast, zpow_natCast, Int.floor_eq_iff]
    push_cast
    exact ⟨le_rfl, lt_add_one _⟩
  · next he =>
    obtain ⟨k, rfl⟩ : ∃ k : ℕ, e = -k := ⟨(-e).toNat, by omega⟩
    rw [neg_neg, Int.toNat_natCast, zpow_neg, zpow_natCast, ← div_eq_mul_inv]
    exact_mod_cast Rat.floor_natCast_div_natCast m (2 ^ k)

theorem trunc_value (p : Parts) :
    Rational.trunc p.value = if p.negative then -(p.whole : ℤ) else p.whole := by
  have hfloor : ⌊(p.mantissa * 2 ^ p.exponent : ℚ)⌋ = p.whole := floor_mul_zpow p.mantissa p.exponent
  have hnonneg : (0 : ℚ) ≤ p.mantissa * 2 ^ p.exponent := by positivity
  rw [Parts.value, unit]
  split
  · rw [neg_one_mul, Rational.trunc_neg, Rational.trunc_of_nonneg hnonneg, hfloor]
  · rw [one_mul, Rational.trunc_of_nonneg hnonneg, hfloor]

theorem cast_trunc_value (p : Parts) : (Rational.trunc p.value : ℚ) = unit p.negative * p.whole := by
  rw [trunc_value, unit_mul_natCast]

section

variable {x : Float} {a : ℚ}

theorem toRat?_signed (hx : toRat? x = some a) (b : Bool) : toRat? (signed b x) = some (unit b * a) := by
  cases b with
  | false => rw [signed, if_neg (by decide), unit_false, one_mul, hx]
  | true => rw [signed, if_pos rfl, unit_true, neg_one_mul, toRat?_neg hx]

theorem mantissa_lt_of_parts? {p : Parts} (h : parts? x = some p) : p.mantissa < 2 ^ 53 := by
  have hfraction : x.toBits.toNat % 2 ^ 52 < 2 ^ 52 := Nat.mod_lt _ (by decide)
  simp only [parts?, Nat.pow_eq] at h
  split at h
  · cases h
  · split at h <;> cases h <;> dsimp only <;> omega

theorem toRat?_ofNat {n : ℕ} (h : n < 2 ^ 53) : toRat? (Float.ofNat n) = some (n : ℚ) := by
  rcases Nat.eq_zero_or_pos n with rfl | hn
  · exact toRat?_zero .positive
  · obtain ⟨m, e, hm, hunpack, -, hvalue⟩ := exists_unpack_toFloat hn h
    rw [ofNat_eq_toFloat hn h, toRat?_eq, hunpack, valueOf?, hvalue, unit_positive, one_mul]

theorem toRat?_ofInt32 (v : Int32) : toRat? (ofInt32 v) = some (v.toInt : ℚ) := by
  have hlow : -2147483648 ≤ v.toInt := v.le_toInt
  have hhigh : v.toInt ≤ 2147483647 := v.toInt_le
  rw [ofInt32]
  cases hv : v.toInt with
  | ofNat n =>
    rw [hv, Int.ofNat_eq_natCast] at hhigh
    exact (toRat?_ofNat (by omega)).trans (by simp)
  | negSucc n =>
    have hsucc : toRat? (Float.ofNat (n + 1)) = some ((n + 1 : ℕ) : ℚ) := toRat?_ofNat (by omega)
    exact (toRat?_neg hsucc).trans (by rw [Int.cast_negSucc])

theorem toInt32_eq (hx : toRat? x = some a) : toInt32 x = saturate (Rational.trunc a) := by
  obtain ⟨p, hp, rfl⟩ := Option.map_eq_some_iff.1 hx
  rw [trunc_value, toInt32, hp]
  rfl

/-- Truncation is exact. -/
theorem toRat?_trunc (hx : toRat? x = some a) :
    toRat? (trunc x) = some (Rational.trunc a : ℚ) := by
  have hx' := hx
  obtain ⟨p, hp, rfl⟩ := Option.map_eq_some_iff.1 hx'
  rw [trunc, hp]
  dsimp only
  rw [cast_trunc_value, Parts.whole]
  split
  · next he =>
    obtain ⟨k, hk⟩ := Int.eq_ofNat_of_zero_le he
    rw [hx, Parts.value, hk, Int.toNat_natCast, zpow_natCast]
    push_cast
    rfl
  · have hlt := mantissa_lt_of_parts? hp
    exact toRat?_signed (toRat?_ofNat ((Nat.div_le_self _ _).trans_lt hlt)) _

theorem toRat?_one : toRat? 1.0 = some 1 := by
  rw [toRat?_eq, unpack_one, valueOf?]
  norm_num

/-- A number is its size in the direction of its sign. -/
theorem exists_sign_eq (hx : toRat? x = some a) : ∃ b, sign x = signed b 1.0 ∧ a = unit b * |a| := by
  have hnan : x.isNaN = false := by
    rw [Float.isNaN, Float.Model.isNaN]
    rcases unpack_of_toRat? hx with ⟨s, hu, -⟩ | ⟨s, m, e, hm, hu, -⟩ <;> rw [hu] <;> rfl
  obtain ⟨p, hp, rfl⟩ := Option.map_eq_some_iff.1 hx
  have hnegative : isNegative x = p.negative := by
    simp only [parts?] at hp
    split at hp
    · cases hp
    · split at hp <;> cases hp <;> rfl
  refine ⟨p.negative, ?_, ?_⟩
  · rw [sign, hnan, hnegative, if_neg (by decide)]
  · rw [Parts.value, abs_unit_mul, abs_of_nonneg (by positivity)]

end

end ControllerRemap.Binary64
