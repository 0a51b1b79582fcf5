import ControllerRemap.Proofs.Motion.Baseline
import ControllerRemap.Proofs.Number.Conversion
import ControllerRemap.Proofs.Remap.Formula

/-! What a call carries on in double precision. A call rounds twice before it subtracts: the quotient
that gives the number of steps, and the product of that number and the step size. The subtraction
itself is exact. As the two roundings need not agree, what is left may be a step or slightly more:
exactly if the product has lost what the motion was short of the next step. -/

namespace ControllerRemap.Binary64

/-! ### Two roundings -/

/-- So much motion in steps of a size gives a number of them: the quotient is rounded to something
between that number and the next. -/
structure StepCount (a d : ℚ) (n : ℕ) : Prop where
  motion : Fits a
  size : Fits d
  pos : 0 < d
  small : n < 2 ^ 31
  low : n ≤ rounded (a / d)
  high : rounded (a / d) < n + 1

namespace StepCount

variable {a d : ℚ} {n : ℕ} (h : StepCount a d n)
include h

/-- The motion has not got to the next step, as the quotient would then not be rounded below it. -/
theorem lt_succ_mul : a < (n + 1) * d := by
  by_contra hge
  have hsmall := h.small
  have hfits : Fits ((n + 1 : ℕ) : ℚ) := fits_natCast (by omega)
  have hnext : ((n + 1 : ℕ) : ℚ) ≤ a / d := by
    rw [le_div_iff₀ h.pos]
    push_cast
    exact not_lt.1 hge
  have hle := hfits.le_rounded hnext
  push_cast at hle
  exact hle.not_gt h.high

/-- It is short of the steps by less than half of one, as there is a number between. -/
theorem sub_half_mul_le (hn : 0 < n) : (n - 1 / 2) * d ≤ a := by
  by_contra hlt
  have hsmall := h.small
  have hfits : Fits (n - 1 / 2 : ℚ) := by
    refine ⟨2 * n - 1, -1, by omega, by decide, ?_⟩
    rw [Nat.cast_sub (by omega), zpow_neg_one]
    push_cast
    ring
  have hhalf : a / d ≤ n - 1 / 2 := by
    rw [div_le_iff₀ h.pos]
    exact (not_le.1 hlt).le
  have hle := hfits.rounded_le (div_nonneg h.motion.nonneg h.pos.le) hhalf
  linarith [h.low]

/-- The product is off by a four-millionth of the step size at most. -/
theorem abs_product_sub_le : |rounded (n * d) - n * d| ≤ d / 2 ^ 22 := by
  have hd := h.pos
  have hcast : (n : ℚ) ≤ 2 ^ 31 := by exact_mod_cast h.small.le
  calc |rounded (n * d) - n * d| ≤ n * d / 2 ^ 53 := h.size.abs_rounded_mul_sub_le n
    _ ≤ 2 ^ 31 * d / 2 ^ 53 := by gcongr
    _ = d / 2 ^ 22 := by ring

theorem product_nonneg : 0 ≤ rounded (n * d) :=
  rounded_nonneg (mul_nonneg (Nat.cast_nonneg n) h.pos.le)

/-- From one step on the product is within a factor of two of the motion. -/
theorem within_two (hn : 0 < n) : rounded (n * d) ≤ 2 * a ∧ a ≤ 2 * rounded (n * d) := by
  have hd := h.pos
  have hup := h.lt_succ_mul
  have hdown := h.sub_half_mul_le hn
  have hnear := abs_le.1 h.abs_product_sub_le
  rcases Nat.lt_or_ge n 2 with hlt | hge
  · obtain rfl : n = 1 := by omega
    have hone : rounded ((1 : ℕ) * d) = d := by rw [Nat.cast_one, one_mul, h.size.rounded_eq]
    rw [hone]
    norm_num at hup hdown
    constructor <;> linarith
  · have hmul : 2 * d ≤ n * d := by
      gcongr
      exact_mod_cast hge
    rw [sub_mul] at hdown
    rw [add_mul] at hup
    constructor <;> linarith [hnear.1, hnear.2]

/-- So the difference fits, and the subtraction does not round. -/
theorem fits_rest (hproduct : Fits (rounded (n * d))) : Fits |a - rounded (n * d)| := by
  rcases Nat.eq_zero_or_pos n with rfl | hn
  · rw [Nat.cast_zero, zero_mul, rounded_zero, sub_zero, abs_of_nonneg h.motion.nonneg]
    exact h.motion
  obtain ⟨hle, hge⟩ := h.within_two hn
  rcases le_total a (rounded (n * d)) with hlt | hlt
  · rw [abs_sub_comm, abs_of_nonneg (sub_nonneg.2 hlt)]
    exact h.motion.sub hproduct hlt hle
  · rw [abs_of_nonneg (sub_nonneg.2 hlt)]
    exact hproduct.sub h.motion hlt hge

theorem product_lt_add : rounded (n * d) < a + d := by
  have hd := h.pos
  rcases Nat.eq_zero_or_pos n with rfl | hn
  · rw [Nat.cast_zero, zero_mul, rounded_zero]
    linarith [h.motion.nonneg]
  have hdown := h.sub_half_mul_le hn
  have hnear := abs_le.1 h.abs_product_sub_le
  rw [sub_mul] at hdown
  linarith [hnear.2]

/-- What is left is less than a step unless the product is a step or more below the motion. -/
theorem abs_rest_lt_iff : |a - rounded (n * d)| < d ↔ a < rounded (n * d) + d := by
  have hlt := h.product_lt_add
  rw [abs_lt]
  constructor
  · rintro ⟨-, hrest⟩
    linarith
  · intro hrest
    constructor <;> linarith

theorem abs_rest_lt : |a - rounded (n * d)| < (1 + 1 / 2 ^ 22) * d := by
  have hd := h.pos
  have hup := h.lt_succ_mul
  have hlt := h.product_lt_add
  have hnear := abs_le.1 h.abs_product_sub_le
  rw [abs_lt]
  constructor <;> linarith [hnear.1]

/-- A product that is not rounded down loses nothing. -/
theorem lt_add_of_le (hle : n * d ≤ rounded (n * d)) : a < rounded (n * d) + d := by
  have hup := h.lt_succ_mul
  linarith

end StepCount

/-! ### Counts -/

section

variable {b : Bool} {n : ℕ}

theorem clamped_unit_mul (b : Bool) (n : ℕ) :
    (if unit b * n < -2147483647 then -2147483647
      else if 2147483647 < unit b * n then 2147483647 else unit b * n : ℚ) =
    unit b * (min n 2147483647 : ℕ) := by
  have hnonneg : (0 : ℚ) ≤ n := Nat.cast_nonneg n
  rw [Nat.cast_min, Nat.cast_ofNat]
  cases b with
  | false =>
    rw [unit_false, one_mul, one_mul, if_neg (by linarith)]
    split
    · next h => rw [min_eq_right h.le]
    · next h => rw [min_eq_left (not_lt.1 h)]
  | true =>
    rw [unit_true, neg_one_mul, neg_one_mul]
    split
    · next h => rw [min_eq_right (neg_lt_neg_iff.1 h).le]
    · next h => rw [if_neg (by linarith), min_eq_left (neg_le_neg_iff.1 (not_lt.1 h))]

theorem toInt_toInt32 {x : Float} (hx : toRat? x = some (unit b * n)) (hn : n ≤ 2147483647) :
    ((toInt32 x).toInt : ℚ) = unit b * n := by
  rw [unit_mul_natCast] at hx ⊢
  rw [toInt32_eq hx, Rational.trunc_intCast, Formula.toInt_saturate, Formula.clamped,
    Int32.toInt_minValue, Int32.toInt_maxValue]
  congr 1
  split <;> omega

theorem lt_of_toInt {v : Int32} (hv : (v.toInt : ℚ) = unit b * n) (hhigh : v < 2147483647)
    (hlow : -2147483647 < v) : n < 2147483647 := by
  have hhigh' : v.toInt < 2147483647 := Int32.lt_iff_toInt_lt.1 hhigh
  have hlow' : -2147483647 < v.toInt := Int32.lt_iff_toInt_lt.1 hlow
  rw [unit_mul_natCast] at hv
  have hint : v.toInt = if b then -(n : ℤ) else n := Int.cast_inj.1 hv
  split at hint <;> omega

/-- The difference of the motion and the product, in their common direction. -/
theorem toRat?_rest {x y : Float} {a d : ℚ} (h : StepCount a d n) (hx : toRat? x = some (unit b * a))
    (hy : toRat? y = some (unit b * rounded (n * d))) :
    toRat? (x - y) = some (unit b * (a - rounded (n * d))) := by
  have hfits := fits_of_toRat? hy
  have hlt := abs_lt_of_toRat? hx
  have hlt' := abs_lt_of_toRat? hy
  rw [abs_unit_mul, abs_of_nonneg h.product_nonneg] at hfits hlt'
  rw [abs_unit_mul, abs_of_nonneg h.motion.nonneg] at hlt
  rw [toRat?_sub hx hy, ← mul_sub]
  apply bounded?_rounded_of_fits <;> rw [abs_unit_mul]
  · exact h.fits_rest hfits
  · rw [abs_lt]
    constructor <;> linarith [h.motion.nonneg, h.product_nonneg]

end

end ControllerRemap.Binary64

namespace ControllerRemap.Stepper

open Binary64

section

variable {size total : Float} {d t : ℚ}

theorem toRat?_limit : toRat? limit = some 2147483647 := by
  have hlimit : (limit : Float) = Float.ofNat 2147483647 := rfl
  rw [hlimit, toRat?_ofNat (by decide), Nat.cast_ofNat]

/-- The steps in an amount of motion are as many as the rounded quotient has, up to the limit. -/
theorem exists_value_stepsIn (hsize : toRat? size = some d) (hpos : 0 < d)
    (htotal : toRat? total = some t) : ∃ b a n, t = unit b * a ∧ n ≤ 2147483647 ∧
      toRat? (stepsIn size total) = some (unit b * (n : ℕ)) ∧
        (n < 2147483647 → StepCount a d n) := by
  obtain ⟨b, hsign, ht⟩ := exists_sign_eq htotal
  have hone : toRat? (sign total) = some (unit b) := by
    rw [hsign, toRat?_signed toRat?_one, mul_one]
  have hdiv := toRat?_div (toRat?_abs htotal) hsize hpos.ne'
  change ∃ b a n, t = unit b * a ∧ n ≤ 2147483647 ∧
    toRat? (Scalar.clamp (trunc (total.abs / size) * sign total) (-limit) limit) =
      some (unit b * (n : ℕ)) ∧ _
  cases hq : toRat? (total.abs / size) with
  | none =>
    obtain ⟨c, hinfinity⟩ := exists_div_eq_infinity (toRat?_abs htotal) hsize hpos.ne' hq
    have hclamp : Scalar.clamp (trunc (signed c Decimal.infinity) * signed b 1.0) (-limit) limit =
        signed (xor c b) limit := by
      cases c <;> cases b <;> decide +kernel
    refine ⟨xor c b, unit (xor c b) * t, 2147483647, ?_, le_rfl, ?_,
      fun hlt => absurd hlt (lt_irrefl _)⟩
    · rw [← mul_assoc, unit_mul_self, one_mul]
    · rw [hinfinity, hsign, hclamp, toRat?_signed toRat?_limit, Nat.cast_ofNat]
  | some q =>
    obtain rfl := eq_of_bounded? (hdiv.symm.trans hq)
    have hnonneg : 0 ≤ rounded (|t| / d) := rounded_nonneg (by positivity)
    obtain ⟨n, hn⟩ := Int.eq_ofNat_of_zero_le (Int.floor_nonneg.2 hnonneg)
    have htrunc : toRat? (trunc (total.abs / size)) = some (n : ℚ) := by
      rw [toRat?_trunc hq, Rational.trunc_of_nonneg hnonneg, hn, Int.cast_natCast]
    have hproduct : toRat? (trunc (total.abs / size) * sign total) = some (unit b * n) := by
      rw [toRat?_mul htrunc hone, mul_comm, bounded?_rounded (toRat?_signed htrunc b)]
    refine ⟨b, |t|, min n 2147483647, ht, min_le_right _ _, ?_, fun hlt => ?_⟩
    · rw [toRat?_clamp hproduct (toRat?_neg toRat?_limit) toRat?_limit, clamped_unit_mul]
    · obtain ⟨hlow, hhigh⟩ := Int.floor_eq_iff.1 hn
      rw [min_eq_left (by omega)]
      rw [Int.cast_natCast] at hlow hhigh
      exact ⟨fits_of_toRat? htotal, abs_of_pos hpos ▸ fits_of_toRat? hsize, hpos, by omega, hlow, hhigh⟩

/-- A call below the limit counts the steps of its quotient and takes their rounded product. -/
theorem exists_stepCount (hsize : toRat? size = some d) (hpos : 0 < d) (htotal : toRat? total = some t)
    (hhigh : toInt32 (stepsIn size total) < 2147483647)
    (hlow : -2147483647 < toInt32 (stepsIn size total)) :
    ∃ b a n, t = unit b * a ∧ StepCount a d n ∧
      ((toInt32 (stepsIn size total)).toInt : ℚ) = unit b * n ∧
      toRat? (stepsIn size total * size) = bounded? (unit b * rounded (n * d)) := by
  obtain ⟨b, a, n, ht, hle, hsteps, hbelow⟩ := exists_value_stepsIn hsize hpos htotal
  have hcount := toInt_toInt32 hsteps hle
  refine ⟨b, a, n, ht, hbelow (lt_of_toInt hcount hhigh hlow), hcount, ?_⟩
  rw [toRat?_mul hsteps hsize, mul_assoc, rounded_unit_mul]

end

theorem accumulate_eq {s : Stepper Float} {delta : Float} {d : ℚ}
    (hsize : toRat? s.stepSize = some d) (hpos : 0 < d) (hdelta : delta.isFinite = true) :
    s.accumulate delta =
      let total := delta + s.remainder
      let steps := stepsIn s.stepSize total
      ({ s with remainder := total - steps * s.stepSize }, toInt32 steps) := by
  have hzero : (s.stepSize == Float.ofInt 0) = false := by
    have hvalue : toRat? (Float.ofInt 0) = some 0 := toRat?_zero .positive
    rw [beq_eq hsize hvalue, decide_eq_false hpos.ne']
  have hguard : (!Scalar.isFinite delta || Scalar.eq s.stepSize (Scalar.ofInt 0)) = false := by
    change (!delta.isFinite || s.stepSize == Float.ofInt 0) = false
    rw [hdelta, hzero]
    rfl
  rw [accumulate, hguard]
  rfl

/-- In any state a call with a finite difference gives fewer steps than it could. What it carries on
is then less than the step size exactly if the motion and the product of steps and step size are
finite, and the motion is less than a step size above the product. It is then the exact difference
of the two, never more than the step size by a four-millionth of it, and less than the step size
whenever the product is not rounded down. -/
theorem remainder_below_step_iff {s : Stepper Float} {delta : Float} {d : ℚ}
    (hsize : toRat? s.stepSize = some d) (hpos : 0 < d) (hdelta : delta.isFinite = true) :
    let r := s.accumulate delta
    let total := delta + s.remainder
    let taken := ofInt32 r.2 * s.stepSize
    r.2 < 2147483647 → -2147483647 < r.2 →
      (r.1.remainder.abs < s.stepSize ↔
        ∃ t p, toRat? total = some t ∧ toRat? taken = some p ∧ |t| < |p| + d) ∧
      ∀ t p, toRat? total = some t → toRat? taken = some p →
        toRat? r.1.remainder = some (t - p) ∧ |t - p| < (1 + 1 / 2 ^ 22) * d ∧
          (|(r.2.toInt : ℚ)| * d ≤ |p| → r.1.remainder.abs < s.stepSize) := by
  intro r total taken hhigh hlow
  have hr : r = ({ s with remainder := total - stepsIn s.stepSize total * s.stepSize },
      toInt32 (stepsIn s.stepSize total)) := accumulate_eq hsize hpos hdelta
  have hremainder : r.1.remainder = total - stepsIn s.stepSize total * s.stepSize := by rw [hr]
  -- a remainder that is not finite is below nothing
  have hnone (h : toRat? r.1.remainder = none) : ¬r.1.remainder.abs < s.stepSize :=
    not_abs_lt_of_toRat?_eq_none h hsize
  cases htotal : toRat? total with
  | none =>
    have hrest : toRat? r.1.remainder = none := by
      rw [hremainder]
      exact toRat?_sub_of_left htotal
    exact ⟨iff_of_false (hnone hrest) (by rintro ⟨t, p, ht, -⟩; cases ht), fun t p ht => by cases ht⟩
  | some t =>
    rw [hr] at hhigh hlow
    obtain ⟨b, a, n, rfl, hstep, hcount, hproduct⟩ :=
      exists_stepCount hsize hpos htotal hhigh hlow
    replace hcount : (r.2.toInt : ℚ) = unit b * n := by
      rw [hr]
      exact hcount
    have htaken : toRat? taken = bounded? (unit b * rounded (n * d)) := by
      rw [toRat?_mul (toRat?_ofInt32 r.2) hsize, hcount, mul_assoc, rounded_unit_mul]
    cases hp : toRat? taken with
    | none =>
      have hrest : toRat? r.1.remainder = none := by
        rw [hremainder]
        exact toRat?_sub_of_right (hproduct.trans (htaken.symm.trans hp))
      exact ⟨iff_of_false (hnone hrest) (by rintro ⟨t, p, -, hp, -⟩; cases hp),
        fun t p _ hp => by cases hp⟩
    | some p =>
      obtain rfl := eq_of_bounded? (htaken.symm.trans hp)
      have hrest : toRat? r.1.remainder = some (unit b * (a - rounded (n * d))) := by
        rw [hremainder]
        exact toRat?_rest hstep htotal (hproduct.trans (htaken.symm.trans hp))
      have ha : |unit b * a| = a := by rw [abs_unit_mul, abs_of_nonneg hstep.motion.nonneg]
      have hp' : |unit b * rounded (n * d)| = rounded (n * d) := by
        rw [abs_unit_mul, abs_of_nonneg hstep.product_nonneg]
      have hiff : r.1.remainder.abs < s.stepSize ↔ a < rounded (n * d) + d := by
        rw [lt_iff (toRat?_abs hrest) hsize, abs_unit_mul, hstep.abs_rest_lt_iff]
      constructor
      · rw [hiff]
        constructor
        · exact fun hlt => ⟨_, _, rfl, rfl, by rwa [ha, hp']⟩
        · rintro ⟨t, p, ht, hp, hlt⟩
          cases ht
          cases hp
          rwa [ha, hp'] at hlt
      · rintro t p ht hp
        cases ht
        cases hp
        rw [← mul_sub, abs_unit_mul, hp', hcount, abs_unit_mul, Nat.abs_cast, hiff]
        exact ⟨hrest, hstep.abs_rest_lt, hstep.lt_add_of_le⟩

/-- A tenth is no double-precision number. After two steps of nearly a tenth and a rest, the next call
takes one more step, and what is left is the exact difference. -/
theorem remainder_below_step_of_tenths :
    let s := (new (0.1 : Float) .linear).after [.accumulate 0.25]
    let r := s.accumulate 0.06
    let d : ℚ := 3602879701896397 / 2 ^ 55
    let t : ℚ := 990791918021509 / 2 ^ 53
    toRat? s.stepSize = some d ∧ (0.06 : Float).isFinite = true ∧ r.2 = 1 ∧
      toRat? r.1.remainder = some (t - d) ∧ r.1.remainder.abs < s.stepSize := by
  intro s r d t
  have hsize : toRat? s.stepSize = some d := by decide +kernel
  have hdelta : (0.06 : Float).isFinite = true := by decide +kernel
  have hcount : r.2 = 1 := by decide +kernel
  have htotal : toRat? (0.06 + s.remainder) = some t := by decide +kernel
  have htaken : toRat? (ofInt32 r.2 * s.stepSize) = some d := by decide +kernel
  have hpos : 0 < d := by norm_num [d]
  obtain ⟨-, hvalues⟩ := remainder_below_step_iff hsize hpos hdelta
    (by change r.2 < _; rw [hcount]; decide) (by change _ < r.2; rw [hcount]; decide)
  obtain ⟨hrest, -, hbelow⟩ := hvalues t d htotal htaken
  refine ⟨hsize, hdelta, hcount, hrest, hbelow ?_⟩
  change |(r.2.toInt : ℚ)| * d ≤ |d|
  rw [hcount, abs_of_pos hpos]
  simp

/-- Steps of a hundredth, and motion of 59 of them in decimals. The quotient is rounded to less than
59, and the product with 58 is rounded down, so that a whole step and more is left. -/
theorem remainder_not_below_step_of_hundredths :
    let s := new (0.01 : Float) .linear
    let r := s.accumulate 0.59
    s.stepSize.isFinite = true ∧ 0.0 < s.stepSize ∧ (0.59 : Float).isFinite = true ∧
      -2147483647 < r.2 ∧ r.2 < 2147483647 ∧ r.2 = 58 ∧ ¬r.1.remainder.abs < s.stepSize := by
  decide +kernel

end ControllerRemap.Stepper
