import ControllerRemap.Profile.TouchButton
import ControllerRemap.Proofs.Number.Rational

/-! Differences and intervals on a circle, in exact arithmetic. A folded difference is the plain one
up to full turns. An interval is tested at a single turn of an angle, the last one that does not pass
the upper end; this is enough, because any other turn in the interval lies below it. -/

namespace ControllerRemap

/-! ### Folded differences -/

namespace Geometry

/-- A difference up to full turns that is no longer than half a turn, and of exactly half a turn only
in the direction of the plain difference. -/
structure Folds (period whole d : ℚ) : Prop where
  turns : ∃ k : ℤ, d = whole + period * k
  half : |d| ≤ period / 2
  sign : |d| = period / 2 → SignType.sign d = SignType.sign whole

/-- The difference with the nearest number of full turns taken out. -/
def folded (period whole : ℚ) : ℚ := whole - period * Rational.nearestInt (whole / period)

theorem folded_zero (period : ℚ) : folded period 0 = 0 := by
  simp [folded, Rational.nearestInt]

theorem abs_folded_le {period : ℚ} (hperiod : 0 < period) (whole : ℚ) :
    |folded period whole| ≤ period / 2 := by
  have hsplit : folded period whole =
      period * (whole / period - Rational.nearestInt (whole / period)) := by
    rw [folded, mul_sub, mul_div_cancel₀ _ hperiod.ne']
  calc |folded period whole|
      = period * |whole / period - Rational.nearestInt (whole / period)| := by
        rw [hsplit, abs_mul, abs_of_pos hperiod]
    _ ≤ period * (1 / 2) :=
        mul_le_mul_of_nonneg_left (Rational.abs_sub_nearestInt_le _) hperiod.le
    _ = period / 2 := by ring

theorem wrapDiff_eq (a b period : ℚ) : wrapDiff a b period =
    if |folded period (a - b)| = period / 2 ∧ ¬(0 ≤ a - b ↔ 0 ≤ folded period (a - b)) then
      -folded period (a - b)
    else folded period (a - b) := by
  have hsign (p q : Prop) [Decidable p] [Decidable q] :
      (if p then (1 : ℚ) else -1) = (if q then 1 else -1) ↔ (p ↔ q) := by
    by_cases hp : p <;> by_cases hq : q <;> norm_num [hp, hq]
  simp [wrapDiff, folded, hsign]

theorem folds_wrapDiff {period : ℚ} (hperiod : 0 < period) (a b : ℚ) :
    Folds period (a - b) (wrapDiff a b period) := by
  rw [wrapDiff_eq]
  generalize a - b = whole
  obtain ⟨k, hk⟩ : ∃ k : ℤ, folded period whole = whole + period * k :=
    ⟨-Rational.nearestInt (whole / period), by rw [folded, Int.cast_neg, mul_neg, sub_eq_add_neg]⟩
  have hle := abs_folded_le hperiod whole
  have hwhole : |folded period whole| = period / 2 → whole ≠ 0 := by
    rintro h rfl
    rw [folded_zero, abs_zero] at h
    linarith
  generalize folded period whole = f at hk hle hwhole
  split
  · next h =>
    obtain ⟨hhalf, hsign⟩ := h
    -- the other half turn is a full turn away
    rcases eq_or_eq_neg_of_abs_eq hhalf with hf | hf
    · have hneg : whole < 0 := by
        by_contra hnonneg
        exact hsign (iff_of_true (not_lt.1 hnonneg) (by linarith))
      refine ⟨⟨k - 1, ?_⟩, by rwa [abs_neg], fun _ => ?_⟩
      · push_cast
        linarith
      · rw [sign_neg hneg, sign_neg (by linarith)]
    · have hpos : 0 < whole := by
        refine lt_of_le_of_ne ?_ (hwhole hhalf).symm
        by_contra hneg
        exact hsign (iff_of_false hneg (by linarith))
      refine ⟨⟨k + 1, ?_⟩, by rwa [abs_neg], fun _ => ?_⟩
      · push_cast
        linarith
      · rw [sign_pos hpos, sign_pos (by linarith)]
  · next h =>
    refine ⟨⟨k, hk⟩, hle, fun hhalf => ?_⟩
    have hsign : 0 ≤ whole ↔ 0 ≤ f := by
      by_contra hne
      exact h ⟨hhalf, hne⟩
    rcases eq_or_eq_neg_of_abs_eq hhalf with hf | hf
    · have hpos : 0 < whole := lt_of_le_of_ne (hsign.2 (by linarith)) (hwhole hhalf).symm
      rw [sign_pos hpos, sign_pos (by linarith)]
    · have hneg : whole < 0 := not_le.1 (mt hsign.1 (by linarith))
      rw [sign_neg hneg, sign_neg (by linarith)]

end Geometry

/-! ### Intervals -/

namespace AngleRange

theorem le_max_iff (r : AngleRange ℚ) (angle : ℚ) (k : ℤ) :
    angle + 360 * k ≤ r.max ↔ k ≤ ⌊(r.max - angle) / 360⌋ := by
  rw [Int.le_floor, le_div_iff₀ (by norm_num), le_sub_iff_add_le', mul_comm]

theorem contains_eq (r : AngleRange ℚ) (angle : ℚ) :
    r.contains angle = decide (r.min ≤ angle + 360 * ⌊(r.max - angle) / 360⌋) := by
  have hturn : r.max - (r.max - angle - 360 * ⌊(r.max - angle) / 360⌋) =
      angle + 360 * ⌊(r.max - angle) / 360⌋ := by
    ring
  simp [contains, hturn]

/-- Some turn of the angle is in the interval. -/
theorem contains_iff {r : AngleRange ℚ} {angle : ℚ} : r.contains angle = true ↔
    ∃ k : ℤ, r.min ≤ angle + 360 * k ∧ angle + 360 * k ≤ r.max := by
  rw [contains_eq, decide_eq_true_eq]
  constructor
  · exact fun h => ⟨_, h, (r.le_max_iff angle _).2 le_rfl⟩
  · rintro ⟨k, hmin, hmax⟩
    have hk : (k : ℚ) ≤ ⌊(r.max - angle) / 360⌋ := by exact_mod_cast (r.le_max_iff angle k).1 hmax
    linarith

theorem contains_of_full_turn {r : AngleRange ℚ} (h : r.min + 360 ≤ r.max) (angle : ℚ) :
    r.contains angle = true := by
  -- the next turn would pass the upper end
  have hnext := (r.le_max_iff angle (⌊(r.max - angle) / 360⌋ + 1)).not.2 (by omega)
  rw [contains_eq, decide_eq_true_eq]
  push_cast at hnext
  linarith

theorem contains_add_turns (r : AngleRange ℚ) (angle : ℚ) (k : ℤ) :
    r.contains (angle + 360 * k) = r.contains angle := by
  rw [Bool.eq_iff_iff, contains_iff, contains_iff]
  constructor
  · rintro ⟨i, h⟩
    exact ⟨k + i, by push_cast; rwa [mul_add, ← add_assoc]⟩
  · rintro ⟨i, h⟩
    exact ⟨i - k, by push_cast; rwa [mul_sub, add_assoc, add_sub_cancel]⟩

/-- Angles of one turn in an interval near it. -/
theorem contains_iff_of_turn {r : AngleRange ℚ} (hmin : -150 ≤ r.min) (hmax : r.max ≤ 240)
    {angle : ℚ} (low : -60 ≤ angle) (high : angle < 300) : r.contains angle = true ↔
      r.min ≤ angle ∧ angle ≤ r.max ∨ r.min ≤ angle - 360 ∧ angle - 360 ≤ r.max := by
  rw [contains_iff]
  constructor
  · rintro ⟨k, hk, hk'⟩
    have hlow : (-2 : ℚ) < k := by linarith
    have hhigh : (k : ℚ) < 1 := by linarith
    obtain rfl | rfl : k = 0 ∨ k = -1 := by
      have : -2 < k := by exact_mod_cast hlow
      have : k < 1 := by exact_mod_cast hhigh
      omega
    · left
      simpa using And.intro hk hk'
    · right
      push_cast at hk hk'
      constructor <;> linarith
  · rintro (h | h)
    · exact ⟨0, by simpa using h⟩
    · exact ⟨-1, by push_cast; rwa [mul_neg_one, ← sub_eq_add_neg]⟩

/-- An angle on the turn that starts with the slice on the right. -/
theorem padSlices_contains {angle : ℚ} (low : -60 ≤ angle) (high : angle < 300) :
    padSlices.map (·.contains angle) =
      [decide (angle ≤ 60), decide (30 ≤ angle ∧ angle ≤ 150), decide (120 ≤ angle ∧ angle ≤ 240),
        decide (angle ≤ -30 ∨ 210 ≤ angle)] := by
  have hslice {r : AngleRange ℚ} (hmin : -150 ≤ r.min) (hmax : r.max ≤ 240) {p : Prop} [Decidable p]
      (hp : (r.min ≤ angle ∧ angle ≤ r.max ∨ r.min ≤ angle - 360 ∧ angle - 360 ≤ r.max) ↔ p) :
      r.contains angle = decide p := by
    rw [Bool.eq_iff_iff, contains_iff_of_turn hmin hmax low high, hp, decide_eq_true_eq]
  have hright : contains ⟨-60, 60⟩ angle = decide (angle ≤ 60) := by
    refine hslice (by norm_num) (by norm_num) ⟨?_, fun h => .inl ⟨low, h⟩⟩
    rintro (⟨-, h⟩ | ⟨h, -⟩)
    · exact h
    · linarith
  have hup : contains ⟨30, 150⟩ angle = decide (30 ≤ angle ∧ angle ≤ 150) := by
    refine hslice (by norm_num) (by norm_num) ⟨?_, .inl⟩
    rintro (h | ⟨h, -⟩)
    · exact h
    · linarith
  have hleft : contains ⟨120, 240⟩ angle = decide (120 ≤ angle ∧ angle ≤ 240) := by
    refine hslice (by norm_num) (by norm_num) ⟨?_, .inl⟩
    rintro (h | ⟨h, -⟩)
    · exact h
    · linarith
  have hdown : contains ⟨-150, -30⟩ angle = decide (angle ≤ -30 ∨ 210 ≤ angle) := by
    refine hslice (by norm_num) (by norm_num) ⟨?_, ?_⟩
    · rintro (⟨-, h⟩ | ⟨h, -⟩)
      · exact .inl h
      · exact .inr (by linarith)
    · rintro (h | h)
      · exact .inl ⟨by linarith, h⟩
      · exact .inr ⟨by linarith, by linarith⟩
  rw [← hright, ← hup, ← hleft, ← hdown]
  simp only [padSlices, List.map_cons, List.map_nil, Rational.ofInt_eq]
  norm_num

/-- The slices of a pad cover the circle, and opposite ones are apart. -/
theorem exists_padSlices_contains (angle : ℚ) : ∃ right up left down : Bool,
    padSlices.map (·.contains angle) = [right, up, left, down] ∧
      (right || up || left || down) = true ∧ (right && left) = false ∧ (up && down) = false := by
  have hturn : padSlices.map (·.contains angle) =
      padSlices.map (·.contains (angle + 360 * (-⌊(angle + 60) / 360⌋ : ℤ))) :=
    List.map_congr_left fun r _ => (r.contains_add_turns angle _).symm
  have hlow := Int.floor_le ((angle + 60) / 360)
  have hhigh := Int.lt_floor_add_one ((angle + 60) / 360)
  rw [le_div_iff₀ (by norm_num)] at hlow
  rw [div_lt_iff₀ (by norm_num)] at hhigh
  rw [hturn, padSlices_contains (by push_cast; linarith) (by push_cast; linarith)]
  generalize angle + 360 * (-⌊(angle + 60) / 360⌋ : ℤ) = a
  refine ⟨_, _, _, _, rfl, ?_, ?_, ?_⟩
  · simp only [Bool.or_eq_true, decide_eq_true_eq]
    rcases le_total a 60 with h | h
    · exact .inl (.inl (.inl h))
    rcases le_total a 150 with h' | h'
    · exact .inl (.inl (.inr ⟨by linarith, h'⟩))
    rcases le_total a 240 with h'' | h''
    · exact .inl (.inr ⟨by linarith, h''⟩)
    · exact .inr (.inr (by linarith))
  · rw [← Bool.decide_and, decide_eq_false_iff_not]
    rintro ⟨h, h', -⟩
    linarith
  · rw [← Bool.decide_and, decide_eq_false_iff_not]
    rintro ⟨⟨h, h'⟩, h'' | h''⟩ <;> linarith

/-- An interval contains an angle exactly if some number of full turns brings the angle between its
ends. So it contains every angle if its ends are a full turn apart or more, and none if they are in
the wrong order. Of the slices of a pad, in their order around it, one or two contain an angle, and
never two opposite ones. -/
theorem contains_iff_some_turn :
    (∀ (r : AngleRange ℚ) (angle : ℚ), r.contains angle = true ↔
      ∃ k : ℤ, r.min ≤ angle + 360 * k ∧ angle + 360 * k ≤ r.max) ∧
    (∀ (r : AngleRange ℚ) (angle : ℚ), r.min + 360 ≤ r.max → r.contains angle = true) ∧
    (∀ (r : AngleRange ℚ) (angle : ℚ), r.max < r.min → r.contains angle = false) ∧
    ∀ angle : ℚ, let hit : List Bool := padSlices.map (·.contains angle)
      (hit.count true = 1 ∨ hit.count true = 2) ∧
        ∀ i, ¬(hit[i]? = some true ∧ hit[i + 2]? = some true) := by
  refine ⟨fun r angle => contains_iff, fun r angle h => contains_of_full_turn h angle,
    fun r angle h => ?_, fun angle => ?_⟩
  · rw [Bool.eq_false_iff, Ne, contains_iff]
    rintro ⟨k, hmin, hmax⟩
    linarith
  · obtain ⟨right, up, left, down, hhit, hcover, hhorizontal, hvertical⟩ :=
      exists_padSlices_contains angle
    simp only [hhit]
    constructor
    · clear hhit
      revert right up left down
      decide
    · rintro (_ | _ | i) ⟨hi, hopposite⟩
      · cases hi
        cases hopposite
        cases hhorizontal
      · cases hi
        cases hopposite
        cases hvertical
      · cases hopposite

/-- An interval of exactly a full turn contains an angle many turns away, and one whose ends are
swapped does not contain its own ends. The last angle of the slice on the right is far inside the
one above it. -/
theorem contains_iff_some_turn_of_full_turn :
    let full : AngleRange ℚ := ⟨-7, 353⟩
    let swapped : AngleRange ℚ := ⟨60, -60⟩
    (full.min + 360 ≤ full.max ∧ full.contains 3593 = true) ∧
      (swapped.max < swapped.min ∧ swapped.contains 60 = false) ∧
      padSlices.map (·.contains (60 : ℚ)) = [true, true, false, false] :=
  ⟨⟨by norm_num, contains_iff_some_turn.2.1 _ _ (by norm_num)⟩,
    ⟨by norm_num, contains_iff_some_turn.2.2.1 _ _ (by norm_num)⟩, by decide +kernel⟩

end AngleRange

end ControllerRemap
