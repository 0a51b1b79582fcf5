import ControllerRemap.Proofs.Geometry.Turn
import ControllerRemap.Proofs.Motion.Baseline
import ControllerRemap.Proofs.Remap.Formula

/-! No motion is lost by stepping. In exact arithmetic a call splits the motion that it is given, and
what was carried, into whole steps and what is carried on; this holds also where the number of steps
is limited. So the steps of a run and the last remainder add up to the differences of its samples,
and these to the way from the first sample to the last. -/

namespace ControllerRemap.Stepper

/-! ### One call -/

theorem exists_stepsIn (stepSize total : ℚ) :
    ∃ n : ℤ, -2147483647 ≤ n ∧ n ≤ 2147483647 ∧ stepsIn stepSize total = n := by
  obtain ⟨m, hm⟩ : ∃ m : ℤ, Scalar.trunc (Scalar.abs total / stepSize) * Scalar.sign total = m := by
    rw [Rational.trunc_eq, Rational.sign_eq]
    split
    · exact ⟨_, mul_one _⟩
    · exact ⟨_, by rw [mul_neg_one, ← Int.cast_neg]⟩
  rw [stepsIn, hm, Scalar.clamp]
  have hlimit : (limit : ℚ) = ((2147483647 : ℤ) : ℚ) := rfl
  rw [hlimit, ← Int.cast_neg]
  simp only [Rational.lt_eq, decide_eq_true_eq, Int.cast_lt]
  split
  · exact ⟨_, by decide, by decide, rfl⟩
  · split
    · exact ⟨_, by decide, by decide, rfl⟩
    · exact ⟨m, by omega, by omega, rfl⟩

/-- Adding motion splits it into steps and a rest. -/
theorem exists_accumulate_eq {s : Stepper ℚ} (hsize : 0 < s.stepSize) (delta : ℚ) :
    ∃ n : Int32, s.accumulate delta =
      ({ s with remainder := delta + s.remainder - s.stepSize * n.toInt }, n) := by
  obtain ⟨n, hlow, hhigh, hn⟩ := exists_stepsIn s.stepSize (delta + s.remainder)
  have hcount : (Binary64.saturate n).toInt = n := by
    rw [Formula.toInt_saturate, Formula.clamped, Int32.toInt_minValue, Int32.toInt_maxValue]
    omega
  have hzero : ¬s.stepSize = 0 := hsize.ne'
  refine ⟨Binary64.saturate n, ?_⟩
  simp [accumulate, hzero, hn, hcount, mul_comm]

/-! ### Runs -/

/-- The differences of successive samples. -/
def differences {α : Type} [Scalar α] (wrap : Wrap) (old : α) : List α → List α
  | [] => []
  | v :: vs => difference wrap v old :: differences wrap v vs

section

variable {s : Stepper ℚ} {old : ℚ}

theorem update_of_last (h : s.last = some old) (v : ℚ) :
    s.update v = accumulate { s with last := some v } (difference s.wrap v old) := by
  simp [update, h]

/-- Steps and rest of a run that goes on from a sample. -/
theorem sum_steps_add_remainder (hsize : 0 < s.stepSize) (h : s.last = some old) (vs : List ℚ) :
    s.stepSize * ((answers update s vs).2.map Int32.toInt).sum + (answers update s vs).1.remainder =
      (differences s.wrap old vs).sum + s.remainder := by
  induction vs generalizing s old with
  | nil => simp [answers, differences]
  | cons v vs ih =>
    obtain ⟨n, hn⟩ := exists_accumulate_eq (s := { s with last := some v }) hsize (difference s.wrap v old)
    rw [answers_cons, update_of_last h, hn]
    have hrest := ih (s := { s with
      last := some v, remainder := difference s.wrap v old + s.remainder - s.stepSize * n.toInt })
      hsize rfl
    simp only [List.map_cons, List.sum_cons, differences]
    push_cast at hrest ⊢
    linarith

end

/-- On a line the differences add up to the whole way. -/
theorem sum_differences_linear (old : ℚ) (vs : List ℚ) :
    (differences .linear old vs).sum = (old :: vs).getLast (List.cons_ne_nil _ _) - old := by
  induction vs generalizing old with
  | nil => simp [differences]
  | cons v vs ih =>
    rw [differences, List.sum_cons, ih, List.getLast_cons_cons, difference]
    ring

/-- On a circle they do so up to full turns. -/
theorem sum_differences_angular (old : ℚ) (vs : List ℚ) :
    ∃ k : ℤ, (differences .angular old vs).sum =
      (old :: vs).getLast (List.cons_ne_nil _ _) - old + 360 * k := by
  induction vs generalizing old with
  | nil => exact ⟨0, by simp [differences]⟩
  | cons v vs ih =>
    obtain ⟨k, hk⟩ := ih v
    obtain ⟨i, hi⟩ := (Geometry.folds_wrapDiff (by norm_num : (0 : ℚ) < 360) v old).turns
    refine ⟨i + k, ?_⟩
    have hdifference : difference .angular v old = v - old + 360 * i := hi
    rw [differences, List.sum_cons, hk, List.getLast_cons_cons, hdifference]
    push_cast
    ring

/-- Samples are given to a stepper that has just been built or released. The first of them is the
baseline. The step size times the number of steps that all of them gave, and what is carried in the
end, make up the differences of the successive samples, however many steps were held back by the limit
of a call. On a line this is the way from the first sample to the last, and on a circle it is so up to
full turns: there each difference is the plain one up to full turns, no longer than half a turn, and
of exactly half a turn in the direction of the plain one. -/
theorem conserves_motion {s : Stepper ℚ} (hsize : 0 < s.stepSize) (hs : s.engaged = false)
    (first : ℚ) (rest : List ℚ) :
    let r := answers update s (first :: rest)
    let motion := s.stepSize * (r.2.map Int32.toInt).sum + r.1.remainder
    let last := (first :: rest).getLast (List.cons_ne_nil _ _)
    motion = (differences s.wrap first rest).sum ∧
    (s.wrap = .linear → motion = last - first) ∧
    (s.wrap = .angular → ∃ k : ℤ, motion = last - first + 360 * k) ∧
    ∀ new old : ℚ, let d := difference .angular new old
      (|d| ≤ 180 ∧ ∃ k : ℤ, d = new - old + 360 * k) ∧
        (|d| = 180 → SignType.sign d = SignType.sign (new - old)) := by
  intro r motion last
  have hmotion : motion = (differences s.wrap first rest).sum := by
    have hlast : s.last = none := Option.isNone_iff_eq_none.1 (Option.isSome_eq_false_iff.1 hs)
    have hbaseline : s.update first = ({ s with last := some first, remainder := 0 }, 0) := by
      simp [update, hlast]
    have hrun := sum_steps_add_remainder (s := { s with last := some first, remainder := 0 })
      hsize rfl rest
    simp only [motion, r, answers_cons, hbaseline, List.map_cons, List.sum_cons, Int32.toInt_zero,
      zero_add]
    exact hrun.trans (add_zero _)
  refine ⟨hmotion, fun hwrap => ?_, fun hwrap => ?_, fun new old => ?_⟩
  · rw [hmotion, hwrap, sum_differences_linear]
  · obtain ⟨k, hk⟩ := sum_differences_angular first rest
    exact ⟨k, by rw [hmotion, hwrap, hk]⟩
  · have hfolds := Geometry.folds_wrapDiff (by norm_num : (0 : ℚ) < 360) new old
    have hhalf : (360 : ℚ) / 2 = 180 := by norm_num
    have hle := hfolds.half
    have hsign := hfolds.sign
    rw [hhalf] at hle hsign
    exact ⟨⟨hle, hfolds.turns⟩, hsign⟩

/-- Half a turn, a full one and a little back, on a stepper of so small steps that every call gives as
many as it can. What it carried before the baseline does not count. -/
theorem conserves_motion_of_limited_steps :
    let s : Stepper ℚ := ⟨1 / 1000000000, .angular, 7, none⟩
    let r := answers update s [0, 180, 540, 530]
    let motion := s.stepSize * (r.2.map Int32.toInt).sum + r.1.remainder
    0 < s.stepSize ∧ s.engaged = false ∧
      r.2 = [0, 2147483647, 2147483647, 2147483647] ∧
      motion = 170 ∧ ∃ k : ℤ, motion = 530 - 0 + 360 * k := by
  intro s r motion
  have hsize : 0 < s.stepSize := by norm_num [s]
  have hsteps : r.2 = [0, 2147483647, 2147483647, 2147483647] := by decide +kernel
  have hsum : (differences .angular (0 : ℚ) [180, 540, 530]).sum = 170 := by decide +kernel
  obtain ⟨hmotion, -, hturns, -⟩ := conserves_motion hsize rfl 0 [180, 540, 530]
  exact ⟨hsize, rfl, hsteps, hmotion.trans hsum, hturns rfl⟩

end ControllerRemap.Stepper
