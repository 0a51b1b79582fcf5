import ControllerRemap.Motion.ScrollWheel

/-! Steppers and wheels that are released. A release keeps what a stepper carries; the next
baseline drops it, and until then samples change nothing. So a released stepper answers like
a newly built one, and from its baseline on it is one. This holds over any numbers. -/

namespace ControllerRemap

/-! ### Inputs in order -/

/-- The state after a list of inputs, and the answer to each of them. -/
def answers {σ ι ο : Type} (step : σ → ι → σ × ο) (s : σ) : List ι → σ × List ο
  | [] => (s, [])
  | i :: is => ((answers step (step s i).1 is).1, (step s i).2 :: (answers step (step s i).1 is).2)

section

variable {σ τ ι κ ο : Type} {step : σ → ι → σ × ο}

theorem answers_cons (s : σ) (i : ι) (is : List ι) : answers step s (i :: is) =
    ((answers step (step s i).1 is).1, (step s i).2 :: (answers step (step s i).1 is).2) := rfl

/-- A machine that wraps another one and translates its inputs answers alike. -/
theorem answers_map {step' : τ → κ → τ × ο} (f : σ → τ) (g : κ → ι)
    (h : ∀ s k, step' (f s) k = (f (step s (g k)).1, (step s (g k)).2)) (s : σ) (ks : List κ) :
    answers step' (f s) ks = (f (answers step s (ks.map g)).1, (answers step s (ks.map g)).2) := by
  induction ks generalizing s with
  | nil => rfl
  | cons k ks ih => rw [answers_cons, h, ih, List.map_cons, answers_cons]

end

/-! ### Steppers -/

namespace Stepper

variable {α : Type} [Scalar α]

/-- What may be asked of a stepper. -/
inductive Call (α : Type) where
  | update (v : α)
  | accumulate (delta : α)
  | release

def Call.apply (s : Stepper α) : Call α → Stepper α
  | update v => (s.update v).1
  | accumulate delta => (s.accumulate delta).1
  | release => s.release

def after (s : Stepper α) (calls : List (Call α)) : Stepper α := calls.foldl Call.apply s

/-- The stepper as it was built. -/
def fresh (s : Stepper α) : Stepper α := { s with remainder := Scalar.ofInt 0, last := none }

theorem fresh_accumulate (s : Stepper α) (delta : α) : (s.accumulate delta).1.fresh = s.fresh := by
  rw [accumulate]
  split <;> rfl

theorem fresh_update (s : Stepper α) (v : α) : (s.update v).1.fresh = s.fresh := by
  rw [update]
  split
  · rfl
  · split
    · rfl
    · exact fresh_accumulate _ _

theorem fresh_apply (s : Stepper α) (call : Call α) : (call.apply s).fresh = s.fresh := by
  cases call with
  | update v => exact s.fresh_update v
  | accumulate delta => exact s.fresh_accumulate delta
  | release => rfl

theorem fresh_after (s : Stepper α) (calls : List (Call α)) : (s.after calls).fresh = s.fresh := by
  induction calls generalizing s with
  | nil => rfl
  | cons call calls ih => exact (ih (call.apply s)).trans (s.fresh_apply call)

theorem update_of_not_finite (s : Stepper α) {v : α} (h : Scalar.isFinite v = false) :
    s.update v = (s, 0) := by
  rw [update, h]
  rfl

/-- The baseline drops what was carried. -/
theorem update_release_of_finite (s : Stepper α) {v : α} (h : Scalar.isFinite v = true) :
    s.release.update v = s.fresh.update v := by
  rw [update, update, h]
  rfl

/-- The baseline makes no steps, and neither does a sample that is not finite. -/
theorem steps_of_not_engaged {s : Stepper α} (h : s.engaged = false) (v : α) :
    (s.update v).2 = 0 := by
  have hlast : s.last = none := Option.isNone_iff_eq_none.1 (Option.isSome_eq_false_iff.1 h)
  rw [update, hlast]
  split <;> rfl

theorem answers_release (s : Stepper α) (vs : List α) :
    (answers update s.release vs).2 = (answers update s.fresh vs).2 ∧
      (answers update s.release vs).1.engaged = (answers update s.fresh vs).1.engaged ∧
      ((∃ v ∈ vs, Scalar.isFinite v = true) →
        (answers update s.release vs).1 = (answers update s.fresh vs).1) := by
  induction vs with
  | nil => exact ⟨rfl, rfl, fun ⟨_, hv, _⟩ => absurd hv List.not_mem_nil⟩
  | cons v vs ih =>
    cases hv : Scalar.isFinite v with
    | true =>
      rw [answers_cons, answers_cons, update_release_of_finite s hv]
      exact ⟨rfl, rfl, fun _ => rfl⟩
    | false =>
      obtain ⟨hsteps, hengaged, hstate⟩ := ih
      rw [answers_cons, answers_cons, update_of_not_finite _ hv, update_of_not_finite _ hv]
      refine ⟨congrArg (List.cons 0) hsteps, hengaged, fun ⟨w, hmem, hw⟩ => hstate ⟨w, ?_, hw⟩⟩
      refine (List.mem_cons.1 hmem).resolve_left fun heq => ?_
      rw [heq, hv] at hw
      cases hw

end Stepper

/-! ### Wheels -/

namespace ScrollWheel

/-- What may be asked of a wheel. -/
inductive Call where
  | update (x y : Float)
  | release

def Call.apply (w : ScrollWheel) : Call → ScrollWheel
  | update x y => (w.update x y).1
  | release => w.release

def after (w : ScrollWheel) (calls : List Call) : ScrollWheel := calls.foldl Call.apply w

/-- The call as the stepper of the wheel sees it. -/
def Call.turned : Call → Stepper.Call Float
  | update x y => .update (Geometry.angleDeg x y)
  | release => .release

theorem after_eq (s : Stepper Float) (calls : List Call) :
    after ⟨s⟩ calls = ⟨s.after (calls.map Call.turned)⟩ := by
  induction calls generalizing s with
  | nil => rfl
  | cons call calls ih => cases call <;> exact ih _

theorem answers_update (s : Stepper Float) (ps : List (Float × Float)) :
    answers (fun w p => update w p.1 p.2) ⟨s⟩ ps =
      (⟨(answers Stepper.update s (ps.map fun p => Geometry.angleDeg p.1 p.2)).1⟩,
        (answers Stepper.update s (ps.map fun p => Geometry.angleDeg p.1 p.2)).2) :=
  answers_map ScrollWheel.mk _ (fun _ _ => rfl) s ps

/-- A stepper of any step size and wrap, or a wheel of any step size, that has been through any
calls is released. It then gives any samples the steps of a newly built one and is engaged exactly
when that is. From the first finite sample on the stepper is the newly built one. -/
theorem release_forgets {α : Type} [Scalar α] :
    (∀ (stepSize : α) (wrap : Wrap) (calls : List (Stepper.Call α)) (vs : List α),
      let new := Stepper.new stepSize wrap
      let released := answers Stepper.update (new.after calls).release vs
      let built := answers Stepper.update new vs
      released.2 = built.2 ∧ released.1.engaged = built.1.engaged ∧
        ((∃ v ∈ vs, Scalar.isFinite v = true) → released.1 = built.1)) ∧
    ∀ (stepDeg : Float) (calls : List Call) (ps : List (Float × Float)),
      let turn (w : ScrollWheel) (p : Float × Float) := w.update p.1 p.2
      let released := answers turn ((new stepDeg).after calls).release ps
      let built := answers turn (new stepDeg) ps
      released.2 = built.2 ∧ released.1.engaged = built.1.engaged := by
  have hfresh {β : Type} [Scalar β] (stepSize : β) (wrap : Wrap) (calls : List (Stepper.Call β)) :
      ((Stepper.new stepSize wrap).after calls).fresh = .new stepSize wrap :=
    (Stepper.new stepSize wrap).fresh_after calls
  constructor
  · intro stepSize wrap calls vs
    have h := Stepper.answers_release ((Stepper.new stepSize wrap).after calls) vs
    rwa [hfresh] at h
  · intro stepDeg calls ps turn released built
    have h := Stepper.answers_release ((Stepper.new stepDeg .angular).after
      (calls.map Call.turned)) (ps.map fun p => Geometry.angleDeg p.1 p.2)
    rw [hfresh] at h
    simp only [released, built, turn, new, after_eq, release, answers_update]
    exact ⟨h.1, h.2.1⟩

/-- A stepper carries nearly half a step when it is released. A sample that is no number leaves the
carry in place, the next one drops it, and the one after that is short of a step. -/
theorem release_forgets_of_carry :
    let new := Stepper.new 30.0 .linear
    let s := (new.after [.update 0.0, .update 44.0]).release
    let vs : List Float := [0.0 / 0.0, 170.0, 190.0]
    (answers Stepper.update s (vs.take 1)).1.remainder = 14.0 ∧
      (∃ v ∈ vs, Scalar.isFinite v = true) ∧ (answers Stepper.update s vs).2 = [0, 0, 0] ∧
      (answers Stepper.update s vs).1 = (answers Stepper.update new vs).1 ∧
      (answers Stepper.update s vs).1.remainder = 20.0 := by
  intro new s vs
  have hfinite : ∃ v ∈ vs, Scalar.isFinite v = true := ⟨170.0, by simp [vs], by decide +kernel⟩
  have hcarry : (answers Stepper.update s (vs.take 1)).1.remainder = 14.0 := by decide +kernel
  have hnew : (answers Stepper.update new vs).2 = [0, 0, 0] ∧
      (answers Stepper.update new vs).1.remainder = 20.0 := by decide +kernel
  obtain ⟨hsteps, -, hstate⟩ := release_forgets.1 30.0 .linear [.update 0.0, .update 44.0] vs
  have hlast : (answers Stepper.update s vs).1 = (answers Stepper.update new vs).1 :=
    hstate hfinite
  have hzero : (answers Stepper.update s vs).2 = [0, 0, 0] := hsteps.trans hnew.1
  have hrest : (answers Stepper.update s vs).1.remainder = 20.0 := by
    rw [hlast]
    exact hnew.2
  exact ⟨hcarry, hfinite, hzero, hlast, hrest⟩

end ScrollWheel

end ControllerRemap
