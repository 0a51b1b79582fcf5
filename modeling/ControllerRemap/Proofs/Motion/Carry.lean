import ControllerRemap.Motion.GyroMouse
import ControllerRemap.Proofs.Motion.Baseline

/-! What a released gyro mouse keeps. Its axes are handed differences and never a baseline, so what
they carry outlasts a release; nothing else does. The mouse then moves like a newly built one
exactly if the carried parts of a step make no difference to the turns that follow. -/

namespace ControllerRemap

namespace Stepper

variable {α : Type} [Scalar α]

/-- The stepper as it was built, with something carried. -/
def carrying (s : Stepper α) (remainder : α) : Stepper α := { s.fresh with remainder }

/-- A stepper that is given differences only changes in what it carries. -/
theorem accumulate_carrying (s : Stepper α) (remainder delta : α) :
    ((s.carrying remainder).accumulate delta).1 =
      s.carrying ((s.carrying remainder).accumulate delta).1.remainder := by
  rw [accumulate]
  split <;> rfl

end Stepper

namespace GyroMouse

open ControllerRemap.Geometry

/-- What may be asked of a mouse. -/
inductive Call where
  | update (q : Quaternion)
  | release

def Call.apply (m : GyroMouse) : Call → GyroMouse
  | update q => (m.update q).1
  | release => m.release

def after (m : GyroMouse) (calls : List Call) : GyroMouse := calls.foldl Call.apply m

/-- The mouse with other steppers that carry something on each axis. -/
def carrying (m : GyroMouse) (horizontal vertical : Float) : GyroMouse :=
  ⟨none, m.horizontal.carrying horizontal, m.vertical.carrying vertical⟩

/-- The turn from one direction to another, in heading and in elevation. -/
def turn (old d : Vector3) : Float × Float :=
  (shortestDeg (heading d) (heading old), shortestDeg (elevation d) (elevation old))

/-- The turns between well-formed orientations, of which the first is the baseline unless there is
one. -/
def turns (last : Option Vector3) : List Quaternion → List (Float × Float)
  | [] => []
  | q :: qs => match direction? q with
    | none => turns last qs
    | some d => (last.map fun old => turn old d).toList ++ turns (some d) qs

section Update

variable {m n : GyroMouse} {q : Quaternion} {d old : Vector3}

theorem update_malformed (hq : direction? q = none) : m.update q = (m, {}) := by
  rw [update, hq]

theorem update_baseline (hq : direction? q = some d) (hm : m.last = none) :
    m.update q = (⟨some d, m.horizontal, m.vertical⟩, {}) := by
  rw [update, hq, hm]

theorem update_turn (hq : direction? q = some d) (hm : m.last = some old) : m.update q =
    (⟨some d, (m.horizontal.accumulate (turn old d).1).1, (m.vertical.accumulate (turn old d).2).1⟩,
      ⟨(m.horizontal.accumulate (turn old d).1).2, (m.vertical.accumulate (turn old d).2).2⟩) := by
  rw [update, hq, hm]
  rfl

/-- Two mice with one baseline move alike exactly if their axes step alike on the same turns. -/
theorem answers_update_eq_iff (hlast : n.last = m.last) (qs : List Quaternion) :
    (answers update m qs).2 = (answers update n qs).2 ↔
      (answers Stepper.accumulate m.horizontal ((turns m.last qs).map Prod.fst)).2 =
          (answers Stepper.accumulate n.horizontal ((turns m.last qs).map Prod.fst)).2 ∧
        (answers Stepper.accumulate m.vertical ((turns m.last qs).map Prod.snd)).2 =
          (answers Stepper.accumulate n.vertical ((turns m.last qs).map Prod.snd)).2 := by
  induction qs generalizing m n with
  | nil => exact iff_of_true rfl ⟨rfl, rfl⟩
  | cons q qs ih =>
    rw [answers_cons, answers_cons, turns, List.cons.injEq]
    cases hq : direction? q with
    | none =>
      rw [update_malformed hq, update_malformed hq, ih hlast]
      exact and_iff_right rfl
    | some d =>
      cases hm : m.last with
      | none =>
        rw [update_baseline hq hm, update_baseline hq (hlast.trans hm), ih]
        · exact and_iff_right rfl
        · rfl
      | some old =>
        rw [update_turn hq hm, update_turn hq (hlast.trans hm), GyroSteps.mk.injEq, ih]
        · simp only [Option.map_some, Option.toList_some, List.singleton_append, List.map_cons,
            answers_cons, List.cons.injEq]
          exact and_and_and_comm
        · rfl

end Update

/-- A mouse is another one but for its baseline and what its axes carry. -/
structure Carries (new m : GyroMouse) : Prop where
  horizontal : ∃ r, m.horizontal = new.horizontal.carrying r
  vertical : ∃ r, m.vertical = new.vertical.carrying r

section Carries

variable {new m : GyroMouse}

theorem Carries.apply (h : new.Carries m) (call : Call) : new.Carries (call.apply m) := by
  obtain ⟨⟨r, hr⟩, r', hr'⟩ := h
  cases call with
  | release => exact ⟨⟨r, hr⟩, r', hr'⟩
  | update q =>
    rw [Call.apply]
    cases hq : direction? q with
    | none =>
      rw [update_malformed hq]
      exact ⟨⟨r, hr⟩, r', hr'⟩
    | some d =>
      cases hm : m.last with
      | none =>
        rw [update_baseline hq hm]
        exact ⟨⟨r, hr⟩, r', hr'⟩
      | some old =>
        rw [update_turn hq hm, hr, hr']
        exact ⟨⟨_, Stepper.accumulate_carrying _ _ _⟩, _, Stepper.accumulate_carrying _ _ _⟩

theorem Carries.after (h : new.Carries m) (calls : List Call) : new.Carries (m.after calls) := by
  induction calls generalizing m with
  | nil => exact h
  | cons call calls ih => exact ih (h.apply call)

theorem Carries.release_eq (h : new.Carries m) :
    m.release = new.carrying m.horizontal.remainder m.vertical.remainder := by
  obtain ⟨⟨r, hr⟩, r', hr'⟩ := h
  rw [release, hr, hr']
  rfl

end Carries

/-- A mouse that has been through any orientations and releases is released. It is then a newly
built mouse that carries what it carried on either axis, and no more than that if it carries
nothing. Any orientations give the steps that they give a newly built mouse exactly if on both axes
the turns between them give the same steps with what is carried as without. -/
theorem moves_like_new_iff (stepDeg : Float) (calls : List Call) (qs : List Quaternion) :
    let fresh := new stepDeg
    let m := fresh.after calls
    let headings := (turns none qs).map Prod.fst
    let elevations := (turns none qs).map Prod.snd
    m.release = fresh.carrying m.horizontal.remainder m.vertical.remainder ∧
      (m.release = fresh ↔ m.horizontal.remainder = 0 ∧ m.vertical.remainder = 0) ∧
      ((answers update m.release qs).2 = (answers update fresh qs).2 ↔
        (answers Stepper.accumulate m.horizontal headings).2 =
            (answers Stepper.accumulate fresh.horizontal headings).2 ∧
          (answers Stepper.accumulate m.vertical elevations).2 =
            (answers Stepper.accumulate fresh.vertical elevations).2) := by
  intro fresh m headings elevations
  have hstart : fresh.Carries fresh := ⟨⟨0, rfl⟩, 0, rfl⟩
  have hrelease : m.release = fresh.carrying m.horizontal.remainder m.vertical.remainder :=
    (hstart.after calls).release_eq
  refine ⟨hrelease, ⟨fun heq => ?_, fun ⟨hhorizontal, hvertical⟩ => ?_⟩,
    answers_update_eq_iff (m := m.release) (n := fresh) rfl qs⟩
  · exact ⟨congrArg (·.horizontal.remainder) heq, congrArg (·.vertical.remainder) heq⟩
  · rw [hrelease, hhorizontal, hvertical]
    rfl

/-- A half turn is one step of a hundred degrees and leaves eighty degrees. The same half turn
after a release makes two steps, and one for a newly built mouse. -/
theorem not_moves_like_new_of_half_turn :
    let ahead : Quaternion := ⟨1, 0, 0, 0⟩
    let behind : Quaternion := ⟨0, 1, 0, 0⟩
    let m := (new 100).after [.update ahead, .update behind]
    (answers update m.release [ahead, behind]).2 = [{}, { horizontal := -2 }] ∧
      (answers update (new 100) [ahead, behind]).2 = [{}, { horizontal := -1 }] ∧
      (answers update m.release [ahead, behind]).2 ≠ (answers update (new 100) [ahead, behind]).2 := by
  decide +kernel

end GyroMouse

end ControllerRemap
