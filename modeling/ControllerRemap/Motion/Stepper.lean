import ControllerRemap.Geometry.Turn

/-! Whole steps out of continuous motion. The difference of successive samples adds
to a remainder, complete steps are taken out of it toward zero, and what is left
counts toward the next sample. A single sample gives at most the largest 32-bit
number of steps; further motion stays in the remainder. -/

namespace ControllerRemap

/-- How the difference of two samples is taken. -/
inductive Wrap where
  /-- Degrees on a circle. -/
  | angular
  | linear
  deriving DecidableEq

structure Stepper (α : Type) where
  stepSize : α
  wrap : Wrap
  remainder : α
  /-- The last sample since the stepper was engaged. -/
  last : Option α

namespace Stepper

variable {α : Type} [Scalar α]

/-- The sign of the step size is ignored. -/
def new (stepSize : α) (wrap : Wrap) : Stepper α where
  stepSize := Scalar.abs stepSize
  wrap := wrap
  remainder := Scalar.ofInt 0
  last := none

/-- The largest number of steps that one call gives. -/
def limit : α := Scalar.ofInt 2147483647

/-- The whole steps in an amount of motion. -/
def stepsIn (stepSize total : α) : α :=
  Scalar.clamp (Scalar.trunc (Scalar.abs total / stepSize) * Scalar.sign total) (-limit) limit

/-- Adds motion and takes out the whole steps. -/
def accumulate (s : Stepper α) (delta : α) : Stepper α × Int32 :=
  if !Scalar.isFinite delta || Scalar.eq s.stepSize (Scalar.ofInt 0) then (s, 0)
  else
    let total := delta + s.remainder
    let steps := stepsIn s.stepSize total
    ({ s with remainder := total - steps * s.stepSize }, Scalar.toInt32 steps)

def difference (wrap : Wrap) (new old : α) : α :=
  match wrap with
  | .angular => Geometry.shortestDeg new old
  | .linear => new - old

/-- Takes a sample. The first one since the stepper was engaged is the baseline; a
sample that is not finite is ignored. -/
def update (s : Stepper α) (v : α) : Stepper α × Int32 :=
  if !Scalar.isFinite v then (s, 0)
  else match s.last with
    | none => ({ s with last := some v, remainder := Scalar.ofInt 0 }, 0)
    | some old => accumulate { s with last := some v } (difference s.wrap v old)

/-- The next sample is a new baseline. -/
def release (s : Stepper α) : Stepper α := { s with last := none }

def engaged (s : Stepper α) : Bool := s.last.isSome

end Stepper

end ControllerRemap
