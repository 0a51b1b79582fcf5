import ControllerRemap.Geometry.Quaternion
import ControllerRemap.Motion.Stepper

/-! Pointer motion out of the orientation of a controller. An orientation gives the
direction that the controller points in; the change of its heading and of its
elevation since the last orientation is counted in steps. Releasing forgets the
last direction and keeps what the two axes carry. -/

namespace ControllerRemap

open ControllerRemap.Geometry

/-- The steps of one orientation, positive for a turn to the left and for pointing
further down. -/
structure GyroSteps where
  horizontal : Int32 := 0
  vertical : Int32 := 0
  deriving DecidableEq

def GyroSteps.isZero (s : GyroSteps) : Bool := s.horizontal == 0 && s.vertical == 0

structure GyroMouse where
  last : Option Vector3
  horizontal : Stepper Float
  vertical : Stepper Float

namespace GyroMouse

/-- One step for every `stepDeg` degrees on either axis. -/
def new (stepDeg : Float) : GyroMouse := ⟨none, .new stepDeg .linear, .new stepDeg .linear⟩

def standard : GyroMouse := new 0.05

def heading (d : Vector3) : Float := angleDeg d.x d.y

def elevation (d : Vector3) : Float := angleDeg d.z (length [d.x, d.y])

/-- Where a controller points, if its orientation has a finite unit form. -/
def direction? (q : Quaternion) : Option Vector3 :=
  let unit := q.normalize
  if unit.toList.all (·.isFinite) then some (unit.rotate ⟨0.0, 1.0, 0.0⟩) else none

/-- Takes an orientation. Malformed ones change nothing, and the first one since the
mouse was engaged is the baseline. -/
def update (m : GyroMouse) (q : Quaternion) : GyroMouse × GyroSteps :=
  match direction? q with
  | none => (m, {})
  | some d =>
    match m.last with
    | none => ({ m with last := some d }, {})
    | some old =>
      let (horizontal, h) := m.horizontal.accumulate (shortestDeg (heading d) (heading old))
      let (vertical, v) := m.vertical.accumulate (shortestDeg (elevation d) (elevation old))
      (⟨some d, horizontal, vertical⟩, ⟨h, v⟩)

/-- The next orientation is a new baseline. -/
def release (m : GyroMouse) : GyroMouse := { m with last := none }

def engaged (m : GyroMouse) : Bool := m.last.isSome

end GyroMouse

end ControllerRemap
