import ControllerRemap.Motion.Stepper

/-! Scrolling by circling a finger around the centre of a surface, counter-clockwise
forward. -/

namespace ControllerRemap

structure ScrollWheel where
  stepper : Stepper Float

namespace ScrollWheel

/-- One tick for every `stepDeg` degrees of travel. -/
def new (stepDeg : Float) : ScrollWheel := ⟨.new stepDeg .angular⟩

def standard : ScrollWheel := new 30.0

/-- The ticks that a new position of the finger completes. -/
def update (w : ScrollWheel) (x y : Float) : ScrollWheel × Int32 :=
  let (stepper, ticks) := w.stepper.update (Geometry.angleDeg x y)
  (⟨stepper⟩, ticks)

def release (w : ScrollWheel) : ScrollWheel := ⟨w.stepper.release⟩

def engaged (w : ScrollWheel) : Bool := w.stepper.engaged

end ScrollWheel

end ControllerRemap
