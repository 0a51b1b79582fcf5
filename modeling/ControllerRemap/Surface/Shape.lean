import ControllerRemap.Geometry.Turn

/-! Regions of a flat surface: boxes, open disks and sectors of rings around the
origin. Absent bounds are open. -/

namespace ControllerRemap

inductive Shape where
  | rect (minX maxX minY maxY : Option Float)
  | circle (centerX centerY radius : Float)
  | polar (minR maxR : Option Float) (angle : Option (AngleRange Float))
  deriving BEq

namespace Shape

/-- Everything from a radius on within an interval of angles. -/
def sector (minR : Float) (angle : AngleRange Float) : Shape := .polar (some minR) none (some angle)

/-- The boundary belongs to boxes and sectors but not to disks. -/
def contains : Shape → Float → Float → Bool
  | .rect minX maxX minY maxY, x, y =>
    minX.all (· ≤ x) && maxX.all (x ≤ ·) && minY.all (· ≤ y) && maxY.all (y ≤ ·)
  | .circle centerX centerY radius, x, y =>
    Geometry.length [x - centerX, y - centerY] < radius
  | .polar minR maxR angle, x, y =>
    let r := Geometry.length [x, y]
    minR.all (· ≤ r) && maxR.all (r ≤ ·) && angle.all (·.contains (Geometry.angleDeg x y))

end Shape

end ControllerRemap
