import ControllerRemap.Geometry.Vector

/-! Quaternions and the rotation of vectors by them. -/

namespace ControllerRemap.Geometry

structure Vector3 where
  x : Float
  y : Float
  z : Float

structure Quaternion where
  w : Float
  x : Float
  y : Float
  z : Float

namespace Quaternion

def toList (q : Quaternion) : List Float := [q.w, q.x, q.y, q.z]

/-- Scaled to length one; the zero quaternion gives NaN everywhere. -/
def normalize (q : Quaternion) : Quaternion :=
  let l := length q.toList
  ⟨q.w / l, q.x / l, q.y / l, q.z / l⟩

def conjugate (q : Quaternion) : Quaternion := ⟨q.w, -q.x, -q.y, -q.z⟩

/-- The Hamilton product. -/
def multiply (p q : Quaternion) : Quaternion where
  w := p.w * q.w - p.x * q.x - p.y * q.y - p.z * q.z
  x := p.w * q.x + p.x * q.w + p.y * q.z - p.z * q.y
  y := p.w * q.y - p.x * q.z + p.y * q.w + p.z * q.x
  z := p.w * q.z + p.x * q.y - p.y * q.x + p.z * q.w

/-- The vector turned by a unit quaternion. -/
def rotate (q : Quaternion) (v : Vector3) : Vector3 :=
  let ⟨w, x, y, z⟩ := q
  { x := v.x * (w * w + x * x - y * y - z * z) + 2.0 * v.y * (x * y - w * z)
      + 2.0 * v.z * (w * y + x * z)
    y := v.y * (w * w - x * x + y * y - z * z) + 2.0 * v.z * (y * z - w * x)
      + 2.0 * v.x * (w * z + x * y)
    z := v.z * (w * w - x * x - y * y + z * z) + 2.0 * v.x * (x * z - w * y)
      + 2.0 * v.y * (w * x + y * z) }

end Quaternion

end ControllerRemap.Geometry
