import ControllerRemap.Number.Binary64

/-! Lengths and angles of vectors. Angles grow from the positive first axis toward
the positive second one; the zero vector has angle zero. -/

namespace ControllerRemap.Geometry

def pi : Float := 3.141592653589793

/-- The square root of the sum of squares, added from left to right. -/
def length (v : List Float) : Float :=
  (v.foldl (fun sum c => sum + c * c) (-0.0)).sqrt

/-- In radians, above a quarter turn backward and below three quarters forward. -/
def angle (x y : Float) : Float :=
  if x != 0.0 then (y / x).atan + pi * (1.0 - Binary64.sign x) / 2.0
  else if y != 0.0 then pi / 2.0 * Binary64.sign y
  else 0.0

def angleDeg (x y : Float) : Float := angle x y * (180.0 / pi)

end ControllerRemap.Geometry
