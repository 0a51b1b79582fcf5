import ControllerRemap.Event.Code
import ControllerRemap.Event.Basic
import ControllerRemap.Number.Binary64

/-! A touch surface as an absolute pointer. The input region of the surface is
stretched onto a region of the screen, and positions are reported in the full
16-bit range over the whole screen. The first position of a stroke presses the
tool button and a release lifts it; every position is a frame of its own. -/

namespace ControllerRemap

/-- What stops the event loop: both ends of an axis of the input region are NaN, so no position is
within it. -/
structure Fault where
  -- the events are implicit, so that a match on the kind of fault need not name them
  unboundedRegion ::
  /-- The events that were sent before. -/
  {sent : List Event}
  deriving DecidableEq

/-- A fault that was met after other events. -/
def Fault.after (earlier : List Event) (f : Fault) : Fault := { sent := earlier ++ f.sent }

/-- One axis of the surface and of the screen. -/
structure AxisMap where
  inputStart : Float
  inputEnd : Float
  screenStart : Float
  screenEnd : Float
  screenSize : Float

namespace AxisMap

def lowest : Float := -32768.0
def highest : Float := 32767.0

/-- The position within the input region, from 0 to 1. A flat region and a position
that is not finite stand for the start. -/
def fraction (a : AxisMap) (v : Float) : Except Fault Float :=
  let span := a.inputEnd - a.inputStart
  if span == 0.0 || !v.isFinite then .ok 0.0
  else if a.inputStart.isNaN && a.inputEnd.isNaN then .error { sent := [] }
  else
    let low := Binary64.least a.inputStart a.inputEnd
    let high := Binary64.greatest a.inputStart a.inputEnd
    .ok ((Binary64.clamp v low high - a.inputStart) / span)

/-- The 16-bit value of the point at a fraction of the screen region. -/
def scale (a : AxisMap) (t : Float) : Int32 :=
  let screen := a.screenStart * (1.0 - t) + a.screenEnd * t
  let c := if a.screenSize > 0.0 then screen / a.screenSize else 0.0
  let v := lowest * (1.0 - c) + highest * c
  Binary64.toInt32 (Binary64.clamp (Binary64.round v) lowest highest)

def map (a : AxisMap) (v : Float) : Except Fault Int32 := do
  let t ← a.fraction v
  return a.scale t

end AxisMap

structure TouchMapper where
  x : AxisMap
  y : AxisMap
  touching : Bool := false

namespace TouchMapper

def tool : Channel := .key Code.btnToolFinger

/-- The channels that a mapper sends on. -/
def targets : List Channel := [tool, .abs Code.absX, .abs Code.absY]

/-- A position of the finger. Each axis is sent as soon as it has been mapped. -/
def update (m : TouchMapper) (x y : Float) : Except Fault (TouchMapper × List Event) := do
  let press := if m.touching then [] else [⟨tool, 1⟩]
  let px ← (m.x.map x).mapError (·.after press)
  let py ← (m.y.map y).mapError (·.after (press ++ [⟨.abs Code.absX, px⟩]))
  return ({ m with touching := true },
    press ++ [⟨.abs Code.absX, px⟩, ⟨.abs Code.absY, py⟩, .report])

/-- The finger leaves the surface. -/
def release (m : TouchMapper) : TouchMapper × List Event :=
  ({ m with touching := false }, if m.touching then [⟨tool, 0⟩, .report] else [])

end TouchMapper

end ControllerRemap
