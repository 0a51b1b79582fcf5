import ControllerRemap.Device.Spec
import ControllerRemap.Event.Code
import ControllerRemap.Motion.GyroMouse
import ControllerRemap.Profile.Build
import ControllerRemap.Profile.TouchButton

/-! Pointing by orientation. The orientation of the controller is sampled once in a
frame, and the triggers are the mouse buttons. -/

namespace ControllerRemap

structure GyroPointer where
  deviceName : String
  orientation : OrientationChannels
  hapticMagnitude : UInt16
  remapper : Remapper
  mouse : GyroMouse

namespace GyroPointer

/-- The right trigger is the left mouse button. -/
def rules (l : Layout) : List Rule :=
  [.plain l.triggerLeft (.key Code.btnRight), .plain l.triggerRight (.key Code.btnLeft)]

def new (c : Config) (live : Live) : Except ProfileError GyroPointer := do
  let orientation ← c.gyro.orientation.mapError (.missing .gyroMouse)
  return {
    deviceName := c.outputName.getD "padmap Gyro Mouse"
    orientation
    hapticMagnitude := c.gyro.hapticMagnitude
    remapper := ← Remapper.ofRules (rules c.layout) live
    mouse := .new c.gyro.step }

def spec (g : GyroPointer) : DeviceSpec :=
  (((DeviceSpec.named g.deviceName).addRel Code.relX).addRel Code.relY).channels .stick
    g.remapper.targets

/-- Steps along an axis, with a train of pulses. -/
def move (magnitude code : UInt16) (n : Int32) : Response :=
  if n = 0 then {}
  else { events := [⟨.rel code, n⟩], pulses := [.train .right magnitude (Pulse.countOf n)] }

/-- The orientation in a live table. -/
def sample (q : OrientationChannels) (live : Live) : Geometry.Quaternion :=
  ⟨live.number q.w, live.number q.x, live.number q.y, live.number q.z⟩

/-- Turning to the right moves the pointer to the right. -/
def handle (g : GyroPointer) (e : Event) (live : Live) : GyroPointer × Response :=
  if e.channel.kind = .key then
    let (remapper, events) := g.remapper.dispatch e live
    ({ g with remapper }, .ofEvents events)
  else if e.isReport then
    let (mouse, steps) := g.mouse.update (sample g.orientation live)
    ({ g with mouse },
      move g.hapticMagnitude Code.relX (-steps.horizontal)
        ++ move g.hapticMagnitude Code.relY steps.vertical ++ .report)
  else (g, {})

def release (g : GyroPointer) : GyroPointer × Response :=
  ({ g with mouse := g.mouse.release }, .ofEvents g.remapper.releaseAll ++ .report)

end GyroPointer

end ControllerRemap
