import ControllerRemap.Device.Spec
import ControllerRemap.Profile.Build
import ControllerRemap.Profile.TouchButton

/-! The gamepad. Buttons, stick, right pad and triggers are forwarded. The left pad is
a hat while it is touched and clicked, and a thumb button when it is clicked
without a touch. -/

namespace ControllerRemap

structure Gamepad where
  deviceName : String
  layout : Layout
  remapper : Remapper
  hat : RegionMap TouchButton

namespace Gamepad

/-- The rules of a layout. The outputs have second axes that grow downward. -/
def rules (l : Layout) : List Rule :=
  let y : Transform := .formula (if l.yAxisDown then .identity else .negate)
  [.plain l.btnA (.key Code.btnSouth),
    .plain l.btnB (.key Code.btnEast),
    .plain l.btnX (.key Code.btnNorth),
    .plain l.btnY (.key Code.btnWest),
    .plain l.shoulderLeft (.key Code.btnTL),
    .plain l.shoulderRight (.key Code.btnTR),
    .plain l.select (.key Code.btnSelect),
    .plain l.mode (.key Code.btnMode),
    .plain l.start (.key Code.btnStart),
    { source := l.clickLeft, target := .key Code.btnThumbL,
      modifiers := [{ source := l.touchLeft, max := some 0 }] },
    .plain l.clickRight (.key Code.btnThumbR),
    .plain l.stickX (.abs Code.absX),
    { source := l.stickY, target := .abs Code.absY, transform := y },
    .plain l.rightPadX (.abs Code.absRX),
    { source := l.rightPadY, target := .abs Code.absRY, transform := y },
    .plain l.triggerLeftAxis (.abs Code.absZ),
    .plain l.triggerRightAxis (.abs Code.absRZ)]

/-- The buttons of the hat in the order of the slices. -/
def hatButtons (magnitude : UInt16) : List TouchButton :=
  let button (code : UInt16) (value : Int32) : TouchButton :=
    { target := .abs code, value, haptic := some (.left, magnitude) }
  [button Code.absHat0X 1, button Code.absHat0Y (-1),
    button Code.absHat0X (-1), button Code.absHat0Y 1]

def new (c : Config) (live : Live) : Except ProfileError Gamepad := do
  return {
    deviceName := c.outputName.getD "padmap Gamepad"
    layout := c.layout
    remapper := ← Remapper.ofRules (rules c.layout) live
    hat := fourWayPad c.pad.minRadius (hatButtons c.pad.hapticMagnitude) }

/-- The keys that the device declares. -/
def keys : List UInt16 :=
  [Code.btnSouth, Code.btnEast, Code.btnNorth, Code.btnWest, Code.btnTL, Code.btnTR,
    Code.btnSelect, Code.btnStart, Code.btnMode, Code.btnThumbL, Code.btnThumbR]

/-- The absolute axes that the device declares. -/
def axes : List AbsAxis :=
  [.stick Code.absX, .stick Code.absY, .new Code.absZ 0 255, .stick Code.absRX,
    .stick Code.absRY, .new Code.absRZ 0 255, .new Code.absHat0X (-1) 1, .new Code.absHat0Y (-1) 1]

def spec (g : Gamepad) : DeviceSpec :=
  axes.foldl DeviceSpec.addAbs ((DeviceSpec.named g.deviceName).addKeys keys)

/-- The hat at the end of a frame. -/
def sweepHat (g : Gamepad) (live : Live) : RegionMap TouchButton × List (TouchButton × Bool) :=
  let l := g.layout
  if live.held l.touchLeft && live.held l.clickLeft then
    let (x, y) := live.position l.leftPadX l.leftPadY l.yAxisDown
    g.hat.update x y
  else g.hat.release

def handle (g : Gamepad) (e : Event) (live : Live) : Gamepad × Response :=
  if e.channel.kind = .key ∨ e.channel.kind = .abs then
    let (remapper, events) := g.remapper.dispatch e live
    ({ g with remapper }, .ofEvents events)
  else if e.isReport then
    let (hat, changes) := g.sweepHat live
    ({ g with hat }, TouchButton.fireAll changes ++ .report)
  else (g, {})

def release (g : Gamepad) : Gamepad × Response :=
  let (hat, changes) := g.hat.release
  ({ g with hat }, TouchButton.fireAll changes ++ .ofEvents g.remapper.releaseAll ++ .report)

end Gamepad

end ControllerRemap
