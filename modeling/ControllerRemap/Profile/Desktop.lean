import ControllerRemap.Device.Spec
import ControllerRemap.Motion.ScrollWheel
import ControllerRemap.Profile.Build
import ControllerRemap.Profile.TouchButton

/-! Keyboard and mouse. Buttons are keys and mouse buttons, the stick holds the arrow
keys, and circling a finger on the left pad turns the wheel. -/

namespace ControllerRemap

structure Desktop where
  deviceName : String
  layout : Layout
  hapticMagnitude : UInt16
  remapper : Remapper
  arrows : RegionMap TouchButton
  wheel : ScrollWheel

namespace Desktop

def rules (l : Layout) : List Rule :=
  [.plain l.btnA (.key Code.keyEnter),
    .plain l.btnB (.key Code.keySpace),
    .plain l.btnX (.key Code.keyPageUp),
    .plain l.btnY (.key Code.keyPageDown),
    .plain l.shoulderLeft (.key Code.keyLeftCtrl),
    .plain l.shoulderRight (.key Code.keyLeftAlt),
    .plain l.triggerLeft (.key Code.btnRight),
    .plain l.triggerRight (.key Code.btnLeft),
    .plain l.gripLeft (.key Code.btnSide),
    .plain l.gripRight (.key Code.btnExtra),
    .plain l.select (.key Code.keyTab),
    .plain l.mode (.key Code.keyLeftMeta),
    .plain l.start (.key Code.keyEsc),
    { source := l.clickLeft, target := .key Code.btnMiddle,
      modifiers := [{ source := l.touchLeft, min := some 1 }] },
    .plain l.clickRight (.key Code.keyLeftShift)]

/-- The arrow keys in the order of the slices. -/
def arrowKeys : List UInt16 := [Code.keyRight, Code.keyUp, Code.keyLeft, Code.keyDown]

def arrowButtons (magnitude : UInt16) : List TouchButton :=
  arrowKeys.map fun code =>
    { target := .key code, value := 1, haptic := some (.left, magnitude) }

def new (c : Config) (live : Live) : Except ProfileError Desktop := do
  return {
    deviceName := c.outputName.getD "padmap Desktop"
    layout := c.layout
    hapticMagnitude := c.pad.hapticMagnitude
    remapper := ← Remapper.ofRules (rules c.layout) live
    arrows := fourWayPad c.pad.minRadius (arrowButtons c.pad.hapticMagnitude)
    wheel := .new c.pad.scrollStep }

def spec (d : Desktop) : DeviceSpec :=
  (((DeviceSpec.named d.deviceName).addKeys arrowKeys).addRel Code.relWheel).channels .stick
    d.remapper.targets

/-- Ticks of the wheel, with a train of pulses. -/
def ticks (magnitude : UInt16) (n : Int32) : Response :=
  if n = 0 then {}
  else { events := [⟨.rel Code.relWheel, n⟩],
         pulses := [.train .left magnitude (Pulse.countOf n)] }

/-- The wheel at the end of a frame; it is engaged while the left pad is touched. -/
def scroll (d : Desktop) (live : Live) : ScrollWheel × Response :=
  let l := d.layout
  if live.held l.touchLeft then
    let (x, y) := live.position l.leftPadX l.leftPadY l.yAxisDown
    let (wheel, n) := d.wheel.update x y
    (wheel, ticks d.hapticMagnitude n)
  else (d.wheel.release, {})

def handle (d : Desktop) (e : Event) (live : Live) : Desktop × Response :=
  if e.channel.kind = .key then
    let (remapper, events) := d.remapper.dispatch e live
    ({ d with remapper }, .ofEvents events)
  else if e.isReport then
    let (x, y) := live.position d.layout.stickX d.layout.stickY d.layout.yAxisDown
    let (arrows, changes) := d.arrows.update x y
    let (wheel, scrolled) := d.scroll live
    ({ d with arrows, wheel }, TouchButton.fireAll changes ++ scrolled ++ .report)
  else (d, {})

def release (d : Desktop) : Desktop × Response :=
  let (arrows, changes) := d.arrows.release
  ({ d with arrows, wheel := d.wheel.release },
    TouchButton.fireAll changes ++ .ofEvents d.remapper.releaseAll ++ .report)

end Desktop

end ControllerRemap
