import ControllerRemap.Config.Basic
import ControllerRemap.Device.Spec
import ControllerRemap.Profile.TouchButton
import ControllerRemap.Surface.TouchMapper

/-! The right pad as an absolute pointer. A stroke lasts from the first frame with a
touch to the event that ends the touch. -/

namespace ControllerRemap

structure Tablet where
  deviceName : String
  layout : Layout
  mapper : TouchMapper

/-- The mapping of the settings, with no finger on the pad. -/
def TabletSettings.mapper (t : TabletSettings) : TouchMapper where
  x := ⟨t.inputRegion.x0, t.inputRegion.x1, t.screenRegion.x0, t.screenRegion.x1, t.screenSize.1⟩
  y := ⟨t.inputRegion.y0, t.inputRegion.y1, t.screenRegion.y0, t.screenRegion.y1, t.screenSize.2⟩

namespace Tablet

def new (c : Config) : Tablet where
  deviceName := c.outputName.getD "padmap Tablet"
  layout := c.layout
  mapper := c.tablet.mapper

def spec (t : Tablet) : DeviceSpec :=
  (DeviceSpec.named t.deviceName).channels .full TouchMapper.targets

/-- The second screen axis grows downward. -/
def handle (t : Tablet) (e : Event) (live : Live) : Except Fault (Tablet × Response) :=
  let l := t.layout
  if e.channel.kind = .key then
    if e.channel = l.touchRight ∧ e.value = 0 then
      let (mapper, events) := t.mapper.release
      .ok ({ t with mapper }, .ofEvents events)
    else .ok (t, {})
  else if e.isReport && live.held l.touchRight then do
    let y := live.number l.rightPadY
    let (mapper, events) ← t.mapper.update (live.number l.rightPadX) (if l.yAxisDown then y else -y)
    return ({ t with mapper }, .ofEvents events)
  else .ok (t, {})

def release (t : Tablet) : Tablet × Response :=
  let (mapper, events) := t.mapper.release
  ({ t with mapper }, .ofEvents events)

end Tablet

end ControllerRemap
