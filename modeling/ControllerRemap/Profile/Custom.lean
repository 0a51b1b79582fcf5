import ControllerRemap.Device.Spec
import ControllerRemap.Profile.Build
import ControllerRemap.Profile.TouchButton

/-! The profile that the configuration spells out. Its rules forward events as they
come, and its regions are tested at the end of every frame in the order of the
configuration, each on its own surface and while its own button is held. -/

namespace ControllerRemap

/-- A touch button with its surface. -/
structure PlacedButton where
  x : Channel
  y : Channel
  whileHeld : Option Channel
  button : TouchButton
  deriving DecidableEq

structure Custom where
  deviceName : String
  yAxisDown : Bool
  axes : List AbsAxis
  remapper : Remapper
  regions : RegionMap PlacedButton

namespace Custom

/-- The region of an entry, clicking at a given strength. -/
def place (magnitude : UInt16) (r : RegionEntry) : Region PlacedButton where
  shape := r.shape
  action := {
    x := r.x
    y := r.y
    whileHeld := r.whileHeld
    button := { target := r.target, value := r.value, haptic := r.haptic.map (·, magnitude) } }

def new (c : Config) (live : Live) : Except ProfileError Custom := do
  return {
    deviceName := c.outputName.getD "padmap Custom Device"
    yAxisDown := c.layout.yAxisDown
    axes := c.axes.map fun a => .new a.axis.code a.min a.max
    remapper := ← Remapper.ofRules (c.rules.map (·.rule)) live
    regions := ⟨c.regions.map (place c.pad.hapticMagnitude)⟩ }

/-- The range of the first axis entry with a code. -/
def axis (p : Custom) (code : UInt16) : AbsAxis :=
  (p.axes.find? (·.code == code)).getD (.full code)

/-- The channels that rules and regions send on. -/
def targets (p : Custom) : List Channel :=
  p.remapper.targets ++ p.regions.regions.map (·.action.button.target)

def spec (p : Custom) : DeviceSpec := (DeviceSpec.named p.deviceName).channels p.axis p.targets

/-- Where the surface of a button is touched, if the button counts at all. -/
def locate (yAxisDown : Bool) (live : Live) (b : PlacedButton) : Option (Float × Float) :=
  if b.whileHeld.all live.held then some (live.position b.x b.y yAxisDown) else none

/-- Fires the placed buttons of changed regions. -/
def fireAll (changes : List (PlacedButton × Bool)) : Response :=
  TouchButton.fireAll (changes.map fun (b, pressed) => (b.button, pressed))

def handle (p : Custom) (e : Event) (live : Live) : Custom × Response :=
  if e.channel.kind = .syn then
    if e.isReport then
      let (regions, changes) := p.regions.updateEach (locate p.yAxisDown live)
      ({ p with regions }, fireAll changes ++ .report)
    else (p, {})
  else
    let (remapper, events) := p.remapper.dispatch e live
    ({ p with remapper }, .ofEvents events)

def release (p : Custom) : Custom × Response :=
  let (regions, changes) := p.regions.release
  ({ p with regions }, fireAll changes ++ .ofEvents p.remapper.releaseAll ++ .report)

end Custom

end ControllerRemap
