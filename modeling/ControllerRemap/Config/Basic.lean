import ControllerRemap.Event.Code
import ControllerRemap.Event.Filter
import ControllerRemap.Haptic.Effect
import ControllerRemap.Remap.Rule
import ControllerRemap.Surface.Shape

/-! The configuration of the program, with a default for everything that a document may
leave out. Two configurations are equal if their parts are, numbers being compared
as numbers; so a configuration that holds a NaN differs from itself. -/

namespace ControllerRemap

/-- The behaviours that can drive the virtual device. -/
inductive ProfileKind where
  | gamepad
  | desktop
  | gyroMouse
  | tablet
  | custom
  deriving DecidableEq

namespace ProfileKind

def all : List ProfileKind := [gamepad, desktop, gyroMouse, tablet, custom]

def name : ProfileKind → String
  | gamepad => "gamepad"
  | desktop => "desktop"
  | gyroMouse => "gyro-mouse"
  | tablet => "tablet"
  | custom => "custom"

def ofName? (s : String) : Option ProfileKind := all.find? (·.name == s)

theorem ofName?_name (k : ProfileKind) : ofName? k.name = some k := by cases k <;> decide

end ProfileKind

/-! ### Controls -/

/-- The channel of every control of the controller. -/
structure Layout where
  btnA : Channel := .key Code.btnSouth
  btnB : Channel := .key Code.btnEast
  btnX : Channel := .key Code.btnNorth
  btnY : Channel := .key Code.btnWest
  shoulderLeft : Channel := .key Code.btnTL
  shoulderRight : Channel := .key Code.btnTR
  triggerLeft : Channel := .key Code.btnTL2
  triggerRight : Channel := .key Code.btnTR2
  gripLeft : Channel := .key Code.btnGearDown
  gripRight : Channel := .key Code.btnGearUp
  select : Channel := .key Code.btnSelect
  start : Channel := .key Code.btnStart
  mode : Channel := .key Code.btnMode
  clickLeft : Channel := .key Code.btnThumbL
  clickRight : Channel := .key Code.btnThumbR
  touchLeft : Channel := .key Code.btnThumb
  touchRight : Channel := .key Code.btnThumb2
  stickX : Channel := .abs Code.absX
  stickY : Channel := .abs Code.absY
  leftPadX : Channel := .abs Code.absHat0X
  leftPadY : Channel := .abs Code.absHat0Y
  rightPadX : Channel := .abs Code.absRX
  rightPadY : Channel := .abs Code.absRY
  triggerLeftAxis : Channel := .abs Code.absHat2Y
  triggerRightAxis : Channel := .abs Code.absHat2X
  /-- The controller reports second axes that grow downward. -/
  yAxisDown : Bool := true
  deriving DecidableEq

/-- Settings of the four-way pad and of circular scrolling. -/
structure PadSettings where
  /-- Radius of the dead zone. -/
  minRadius : Float := 8192.0
  /-- Degrees of travel for a tick. -/
  scrollStep : Float := 30.0
  /-- Strength of the pulses. -/
  hapticMagnitude : UInt16 := 0x8000
  deriving BEq

/-- Settings of pointing by orientation. -/
structure GyroSettings where
  /-- Degrees of rotation for a step. -/
  step : Float := 0.05
  hapticMagnitude : UInt16 := 0x40
  qw : Option Channel := none
  qx : Option Channel := none
  qy : Option Channel := none
  qz : Option Channel := none
  deriving BEq

/-- The corners of a rectangle. -/
structure Corners where
  x0 : Float
  y0 : Float
  x1 : Float
  y1 : Float
  deriving BEq

/-- Settings of the absolute pointer; the default input region leaves out the corners
that a round pad does not have. -/
structure TabletSettings where
  screenSize : Float × Float := (1920.0, 1080.0)
  screenRegion : Corners := ⟨0.0, 0.0, 1920.0, 1080.0⟩
  inputRegion : Corners := ⟨-20000.0, -20000.0, 20000.0, 20000.0⟩
  deriving BEq

structure HapticSettings where
  gain : Float := 1.0
  /-- Played once at the start. -/
  startup : Option Rumble := none
  /-- Played on request. -/
  effect : Option Envelope := none
  deriving BEq

/-! ### Custom behaviour -/

/-- A rule of the custom profile. -/
structure RuleEntry where
  source : Channel
  target : Channel
  transform : Formula := .identity
  modifiers : List Modifier := []
  releaseValue : Int32 := 0
  deriving DecidableEq

def RuleEntry.rule (e : RuleEntry) : Rule where
  source := e.source
  target := e.target
  transform := .formula e.transform
  modifiers := e.modifiers
  releaseValue := e.releaseValue

/-- A touch button of the custom profile. -/
structure RegionEntry where
  x : Channel
  y : Channel
  /-- The region is tested while this button is down. -/
  whileHeld : Option Channel := none
  shape : Shape
  target : Channel
  /-- Sent on entering. -/
  value : Int32 := 1
  haptic : Option Actuator := none
  deriving BEq

/-- The range of an absolute axis of the custom device. -/
structure AxisEntry where
  axis : Channel
  min : Int32
  max : Int32
  deriving DecidableEq

/-! ### The whole -/

structure Config where
  /-- The device file of the controller. -/
  device : Option String := none
  /-- Take the controller away from other programs. -/
  grab : Bool := true
  profile : ProfileKind := .gamepad
  outputName : Option String := none
  filter : Option Filter := none
  layout : Layout := {}
  pad : PadSettings := {}
  gyro : GyroSettings := {}
  tablet : TabletSettings := {}
  haptics : HapticSettings := {}
  rules : List RuleEntry := []
  regions : List RegionEntry := []
  axes : List AxisEntry := []
  deriving BEq

/-- The four channels of an orientation. -/
structure OrientationChannels where
  w : Channel
  x : Channel
  y : Channel
  z : Channel
  deriving DecidableEq

def OrientationChannels.toList (q : OrientationChannels) : List Channel := [q.w, q.x, q.y, q.z]

/-- The orientation channels, or the name of the first setting that is missing. -/
def GyroSettings.orientation (g : GyroSettings) : Except String OrientationChannels :=
  match g.qw, g.qx, g.qy, g.qz with
  | some w, some x, some y, some z => .ok ⟨w, x, y, z⟩
  | none, _, _, _ => .error "gyro.qw"
  | _, none, _, _ => .error "gyro.qx"
  | _, _, none, _ => .error "gyro.qy"
  | _, _, _, none => .error "gyro.qz"

end ControllerRemap
