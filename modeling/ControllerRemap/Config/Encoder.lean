import ControllerRemap.Config.Basic
import ControllerRemap.Event.Name
import ControllerRemap.Toml.Printer

/-! Encoding a configuration as the tables of a document. Every setting is written, the
defaults too; only absent values and empty lists of rules, regions, axes and
modifiers are left out. -/

namespace ControllerRemap.Config

open Toml

/-! ### Entries -/

def entry (name : String) (v : Value) : Table := [(name, v)]

/-- An entry for a value that is there. -/
def entry? {α : Type} (name : String) (encode : α → Value) : Option α → Table
  | some a => entry name (encode a)
  | none => []

def list {α : Type} (encode : α → Value) (as : List α) : Value := .array .bracketed (as.map encode)

/-- An entry for a list that is not empty. -/
def listEntry? {α : Type} (name : String) (encode : α → Value) (as : List α) : Table :=
  if as.isEmpty then [] else entry name (list encode as)

def ofInt32 (v : Int32) : Value := .integer v.toInt

def ofUInt16 (v : UInt16) : Value := .integer v.toNat

def ofChannel (c : Channel) : Value := .string c.text

/-- A type without a tag of its own is written as its number. -/
def ofKind (k : Kind) : Value :=
  if k.tag = "EV" then ofUInt16 k.number else .string k.tag

/-! ### Geometry -/

def ofPoint (p : Float × Float) : Value := .array .bracketed [.float p.1, .float p.2]

def ofCorners (c : Corners) : Value :=
  .array .bracketed [.float c.x0, .float c.y0, .float c.x1, .float c.y1]

def ofAngle (r : AngleRange Float) : Value :=
  .table (entry "min" (.float r.min) ++ entry "max" (.float r.max))

def ofShape : Shape → Value
  | .rect minX maxX minY maxY => .table (entry "type" (.string "Rect")
      ++ entry? "min_x" .float minX ++ entry? "max_x" .float maxX
      ++ entry? "min_y" .float minY ++ entry? "max_y" .float maxY)
  | .circle x y r => .table (entry "type" (.string "Circle")
      ++ entry "center_x" (.float x) ++ entry "center_y" (.float y) ++ entry "radius" (.float r))
  | .polar minR maxR angle => .table (entry "type" (.string "Polar")
      ++ entry? "min_r" .float minR ++ entry? "max_r" .float maxR ++ entry? "angle" ofAngle angle)

/-! ### Filters -/

def ofFilterRule : FilterRule → Value
  | .kind k => .table (entry "match" (.string "type") ++ entry "event_type" (ofKind k))
  | .channel c => .table (entry "match" (.string "code") ++ entry "code" (ofChannel c))
  | .range low high => .table (entry "match" (.string "code_range")
      ++ entry "min" (ofChannel low) ++ entry "max" (ofChannel high))

def ofFilter (f : Filter) : Value :=
  .table (entry "rules" (list ofFilterRule f.rules) ++ entry "inverted" (.boolean f.inverted))

/-! ### Rules, regions and axes -/

def ofFormula : Formula → Value
  | .identity => .table (entry "type" (.string "Identity"))
  | .negate => .table (entry "type" (.string "Negate"))
  | .linear mult div offset => .table (entry "type" (.string "Linear")
      ++ entry "mult" (ofInt32 mult) ++ entry "div" (ofInt32 div) ++ entry "offset" (ofInt32 offset))

def ofModifier (m : Modifier) : Value :=
  .table (entry "code" (ofChannel m.source) ++ entry? "min" ofInt32 m.min
    ++ entry? "max" ofInt32 m.max)

def ofRule (r : RuleEntry) : Value :=
  .table (entry "source" (ofChannel r.source) ++ entry "target" (ofChannel r.target)
    ++ entry "transform" (ofFormula r.transform)
    ++ listEntry? "modifiers" ofModifier r.modifiers
    ++ entry "release_value" (ofInt32 r.releaseValue))

def ofActuator : Actuator → Value
  | .left => .string "left"
  | .right => .string "right"

def ofRegion (r : RegionEntry) : Value :=
  .table (entry "x" (ofChannel r.x) ++ entry "y" (ofChannel r.y)
    ++ entry? "while_held" ofChannel r.whileHeld
    ++ entry "shape" (ofShape r.shape)
    ++ entry "target" (ofChannel r.target)
    ++ entry "value" (ofInt32 r.value)
    ++ entry? "haptic" ofActuator r.haptic)

def ofAxis (a : AxisEntry) : Value :=
  .table (entry "code" (ofChannel a.axis) ++ entry "min" (ofInt32 a.min)
    ++ entry "max" (ofInt32 a.max))

/-! ### Sections -/

def ofLayout (l : Layout) : Value :=
  let control (name : String) (c : Channel) := entry name (ofChannel c)
  .table (control "btn_a" l.btnA ++ control "btn_b" l.btnB
    ++ control "btn_x" l.btnX ++ control "btn_y" l.btnY
    ++ control "shoulder_left" l.shoulderLeft ++ control "shoulder_right" l.shoulderRight
    ++ control "trigger_left" l.triggerLeft ++ control "trigger_right" l.triggerRight
    ++ control "grip_left" l.gripLeft ++ control "grip_right" l.gripRight
    ++ control "select" l.select ++ control "start" l.start ++ control "mode" l.mode
    ++ control "click_left" l.clickLeft ++ control "click_right" l.clickRight
    ++ control "touch_left" l.touchLeft ++ control "touch_right" l.touchRight
    ++ control "stick_x" l.stickX ++ control "stick_y" l.stickY
    ++ control "left_pad_x" l.leftPadX ++ control "left_pad_y" l.leftPadY
    ++ control "right_pad_x" l.rightPadX ++ control "right_pad_y" l.rightPadY
    ++ control "trigger_left_axis" l.triggerLeftAxis
    ++ control "trigger_right_axis" l.triggerRightAxis
    ++ entry "y_axis_down" (.boolean l.yAxisDown))

def ofPad (p : PadSettings) : Value :=
  .table (entry "min_radius" (.float p.minRadius) ++ entry "scroll_step" (.float p.scrollStep)
    ++ entry "haptic_magnitude" (ofUInt16 p.hapticMagnitude))

def ofGyro (g : GyroSettings) : Value :=
  .table (entry "step" (.float g.step) ++ entry "haptic_magnitude" (ofUInt16 g.hapticMagnitude)
    ++ entry? "qw" ofChannel g.qw ++ entry? "qx" ofChannel g.qx
    ++ entry? "qy" ofChannel g.qy ++ entry? "qz" ofChannel g.qz)

def ofTablet (t : TabletSettings) : Value :=
  .table (entry "screen_size" (ofPoint t.screenSize)
    ++ entry "screen_region" (ofCorners t.screenRegion)
    ++ entry "input_region" (ofCorners t.inputRegion))

def ofRumble (r : Rumble) : Value :=
  .table (entry "strong" (ofUInt16 r.strong) ++ entry "weak" (ofUInt16 r.weak)
    ++ entry "length_ms" (ofUInt16 r.length))

def ofEnvelope (e : Envelope) : Value :=
  .table (entry "magnitude" (ofUInt16 e.magnitude)
    ++ entry "attack_length" (ofUInt16 e.attackLength)
    ++ entry "attack_level" (ofUInt16 e.attackLevel)
    ++ entry "fade_length" (ofUInt16 e.fadeLength) ++ entry "fade_level" (ofUInt16 e.fadeLevel)
    ++ entry "replay_length" (ofUInt16 e.replayLength) ++ entry "period" (ofUInt16 e.period))

def ofHaptics (h : HapticSettings) : Value :=
  .table (entry "gain" (.float h.gain) ++ entry? "startup" ofRumble h.startup
    ++ entry? "effect" ofEnvelope h.effect)

/-! ### The whole -/

/-- The entries of a configuration in a document. -/
def toTable (c : Config) : Table :=
  entry? "device" .string c.device
    ++ entry "grab" (.boolean c.grab)
    ++ entry "profile" (.string c.profile.name)
    ++ entry? "output_name" .string c.outputName
    ++ entry? "filter" ofFilter c.filter
    ++ entry "layout" (ofLayout c.layout)
    ++ entry "dpad" (ofPad c.pad)
    ++ entry "gyro" (ofGyro c.gyro)
    ++ entry "tablet" (ofTablet c.tablet)
    ++ entry "haptics" (ofHaptics c.haptics)
    ++ listEntry? "rules" ofRule c.rules
    ++ listEntry? "regions" ofRegion c.regions
    ++ listEntry? "axes" ofAxis c.axes

/-- The text of a configuration. -/
def text (c : Config) : String := String.ofList (Toml.render c.toTable)

end ControllerRemap.Config
