import ControllerRemap.Config.Basic
import ControllerRemap.Toml.Choice
import ControllerRemap.Toml.Document

/-! Decoding a configuration from the tables of a document, and the names that its
settings have there. -/

namespace ControllerRemap.Config

open Toml

/-! ### Geometry -/

def decodePoint : Decoder (Float × Float) :=
  Decoder.tuple 2 fun
    | [x, y] => some (x, y)
    | _ => none

def decodeCorners : Decoder Corners :=
  Decoder.tuple 4 fun
    | [x0, y0, x1, y1] => some ⟨x0, y0, x1, y1⟩
    | _ => none

def angleFields : Fields (AngleRange Float) :=
  AngleRange.mk <$> .required "min" Decoder.float <*> .required "max" Decoder.float

def rectFields : Fields Shape :=
  Shape.rect <$> .optional "min_x" Decoder.float <*> .optional "max_x" Decoder.float
    <*> .optional "min_y" Decoder.float <*> .optional "max_y" Decoder.float

def circleFields : Fields Shape :=
  Shape.circle <$> .required "center_x" Decoder.float <*> .required "center_y" Decoder.float
    <*> .required "radius" Decoder.float

def polarFields : Fields Shape :=
  Shape.polar <$> .optional "min_r" Decoder.float <*> .optional "max_r" Decoder.float
    <*> .optional "angle" (angleFields.record "AngleRange" true)

def decodeShape : Decoder Shape :=
  Decoder.tagged "Shape" "type" [
    ("Rect", .fields "Shape::Rect" rectFields),
    ("Circle", .fields "Shape::Circle" circleFields),
    ("Polar", .fields "Shape::Polar" polarFields)]

/-! ### Filters -/

def decodeFilterRule : Decoder FilterRule :=
  Decoder.tagged "FilterRule" "match" [
    ("type", .fields "FilterRule::Type" (FilterRule.kind <$> .required "event_type" Decoder.kind)),
    ("code", .fields "FilterRule::Code" (FilterRule.channel <$> .required "code" Decoder.channel)),
    ("code_range", .fields "FilterRule::CodeRange" (FilterRule.range
      <$> .required "min" Decoder.channel <*> .required "max" Decoder.channel))]

def filterFields : Fields Filter :=
  Filter.mk <$> .orElse "rules" (Decoder.list decodeFilterRule) []
    <*> .orElse "inverted" Decoder.boolean false

/-! ### Rules, regions and axes -/

def linearFields : Fields Formula :=
  Formula.linear <$> .required "mult" Decoder.int32 <*> .required "div" Decoder.int32
    <*> .orElse "offset" Decoder.int32 0

def decodeFormula : Decoder Formula :=
  Decoder.tagged "TransformConfig" "type" [
    ("Identity", .bare .identity),
    ("Negate", .bare .negate),
    ("Linear", .fields "TransformConfig::Linear" linearFields)]

def modifierFields : Fields Modifier :=
  Modifier.mk <$> .required "code" Decoder.channel <*> .optional "min" Decoder.int32
    <*> .optional "max" Decoder.int32

def ruleFields : Fields RuleEntry :=
  RuleEntry.mk <$> .required "source" Decoder.channel <*> .required "target" Decoder.channel
    <*> .orElse "transform" decodeFormula .identity
    <*> .orElse "modifiers" (Decoder.list (modifierFields.record "ModifierConfig" false)) []
    <*> .orElse "release_value" Decoder.int32 0

def decodeActuator : Decoder Actuator :=
  Decoder.choice [("left", .left), ("right", .right)]

def regionFields : Fields RegionEntry :=
  RegionEntry.mk <$> .required "x" Decoder.channel <*> .required "y" Decoder.channel
    <*> .optional "while_held" Decoder.channel
    <*> .required "shape" decodeShape
    <*> .required "target" Decoder.channel
    <*> .orElse "value" Decoder.int32 1
    <*> .optional "haptic" decodeActuator

def axisFields : Fields AxisEntry :=
  AxisEntry.mk <$> .required "code" Decoder.channel <*> .required "min" Decoder.int32
    <*> .required "max" Decoder.int32

/-! ### Sections -/

/-- A setting that names a channel. -/
def control (name : String) (standard : Channel) : Fields Channel :=
  .orElse name Decoder.channel standard

def layoutFields : Fields Layout :=
  let d : Layout := {}
  Layout.mk <$> control "btn_a" d.btnA <*> control "btn_b" d.btnB
    <*> control "btn_x" d.btnX <*> control "btn_y" d.btnY
    <*> control "shoulder_left" d.shoulderLeft <*> control "shoulder_right" d.shoulderRight
    <*> control "trigger_left" d.triggerLeft <*> control "trigger_right" d.triggerRight
    <*> control "grip_left" d.gripLeft <*> control "grip_right" d.gripRight
    <*> control "select" d.select <*> control "start" d.start <*> control "mode" d.mode
    <*> control "click_left" d.clickLeft <*> control "click_right" d.clickRight
    <*> control "touch_left" d.touchLeft <*> control "touch_right" d.touchRight
    <*> control "stick_x" d.stickX <*> control "stick_y" d.stickY
    <*> control "left_pad_x" d.leftPadX <*> control "left_pad_y" d.leftPadY
    <*> control "right_pad_x" d.rightPadX <*> control "right_pad_y" d.rightPadY
    <*> control "trigger_left_axis" d.triggerLeftAxis
    <*> control "trigger_right_axis" d.triggerRightAxis
    <*> .orElse "y_axis_down" Decoder.boolean d.yAxisDown

def padFields : Fields PadSettings :=
  let d : PadSettings := {}
  PadSettings.mk <$> .orElse "min_radius" Decoder.float d.minRadius
    <*> .orElse "scroll_step" Decoder.float d.scrollStep
    <*> .orElse "haptic_magnitude" Decoder.uint16 d.hapticMagnitude

def gyroFields : Fields GyroSettings :=
  let d : GyroSettings := {}
  GyroSettings.mk <$> .orElse "step" Decoder.float d.step
    <*> .orElse "haptic_magnitude" Decoder.uint16 d.hapticMagnitude
    <*> .optional "qw" Decoder.channel <*> .optional "qx" Decoder.channel
    <*> .optional "qy" Decoder.channel <*> .optional "qz" Decoder.channel

def tabletFields : Fields TabletSettings :=
  let d : TabletSettings := {}
  TabletSettings.mk <$> .orElse "screen_size" decodePoint d.screenSize
    <*> .orElse "screen_region" decodeCorners d.screenRegion
    <*> .orElse "input_region" decodeCorners d.inputRegion

def rumbleFields : Fields Rumble :=
  Rumble.mk <$> .required "strong" Decoder.uint16 <*> .required "weak" Decoder.uint16
    <*> .required "length_ms" Decoder.uint16

def envelopeFields : Fields Envelope :=
  Envelope.mk <$> .required "magnitude" Decoder.uint16
    <*> .orElse "attack_length" Decoder.uint16 0 <*> .orElse "attack_level" Decoder.uint16 0
    <*> .orElse "fade_length" Decoder.uint16 0 <*> .orElse "fade_level" Decoder.uint16 0
    <*> .required "replay_length" Decoder.uint16 <*> .required "period" Decoder.uint16

def hapticFields : Fields HapticSettings :=
  let d : HapticSettings := {}
  HapticSettings.mk <$> .orElse "gain" Decoder.float d.gain
    <*> .optional "startup" (rumbleFields.record "Rumble" false)
    <*> .optional "effect" (envelopeFields.record "PeriodicEnvelope" false)

/-! ### The whole -/

def decodeProfile : Decoder ProfileKind :=
  Decoder.choice (ProfileKind.all.map fun k => (k.name, k))

def fields : Fields Config :=
  let d : Config := {}
  Config.mk <$> .optional "device" (Decoder.text "path string")
    <*> .orElse "grab" Decoder.boolean d.grab
    <*> .orElse "profile" decodeProfile d.profile
    <*> .optional "output_name" Decoder.string
    <*> .optional "filter" (filterFields.record "EventFilter" false)
    <*> .orElse "layout" (layoutFields.record "ControllerLayout" false) d.layout
    <*> .orElse "dpad" (padFields.record "DpadConfig" false) d.pad
    <*> .orElse "gyro" (gyroFields.record "GyroConfig" false) d.gyro
    <*> .orElse "tablet" (tabletFields.record "TabletConfig" false) d.tablet
    <*> .orElse "haptics" (hapticFields.record "HapticsConfig" false) d.haptics
    <*> .orElse "rules" (Decoder.list (ruleFields.record "RuleConfig" false)) []
    <*> .orElse "regions" (Decoder.list (regionFields.record "RegionConfig" false)) []
    <*> .orElse "axes" (Decoder.list (axisFields.record "AxisRangeConfig" false)) []

def ofTable (t : Table) : Except DecodeError Config := fields.ofTable t

/-- Why a text is not a configuration. -/
inductive ReadError where
  | notToml
  | decode (error : DecodeError)

/-- Reads a configuration from the text of a document. -/
def parse (text : String) : Except ReadError Config :=
  match Toml.read text.toList with
  | some t => (ofTable t).mapError .decode
  | none => .error .notToml

end ControllerRemap.Config
