import ControllerRemap.Config.Decoder
import ControllerRemap.Config.Encoder
import ControllerRemap.Proofs.Toml.Decoding
import Mathlib

/-! Decoding an encoded configuration. It comes back if every channel in it is named, and is refused
otherwise. -/

namespace ControllerRemap

open Toml

/-! ### The channels of a configuration -/

def FilterRule.channels : FilterRule → List Channel
  | .kind _ => []
  | .channel c => [c]
  | .range low high => [low, high]

def Filter.channels (f : Filter) : List Channel := f.rules.flatMap FilterRule.channels

def RuleEntry.channels (r : RuleEntry) : List Channel :=
  r.source :: r.target :: r.modifiers.map (·.source)

def RegionEntry.channels (r : RegionEntry) : List Channel :=
  r.x :: r.y :: (r.whileHeld.toList ++ [r.target])

def Layout.channels (l : Layout) : List Channel :=
  [l.btnA, l.btnB, l.btnX, l.btnY, l.shoulderLeft, l.shoulderRight, l.triggerLeft, l.triggerRight,
    l.gripLeft, l.gripRight, l.select, l.start, l.mode, l.clickLeft, l.clickRight, l.touchLeft,
    l.touchRight, l.stickX, l.stickY, l.leftPadX, l.leftPadY, l.rightPadX, l.rightPadY,
    l.triggerLeftAxis, l.triggerRightAxis]

def GyroSettings.channels (g : GyroSettings) : List Channel :=
  g.qw.toList ++ g.qx.toList ++ g.qy.toList ++ g.qz.toList

namespace Config

/-- Every channel that a configuration names. -/
def channels (c : Config) : List Channel :=
  c.filter.toList.flatMap Filter.channels ++ c.layout.channels ++ c.gyro.channels ++
    c.rules.flatMap RuleEntry.channels ++ c.regions.flatMap RegionEntry.channels ++
    c.axes.map (·.axis)

/-! ### Values without fields -/

theorem isScalar_ofInt32 (v : Int32) : (ofInt32 v).IsScalar := by
  have hmin : -2147483648 ≤ v.toInt := v.le_toInt
  have hmax : v.toInt ≤ 2147483647 := v.toInt_le
  exact ⟨by omega, by omega⟩

theorem isScalar_ofUInt16 (n : UInt16) : (ofUInt16 n).IsScalar := by
  have hlt : n.toNat < 65536 := n.toNat_lt
  exact ⟨by omega, by omega⟩

theorem uint16_ofUInt16 (n : UInt16) : Decoder.uint16 (ofUInt16 n) = .ok n := by
  have hlt : n.toNat < 65536 := n.toNat_lt
  rw [ofUInt16, Decoder.uint16, if_pos ⟨by omega, by omega⟩, Int.toNat_natCast, UInt16.ofNat_toNat]

variable {φ : Value → Value} (hφ : Rearrangement φ) {depth : Nat}

section

variable (depth)
include hφ

theorem carries_float (x : Float) : Carries φ depth Decoder.float (.float x) x [] :=
  .of_isScalar hφ trivial (.ok x)

theorem carries_boolean (b : Bool) : Carries φ depth Decoder.boolean (.boolean b) b [] :=
  .of_isScalar hφ trivial (.ok b)

theorem carries_text (expected s : String) : Carries φ depth (Decoder.text expected) (.string s) s [] :=
  .of_isScalar hφ trivial (.ok s)

theorem carries_int32 (v : Int32) : Carries φ depth Decoder.int32 (ofInt32 v) v [] := by
  refine .of_isScalar hφ (isScalar_ofInt32 v) (.of_ok ?_)
  rw [ofInt32, Decoder.int32, if_pos ⟨v.le_toInt, v.toInt_le⟩, Int32.ofInt_toInt]

theorem carries_uint16 (n : UInt16) : Carries φ depth Decoder.uint16 (ofUInt16 n) n [] :=
  .of_isScalar hφ (isScalar_ofUInt16 n) (.of_ok (uint16_ofUInt16 n))

theorem carries_channel (c : Channel) : Carries φ depth Decoder.channel (ofChannel c) c [c] := by
  refine .of_isScalar hφ trivial fun d => ?_
  rw [ofChannel, Decoder.channel, Decoder.ofCode, List.forall_mem_singleton, ← Channel.parse_text]
  cases Channel.parse c.text <;> simp [Except.mapError]

/-- Every event type is written so that it is read back, the unnamed ones as numbers. -/
theorem carries_kind (k : Kind) : Carries φ depth Decoder.kind (ofKind k) k [] := by
  rw [ofKind]
  split
  · refine .of_isScalar hφ (isScalar_ofUInt16 k.number) (.of_ok ?_)
    rw [Decoder.kind, Decoder.KindForm.ofValue?, uint16_ofUInt16]
    · rfl
    · rintro _ ⟨⟩
  · next h =>
    have hkind : Kind.parse k.tag = .ok k :=
      Kind.parse_tag (not_not.mp fun hk => h (Kind.tag_eq_ev_iff.mpr hk))
    refine .of_isScalar hφ trivial (.of_ok ?_)
    change Decoder.ofCode (Kind.parse k.tag) = .ok k
    rw [hkind]
    rfl

theorem carries_actuator (a : Actuator) : Carries φ depth decodeActuator (ofActuator a) a [] := by
  cases a with
  | left => exact .of_isScalar hφ trivial (.of_ok rfl)
  | right => exact .of_isScalar hφ trivial (.of_ok rfl)

theorem carries_profile (p : ProfileKind) :
    Carries φ depth decodeProfile (.string p.name) p [] := by
  refine .of_isScalar hφ trivial (.of_ok ?_)
  cases p <;> rfl

theorem carries_point (p : Float × Float) : Carries φ depth decodePoint (ofPoint p) p [] where
  fits := .inl ⟨rfl, by simp [Value.IsScalar]⟩
  recovers := by
    obtain ⟨form, hform⟩ := hφ.array .bracketed [.float p.1, .float p.2]
    refine .of_ok ?_
    rw [ofPoint, hform]
    simp only [List.map_cons, List.map_nil, hφ.scalar (v := .float _) trivial]
    rfl

theorem carries_corners (c : Corners) : Carries φ depth decodeCorners (ofCorners c) c [] where
  fits := .inl ⟨rfl, by simp [Value.IsScalar]⟩
  recovers := by
    obtain ⟨form, hform⟩ := hφ.array .bracketed [.float c.x0, .float c.y0, .float c.x1, .float c.y1]
    refine .of_ok ?_
    rw [ofCorners, hform]
    simp only [List.map_cons, List.map_nil, hφ.scalar (v := .float _) trivial]
    rfl

end

/-! ### Entries that may be absent -/

theorem flatMap_nil {α : Type} (as : List α) : as.flatMap (fun _ => ([] : List Channel)) = [] :=
  List.flatMap_eq_nil_iff.mpr fun _ _ => rfl

section

variable {α : Type} {decode : Decoder α} {encode : α → Value} {cs : α → List Channel}

theorem spells_optional (h : ∀ a, Carries φ depth decode (encode a) a (cs a)) (name : String)
    (o : Option α) :
    Spells φ depth (.optional name decode) o ( entry? name encode o) (o.toList.flatMap cs) := by
  cases o with
  | none => exact .absent name _ none
  | some a => exact (Spells.single name (h a).some _).of_eq (List.append_nil (cs a)).symm

include hφ

theorem spells_list (htable : ∀ a, (encode a).isTable = true)
    (h : ∀ a, Carries φ depth decode (encode a) a (cs a)) (name : String) (as : List α) :
    Spells φ depth (.orElse name (Decoder.list decode) []) as ( listEntry? name encode as)
      (as.flatMap cs) := by
  cases as with
  | nil => exact .absent name _ []
  | cons a as => exact .single name (Decoder.carries_list hφ htable h (a :: as)) _

end

/-! ### Geometry -/

section

include hφ

theorem carries_angle (r : AngleRange Float) :
    Carries φ (depth + 1) (angleFields.record "AngleRange" true) (ofAngle r) r [] := by
  have hfloat := carries_float hφ depth
  have hfields : Spells φ depth angleFields r _ _ :=
    Spells.single _ (hfloat r.min) _ |>.map AngleRange.mk |>.seq (.single _ (hfloat r.max) _)
  exact hfields.record hφ (by decide) rfl _ _

theorem carries_shape (s : Shape) : Carries φ (depth + 2) decodeShape (ofShape s) s [] := by
  have hfloat := carries_float hφ (depth + 1)
  cases s with
  | rect minX maxX minY maxY =>
    have hfields : Spells φ (depth + 1) rectFields (.rect minX maxX minY maxY) _ _ :=
      spells_optional hfloat "min_x" minX |>.map Shape.rect
        |>.seq (spells_optional hfloat "max_x" maxX) |>.seq (spells_optional hfloat "min_y" minY)
        |>.seq (spells_optional hfloat "max_y" maxY)
    exact Decoder.carries_fields hφ rfl (hfields.of_eq (by simp)) (by decide)
  | circle x y r =>
    have hfields : Spells φ (depth + 1) circleFields (.circle x y r) _ _ :=
      Spells.single _ (hfloat x) _ |>.map Shape.circle
        |>.seq (.single _ (hfloat y) _) |>.seq (.single _ (hfloat r) _)
    exact Decoder.carries_fields hφ rfl hfields (by decide)
  | polar minR maxR angle =>
    have hfields : Spells φ (depth + 1) polarFields (.polar minR maxR angle) _ _ :=
      spells_optional hfloat "min_r" minR |>.map Shape.polar
        |>.seq (spells_optional hfloat "max_r" maxR)
        |>.seq (spells_optional (carries_angle hφ) "angle" angle)
    exact Decoder.carries_fields hφ rfl (hfields.of_eq (by simp)) (by decide)

/-! ### Filters -/

theorem carries_filterRule (r : FilterRule) :
    Carries φ (depth + 1) decodeFilterRule (ofFilterRule r) r r.channels := by
  have hchannel := carries_channel hφ depth
  cases r with
  | kind k =>
    have hfields := (Spells.required "event_type" (carries_kind hφ depth k)).map FilterRule.kind
    exact Decoder.carries_fields hφ rfl hfields (by decide)
  | channel c =>
    have hfields := (Spells.required "code" (hchannel c)).map FilterRule.channel
    exact Decoder.carries_fields hφ rfl hfields (by decide)
  | range low high =>
    have hfields := Spells.required "min" (hchannel low) |>.map FilterRule.range
      |>.seq (Spells.required "max" (hchannel high))
    exact Decoder.carries_fields hφ rfl hfields (by decide)

theorem carries_filter (f : Filter) :
    Carries φ (depth + 2) (filterFields.record "EventFilter" false) (ofFilter f) f f.channels := by
  have hrules : Carries φ (depth + 1) (Decoder.list decodeFilterRule) _ _ _ :=
    Decoder.carries_list hφ (fun r => by cases r <;> rfl) (carries_filterRule hφ) f.rules
  have hinverted := carries_boolean hφ (depth + 1) f.inverted
  have hfields : Spells φ (depth + 1) filterFields f _ _ :=
    Spells.single _ hrules _ |>.map Filter.mk |>.seq (.single _ hinverted _)
  exact (hfields.of_eq (List.append_nil _)).record hφ (by decide) (by simp [Value.hasSection]) _ _

/-! ### Rules, regions and axes -/

theorem carries_formula (f : Formula) : Carries φ (depth + 1) decodeFormula (ofFormula f) f [] := by
  have hint := carries_int32 hφ depth
  cases f with
  | identity => exact Decoder.carries_bare hφ rfl rfl
  | negate => exact Decoder.carries_bare hφ rfl rfl
  | linear mult div offset =>
    have hfields : Spells φ depth linearFields (.linear mult div offset) _ _ :=
      Spells.single _ (hint mult) _ |>.map Formula.linear
        |>.seq (.single _ (hint div) _) |>.seq (.single _ (hint offset) _)
    exact Decoder.carries_fields hφ rfl hfields (by decide)

theorem carries_modifier (m : Modifier) :
    Carries φ (depth + 1) (modifierFields.record "ModifierConfig" false) (ofModifier m) m [m.source] := by
  have hint := carries_int32 hφ depth
  have hfields : Spells φ depth modifierFields m _ _ :=
    Spells.single _ (carries_channel hφ _ m.source) _ |>.map Modifier.mk
      |>.seq (spells_optional hint "min" m.min) |>.seq (spells_optional hint "max" m.max)
  exact (hfields.of_eq (by simp)).record hφ (by decide) rfl _ _

theorem carries_rule (r : RuleEntry) :
    Carries φ (depth + 2) (ruleFields.record "RuleConfig" false) (ofRule r) r r.channels := by
  have hchannel := carries_channel hφ (depth + 1)
  have hfields : Spells φ (depth + 1) ruleFields r _ _ :=
    Spells.single _ (hchannel r.source) _ |>.map RuleEntry.mk
      |>.seq (.single _ (hchannel r.target) _)
      |>.seq (.single _ (carries_formula hφ r.transform) _)
      |>.seq (spells_list hφ (fun _ => rfl) (carries_modifier hφ) "modifiers" r.modifiers)
      |>.seq (.single _ (carries_int32 hφ _ r.releaseValue) _)
  exact (hfields.of_eq (by simp [RuleEntry.channels, List.map_eq_flatMap])).record hφ (by decide) rfl _ _

theorem carries_region (r : RegionEntry) :
    Carries φ (depth + 3) (regionFields.record "RegionConfig" false) (ofRegion r) r r.channels := by
  have hchannel := carries_channel hφ (depth + 2)
  have hfields : Spells φ (depth + 2) regionFields r _ _ :=
    Spells.single _ (hchannel r.x) _ |>.map RegionEntry.mk |>.seq (.single _ (hchannel r.y) _)
      |>.seq (spells_optional hchannel "while_held" r.whileHeld)
      |>.seq (.single _ (carries_shape hφ r.shape) _) |>.seq (.single _ (hchannel r.target) _)
      |>.seq (.single _ (carries_int32 hφ _ r.value) _)
      |>.seq (spells_optional (carries_actuator hφ _) "haptic" r.haptic)
  exact (hfields.of_eq (by simp [RegionEntry.channels])).record hφ (by decide) rfl _ _

theorem carries_axis (a : AxisEntry) :
    Carries φ (depth + 1) (axisFields.record "AxisRangeConfig" false) (ofAxis a) a [a.axis] := by
  have hint := carries_int32 hφ depth
  have hfields : Spells φ depth axisFields a _ _ :=
    Spells.single _ (carries_channel hφ _ a.axis) _ |>.map AxisEntry.mk
      |>.seq (.single _ (hint a.min) _) |>.seq (.single _ (hint a.max) _)
  exact hfields.record hφ (by decide) rfl _ _

/-! ### Sections -/

theorem spells_control (depth : Nat) (name : String) (c standard : Channel) :
    Spells φ depth (control name standard) c (entry name (ofChannel c)) [c] :=
  .single _ (carries_channel hφ _ c) _

theorem carries_layout (l : Layout) :
    Carries φ (depth + 1) (layoutFields.record "ControllerLayout" false) (ofLayout l) l l.channels := by
  have hcontrol := spells_control hφ depth
  let d : Layout := {}
  have hfields :=
    hcontrol "btn_a" l.btnA d.btnA |>.map Layout.mk
      |>.seq (hcontrol "btn_b" l.btnB d.btnB) |>.seq (hcontrol "btn_x" l.btnX d.btnX)
      |>.seq (hcontrol "btn_y" l.btnY d.btnY)
      |>.seq (hcontrol "shoulder_left" l.shoulderLeft d.shoulderLeft)
      |>.seq (hcontrol "shoulder_right" l.shoulderRight d.shoulderRight)
      |>.seq (hcontrol "trigger_left" l.triggerLeft d.triggerLeft)
      |>.seq (hcontrol "trigger_right" l.triggerRight d.triggerRight)
      |>.seq (hcontrol "grip_left" l.gripLeft d.gripLeft)
      |>.seq (hcontrol "grip_right" l.gripRight d.gripRight)
      |>.seq (hcontrol "select" l.select d.select) |>.seq (hcontrol "start" l.start d.start)
      |>.seq (hcontrol "mode" l.mode d.mode)
      |>.seq (hcontrol "click_left" l.clickLeft d.clickLeft)
      |>.seq (hcontrol "click_right" l.clickRight d.clickRight)
      |>.seq (hcontrol "touch_left" l.touchLeft d.touchLeft)
      |>.seq (hcontrol "touch_right" l.touchRight d.touchRight)
      |>.seq (hcontrol "stick_x" l.stickX d.stickX) |>.seq (hcontrol "stick_y" l.stickY d.stickY)
      |>.seq (hcontrol "left_pad_x" l.leftPadX d.leftPadX)
      |>.seq (hcontrol "left_pad_y" l.leftPadY d.leftPadY)
      |>.seq (hcontrol "right_pad_x" l.rightPadX d.rightPadX)
      |>.seq (hcontrol "right_pad_y" l.rightPadY d.rightPadY)
      |>.seq (hcontrol "trigger_left_axis" l.triggerLeftAxis d.triggerLeftAxis)
      |>.seq (hcontrol "trigger_right_axis" l.triggerRightAxis d.triggerRightAxis)
      |>.seq (.single "y_axis_down" (carries_boolean hφ _ l.yAxisDown) fun _ => .ok d.yAxisDown)
  have hlayout : Spells φ depth layoutFields l _ l.channels :=
    hfields.of_eq (by simp only [Layout.channels, List.cons_append, List.nil_append, List.append_nil])
  exact hlayout.record hφ (by decide) (by simp [entry, ofChannel, Value.hasSection]) _ _

theorem carries_pad (p : PadSettings) :
    Carries φ (depth + 1) (padFields.record "DpadConfig" false) (ofPad p) p [] := by
  have hfloat := carries_float hφ depth
  have hfields : Spells φ depth padFields p _ _ :=
    Spells.single _ (hfloat p.minRadius) _ |>.map PadSettings.mk
      |>.seq (.single _ (hfloat p.scrollStep) _)
      |>.seq (.single _ (carries_uint16 hφ _ p.hapticMagnitude) _)
  exact hfields.record hφ (by decide) rfl _ _

theorem carries_gyro (g : GyroSettings) :
    Carries φ (depth + 1) (gyroFields.record "GyroConfig" false) (ofGyro g) g g.channels := by
  have hchannel := carries_channel hφ depth
  have hfields : Spells φ depth gyroFields g _ _ :=
    Spells.single _ (carries_float hφ _ g.step) _ |>.map GyroSettings.mk
      |>.seq (.single _ (carries_uint16 hφ _ g.hapticMagnitude) _)
      |>.seq (spells_optional hchannel "qw" g.qw) |>.seq (spells_optional hchannel "qx" g.qx)
      |>.seq (spells_optional hchannel "qy" g.qy) |>.seq (spells_optional hchannel "qz" g.qz)
  exact (hfields.of_eq (by simp [GyroSettings.channels])).record hφ (by decide) rfl _ _

theorem carries_tablet (t : TabletSettings) :
    Carries φ (depth + 1) (tabletFields.record "TabletConfig" false) (ofTablet t) t [] := by
  have hcorners := carries_corners hφ depth
  have hfields : Spells φ depth tabletFields t _ _ :=
    Spells.single _ (carries_point hφ _ t.screenSize) _ |>.map TabletSettings.mk
      |>.seq (.single _ (hcorners t.screenRegion) _) |>.seq (.single _ (hcorners t.inputRegion) _)
  exact hfields.record hφ (by decide) rfl _ _

theorem carries_rumble (r : Rumble) :
    Carries φ (depth + 1) (rumbleFields.record "Rumble" false) (ofRumble r) r [] := by
  have hnumber := carries_uint16 hφ depth
  have hfields : Spells φ depth rumbleFields r _ _ :=
    Spells.single _ (hnumber r.strong) _ |>.map Rumble.mk
      |>.seq (.single _ (hnumber r.weak) _) |>.seq (.single _ (hnumber r.length) _)
  exact hfields.record hφ (by decide) rfl _ _

theorem carries_envelope (e : Envelope) :
    Carries φ (depth + 1) (envelopeFields.record "PeriodicEnvelope" false) (ofEnvelope e) e [] := by
  have hnumber := carries_uint16 hφ depth
  have hfields : Spells φ depth envelopeFields e _ _ :=
    Spells.single _ (hnumber e.magnitude) _ |>.map Envelope.mk
      |>.seq (.single _ (hnumber e.attackLength) _) |>.seq (.single _ (hnumber e.attackLevel) _)
      |>.seq (.single _ (hnumber e.fadeLength) _) |>.seq (.single _ (hnumber e.fadeLevel) _)
      |>.seq (.single _ (hnumber e.replayLength) _) |>.seq (.single _ (hnumber e.period) _)
  exact hfields.record hφ (by decide) rfl _ _

theorem carries_haptics (h : HapticSettings) :
    Carries φ (depth + 2) (hapticFields.record "HapticsConfig" false) (ofHaptics h) h [] := by
  have hfields : Spells φ (depth + 1) hapticFields h _ _ :=
    Spells.single _ (carries_float hφ _ h.gain) _ |>.map HapticSettings.mk
      |>.seq (spells_optional (carries_rumble hφ) "startup" h.startup)
      |>.seq (spells_optional (carries_envelope hφ) "effect" h.effect)
  exact (hfields.of_eq (by simp)).record hφ (by decide) rfl _ _

/-! ### The whole -/

theorem spells_toTable (c : Config) : Spells φ (depth + 3) fields c c.toTable c.channels := by
  have hfields : Spells φ (depth + 3) fields c _ _ :=
    spells_optional (carries_text hφ _ "path string") "device" c.device |>.map Config.mk
      |>.seq (.single _ (carries_boolean hφ _ c.grab) _)
      |>.seq (.single _ (carries_profile hφ _ c.profile) _)
      |>.seq (spells_optional (carries_text hφ _ "a string") "output_name" c.outputName)
      |>.seq (spells_optional (carries_filter hφ) "filter" c.filter)
      |>.seq (.single _ (carries_layout hφ c.layout) _)
      |>.seq (.single _ (carries_pad hφ c.pad) _) |>.seq (.single _ (carries_gyro hφ c.gyro) _)
      |>.seq (.single _ (carries_tablet hφ c.tablet) _)
      |>.seq (.single _ (carries_haptics hφ c.haptics) _)
      |>.seq (spells_list hφ (fun _ => rfl) (carries_rule hφ) "rules" c.rules)
      |>.seq (spells_list hφ (fun _ => rfl) (carries_region hφ) "regions" c.regions)
      |>.seq (spells_list hφ (fun _ => rfl) (carries_axis hφ) "axes" c.axes)
  exact hfields.of_eq (by simp [channels, flatMap_nil, List.map_eq_flatMap])

end

theorem nodup_keys_toTable (c : Config) : (keys c.toTable).Nodup :=
  have hspells : Spells Value.arranged 3 fields c c.toTable c.channels :=
    spells_toTable rearrangement_arranged c
  hspells.sublist.nodup (by decide)

/-- The decoder recovers a configuration from every rearrangement of its entries. -/
theorem recovers_rearranged (hφ : Rearrangement φ) (c : Config) {u : Table} (hu : (keys u).Nodup)
    (hlookup : ∀ k, u.lookup k = (c.toTable.lookup k).map φ) : Recovers (ofTable u) c c.channels :=
  have hspells : Spells φ 3 fields c c.toTable c.channels := spells_toTable hφ c
  hspells.recovers_ofTable (by decide) hu fun k _ => hlookup k

/-- Decoding undoes encoding, numbers and all, and succeeds exactly if the channels are named. -/
theorem ofTable_toTable_eq_ok_iff (c d : Config) :
    ofTable c.toTable = .ok d ↔ (∀ channel ∈ c.channels, channel.IsNamed) ∧ c = d :=
  recovers_rearranged rearrangement_id c c.nodup_keys_toTable
    (fun _ => by rw [Option.map_id, id]) d

end Config

end ControllerRemap
