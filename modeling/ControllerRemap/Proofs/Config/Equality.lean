import ControllerRemap.Config.Basic
import ControllerRemap.Proofs.Number.Parts
import Mathlib

/-! When a configuration equals itself. Numbers are compared as numbers, so a NaN in a configuration
makes it differ from itself, and nothing else does. -/

namespace ControllerRemap

open Float.Model Float.Model.UnpackedFloat

theorem Binary64.beq_self (x : Float) : (x == x) = !x.isNaN := by
  rw [Float.isNaN, Float.Model.isNaN]
  change UnpackedFloat.beq x.toModel.unpack x.toModel.unpack = _
  cases h : x.toModel.unpack with
  | notANumber => rfl
  | infinity s => cases s <;> rfl
  | zero s => rfl
  | finite s m e hm =>
    have horder : (compare e e).then (compare m m) = .eq := by
      rw [Std.ReflOrd.compare_self, Std.ReflOrd.compare_self]
      rfl
    cases s with
    | positive =>
      change (some ((compare e e).then (compare m m)) == some .eq) = _
      rw [horder]
      rfl
    | negative =>
      change (some ((compare e e).then (compare m m)).swap == some .eq) = _
      rw [horder]
      rfl

theorem list_beq_self {α : Type} [BEq α] (as : List α) : (as == as) = as.all fun a => a == a := by
  induction as with
  | nil => rfl
  | cons a as ih => rw [List.cons_beq_cons, ih, List.all_cons]

theorem option_beq_self {α : Type} [BEq α] (o : Option α) :
    (o == o) = o.toList.all fun a => a == a := by
  cases o with
  | none => rfl
  | some a => rw [Option.some_beq_some, Option.toList_some, List.all_cons, List.all_nil, Bool.and_true]

/-! ### The numbers of a configuration -/

def AngleRange.floats (r : AngleRange Float) : List Float := [r.min, r.max]

def Shape.floats : Shape → List Float
  | .rect minX maxX minY maxY => minX.toList ++ maxX.toList ++ minY.toList ++ maxY.toList
  | .circle x y r => [x, y, r]
  | .polar minR maxR angle => minR.toList ++ maxR.toList ++ angle.toList.flatMap AngleRange.floats

def Corners.floats (c : Corners) : List Float := [c.x0, c.y0, c.x1, c.y1]

def TabletSettings.floats (t : TabletSettings) : List Float :=
  t.screenSize.1 :: t.screenSize.2 :: (t.screenRegion.floats ++ t.inputRegion.floats)

/-- Every number of a configuration that is not an integer. -/
def Config.floats (c : Config) : List Float :=
  [c.pad.minRadius, c.pad.scrollStep, c.gyro.step] ++ c.tablet.floats ++ [c.haptics.gain] ++
    c.regions.flatMap fun r => r.shape.floats

/-- A number, and not the lack of one. -/
def isNumber (x : Float) : Bool := !x.isNaN

/-! ### Equality -/

theorem AngleRange.beq_self (r : AngleRange Float) : (r == r) = r.floats.all isNumber := by
  change (r.min == r.min && r.max == r.max) = _
  simp [AngleRange.floats, isNumber, Binary64.beq_self]

theorem Shape.beq_self (s : Shape) : (s == s) = s.floats.all isNumber := by
  cases s with
  | rect minX maxX minY maxY =>
    change (minX == minX && (maxX == maxX && (minY == minY && maxY == maxY))) = _
    simp only [option_beq_self, Binary64.beq_self, Shape.floats, List.all_append, Bool.and_assoc]
    rfl
  | circle x y r =>
    change (x == x && (y == y && r == r)) = _
    simp [Shape.floats, isNumber, Binary64.beq_self]
  | polar minR maxR angle =>
    change (minR == minR && (maxR == maxR && angle == angle)) = _
    simp only [option_beq_self, Binary64.beq_self, AngleRange.beq_self, Shape.floats, List.all_append,
      List.all_flatMap, Bool.and_assoc]
    rfl

theorem Corners.beq_self (c : Corners) : (c == c) = c.floats.all isNumber := by
  change (c.x0 == c.x0 && (c.y0 == c.y0 && (c.x1 == c.x1 && c.y1 == c.y1))) = _
  simp [Corners.floats, isNumber, Binary64.beq_self]

theorem PadSettings.beq_self (p : PadSettings) :
    (p == p) = [p.minRadius, p.scrollStep].all isNumber := by
  change (p.minRadius == p.minRadius && (p.scrollStep == p.scrollStep &&
    p.hapticMagnitude == p.hapticMagnitude)) = _
  simp [isNumber, Binary64.beq_self]

theorem GyroSettings.beq_self (g : GyroSettings) : (g == g) = isNumber g.step := by
  change (g.step == g.step && (g.hapticMagnitude == g.hapticMagnitude && (g.qw == g.qw &&
    (g.qx == g.qx && (g.qy == g.qy && g.qz == g.qz))))) = _
  simp [isNumber, Binary64.beq_self]

theorem TabletSettings.beq_self (t : TabletSettings) : (t == t) = t.floats.all isNumber := by
  change ((t.screenSize.1 == t.screenSize.1 && t.screenSize.2 == t.screenSize.2) &&
    (t.screenRegion == t.screenRegion && t.inputRegion == t.inputRegion)) = _
  simp [TabletSettings.floats, isNumber, Binary64.beq_self, Corners.beq_self, Bool.and_assoc]

theorem HapticSettings.beq_self (h : HapticSettings) : (h == h) = isNumber h.gain := by
  change (h.gain == h.gain && (h.startup == h.startup && h.effect == h.effect)) = _
  simp [isNumber, Binary64.beq_self]

theorem RegionEntry.beq_self (r : RegionEntry) : (r == r) = r.shape.floats.all isNumber := by
  change (r.x == r.x && (r.y == r.y && (r.whileHeld == r.whileHeld && (r.shape == r.shape &&
    (r.target == r.target && (r.value == r.value && r.haptic == r.haptic)))))) = _
  simp [Shape.beq_self]

/-- A configuration equals itself if it holds no NaN. -/
theorem Config.beq_self (c : Config) : (c == c) = c.floats.all isNumber := by
  change (c.device == c.device && (c.grab == c.grab && (c.profile == c.profile &&
    (c.outputName == c.outputName && (c.filter == c.filter && (c.layout == c.layout &&
    (c.pad == c.pad && (c.gyro == c.gyro && (c.tablet == c.tablet && (c.haptics == c.haptics &&
    (c.rules == c.rules && (c.regions == c.regions && c.axes == c.axes)))))))))))) = _
  simp [Config.floats, PadSettings.beq_self, GyroSettings.beq_self, TabletSettings.beq_self,
    HapticSettings.beq_self, RegionEntry.beq_self, list_beq_self c.regions, Bool.and_assoc]

end ControllerRemap
