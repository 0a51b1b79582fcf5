import ControllerRemap.Event.Live
import ControllerRemap.Profile.Response
import ControllerRemap.Surface.RegionMap

/-! Buttons on a touch surface. A button belongs to a region and sends its value when
the finger enters the region and zero when it leaves. Four of them around a dead
zone make a pad; they overlap, so a diagonal holds two neighbours. -/

namespace ControllerRemap

structure TouchButton where
  target : Channel
  /-- Sent on entering. -/
  value : Int32
  /-- The side and strength of the click at either change. -/
  haptic : Option (Actuator × UInt16) := none
  deriving DecidableEq

namespace TouchButton

/-- The finger enters the region, or leaves it. -/
def fire (b : TouchButton) (pressed : Bool) : Response where
  events := [⟨b.target, if pressed then b.value else 0⟩]
  pulses := match b.haptic with
    | some (actuator, magnitude) => [.click actuator magnitude]
    | none => []

/-- Fires the buttons of changed regions. -/
def fireAll : List (TouchButton × Bool) → Response
  | [] => {}
  | (b, pressed) :: rest => b.fire pressed ++ fireAll rest

end TouchButton

/-! ### The four-way pad -/

/-- The slices of a pad around its centre: right, up, left and down, each a third of
the circle. -/
def padSlices {α : Type} [Scalar α] : List (AngleRange α) :=
  let slice (low high : Int) : AngleRange α := ⟨Scalar.ofInt low, Scalar.ofInt high⟩
  [slice (-60) 60, slice 30 150, slice 120 240, slice (-150) (-30)]

/-- A pad of buttons in the order of the slices. -/
def fourWayPad (deadZone : Float) (buttons : List TouchButton) : RegionMap TouchButton :=
  ⟨padSlices.zipWith (fun slice b => { shape := .sector deadZone slice, action := b }) buttons⟩

namespace Live

/-- The value of a channel as a number. -/
def number (t : Live) (c : Channel) : Float := Binary64.ofInt32 (t.value c)

/-- The position on a surface whose second axis grows upward. -/
def position (t : Live) (x y : Channel) (yAxisDown : Bool) : Float × Float :=
  let v := t.number y
  (t.number x, if yAxisDown then -v else v)

end Live

end ControllerRemap
