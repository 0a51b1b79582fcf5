import ControllerRemap.Number.Binary64

/-! Haptic pulses. A controller has an actuator on either side; a pulse train is a
number of pulses of one strength at a fixed period. -/

namespace ControllerRemap

inductive Actuator where
  | left
  | right
  deriving DecidableEq

structure Pulse where
  actuator : Actuator
  magnitude : UInt16
  /-- Microseconds between two pulses. -/
  period : UInt16
  count : UInt16
  deriving DecidableEq

namespace Pulse

/-- A single pulse. -/
def click (actuator : Actuator) (magnitude : UInt16) : Pulse := ⟨actuator, magnitude, 0, 1⟩

/-- A number of pulses, ten milliseconds apart. -/
def train (actuator : Actuator) (magnitude count : UInt16) : Pulse :=
  ⟨actuator, magnitude, 10000, count⟩

/-- The count of a train for a number of steps in either direction. -/
def countOf (steps : Int32) : UInt16 := UInt16.ofNat (min steps.toInt.natAbs 65535)

end Pulse

/-- A magnitude scaled by a gain between zero and one; a gain that is not finite is zero. -/
def applyGain (magnitude : UInt16) (gain : Float) : UInt16 :=
  let gain := if gain.isFinite then Binary64.clamp gain 0.0 1.0 else 0.0
  (Binary64.round (magnitude.toFloat * gain)).toUInt16

end ControllerRemap
