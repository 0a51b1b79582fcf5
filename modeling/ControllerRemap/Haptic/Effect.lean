import ControllerRemap.Haptic.Pulse

/-! Force-feedback effects. A periodic effect rises from its attack level, holds its
magnitude and falls to its fade level at the end; it is played as a click on both
sides once per period. A rumble is one pulse train per side. -/

namespace ControllerRemap

/-- A periodic effect, all lengths in milliseconds. -/
structure Envelope where
  magnitude : UInt16 := 0
  attackLength : UInt16 := 0
  attackLevel : UInt16 := 0
  fadeLength : UInt16 := 0
  fadeLevel : UInt16 := 0
  replayLength : UInt16 := 0
  period : UInt16 := 0
  deriving DecidableEq

namespace Envelope

/-- The strength during the attack, and the full magnitude after it. -/
def attackAt (e : Envelope) (t : Nat) : Float :=
  let full := e.magnitude.toFloat
  if t < e.attackLength.toNat then
    let c := Float.ofNat t / e.attackLength.toFloat
    e.attackLevel.toFloat * (1.0 - c) + full * c
  else full

/-- The strength after `t` milliseconds; where attack and fade overlap, the fade counts. -/
def magnitudeAt (e : Envelope) (t : Nat) : UInt16 :=
  let replay := e.replayLength.toNat
  let m :=
    if 0 < e.fadeLength.toNat ∧ replay - e.fadeLength.toNat < t then
      let c := Float.ofNat (replay - t) / e.fadeLength.toFloat
      e.magnitude.toFloat * c + e.fadeLevel.toFloat * (1.0 - c)
    else e.attackAt t
  (Binary64.clamp (Binary64.round m) 0.0 65535.0).toUInt16

/-- The times of the samples: the multiples of the period up to the replay length, or
the start alone if the period is zero. -/
def times (e : Envelope) : List Nat :=
  if e.period = 0 then [0]
  else (List.range (e.replayLength.toNat / e.period.toNat + 1)).map (· * e.period.toNat)

def schedule (e : Envelope) : List (Nat × UInt16) := e.times.map fun t => (t, e.magnitudeAt t)

/-- A click on both sides for the sample at a time. -/
def pulsesAt (e : Envelope) (t : Nat) (gain : Float) : List Pulse :=
  let m := applyGain (e.magnitudeAt t) gain
  [.click .left m, .click .right m]

end Envelope

/-- A rumble of two motors, the strong one on the left. -/
structure Rumble where
  strong : UInt16 := 0
  weak : UInt16 := 0
  /-- In milliseconds. -/
  length : UInt16 := 0
  deriving DecidableEq

/-- A pulse for every tenth of a second on both sides. -/
def Rumble.pulses (r : Rumble) (gain : Float) : List Pulse :=
  let count := r.length / 100
  [.train .left (applyGain r.strong gain) count, .train .right (applyGain r.weak gain) count]

end ControllerRemap
