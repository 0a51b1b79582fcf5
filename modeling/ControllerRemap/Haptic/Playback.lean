import ControllerRemap.Haptic.Effect

/-! Playing effects. A playback is a list of cues, each a time to wait for or a pulse
to send; performing it on a clock that advances by waiting only tells when each
pulse is sent. A meter counts the pulses that are felt at its gain. -/

namespace ControllerRemap

inductive Cue where
  /-- Waits until a number of milliseconds after the start. -/
  | wait (time : Nat)
  | send (pulse : Pulse)
  deriving DecidableEq

/-- One click per side for every sample, at the time of the sample. -/
def Envelope.playback (e : Envelope) : List Cue :=
  e.schedule.flatMap fun (t, _) => .wait t :: (e.pulsesAt t 1.0).map .send

/-- Performs a playback from a time on: the pulses with their times, and the time at the end. -/
def perform (now : Nat) : List Cue → List (Nat × Pulse) × Nat
  | [] => ([], now)
  | .wait t :: cues => perform (max now t) cues
  | .send p :: cues =>
    let (sent, stop) := perform now cues
    ((now, p) :: sent, stop)

/-- What playing an effect does: the pulses with their times, the time at the end, and
the number of samples that is reported. -/
structure Played where
  sent : List (Nat × Pulse)
  stop : Nat
  samples : Nat

def Played.pulses (p : Played) : List Pulse := p.sent.map (·.2)

/-- Plays an effect, the times counted from its start. -/
def Envelope.play (e : Envelope) : Played :=
  let (sent, stop) := perform 0 e.playback
  { sent, stop, samples := e.schedule.length }

/-- Counts pulses at a gain. -/
structure Meter where
  gain : Float
  sent : Nat := 0

namespace Meter

/-- A pulse that is silent at the gain, or of no repeats, is not counted. -/
def feel (m : Meter) (p : Pulse) : Meter :=
  if applyGain p.magnitude m.gain = 0 ∨ p.count = 0 then m else { m with sent := m.sent + 1 }

def feelAll (m : Meter) (ps : List Pulse) : Meter := ps.foldl feel m

end Meter

end ControllerRemap
