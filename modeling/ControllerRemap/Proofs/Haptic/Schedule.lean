import ControllerRemap.Haptic.Playback
import ControllerRemap.Proofs.Number.Integral

/-! Playing a periodic effect as it is scheduled. The samples are at the multiples of the period, and
as their times rise, a clock that waiting alone advances shows each of them in turn. -/

namespace ControllerRemap

/-! ### The times of the samples -/

/-- The multiples of a number in a range, counted up and picked out. -/
theorem map_mul_range_div (d n : Nat) :
    (List.range (n / d + 1)).map (· * d) = (List.range (n + 1)).filter (d ∣ ·) := by
  induction n with
  | zero => simp
  | succ n ih =>
    rw [List.range_succ (n := n + 1), List.filter_append, ← ih, Nat.succ_div]
    by_cases h : d ∣ n + 1
    · have hlast : (n / d + 1) * d = n + 1 := by
        have hdiv : (n + 1) / d = n / d + 1 := by rw [Nat.succ_div, if_pos h]
        rw [← hdiv, Nat.div_mul_cancel h]
      rw [if_pos h, List.range_succ, List.map_append, List.map_singleton, hlast]
      simp [h]
    · simp [h]

namespace Envelope

variable (e : Envelope)

/-- The times in order, picked out of all times. -/
def sampleTimes : List Nat :=
  if e.period = 0 then [0] else (List.range (e.replayLength.toNat + 1)).filter (e.period.toNat ∣ ·)

theorem times_eq : e.times = e.sampleTimes := by
  rw [times, sampleTimes, map_mul_range_div]

/-- The period need not divide the length. -/
example : ({ replayLength := 100, period := 30 } : Envelope).times = [0, 30, 60, 90] := by decide

theorem length_times :
    e.times.length = if e.period = 0 then 1 else e.replayLength.toNat / e.period.toNat + 1 := by
  rw [times]
  split <;> simp

theorem times_ne_nil : e.times ≠ [] := by
  rw [← List.length_pos_iff, length_times]
  split <;> exact Nat.succ_pos _

theorem pairwise_times : e.times.Pairwise (· < ·) := by
  rw [times_eq, sampleTimes]
  split
  · exact List.pairwise_singleton _ _
  · exact List.pairwise_lt_range.filter _

end Envelope

/-! ### Performing -/

theorem perform_send (now : Nat) (ps : List Pulse) (cues : List Cue) :
    perform now (ps.map .send ++ cues) =
      (ps.map (now, ·) ++ (perform now cues).1, (perform now cues).2) := by
  induction ps with
  | nil => rfl
  | cons p ps ih =>
    rw [List.map_cons, List.cons_append, perform, ih]
    rfl

/-- With rising times no wait comes late. -/
theorem perform_rising (pulses : Nat → List Pulse) {now : Nat} {times : List Nat}
    (h : (now :: times).Pairwise (· ≤ ·)) :
    perform now (times.flatMap fun t => .wait t :: (pulses t).map .send) =
      (times.flatMap fun t => (pulses t).map (t, ·), times.getLast?.getD now) := by
  induction times generalizing now with
  | nil => rfl
  | cons t times ih =>
    obtain ⟨hnow, htimes⟩ := List.pairwise_cons.1 h
    have hwait : max now t = t := max_eq_right (hnow t List.mem_cons_self)
    rw [List.flatMap_cons, List.cons_append, perform, hwait, perform_send, ih htimes,
      List.flatMap_cons, List.getLast?_cons, Option.getD_some]

/-! ### Gains -/

theorem applyGain_one (m : UInt16) : applyGain m 1.0 = m := by
  have hgain : (if (1.0 : Float).isFinite then Binary64.clamp 1.0 0.0 1.0 else 0.0) = 1.0 := rfl
  have high := m.toNat_lt
  simp only [applyGain, hgain]
  rw [Binary64.mul_one_eq, Binary64.toFloat_eq_ofNat, Binary64.round_ofNat (high.trans (by decide)),
    Binary64.toUInt16_ofNat high, UInt16.ofNat_toNat]

namespace Meter

/-- Whether a pulse is counted. -/
def Feels (gain : Float) (p : Pulse) : Prop := applyGain p.magnitude gain ≠ 0 ∧ p.count ≠ 0

instance (gain : Float) (p : Pulse) : Decidable (Feels gain p) := inferInstanceAs (Decidable (_ ∧ _))

theorem feelAll_eq (m : Meter) (ps : List Pulse) :
    m.feelAll ps = { m with sent := m.sent + ps.countP (Feels m.gain ·) } := by
  induction ps generalizing m with
  | nil => rfl
  | cons p ps ih =>
    rw [feelAll, List.foldl_cons, ← feelAll, ih, feel, List.countP_cons]
    by_cases h : Feels m.gain p
    · rw [if_neg (by rw [not_or]; exact h)]
      simp [h, Nat.add_assoc, Nat.add_comm]
    · rw [if_pos (by rw [Feels] at h; tauto)]
      simp [h]

end Meter

/-! ### Playing -/

namespace Envelope

/-- A click on the left and one on the right for a sample, at its time. -/
def clicks (sample : Nat × UInt16) : List (Nat × Pulse) :=
  [(sample.1, .click .left sample.2), (sample.1, .click .right sample.2)]

theorem perform_playback (e : Envelope) :
    perform 0 e.playback = (e.schedule.flatMap clicks, e.times.getLast?.getD 0) := by
  have hrising : (0 :: e.times).Pairwise (· ≤ ·) :=
    List.pairwise_cons.2 ⟨fun t _ => t.zero_le, e.pairwise_times.imp Nat.le_of_lt⟩
  rw [playback, schedule, List.flatMap_map, perform_rising _ hrising, List.flatMap_map]
  simp only [pulsesAt, applyGain_one]
  rfl

theorem countP_clicks (gain : Float) (samples : List (Nat × UInt16)) :
    ((samples.flatMap clicks).map (·.2)).countP (Meter.Feels gain ·) =
      2 * samples.countP fun s => applyGain s.2 gain ≠ 0 := by
  induction samples with
  | nil => rfl
  | cons sample samples ih =>
    have hpair : ((clicks sample).map (·.2)).countP (Meter.Feels gain ·) =
        if applyGain sample.2 gain ≠ 0 then 2 else 0 := by
      by_cases h : applyGain sample.2 gain = 0 <;> simp [clicks, Meter.Feels, Pulse.click, h]
    rw [List.flatMap_cons, List.map_append, List.countP_append, ih, hpair, List.countP_cons]
    simp only [decide_eq_true_eq]
    split <;> omega

/-- An effect is sampled at the multiples of its period up to its length, in order, or at its start
alone if it has no period. For each sample, and at its time, playing it sends a click on the left and
one on the right of the strength at that time; it ends with the last sample and reports how many
there were. A fresh meter counts two pulses for every sample that its gain leaves above zero. -/
theorem plays_as_scheduled (e : Envelope) (gain : Float) :
    e.schedule = e.sampleTimes.map (fun t => (t, e.magnitudeAt t)) ∧
    (e.schedule.map (·.1)).Pairwise (· < ·) ∧
    e.schedule.length =
      (if e.period = 0 then 1 else e.replayLength.toNat / e.period.toNat + 1) ∧
    e.play.sent = e.schedule.flatMap clicks ∧
    e.play.samples = e.schedule.length ∧
    e.schedule.getLast?.map (·.1) = some e.play.stop ∧
    (Meter.feelAll { gain } e.play.pulses).sent =
      2 * e.schedule.countP fun s => applyGain (applyGain s.2 1.0) gain ≠ 0 := by
  have htimes : e.schedule.map (·.1) = e.times := by
    rw [schedule, List.map_map]
    exact List.map_id _
  have hplay : e.play =
      ⟨e.schedule.flatMap clicks, e.times.getLast?.getD 0, e.schedule.length⟩ := by
    rw [play, perform_playback]
  rw [hplay]
  refine ⟨by rw [schedule, times_eq], htimes ▸ e.pairwise_times,
    by rw [schedule, List.length_map, length_times], rfl, rfl, ?_, ?_⟩
  · rw [← List.getLast?_map, htimes, List.getLast?_eq_getLast_of_ne_nil e.times_ne_nil]
    rfl
  · simp only [Meter.feelAll_eq, Played.pulses, applyGain_one, countP_clicks, Nat.zero_add]

end Envelope

end ControllerRemap
