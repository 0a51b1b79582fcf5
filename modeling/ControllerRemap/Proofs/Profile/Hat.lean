import ControllerRemap.Proofs.Profile.Build
import ControllerRemap.Proofs.Profile.Run
import ControllerRemap.Proofs.Surface.SharedAxis

/-! The hat of the gamepad. An axis reads the side that is held, and zero if neither is, after
every run that does not leave the axis overtaken: a report that finds the finger on the side
tested first, straight from the opposite side, presses the new side before it releases the old
one, and the axis then reads zero for as long as the finger stays. -/

namespace ControllerRemap

/-! ### The profile -/

namespace Gamepad

/-- The regions are those of the hat, and no rule sends on its axes. -/
structure Wired (g : Gamepad) : Prop where
  indexed : g.remapper.Indexed
  apart : ∀ rule ∈ g.remapper.rules, ∀ axis : HatAxis, rule.target ≠ axis.channel
  hat : g.hat.IsHat

theorem rules_apart (l : Layout) :
    ∀ rule ∈ rules l, ∀ axis : HatAxis, rule.target ≠ axis.channel := by
  -- the layout decides the sources but not the targets
  have htargets : (rules l).map (·.target) = (rules {}).map (·.target) := rfl
  have hapart (axis : HatAxis) : ∀ c ∈ (rules {}).map (·.target), c ≠ axis.channel := by
    cases axis <;> decide
  intro rule h axis
  refine hapart axis rule.target ?_
  rw [← htargets]
  exact List.mem_map_of_mem h

theorem isHat_fourWayPad (radius : Float) (magnitude : UInt16) :
    (fourWayPad radius (hatButtons magnitude)).IsHat := rfl

theorem exists_sweepHat (g : Gamepad) (live : Live) :
    ∃ now, g.sweepHat live = g.hat.sweep now := by
  rw [sweepHat]
  split
  · exact ⟨_, rfl⟩
  · exact ⟨_, rfl⟩

/-- An event sends on each axis of the hat what the change of its two sides asks for. -/
theorem Wired.handle {g : Gamepad} (h : g.Wired) (e : Event) (live : Live) :
    (g.handle e live).1.Wired ∧ ∀ axis : HatAxis,
      Event.lastOn axis.channel (g.handle e live).2.events =
        axis.turn (axis.sides g.hat) (axis.sides (g.handle e live).1.hat) := by
  rw [Gamepad.handle]
  split
  · refine ⟨⟨h.indexed.dispatch e live, ?_, h.hat⟩, fun axis => ?_⟩
    · simp only [h.indexed.rules_dispatch]
      exact h.apart
    · rw [HatAxis.turn_self]
      refine Event.lastOn_eq_none fun o ho => ?_
      obtain ⟨rule, hrule, hc⟩ := h.indexed.channel_of_dispatch ho
      rw [hc]
      exact h.apart rule hrule axis
  · split
    · obtain ⟨now, hnow⟩ := g.exists_sweepHat live
      rw [hnow]
      refine ⟨⟨h.indexed, h.apart, h.hat.sweep now⟩, fun axis => ?_⟩
      have hreport : ∀ o ∈ Response.report.events, o.channel ≠ axis.channel := by
        cases axis <;> decide
      rw [Response.events_append, Event.lastOn_append_of_ne _ hreport, h.hat.lastOn_sweep]
    · exact ⟨h, fun axis => (axis.turn_self _).symm⟩

end Gamepad

/-! ### The pipeline -/

namespace Pipeline

/-- The states of the two slices of an axis. Only a gamepad has a hat. -/
def sides (axis : HatAxis) (p : Pipeline) : Bool × Bool :=
  match p.profile with
  | .gamepad g => axis.sides g.hat
  | _ => (false, false)

/-- Whether or not it reaches the profile, an event turns each axis as its slices change. -/
theorem process_gamepad {q : Pipeline} {g : Gamepad} (hprofile : q.profile = .gamepad g)
    (h : g.Wired) (e : Event) : ∃ q' r, q.process e = .ok (q', r) ∧
      (∃ g', q'.profile = .gamepad g' ∧ g'.Wired) ∧
      ∀ axis : HatAxis,
        Event.lastOn axis.channel r.events = axis.turn (q.sides axis) (q'.sides axis) := by
  cases hadmits : q.filter.admits e with
  | true =>
    have hhandle : q.profile.handle e (q.live.apply e) =
        .ok (.gamepad (g.handle e (q.live.apply e)).1, (g.handle e (q.live.apply e)).2) := by
      rw [hprofile]
      rfl
    obtain ⟨hwired, hturn⟩ := h.handle e (q.live.apply e)
    refine ⟨_, _, process_of_handle hadmits hhandle, ⟨_, rfl, hwired⟩, fun axis => ?_⟩
    rw [hturn, sides, sides, hprofile]
  | false =>
    refine ⟨_, _, process_of_not_admits hadmits, ⟨g, hprofile, h⟩, fun axis => ?_⟩
    exact (axis.turn_self _).symm

/-- What has been sent on the axes follows the states that the slices went through. -/
structure FollowsHat (p : Pipeline) (es : List Event) (q : Pipeline) (out : Response) : Prop where
  wired : ∃ g, q.profile = .gamepad g ∧ g.Wired
  sent : ∀ axis : HatAxis,
    Event.lastOn axis.channel out.events = axis.sent ((p.trail es).map (sides axis))

theorem FollowsHat.process {p q : Pipeline} {es : List Event} {out : Response}
    (hrun : p.run es = .ok (q, out)) (h : p.FollowsHat es q out) (e : Event) :
    ∃ q' r, q.process e = .ok (q', r) ∧ p.FollowsHat (es ++ [e]) q' (out ++ r) := by
  obtain ⟨g, hprofile, hwired⟩ := h.wired
  obtain ⟨q', r, hprocess, hwired', hturn⟩ := process_gamepad hprofile hwired e
  refine ⟨q', r, hprocess, hwired', fun axis => ?_⟩
  obtain ⟨past, hpast⟩ := exists_trail_eq hrun
  have hpair : (p.trail (es ++ [e])).map (sides axis) =
      past.map (sides axis) ++ [q.sides axis, q'.sides axis] := by
    rw [trail_concat hrun hprocess, hpast]
    simp
  have hsent := h.sent axis
  rw [hpast, List.map_append, List.map_singleton] at hsent
  rw [Response.events_append, Event.lastOn_append, hturn, hpair, HatAxis.sent_concat, hsent]

/-- A gamepad can be built from every configuration and no run of it faults. After every run
each axis of the hat reads the side that is held alone, and zero if neither is, exactly if
the last change of its sides did not overtake it; an axis that is overtaken reads zero. -/
theorem hat_reads_iff (c : Config) : ∃ p, Pipeline.new .gamepad c = .ok p ∧
    ∀ es, ∃ q out, p.run es = .ok (q, out) ∧ ∀ axis : HatAxis,
      (axis.Reads ((Event.lastOn axis.channel out.events).getD 0) (q.sides axis) ↔
        ¬ HatAxis.Overtaken ((p.trail es).map (sides axis))) ∧
      (HatAxis.Overtaken ((p.trail es).map (sides axis)) →
        Event.lastOn axis.channel out.events = some 0) := by
  obtain ⟨g, hnew, hcurrent, hrules, hhat⟩ := new_gamepad c
  refine ⟨_, hnew, fun es => ?_⟩
  have hwired : g.Wired := by
    refine ⟨hcurrent.indexed, ?_, ?_⟩
    · rw [hrules]
      exact Gamepad.rules_apart c.layout
    · rw [hhat]
      exact Gamepad.isHat_fourWayPad _ _
  have huntouched (axis : HatAxis) : axis.sides g.hat = (false, false) := by
    rw [hhat]
    cases axis <;> rfl
  have hstart : FollowsHat { filter := c.filter.getD .passAll, profile := .gamepad g } []
      { filter := c.filter.getD .passAll, profile := .gamepad g } {} :=
    ⟨⟨g, rfl, hwired⟩, fun axis => rfl⟩
  obtain ⟨q, out, hrun, hfollows⟩ := run_invariant hstart es fun pre e post q out _ hpre h =>
    h.process hpre e
  refine ⟨q, out, hrun, fun axis => ?_⟩
  rw [hfollows.sent axis]
  refine ⟨axis.reads_sent_iff ?_ ?_, axis.sent_of_overtaken⟩
  · rw [List.head?_map, head?_trail]
    exact congrArg some (huntouched axis)
  · obtain ⟨past, hpast⟩ := exists_trail_eq hrun
    rw [hpast]
    simp

/-- The finger goes from the lower slice to the upper one between two reports: the upper slice
is held and the axis reads zero. -/
theorem hat_overtaken_from_below :
    ∃ p q out, Pipeline.new .gamepad {} = .ok p ∧
      p.run [⟨.key Code.btnThumb, 1⟩, ⟨.key Code.btnThumbL, 1⟩, ⟨.abs Code.absHat0Y, 20000⟩,
        .report, ⟨.abs Code.absHat0Y, -20000⟩, .report] = .ok (q, out) ∧
      q.sides .y = (true, false) ∧ Event.lastOn (.abs Code.absHat0Y) out.events = some 0 ∧
      ¬ HatAxis.y.Reads 0 (true, false) :=
  ⟨_, _, _, rfl, rfl, by decide +kernel, by decide +kernel, show (0 : Int32) ≠ -1 by decide⟩

end Pipeline

end ControllerRemap
