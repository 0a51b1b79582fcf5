import ControllerRemap.Proofs.Surface.Sweep

/-! Channels that touch buttons hold. Regions may share a channel; it is held while one of them
is inside. A sweep after which the channel is not held has sent zero on it last if it was held
before, and nothing if it was not. -/

namespace ControllerRemap.RegionMap

variable {α : Type}

/-- A region with a button of the channel is inside. -/
def holds (button : α → TouchButton) (m : RegionMap α) (c : Channel) : Bool :=
  m.regions.any fun r => r.inside && (button r.action).target == c

/-- The changes of a sweep, with the buttons to fire. -/
def fired (button : α → TouchButton) (changes : List (α × Bool)) : List Event :=
  (TouchButton.fireAll (changes.map fun x => (button x.1, x.2))).events

theorem fired_id (changes : List (TouchButton × Bool)) :
    fired id changes = (TouchButton.fireAll changes).events := by
  rw [fired]
  congr 2
  exact List.map_id _

theorem lastOn_retest_of_not_held (button : α → TouchButton) (c : Channel) (r : Region α)
    (now : Bool) (h : (now && (button r.action).target == c) = false) :
    Event.lastOn c (fired button (retest r now).2) =
      if (r.inside && (button r.action).target == c) then some 0 else none := by
  rw [retest, fired]
  by_cases hnow : now = r.inside
  · rw [hnow] at h
    rw [if_pos hnow, h]
    rfl
  · have hevents : (TouchButton.fireAll [(button r.action, now)]).events =
        [⟨(button r.action).target, if now then (button r.action).value else 0⟩] := rfl
    rw [if_neg hnow, List.map_singleton, hevents, Event.lastOn_singleton]
    by_cases hc : (button r.action).target = c
    · have hleft : now = false := by simpa [hc] using h
      have hinside : r.inside = true := by simpa [hleft] using hnow
      simp [hc, hleft, hinside]
    · simp [hc]

/-- A channel that is not held after a sweep has been let go of, or was not held before. -/
theorem lastOn_sweep_of_not_holds (button : α → TouchButton) (now : Region α → Bool)
    (m : RegionMap α) (c : Channel) (h : (m.sweep now).1.holds button c = false) :
    Event.lastOn c (fired button (m.sweep now).2) =
      if m.holds button c then some 0 else none := by
  obtain ⟨regions⟩ := m
  induction regions with
  | nil => rfl
  | cons r rest ih =>
    have hsplit : fired button (sweep now ⟨r :: rest⟩).2 =
        fired button (retest r (now r)).2 ++ fired button (sweep now ⟨rest⟩).2 := by
      rw [fired, sweep, List.flatMap_cons, List.map_append, TouchButton.fireAll_append,
        Response.events_append]
      rfl
    have hholds : ((now r && (button r.action).target == c) ||
        (sweep now ⟨rest⟩).1.holds button c) = false := h
    obtain ⟨hfirst, hrest⟩ := Bool.or_eq_false_iff.1 hholds
    have hcons : holds button ⟨r :: rest⟩ c =
        ((r.inside && (button r.action).target == c) || holds button ⟨rest⟩ c) := rfl
    rw [hsplit, Event.lastOn_append, lastOn_retest_of_not_held button c r (now r) hfirst, ih hrest,
      hcons]
    cases holds button ⟨rest⟩ c <;> simp

/-- Leaving all regions lets go of every channel. -/
theorem holds_release (button : α → TouchButton) (m : RegionMap α) (c : Channel) :
    m.release.1.holds button c = false := by
  simp [release, sweep, retest, holds]

end ControllerRemap.RegionMap
