import ControllerRemap.Profile.TouchButton
import ControllerRemap.Proofs.Event.History

/-! What a sweep over regions keeps and what it sends. The actions and shapes stay in
their order; a region is reported exactly if its answer changes, and a reported touch
button sends its value or zero on its own target. -/

namespace ControllerRemap

namespace RegionMap

variable {α : Type}

/-- The actions of the regions in order. -/
def actions (m : RegionMap α) : List α := m.regions.map (·.action)

theorem sweep_actions (now : Region α → Bool) (m : RegionMap α) :
    (m.sweep now).1.actions = m.actions := by
  simp [sweep, actions, retest]

theorem action_of_mem_retest {r : Region α} {now : Bool} {x : α × Bool}
    (h : x ∈ (retest r now).2) : x.1 = r.action := by
  rw [retest] at h
  split at h
  · cases h
  · rw [List.mem_singleton.1 h]

theorem mem_actions_of_sweep {now : Region α → Bool} {m : RegionMap α} {a : α} {b : Bool}
    (h : (a, b) ∈ (m.sweep now).2) : a ∈ m.actions := by
  obtain ⟨r, hr, hab⟩ := List.mem_flatMap.1 h
  exact List.mem_map.2 ⟨r, hr, (action_of_mem_retest hab).symm⟩

/-- A sweep leaves the answers that it was given. -/
theorem states_sweep (now : Region α → Bool) (m : RegionMap α) :
    (m.sweep now).1.states = m.regions.map now := by
  simp [sweep, states, retest]

end RegionMap

namespace TouchButton

theorem fireAll_append (xs ys : List (TouchButton × Bool)) :
    fireAll (xs ++ ys) = fireAll xs ++ fireAll ys := by
  induction xs with
  | nil => rfl
  | cons x xs ih =>
    obtain ⟨b, pressed⟩ := x
    rw [List.cons_append, fireAll, fireAll, ih]
    change Response.mk (_ ++ (_ ++ _)) (_ ++ (_ ++ _)) = Response.mk (_ ++ _ ++ _) (_ ++ _ ++ _)
    rw [List.append_assoc, List.append_assoc]

/-- Every event is on the target of a button. -/
theorem channel_of_fireAll {xs : List (TouchButton × Bool)} {o : Event}
    (h : o ∈ (fireAll xs).events) : ∃ x ∈ xs, o.channel = x.1.target := by
  induction xs with
  | nil => cases h
  | cons x xs ih =>
    obtain ⟨b, pressed⟩ := x
    rw [fireAll, Response.events_append] at h
    rcases List.mem_append.1 h with h | h
    · cases List.mem_singleton.1 h
      exact ⟨(b, pressed), List.mem_cons_self, rfl⟩
    · obtain ⟨y, hy, hc⟩ := ih h
      exact ⟨y, List.mem_cons_of_mem _ hy, hc⟩

/-- A region sends once on its target if its answer changes. -/
theorem lastOn_retest (c : Channel) (r : Region TouchButton) (now : Bool) :
    Event.lastOn c (fireAll (RegionMap.retest r now).2).events =
      if now ≠ r.inside ∧ r.action.target = c then some (if now then r.action.value else 0)
      else none := by
  rw [RegionMap.retest]
  by_cases h : now = r.inside
  · simp [h, fireAll]
  · have hf : (fireAll [(r.action, now)]).events = (r.action.fire now).events := by
      simp [fireAll]
    simp [h, hf, fire, Event.lastOn_singleton]

/-- The last region of a target that changes sends the last value. -/
theorem lastOn_sweep_cons (c : Channel) (now : Region TouchButton → Bool) (r : Region TouchButton)
    (rs : List (Region TouchButton)) :
    Event.lastOn c (fireAll (RegionMap.sweep now ⟨r :: rs⟩).2).events =
      (Event.lastOn c (fireAll (RegionMap.sweep now ⟨rs⟩).2).events).or
        (if now r ≠ r.inside ∧ r.action.target = c then some (if now r then r.action.value else 0)
        else none) := by
  rw [RegionMap.sweep, List.flatMap_cons, fireAll_append, Response.events_append,
    Event.lastOn_append, lastOn_retest]
  rfl

end TouchButton

end ControllerRemap
