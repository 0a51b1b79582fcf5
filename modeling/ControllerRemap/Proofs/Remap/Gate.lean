import ControllerRemap.Proofs.Event.History
import ControllerRemap.Proofs.Remap.Scan

/-! The gate of a rule and the output that it drives. While every event on a modifier
reaches the table, a gate is open exactly if the modifiers hold on the live table. The
output of a rule that shares its target with no other then rests at the release value
while the gate is shut, and follows the source while it is open. -/

namespace ControllerRemap

namespace Rule

/-- The value that the output of a rule should have. -/
def wanted (r : Rule) (live : Live) : Int32 :=
  if r.isActive live then r.transform.apply (live.value r.source) else r.releaseValue

theorem wanted_of_active {r : Rule} {live : Live} (h : r.isActive live = true) :
    r.wanted live = r.transform.apply (live.value r.source) := by
  rw [wanted, if_pos h]

theorem wanted_of_inactive {r : Rule} {live : Live} (h : r.isActive live = false) :
    r.wanted live = r.releaseValue := by
  rw [wanted, h, if_neg Bool.false_ne_true]

/-- An event on no modifier leaves the rule as active as it was. -/
theorem isActive_apply {r : Rule} {e : Event} (h : r.gatedBy e.channel = false) (live : Live) :
    r.isActive (live.apply e) = r.isActive live := by
  refine isActive_congr fun c hc => Live.value_apply_of_ne live ?_
  rintro rfl
  rw [h] at hc
  cases hc

end Rule

namespace Slot

/-- The last value that a rule sends on its target in answer to an event. -/
def sendsLast (e : Event) (live : Live) (s : Slot) : Option Int32 :=
  ((s.edge e live).or (s.direct e live)).map (·.value)

theorem channel_of_direct {e o : Event} {live : Live} {s : Slot} (h : s.direct e live = some o) :
    o.channel = s.rule.target := by
  rw [direct] at h
  split at h
  · cases h; rfl
  · cases h

theorem channel_of_edge {e o : Event} {live : Live} {s : Slot} (h : s.edge e live = some o) :
    o.channel = s.rule.target := by
  rw [edge] at h
  split at h
  · split at h
    · cases h; rfl
    · split at h
      · cases h; rfl
      · cases h
  · cases h

theorem sendsLast_of_inactive {s : Slot} {live : Live} (h : s.rule.isActive live = false)
    (e : Event) : s.sendsLast e live =
      if s.rule.gatedBy e.channel ∧ s.isOpen then some s.rule.releaseValue else none := by
  by_cases hg : s.rule.gatedBy e.channel = true <;> by_cases ho : s.isOpen = true <;>
    simp [sendsLast, edge, direct, h, hg, ho]

theorem sendsLast_of_active {s : Slot} {live : Live} (h : s.rule.isActive live = true)
    (e : Event) : s.sendsLast e live =
      if s.rule.gatedBy e.channel ∧ s.isOpen = false then
        some (s.rule.transform.apply (live.value s.rule.source))
      else if s.rule.source = e.channel then some (s.rule.transform.apply e.value) else none := by
  by_cases hg : s.rule.gatedBy e.channel = true <;> by_cases ho : s.isOpen = true <;>
    by_cases hs : s.rule.source = e.channel <;> simp [sendsLast, edge, direct, h, hg, ho, hs]

section Step

variable {s : Slot} {live : Live} {e : Event} {last : Option Int32}

/-- A gate that was up to date is so after the next event. -/
theorem isOpen_settled (gate : s.isOpen = s.rule.isActive live) :
    (s.settled e (live.apply e)).isOpen = s.rule.isActive (live.apply e) := by
  rw [settled]
  split
  · rfl
  · next h => rw [gate, Rule.isActive_apply (by simpa using h)]

/-- An output behind a shut gate is released, either now or before. -/
theorem released_step (gate : s.isOpen = s.rule.isActive live)
    (held : s.rule.isActive live = false → ∀ v ∈ last, v = s.rule.releaseValue)
    (shut : s.rule.isActive (live.apply e) = false) :
    ∀ v ∈ (s.sendsLast e (live.apply e)).or last, v = s.rule.releaseValue := by
  rw [sendsLast_of_inactive shut]
  split
  · simp
  · next h =>
    have hwas : s.rule.isActive live = false := by
      cases hg : s.rule.gatedBy e.channel with
      | true => rw [← gate]; simpa [hg] using h
      | false => rw [← Rule.isActive_apply hg]; exact shut
    exact held hwas

/-- An output behind an open gate has the value of its source, either now or before. -/
theorem driven_step (he : e.channel.kind ≠ .syn) (gate : s.isOpen = s.rule.isActive live)
    (held : s.rule.isActive live = true →
      ∀ v ∈ last, v = s.rule.transform.apply (live.value s.rule.source))
    (active : s.rule.isActive (live.apply e) = true) :
    ∀ v ∈ (s.sendsLast e (live.apply e)).or last,
      v = s.rule.transform.apply ((live.apply e).value s.rule.source) := by
  rw [sendsLast_of_active active]
  split
  · simp
  · next h =>
    by_cases hs : s.rule.source = e.channel
    · simp [hs, Live.value_apply_self live he]
    · have hwas : s.rule.isActive live = true := by
        cases hg : s.rule.gatedBy e.channel with
        | true => rw [← gate]; simpa [hg] using h
        | false => rw [← Rule.isActive_apply hg]; exact active
      rw [if_neg hs, Option.none_or, Live.value_apply_of_ne live hs]
      exact held hwas

end Step

end Slot

namespace Remapper

/-- A slot of the table that is the only one of its target. -/
def Sole (r : Remapper) (s : Slot) : Prop :=
  ∃ pre post, r.slots = pre ++ s :: post ∧ ∀ t ∈ pre ++ post, t.rule.target ≠ s.rule.target

theorem Sole.mem {r : Remapper} {s : Slot} (h : r.Sole s) : s ∈ r.slots := by
  obtain ⟨pre, post, hr, -⟩ := h
  rw [hr]
  exact List.mem_append_right pre List.mem_cons_self

/-- The slot of a rule whose target is the target of no other rule. -/
theorem exists_sole {r : Remapper} {pre post : List Rule} {rule : Rule}
    (hr : r.rules = pre ++ rule :: post) (hne : ∀ t ∈ pre ++ post, t.target ≠ rule.target) :
    ∃ s, s.rule = rule ∧ r.Sole s := by
  obtain ⟨before, rest, hslots, rfl, hrest⟩ := List.map_eq_append_iff.1 hr
  obtain ⟨s, after, rfl, rfl, rfl⟩ := List.map_eq_cons_iff.1 hrest
  refine ⟨s, rfl, before, after, hslots, fun t ht => hne t.rule ?_⟩
  rw [← List.map_append]
  exact List.mem_map_of_mem ht

/-- Of what all slots send, only what the sole slot sends is on its target. -/
theorem Sole.lastOn_filterMap {r : Remapper} {s : Slot} (h : r.Sole s) {f : Slot → Option Event}
    (hf : ∀ t o, f t = some o → o.channel = t.rule.target) :
    Event.lastOn s.rule.target (r.slots.filterMap f) = (f s).map (·.value) := by
  obtain ⟨pre, post, hr, hne⟩ := h
  have hrest (ts : List Slot) (hts : ∀ t ∈ ts, t ∈ pre ++ post) :
      Event.lastOn s.rule.target (ts.filterMap f) = none := by
    refine Event.lastOn_eq_none fun o ho => ?_
    obtain ⟨t, ht, hto⟩ := List.mem_filterMap.1 ho
    rw [hf t o hto]
    exact hne t (hts t ht)
  have hpre := hrest pre fun t => List.mem_append_left post
  have hpost := hrest post fun t => List.mem_append_right pre
  rw [hr, List.filterMap_append, List.filterMap_cons, Event.lastOn_append, hpre, Option.or_none]
  cases ho : f s with
  | none => simpa using hpost
  | some o =>
    have hc := Event.lastOn_append s.rule.target [o] (post.filterMap f)
    rw [hpost, Event.lastOn_singleton, if_pos (hf s o ho)] at hc
    exact hc

theorem Indexed.lastOn_dispatch {r : Remapper} (h : r.Indexed) {s : Slot} (hs : r.Sole s)
    (e : Event) (live : Live) :
    Event.lastOn s.rule.target (r.dispatch e live).2 = s.sendsLast e live := by
  rw [h.dispatch_eq, scan, Event.lastOn_append,
    hs.lastOn_filterMap fun _ _ => Slot.channel_of_edge,
    hs.lastOn_filterMap fun _ _ => Slot.channel_of_direct, Slot.sendsLast, Option.map_or]

theorem Indexed.sole_dispatch {r : Remapper} (h : r.Indexed) {s : Slot} (hs : r.Sole s)
    (e : Event) (live : Live) : (r.dispatch e live).1.Sole (s.settled e live) := by
  obtain ⟨pre, post, hr, hne⟩ := hs
  rw [h.dispatch_eq]
  refine ⟨pre.map (·.settled e live), post.map (·.settled e live), ?_, ?_⟩
  · simp [scan, hr]
  · rw [← List.map_append]
    intro t ht
    obtain ⟨u, hu, rfl⟩ := List.mem_map.1 ht
    rw [Slot.settled_rule, Slot.settled_rule]
    exact hne u hu

/-- A table sends on the targets of its rules only. -/
theorem Indexed.channel_of_dispatch {r : Remapper} (h : r.Indexed) {e o : Event} {live : Live}
    (ho : o ∈ (r.dispatch e live).2) : ∃ rule ∈ r.rules, o.channel = rule.target := by
  rw [h.dispatch_eq] at ho
  rcases List.mem_append.1 ho with ho | ho
  · obtain ⟨s, hs, hso⟩ := List.mem_filterMap.1 ho
    exact ⟨s.rule, List.mem_map_of_mem hs, Slot.channel_of_direct hso⟩
  · obtain ⟨s, hs, hso⟩ := List.mem_filterMap.1 ho
    exact ⟨s.rule, List.mem_map_of_mem hs, Slot.channel_of_edge hso⟩

/-! ### Gates that are up to date -/

/-- Every gate is open exactly if the modifiers of its rule hold on a live table. -/
structure Current (r : Remapper) (live : Live) : Prop where
  indexed : r.Indexed
  gates : ∀ s ∈ r.slots, s.isOpen = s.rule.isActive live

theorem current_empty (live : Live) : Current {} live :=
  ⟨indexed_empty, fun _ h => nomatch h⟩

variable {r : Remapper} {live : Live}

theorem Current.extend (h : r.Current live) {rule : Rule} (hv : rule.validate = .ok ()) :
    (r.extend rule live).Current live := by
  refine ⟨h.indexed.extend hv live, fun s hs => ?_⟩
  rcases List.mem_append.1 hs with hs | hs
  · exact h.gates s hs
  · cases List.mem_singleton.1 hs
    rfl

theorem Current.register (h : r.Current live) (rule : Rule) :
    (r.register rule live).1.Current live := by
  cases hv : rule.validate with
  | error e => rw [register_of_invalid r hv]; exact h
  | ok u => rw [register_of_valid r hv]; exact h.extend hv

/-- A dispatched event re-evaluates every gate that it may change. -/
theorem Current.dispatch (h : r.Current live) (e : Event) :
    (r.dispatch e (live.apply e)).1.Current (live.apply e) := by
  refine ⟨h.indexed.dispatch e (live.apply e), fun s hs => ?_⟩
  rw [h.indexed.dispatch_eq] at hs
  obtain ⟨t, ht, rfl⟩ := List.mem_map.1 hs
  rw [Slot.settled_rule]
  exact Slot.isOpen_settled (h.gates t ht)

end Remapper

end ControllerRemap
