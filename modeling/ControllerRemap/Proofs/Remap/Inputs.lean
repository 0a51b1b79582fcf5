import ControllerRemap.Proofs.Remap.Gate
import Mathlib.Data.List.Basic

/-! The channels that a rule table looks at: the sources of its rules and the channels of their
modifiers. What the table answers depends on the live values of no other channel, and an event
on another channel passes it by. -/

namespace ControllerRemap

/-- The channels that a rule looks at. -/
def Rule.inputs (r : Rule) : List Channel := r.source :: r.modifiers.map (·.source)

theorem Rule.mem_inputs {r : Rule} {c : Channel} :
    c ∈ r.inputs ↔ c = r.source ∨ r.gatedBy c = true := by
  simp [inputs, gatedBy]

namespace Live

/-- Two live tables have the same values on some channels. -/
def AgreeOn (cs : List Channel) (t u : Live) : Prop := ∀ c ∈ cs, t.value c = u.value c

variable {cs ds : List Channel} {t u : Live}

theorem AgreeOn.mono (h : AgreeOn ds t u) (hsub : cs ⊆ ds) : AgreeOn cs t u :=
  fun c hc => h c (hsub hc)

/-- An event that both tables take leaves them in agreement. -/
theorem AgreeOn.apply (h : AgreeOn cs t u) (e : Event) : AgreeOn cs (t.apply e) (u.apply e) := by
  intro c hc
  by_cases hs : e.channel.kind = .syn
  · rw [apply_of_syn t hs, apply_of_syn u hs]
    exact h c hc
  · rw [value_apply t hs, value_apply u hs, h c hc]

/-- An event on none of the channels may be taken by one table alone. -/
theorem AgreeOn.apply_left (h : AgreeOn cs t u) {e : Event} (he : e.channel ∉ cs) :
    AgreeOn cs (t.apply e) u := by
  intro c hc
  rw [value_apply_of_ne t fun hce => he (hce ▸ hc)]
  exact h c hc

end Live

namespace Slot

variable {s : Slot} {t u : Live} {e : Event}

theorem isActive_of_agreeOn (h : Live.AgreeOn s.rule.inputs t u) :
    s.rule.isActive t = s.rule.isActive u :=
  Rule.isActive_congr fun c hc => h c (Rule.mem_inputs.2 (.inr hc))

/-- What a rule does depends on the channels that it looks at. -/
theorem answer_congr (h : Live.AgreeOn s.rule.inputs t u) (e : Event) :
    s.settled e t = s.settled e u ∧ s.direct e t = s.direct e u ∧ s.edge e t = s.edge e u := by
  have hactive := isActive_of_agreeOn h
  have hsource : t.value s.rule.source = u.value s.rule.source :=
    h _ (Rule.mem_inputs.2 (.inl rfl))
  simp only [settled, direct, edge, hactive, hsource, and_self]

/-- A rule does nothing about an event on a channel that it does not look at. -/
theorem answer_of_not_mem (h : e.channel ∉ s.rule.inputs) (live : Live) :
    s.settled e live = s ∧ s.direct e live = none ∧ s.edge e live = none := by
  rw [Rule.mem_inputs, not_or] at h
  have hsource : s.rule.source ≠ e.channel := Ne.symm h.1
  simp [settled, direct, edge, hsource, h.2]

end Slot

namespace Remapper

/-- The channels that a table looks at. -/
def inputs (r : Remapper) : List Channel := r.rules.flatMap Rule.inputs

variable {r : Remapper} {t u : Live} {e : Event}

theorem inputs_subset {s : Slot} (hs : s ∈ r.slots) : s.rule.inputs ⊆ r.inputs :=
  fun _ hc => List.mem_flatMap.2 ⟨s.rule, List.mem_map_of_mem hs, hc⟩

theorem Indexed.dispatch_congr (h : r.Indexed) (hagree : Live.AgreeOn r.inputs t u) (e : Event) :
    r.dispatch e t = r.dispatch e u := by
  have hslot (s : Slot) (hs : s ∈ r.slots) := Slot.answer_congr (hagree.mono (inputs_subset hs)) e
  have hscan : scan r.slots e t = scan r.slots e u := by
    rw [scan, scan, List.map_congr_left fun s hs => (hslot s hs).1,
      List.filterMap_congr fun s hs => (hslot s hs).2.1,
      List.filterMap_congr fun s hs => (hslot s hs).2.2]
  rw [h.dispatch_eq, h.dispatch_eq, hscan]

theorem Indexed.dispatch_of_not_mem (h : r.Indexed) (he : e.channel ∉ r.inputs) (live : Live) :
    r.dispatch e live = (r, []) := by
  have hslot (s : Slot) (hs : s ∈ r.slots) :=
    Slot.answer_of_not_mem (fun hc => he (inputs_subset hs hc)) live
  have hsettled : r.slots.map (·.settled e live) = r.slots := by
    rw [List.map_congr_left fun s hs => (hslot s hs).1, List.map_id']
  have hdirect : r.slots.filterMap (·.direct e live) = [] :=
    List.filterMap_eq_nil_iff.2 fun s hs => (hslot s hs).2.1
  have hedge : r.slots.filterMap (·.edge e live) = [] :=
    List.filterMap_eq_nil_iff.2 fun s hs => (hslot s hs).2.2
  rw [h.dispatch_eq, scan, hsettled, hdirect, hedge]
  rfl

end Remapper

end ControllerRemap
