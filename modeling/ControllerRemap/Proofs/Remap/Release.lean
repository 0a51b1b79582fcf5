import ControllerRemap.Proofs.Remap.Gate

/-! What a rule table sends when it is released. Every target goes to the release value of the
first rule that has it, whatever the gates; a channel that is no target is left alone. -/

namespace ControllerRemap

/-- The value that rules release a channel to, if one of them has it as its target. -/
def Rule.restValue? (rules : List Rule) (c : Channel) : Option Int32 :=
  (rules.find? (·.target = c)).map (·.releaseValue)

namespace Remapper

/-- A target that was seen before is not released again. -/
theorem lastOn_releaseFrom_of_seen {c : Channel} {seen : List Channel} (h : c ∈ seen)
    (slots : List Slot) : Event.lastOn c (releaseFrom seen slots) = none := by
  induction slots generalizing seen with
  | nil => rfl
  | cons s slots ih =>
    rw [releaseFrom]
    split
    · exact ih h
    · next hs =>
      have hne : s.rule.target ≠ c := fun hc => hs (hc ▸ h)
      rw [← List.singleton_append, Event.lastOn_append, ih (List.mem_cons_of_mem _ h),
        Event.lastOn_singleton, Rule.releaseEvent, if_neg hne]
      rfl

theorem lastOn_releaseFrom {c : Channel} {seen : List Channel} (h : c ∉ seen)
    (slots : List Slot) :
    Event.lastOn c (releaseFrom seen slots) = Rule.restValue? (slots.map (·.rule)) c := by
  induction slots generalizing seen with
  | nil => rfl
  | cons s slots ih =>
    rw [releaseFrom]
    by_cases hc : s.rule.target = c
    · have hfirst : s.rule.target ∉ seen := hc ▸ h
      rw [if_neg hfirst, ← List.singleton_append, Event.lastOn_append,
        lastOn_releaseFrom_of_seen (by simp [hc]), Event.lastOn_singleton, Rule.releaseEvent,
        if_pos hc]
      simp [Rule.restValue?, hc]
    · have hrest : Rule.restValue? ((s :: slots).map (·.rule)) c =
          Rule.restValue? (slots.map (·.rule)) c := by simp [Rule.restValue?, hc]
      rw [hrest]
      split
      · exact ih h
      · have hseen : c ∉ s.rule.target :: seen := by simp [h, Ne.symm hc]
        rw [← List.singleton_append, Event.lastOn_append, ih hseen, Event.lastOn_singleton,
          Rule.releaseEvent, if_neg hc, Option.or_none]

theorem lastOn_releaseAll (r : Remapper) (c : Channel) :
    Event.lastOn c r.releaseAll = Rule.restValue? r.rules c :=
  lastOn_releaseFrom List.not_mem_nil r.slots

/-- Dispatch sends nothing on a channel that is no target. -/
theorem Indexed.lastOn_dispatch_of_ne {r : Remapper} (h : r.Indexed) {c : Channel}
    (hc : Rule.restValue? r.rules c = none) (e : Event) (live : Live) :
    Event.lastOn c (r.dispatch e live).2 = none := by
  refine Event.lastOn_eq_none fun o ho => ?_
  obtain ⟨rule, hrule, hto⟩ := h.channel_of_dispatch ho
  have hnone : ∀ t ∈ r.rules, t.target ≠ c := by simpa [Rule.restValue?] using hc
  rw [hto]
  exact hnone rule hrule

end Remapper

end ControllerRemap
