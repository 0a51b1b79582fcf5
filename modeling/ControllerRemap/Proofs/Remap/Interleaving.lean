import ControllerRemap.Proofs.Remap.Feed

/-! Rules registered while events arrive. A gate is set when its rule is registered and then
only by events on its modifiers, yet after every action each gate says whether the modifiers
hold on the live table. The gates are therefore a function of the rules and the live table,
and the order of the actions leaves no trace in them. -/

namespace ControllerRemap

namespace Remapper

/-- A registration adds a valid rule last and refuses any other. -/
theorem rules_register (r : Remapper) (rule : Rule) (live : Live) :
    (r.register rule live).1.rules = r.rules ++ if rule.validate.isOk then [rule] else [] := by
  cases hv : rule.validate with
  | ok u =>
    rw [register_of_valid r hv, rules_extend]
    rfl
  | error e =>
    rw [register_of_invalid r hv]
    exact (List.append_nil _).symm

theorem Current.gates_eq {r : Remapper} {live : Live} (h : r.Current live) :
    r.gates = r.rules.map (·.isActive live) := by
  rw [Remapper.gates, Remapper.rules, List.map_map]
  exact List.map_congr_left h.gates

end Remapper

namespace Feed

/-- What can happen to a feed. -/
inductive Action where
  | register (rule : Rule)
  | event (e : Event)

/-- The rule that an action adds. -/
def Action.accepted : Action → Option Rule
  | register rule => if rule.validate.isOk then some rule else none
  | event _ => none

def act (f : Feed) : Action → Feed
  | .register rule => f.register rule
  | .event e => f.step e

def play (f : Feed) (actions : List Action) : Feed := actions.foldl act f

theorem current_act {f : Feed} (h : f.remapper.Current f.live) (a : Action) :
    (f.act a).remapper.Current (f.act a).live := by
  cases a with
  | register rule => exact h.register rule
  | event e => exact h.dispatch e

theorem current_play {f : Feed} (h : f.remapper.Current f.live) (actions : List Action) :
    (f.play actions).remapper.Current (f.play actions).live := by
  induction actions generalizing f with
  | nil => exact h
  | cons a actions ih => exact ih (current_act h a)

theorem rules_act {f : Feed} (h : f.remapper.Current f.live) (a : Action) :
    (f.act a).remapper.rules = f.remapper.rules ++ a.accepted.toList := by
  cases a with
  | register rule =>
    rw [act, register, Remapper.rules_register, Action.accepted]
    split <;> rfl
  | event e =>
    rw [act, step, h.indexed.rules_dispatch]
    exact (List.append_nil _).symm

theorem rules_play {f : Feed} (h : f.remapper.Current f.live) (actions : List Action) :
    (f.play actions).remapper.rules = f.remapper.rules ++ actions.filterMap Action.accepted := by
  induction actions generalizing f with
  | nil => exact (List.append_nil _).symm
  | cons a actions ih =>
    have hrest := ih (current_act h a)
    rw [play, List.foldl_cons, ← play, hrest, rules_act h, List.append_assoc]
    cases ha : a.accepted <;> simp [ha]

/-- Any registrations and events in any order leave every gate open exactly if the modifiers
of its rule hold on the live table. So two runs whose live tables end with the same values
agree on the gates of all rules with the same modifiers, and on all gates if they registered
the same rules. -/
theorem gates_after_play (live : Live) (actions : List Action) :
    let f := play { live } actions
    f.remapper.rules = actions.filterMap Action.accepted ∧
    (∀ s ∈ f.remapper.slots, s.isOpen = s.rule.modifiers.all (·.holds f.live)) ∧
    ∀ live' actions', let g := play { live := live' } actions'
      f.live.value = g.live.value →
      (∀ s ∈ f.remapper.slots, ∀ t ∈ g.remapper.slots,
        s.rule.modifiers = t.rule.modifiers → s.isOpen = t.isOpen) ∧
      (actions.filterMap Action.accepted = actions'.filterMap Action.accepted →
        f.remapper.gates = g.remapper.gates) := by
  intro f
  have hf : f.remapper.Current f.live := current_play (Remapper.current_empty live) actions
  have hrules : f.remapper.rules = actions.filterMap Action.accepted :=
    rules_play (Remapper.current_empty live) actions
  refine ⟨hrules, hf.gates, fun live' actions' => ?_⟩
  intro g hvalue
  have hg : g.remapper.Current g.live := current_play (Remapper.current_empty live') actions'
  have hrules' : g.remapper.rules = actions'.filterMap Action.accepted :=
    rules_play (Remapper.current_empty live') actions'
  have hactive (rule : Rule) : rule.isActive f.live = rule.isActive g.live :=
    Rule.isActive_congr fun c _ => congrFun hvalue c
  refine ⟨fun s hs t ht hmodifiers => ?_, fun hsame => ?_⟩
  · calc s.isOpen = s.rule.isActive f.live := hf.gates s hs
      _ = s.rule.isActive g.live := hactive s.rule
      _ = t.rule.isActive g.live := by rw [Rule.isActive, Rule.isActive, hmodifiers]
      _ = t.isOpen := (hg.gates t ht).symm
  · rw [hf.gates_eq, hg.gates_eq, hrules, hrules', hsame]
    exact List.map_congr_left fun rule _ => hactive rule

end Feed

end ControllerRemap
