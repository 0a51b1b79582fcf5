import ControllerRemap.Proofs.Remap.Indexed

/-! A rule table answers an event as a plain scan of its rules does, in the order of
registration: first the direct outputs of the active rules of the event's channel, then
the edges of the gates that depend on the channel. This holds of every table that
registrations and dispatches can reach, whichever registrations were accepted. -/

namespace ControllerRemap

/-! ### The scan -/

namespace Slot

/-- What a rule sends for the value of an event. -/
def direct (e : Event) (live : Live) (s : Slot) : Option Event :=
  if s.rule.source = e.channel ∧ s.rule.isActive live then
    some ⟨s.rule.target, s.rule.transform.apply e.value⟩
  else none

/-- What a rule sends when an event on one of its modifiers shuts or opens its gate. -/
def edge (e : Event) (live : Live) (s : Slot) : Option Event :=
  if s.rule.gatedBy e.channel then
    if s.isOpen ∧ ¬ s.rule.isActive live then some ⟨s.rule.target, s.rule.releaseValue⟩
    else if ¬ s.isOpen ∧ s.rule.isActive live then
      some ⟨s.rule.target, s.rule.transform.apply (live.value s.rule.source)⟩
    else none
  else none

/-- The rule after an event: its gate is set anew if the event is on one of its modifiers. -/
def settled (e : Event) (live : Live) (s : Slot) : Slot :=
  if s.rule.gatedBy e.channel then { s with isOpen := s.rule.isActive live } else s

@[simp] theorem settled_rule (e : Event) (live : Live) (s : Slot) :
    (s.settled e live).rule = s.rule := by
  rw [settled]
  split <;> rfl

theorem regate_eq {e : Event} {s : Slot} (h : s.rule.gatedBy e.channel = true) (live : Live) :
    s.regate live = (s.settled e live, (s.edge e live).toList) := by
  rw [regate, settled, if_pos h, edge, if_pos h]
  cases s.isOpen <;> cases s.rule.isActive live <;> rfl

end Slot

namespace Remapper

/-- An event answered without indices. -/
def scan (slots : List Slot) (e : Event) (live : Live) : List Slot × List Event :=
  (slots.map (·.settled e live),
    slots.filterMap (·.direct e live) ++ slots.filterMap (·.edge e live))

theorem Indexed.forward_eq {r : Remapper} (h : r.Indexed) (e : Event) (live : Live) :
    r.forward e live = r.slots.filterMap (·.direct e live) := by
  let active (s : Slot) : Option Event :=
    if s.rule.isActive live then some (s.rule.output e.value) else none
  have hf : r.forward e live =
      (r.bySource.bucket e.channel).filterMap fun i => ([] ++ r.slots)[i]?.bind active := by
    rw [forward]
    congr 1
    funext i
    rw [List.nil_append]
    cases r.slots[i]? <;> rfl
  rw [hf, h.bySource]
  refine (filterMap_positions _ active [] r.slots).trans ?_
  congr 1
  funext s
  by_cases hs : s.rule.source = e.channel <;> simp [Slot.direct, Rule.output, active, hs]

/-- Positions are visited one after the other, and each visit concerns its own slot. -/
theorem regateAt_positions (e : Event) (live : Live) (pre slots : List Slot) :
    regateAt live (positions (fun s => s.rule.gatedBy e.channel) pre.length slots) (pre ++ slots) =
      (pre ++ slots.map (·.settled e live), slots.filterMap (·.edge e live)) := by
  induction slots generalizing pre with
  | nil => simp [positions, regateAt]
  | cons s slots ih =>
    have hi := ih (pre ++ [s.settled e live])
    simp only [List.length_append, List.length_singleton, List.append_assoc,
      List.singleton_append] at hi
    by_cases h : s.rule.gatedBy e.channel = true
    · have hget : (pre ++ s :: slots)[pre.length]? = some s := by simp
      have hset : (pre ++ s :: slots).set pre.length (s.settled e live) =
          pre ++ s.settled e live :: slots := by simp
      simp only [positions, h, if_true, regateAt, hget, Slot.regate_eq h, hset, hi,
        List.map_cons, List.filterMap_cons]
      cases s.edge e live <;> rfl
    · have hs : s.settled e live = s := by rw [Slot.settled, if_neg h]
      have he : s.edge e live = none := by rw [Slot.edge, if_neg h]
      rw [hs] at hi
      simp only [positions, h, Bool.false_eq_true, if_false, hi, hs, he, List.map_cons,
        List.filterMap_cons]

theorem Indexed.dispatch_eq {r : Remapper} (h : r.Indexed) (e : Event) (live : Live) :
    r.dispatch e live =
      ({ r with slots := (scan r.slots e live).1 }, (scan r.slots e live).2) := by
  have hr := regateAt_positions e live [] r.slots
  rw [List.length_nil, List.nil_append, List.nil_append, ← h.byModifier] at hr
  rw [dispatch, hr, h.forward_eq]
  rfl

/-- Dispatch changes no rule, so every bucket stays right. -/
theorem Indexed.dispatch {r : Remapper} (h : r.Indexed) (e : Event) (live : Live) :
    (r.dispatch e live).1.Indexed := by
  rw [h.dispatch_eq]
  refine ⟨fun c => ?_, fun c => ?_⟩
  · simp only [scan, positions_map, Slot.settled_rule]
    exact h.bySource c
  · simp only [scan, positions_map, Slot.settled_rule]
    exact h.byModifier c

/-! ### Reachable tables -/

/-- A call on a rule table, with the live table that it sees. -/
inductive Call where
  | register (rule : Rule) (live : Live)
  | dispatch (e : Event) (live : Live)

namespace Call

/-- The table after a call. -/
def run (r : Remapper) : Call → Remapper
  | register rule live => (r.register rule live).1
  | dispatch e live => (r.dispatch e live).1

/-- The rule that a call adds to the table. -/
def accepted : Call → Option Rule
  | register rule _ => if rule.validate.isOk then some rule else none
  | dispatch _ _ => none

end Call

/-- The table after a list of calls. -/
def after (r : Remapper) (calls : List Call) : Remapper := calls.foldl Call.run r

/-- The registered rules in order. -/
def rules (r : Remapper) : List Rule := r.slots.map (·.rule)

theorem Indexed.run {r : Remapper} (h : r.Indexed) (call : Call) : (call.run r).Indexed := by
  cases call with
  | dispatch e live => exact h.dispatch e live
  | register rule live =>
    rw [Call.run]
    cases hv : rule.validate with
    | ok u => rw [register_of_valid r hv]; exact h.extend hv live
    | error e => rw [register_of_invalid r hv]; exact h

theorem Indexed.after {r : Remapper} (h : r.Indexed) (calls : List Call) :
    (r.after calls).Indexed := by
  induction calls generalizing r with
  | nil => exact h
  | cons call calls ih => exact ih (h.run call)

theorem Indexed.rules_dispatch {r : Remapper} (h : r.Indexed) (e : Event) (live : Live) :
    (r.dispatch e live).1.rules = r.rules := by
  rw [h.dispatch_eq]
  simp [rules, scan]

theorem rules_extend (r : Remapper) (rule : Rule) (live : Live) :
    (r.extend rule live).rules = r.rules ++ [rule] := by
  simp [rules, extend]

/-- Calls add the rules that they accept, in order, and change none. -/
theorem Indexed.rules_after {r : Remapper} (h : r.Indexed) (calls : List Call) :
    (r.after calls).rules = r.rules ++ calls.filterMap Call.accepted := by
  induction calls generalizing r with
  | nil => simp [Remapper.after]
  | cons call calls ih =>
    have hc : (call.run r).rules = r.rules ++ call.accepted.toList := by
      cases call with
      | dispatch e live => simp [Call.run, h.rules_dispatch, Call.accepted]
      | register rule live =>
        rw [Call.run, Call.accepted]
        cases hv : rule.validate with
        | ok u => rw [register_of_valid r hv, rules_extend]; rfl
        | error e => rw [register_of_invalid r hv]; simp [Except.isOk, Except.toBool]
    have hr := ih (h.run call)
    rw [Remapper.after, List.foldl_cons, ← Remapper.after, hr, hc, List.append_assoc]
    cases ha : call.accepted <;> simp [ha]

/-- Later calls leave a registered rule at its position. -/
theorem Indexed.rules_after_getElem? {r : Remapper} (h : r.Indexed) {i : Nat} {rule : Rule}
    (hi : r.rules[i]? = some rule) (calls : List Call) : (r.after calls).rules[i]? = some rule := by
  rw [h.rules_after, List.getElem?_append_left (List.getElem?_eq_some_iff.1 hi).1]
  exact hi

/-- Every table that calls reach answers every event like a scan of the accepted rules, a
refused rule leaves the table as it was, and the id of an accepted rule designates it for
good. The live tables that the calls see are arbitrary and need not be related. -/
theorem dispatch_refines_scan (calls : List Call) :
    let r := after {} calls
    r.rules = calls.filterMap Call.accepted ∧ r.Indexed ∧
    (∀ e live, r.dispatch e live =
      ({ r with slots := (scan r.slots e live).1 }, (scan r.slots e live).2)) ∧
    (∀ rule live r' error, r.register rule live = (r', .error error) → r' = r) ∧
    ∀ rule live r' id, r.register rule live = (r', .ok id) →
      ∀ later, ((r'.after later).rule? id).map (·.rule) = some rule := by
  intro r
  have h : r.Indexed := indexed_empty.after calls
  refine ⟨indexed_empty.rules_after calls, h, h.dispatch_eq, ?_, ?_⟩
  · intro rule live r' error hr
    cases hv : rule.validate with
    | ok u => rw [register_of_valid r hv] at hr; cases hr
    | error e => rw [register_of_invalid r hv] at hr; cases hr; rfl
  · intro rule live r' id hr later
    cases hv : rule.validate with
    | error e => rw [register_of_invalid r hv] at hr; cases hr
    | ok u =>
      rw [register_of_valid r hv] at hr
      cases hr
      have hi : (r.extend rule live).rules[r.slots.length]? = some rule := by
        rw [rules_extend]
        simp [rules]
      have hl := (h.extend hv live).rules_after_getElem? hi later
      rw [rules, List.getElem?_map] at hl
      exact hl

end Remapper

end ControllerRemap
