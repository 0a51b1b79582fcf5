import ControllerRemap.Proofs.Remap.Gate

/-! A rule table that is fed every event of its live table. Its gates are never out of
date, and an output that only one rule drives has at any time, unless nothing was sent on
it, the value that the rule wants: the transformed value of the source while the modifiers
hold and the release value while they do not. -/

namespace ControllerRemap

/-- A rule table, the live table that it is fed from, and everything that it has sent. -/
structure Feed where
  live : Live
  remapper : Remapper := {}
  sent : List Event := []

namespace Feed

/-- Registers a rule against the live table, if it is valid. -/
def register (f : Feed) (rule : Rule) : Feed :=
  { f with remapper := (f.remapper.register rule f.live).1 }

/-- Applies an event to the live table and dispatches it. -/
def step (f : Feed) (e : Event) : Feed where
  live := f.live.apply e
  remapper := (f.remapper.dispatch e (f.live.apply e)).1
  sent := f.sent ++ (f.remapper.dispatch e (f.live.apply e)).2

/-- Rules registered against a live table. -/
def start (live : Live) (rules : List Rule) : Feed := rules.foldl register { live }

def run (f : Feed) (es : List Event) : Feed := es.foldl step f

theorem start_current (live : Live) (rules : List Rule) :
    (start live rules).remapper.Current (start live rules).live := by
  have hf (f : Feed) (h : f.remapper.Current f.live) :
      (rules.foldl register f).remapper.Current (rules.foldl register f).live := by
    induction rules generalizing f with
    | nil => exact h
    | cons rule rules ih => exact ih (f.register rule) (h.register rule)
  exact hf { live } (Remapper.current_empty live)

/-- Registration sends nothing. -/
theorem start_sent (live : Live) (rules : List Rule) : (start live rules).sent = [] := by
  have hf (f : Feed) : (rules.foldl register f).sent = f.sent := by
    induction rules generalizing f with
    | nil => rfl
    | cons rule rules ih => exact ih (f.register rule)
  exact hf { live }

/-- If the output of a sole rule is what the rule wants, it still is after an event. -/
theorem output_step {f : Feed} (h : f.remapper.Current f.live) {e : Event}
    (he : e.channel.kind ≠ .syn) {s : Slot} (hs : f.remapper.Sole s)
    (ho : ∀ v ∈ Event.lastOn s.rule.target f.sent, v = s.rule.wanted f.live) :
    ∀ v ∈ Event.lastOn s.rule.target (f.step e).sent, v = s.rule.wanted (f.step e).live := by
  have gate := h.gates s hs.mem
  have hlive : (f.step e).live = f.live.apply e := rfl
  have hsent : Event.lastOn s.rule.target (f.step e).sent =
      (s.sendsLast e (f.live.apply e)).or (Event.lastOn s.rule.target f.sent) := by
    rw [Feed.step, Event.lastOn_append, h.indexed.lastOn_dispatch hs]
  rw [hsent, hlive]
  cases hactive : s.rule.isActive (f.live.apply e) with
  | true =>
    rw [Rule.wanted_of_active hactive]
    refine Slot.driven_step he gate (fun hwas => ?_) hactive
    rwa [Rule.wanted_of_active hwas] at ho
  | false =>
    rw [Rule.wanted_of_inactive hactive]
    refine Slot.released_step gate (fun hwas => ?_) hactive
    rwa [Rule.wanted_of_inactive hwas] at ho

theorem output_run {f : Feed} (h : f.remapper.Current f.live) {s : Slot} (hs : f.remapper.Sole s)
    (ho : ∀ v ∈ Event.lastOn s.rule.target f.sent, v = s.rule.wanted f.live)
    (es : List Event) (hes : ∀ e ∈ es, e.channel.kind ≠ .syn) :
    ∀ v ∈ Event.lastOn s.rule.target (f.run es).sent, v = s.rule.wanted (f.run es).live := by
  induction es generalizing f s with
  | nil => exact ho
  | cons e es ih =>
    have he : e.channel.kind ≠ .syn := hes e List.mem_cons_self
    have hnext := ih (f := f.step e) (h.dispatch e) (h.indexed.sole_dispatch hs e (f.live.apply e))
    rw [Slot.settled_rule] at hnext
    exact hnext (output_step h he hs ho) fun d hd => hes d (List.mem_cons_of_mem e hd)

/-- Any rules are registered against any live table, the invalid ones being refused, and any
events that are no synchronisation are fed. An output that one rule alone drives then holds
what the rule wants, if anything was ever sent on it. The rule may be gated by its source. -/
theorem output_follows_gate (live : Live) (rules : List Rule) (es : List Event)
    (hes : ∀ e ∈ es, e.channel.kind ≠ .syn) {pre post : List Rule} {rule : Rule}
    (hrules : (start live rules).remapper.rules = pre ++ rule :: post)
    (hsole : ∀ r ∈ pre ++ post, r.target ≠ rule.target) :
    ∀ v ∈ Event.lastOn rule.target ((start live rules).run es).sent,
      v = rule.wanted ((start live rules).run es).live := by
  obtain ⟨s, rfl, hs⟩ := Remapper.exists_sole hrules hsole
  refine output_run (start_current live rules) hs ?_ es hes
  rw [start_sent]
  simp

/-- A trigger passes its own threshold and falls back: the last value sent is the release
value, beside a refused rule and another rule of the same source. -/
theorem output_follows_gate_of_trigger :
    let trigger : Channel := .abs 2
    let past : Modifier := { source := trigger, min := some 10 }
    let rule : Rule :=
      { source := trigger, target := .key 57, modifiers := [past], releaseValue := -1 }
    let refused : Rule := { source := trigger, target := .key 58, modifiers := [past, past] }
    let f := (start {} [refused, .plain trigger (.abs 5), rule]).run [⟨trigger, 20⟩, ⟨trigger, 5⟩]
    Event.lastOn rule.target f.sent = some (-1) ∧
      ∀ v ∈ Event.lastOn rule.target f.sent, v = rule.wanted f.live := by
  intro trigger past rule refused f
  have hrules : (start {} [refused, .plain trigger (.abs 5), rule]).remapper.rules =
      [.plain trigger (.abs 5)] ++ rule :: [] := rfl
  exact ⟨by decide, output_follows_gate {} _ _ (by decide) hrules (by decide)⟩

end Feed

end ControllerRemap
