import ControllerRemap.Proofs.Profile.Build
import ControllerRemap.Proofs.Profile.Run
import ControllerRemap.Proofs.Surface.Sweep

/-! An output of a custom profile behind a shut gate. The live table follows every event and
the profile only the events that the filter admits, so a gate can open or shut unseen: its
output then stays as it was. The output that its rule alone drives is released if the event
that shut the gate and the one that had opened it were both admitted, whatever else the
filter withholds. -/

namespace ControllerRemap

/-! ### Edges -/

/-- The events that open or shut the gate of a rule, in order. -/
def Rule.edges (rule : Rule) : Live → List Event → List Event
  | _, [] => []
  | live, e :: es =>
    if rule.isActive (live.apply e) = rule.isActive live then rule.edges (live.apply e) es
    else e :: rule.edges (live.apply e) es

theorem Rule.edges_concat (rule : Rule) (live : Live) (es : List Event) (e : Event) :
    rule.edges live (es ++ [e]) =
      if rule.isActive ((live.after es).apply e) = rule.isActive (live.after es) then
        rule.edges live es
      else rule.edges live es ++ [e] := by
  induction es generalizing live with
  | nil => rfl
  | cons d es ih =>
    have hafter : live.after (d :: es) = (live.apply d).after es := rfl
    rw [hafter, List.cons_append, edges, edges, ih]
    by_cases hd : rule.isActive (live.apply d) = rule.isActive live
    · rw [if_pos hd, if_pos hd]
    · rw [if_neg hd, if_neg hd]
      split <;> rfl

/-- The last few of some events were all admitted. -/
def Filter.AdmitsLast (f : Filter) (n : Nat) (es : List Event) : Prop :=
  ∀ e ∈ es.reverse.take n, f.admits e = true

instance (f : Filter) (n : Nat) (es : List Event) : Decidable (f.AdmitsLast n es) :=
  inferInstanceAs (Decidable (∀ e ∈ es.reverse.take n, f.admits e = true))

theorem Filter.admitsLast_concat {f : Filter} {n : Nat} {es : List Event} {e : Event} :
    f.AdmitsLast (n + 1) (es ++ [e]) ↔ f.admits e = true ∧ f.AdmitsLast n es := by
  simp [AdmitsLast]

namespace Slot

/-- What holds of a rule after some events: the gate is known to be open if it opened in
sight, and the output is released if the gate last opened and shut in sight. -/
structure Kept (filter : Filter) (s : Slot) (live : Live) (edges : List Event)
    (last : Option Int32) : Prop where
  opened : s.rule.isActive live = true → filter.AdmitsLast 1 edges → s.isOpen = true
  released : s.rule.isActive live = false → filter.AdmitsLast 2 edges →
    ∀ v ∈ last, v = s.rule.releaseValue

variable {filter : Filter} {s : Slot} {live : Live} {edges : List Event} {last : Option Int32}
  {e : Event}

/-- An event that the rule table does not see; if it is an edge, the filter withheld it. -/
theorem Kept.unseen (h : s.Kept filter live edges last)
    (he : s.rule.isActive (live.apply e) = s.rule.isActive live ∨ filter.admits e = false) :
    s.Kept filter (live.apply e)
      (if s.rule.isActive (live.apply e) = s.rule.isActive live then edges else edges ++ [e])
      last := by
  by_cases hsame : s.rule.isActive (live.apply e) = s.rule.isActive live
  · rw [if_pos hsame]
    refine ⟨fun hactive => ?_, fun hshut => ?_⟩
    · exact h.opened (hsame.symm.trans hactive)
    · exact h.released (hsame.symm.trans hshut)
  · rw [if_neg hsame]
    have hwithheld : filter.admits e = false := he.resolve_left hsame
    have hnot (n : Nat) : ¬ filter.AdmitsLast (n + 1) (edges ++ [e]) := by
      rw [Filter.admitsLast_concat, hwithheld]
      simp
    exact ⟨fun _ hlast => absurd hlast (hnot 0), fun _ hlast => absurd hlast (hnot 1)⟩

/-- Only an event on a modifier is an edge. -/
theorem gatedBy_of_edge (h : s.rule.isActive (live.apply e) ≠ s.rule.isActive live) :
    s.rule.gatedBy e.channel = true := by
  cases hg : s.rule.gatedBy e.channel with
  | true => rfl
  | false => exact absurd (Rule.isActive_apply hg live) h

theorem isOpen_settled_of_active (hactive : s.rule.isActive live = true)
    (hs : s.rule.gatedBy e.channel = true ∨ s.isOpen = true) :
    (s.settled e live).isOpen = true := by
  rw [settled]
  split
  · exact hactive
  · next hg => exact hs.resolve_left hg

/-- An event that is dispatched. -/
theorem Kept.seen (h : s.Kept filter live edges last) (e : Event) :
    (s.settled e (live.apply e)).Kept filter (live.apply e)
      (if s.rule.isActive (live.apply e) = s.rule.isActive live then edges else edges ++ [e])
      ((s.sendsLast e (live.apply e)).or last) := by
  by_cases hsame : s.rule.isActive (live.apply e) = s.rule.isActive live
  · rw [if_pos hsame]
    refine ⟨fun hactive hlast => ?_, fun hshut hlast => ?_⟩
    · rw [settled_rule] at hactive
      have hwas := h.opened (hsame.symm.trans hactive) hlast
      exact isOpen_settled_of_active hactive (.inr hwas)
    · rw [settled_rule] at hshut ⊢
      rw [sendsLast_of_inactive hshut]
      split
      · simp
      · exact h.released (hsame.symm.trans hshut) hlast
  · rw [if_neg hsame]
    have hgated := gatedBy_of_edge hsame
    refine ⟨fun hactive _ => ?_, fun hshut hlast => ?_⟩
    · rw [settled_rule] at hactive
      exact isOpen_settled_of_active hactive (.inl hgated)
    · rw [settled_rule] at hshut ⊢
      have hwas : s.rule.isActive live = true := by
        rw [hshut] at hsame
        simpa using hsame
      have hisOpen := h.opened hwas (Filter.admitsLast_concat.1 hlast).2
      simp [sendsLast_of_inactive hshut, hgated, hisOpen]

end Slot

/-! ### The profile -/

namespace Custom

/-- A rule of the profile is the only one that sends on its target, and no region does. -/
structure Drives (p : Custom) (s : Slot) : Prop where
  indexed : p.remapper.Indexed
  sole : p.remapper.Sole s
  placed : ∀ b ∈ p.regions.actions, b.button.target ≠ s.rule.target
  kind : s.rule.target.kind ≠ .syn

variable {p : Custom} {s : Slot} {e : Event}

theorem channel_of_fireAll {changes : List (PlacedButton × Bool)} {o : Event}
    (h : o ∈ (fireAll changes).events) : ∃ x ∈ changes, o.channel = x.1.button.target := by
  obtain ⟨y, hy, hc⟩ := TouchButton.channel_of_fireAll h
  obtain ⟨x, hx, rfl⟩ := List.mem_map.1 hy
  exact ⟨x, hx, hc⟩

/-- Synchronisation concerns no rule. -/
theorem Drives.handle_syn (h : p.Drives s) (he : e.channel.kind = .syn) (live : Live) :
    (p.handle e live).1.Drives s ∧
      Event.lastOn s.rule.target (p.handle e live).2.events = none := by
  rw [handle, if_pos he]
  split
  · refine ⟨⟨h.indexed, h.sole, ?_, h.kind⟩, Event.lastOn_eq_none fun o ho => ?_⟩
    · simp only [RegionMap.updateEach, RegionMap.sweep_actions]
      exact h.placed
    · rcases List.mem_append.1 ho with ho | ho
      · obtain ⟨⟨b, now⟩, hx, hc⟩ := channel_of_fireAll ho
        rw [hc]
        exact h.placed b (RegionMap.mem_actions_of_sweep hx)
      · cases List.mem_singleton.1 ho
        exact fun hc => h.kind (hc ▸ rfl)
  · exact ⟨h, rfl⟩

theorem Drives.handle_input (h : p.Drives s) (he : e.channel.kind ≠ .syn) (live : Live) :
    (p.handle e live).1.Drives (s.settled e live) ∧
      Event.lastOn s.rule.target (p.handle e live).2.events = s.sendsLast e live := by
  rw [handle, if_neg he]
  refine ⟨⟨h.indexed.dispatch e live, h.indexed.sole_dispatch h.sole e live, ?_, ?_⟩,
    h.indexed.lastOn_dispatch h.sole e live⟩
  · rw [Slot.settled_rule]
    exact h.placed
  · rw [Slot.settled_rule]
    exact h.kind

end Custom

/-! ### The pipeline -/

namespace Pipeline

def withProfile (q : Pipeline) (p : Custom) : Pipeline := { q with profile := .custom p }

/-- An admitted event reaches the custom profile. -/
theorem process_custom {q : Pipeline} {profile : Custom} {e : Event}
    (hprofile : q.profile = .custom profile) (hadmits : q.filter.admits e = true) : q.process e =
      .ok ((q.updated e).withProfile (profile.handle e (q.live.apply e)).1,
        (profile.handle e (q.live.apply e)).2) := by
  refine process_of_handle hadmits ?_
  rw [hprofile]
  rfl

/-- A run of a custom pipeline and what has come of one of its rules. -/
structure Shown (filter : Filter) (rule : Rule) (es : List Event) (q : Pipeline)
    (out : Response) : Prop where
  filter_eq : q.filter = filter
  live_eq : q.live = Live.after {} es
  driven : ∃ profile s, q.profile = .custom profile ∧ profile.Drives s ∧ s.rule = rule ∧
    s.Kept filter q.live (rule.edges {} es) (Event.lastOn rule.target out.events)

variable {filter : Filter} {rule : Rule} {es : List Event} {q : Pipeline} {out : Response}

theorem Shown.edges_concat (h : Shown filter rule es q out) (e : Event) :
    rule.edges {} (es ++ [e]) =
      if rule.isActive (q.live.apply e) = rule.isActive q.live then rule.edges {} es
      else rule.edges {} es ++ [e] := by
  rw [Rule.edges_concat, h.live_eq]

theorem Shown.withheld (h : Shown filter rule es q out) {e : Event}
    (he : filter.admits e = false) :
    Shown filter rule (es ++ [e]) (q.updated e) (out ++ {}) := by
  obtain ⟨profile, s, hprofile, hdrives, rfl, hkept⟩ := h.driven
  refine ⟨h.filter_eq, ?_, profile, s, hprofile, hdrives, rfl, ?_⟩
  · rw [updated, h.live_eq, Live.after_concat]
  · rw [Response.append_empty, h.edges_concat]
    exact hkept.unseen (.inr he)

theorem Shown.admitted (h : Shown filter rule es q out) {e : Event}
    (hadmits : q.filter.admits e = true) :
    ∃ q' r, q.process e = .ok (q', r) ∧ Shown filter rule (es ++ [e]) q' (out ++ r) := by
  obtain ⟨profile, s, hprofile, hdrives, rfl, hkept⟩ := h.driven
  have hlive : q.live.apply e = Live.after {} (es ++ [e]) := by rw [h.live_eq, Live.after_concat]
  refine ⟨_, _, process_custom hprofile hadmits, h.filter_eq, hlive, ?_⟩
  rw [Response.events_append, Event.lastOn_append, h.edges_concat]
  by_cases he : e.channel.kind = .syn
  · obtain ⟨hdrives', hnone⟩ := hdrives.handle_syn he (q.live.apply e)
    have hsame : s.rule.isActive (q.live.apply e) = s.rule.isActive q.live := by
      rw [Live.apply_of_syn q.live he]
    refine ⟨_, s, rfl, hdrives', rfl, ?_⟩
    rw [hnone, Option.none_or]
    exact hkept.unseen (.inl hsame)
  · obtain ⟨hdrives', hsent⟩ := hdrives.handle_input he (q.live.apply e)
    refine ⟨_, s.settled e (q.live.apply e), rfl, hdrives', s.settled_rule e _, ?_⟩
    rw [hsent]
    exact hkept.seen e

theorem Shown.process (h : Shown filter rule es q out) (e : Event) :
    ∃ q' r, q.process e = .ok (q', r) ∧ Shown filter rule (es ++ [e]) q' (out ++ r) := by
  cases hadmits : q.filter.admits e with
  | true => exact h.admitted hadmits
  | false =>
    have hwithheld : filter.admits e = false := by rwa [h.filter_eq] at hadmits
    exact ⟨_, _, process_of_not_admits hadmits, h.withheld hwithheld⟩

theorem Shown.of_new {c : Config} {p : Pipeline} (hp : Pipeline.new .custom c = .ok p)
    {pre post : List RuleEntry} {entry : RuleEntry} (hentry : c.rules = pre ++ entry :: post)
    (hsyn : entry.target.kind ≠ .syn) (hrules : ∀ r ∈ pre ++ post, r.target ≠ entry.target)
    (hregions : ∀ r ∈ c.regions, r.target ≠ entry.target) :
    Shown (c.filter.getD .passAll) entry.rule [] p {} := by
  obtain ⟨profile, rfl, hcurrent, htable, hplaced⟩ := new_custom hp
  have hsplit : profile.remapper.rules =
      pre.map (·.rule) ++ entry.rule :: post.map (·.rule) := by
    rw [htable, hentry, List.map_append, List.map_cons]
  have hsole : ∀ r ∈ pre.map (·.rule) ++ post.map (·.rule), r.target ≠ entry.rule.target := by
    rw [← List.map_append]
    intro r hr
    obtain ⟨t, ht, rfl⟩ := List.mem_map.1 hr
    exact hrules t ht
  obtain ⟨s, hs, hsole⟩ := Remapper.exists_sole hsplit hsole
  have hregion : ∀ b ∈ profile.regions.actions, b.button.target ≠ s.rule.target := by
    rw [RegionMap.actions, hplaced, List.map_map, hs]
    intro b hb
    obtain ⟨r, hr, rfl⟩ := List.mem_map.1 hb
    exact hregions r hr
  have hkind : s.rule.target.kind ≠ .syn := by
    rw [hs]
    exact hsyn
  have hgate := hcurrent.gates s hsole.mem
  refine ⟨rfl, rfl, profile, s, rfl, ⟨hcurrent.indexed, hsole, hregion, hkind⟩, hs, ?_, ?_⟩
  · intro hactive _
    rw [hgate, hactive]
  · intro _ _ v hv
    cases hv

/-- No run of a custom pipeline faults. An output that one rule alone drives is released after
every event at which the modifiers of the rule do not hold, provided that the last event that
shut its gate was admitted, and so was the event that had opened it. Earlier edges and all
other events may be withheld. -/
theorem released_while_shut {c : Config} {p : Pipeline} (hp : Pipeline.new .custom c = .ok p)
    {pre post : List RuleEntry} {entry : RuleEntry} (hentry : c.rules = pre ++ entry :: post)
    (hsyn : entry.target.kind ≠ .syn) (hrules : ∀ r ∈ pre ++ post, r.target ≠ entry.target)
    (hregions : ∀ r ∈ c.regions, r.target ≠ entry.target) (es : List Event) :
    ∃ q out, p.run es = .ok (q, out) ∧ q.live = Live.after {} es ∧
      (entry.rule.isActive q.live = false →
        (c.filter.getD .passAll).AdmitsLast 2 (entry.rule.edges {} es) →
        ∀ v ∈ Event.lastOn entry.target out.events, v = entry.releaseValue) := by
  have hstart := Shown.of_new hp hentry hsyn hrules hregions
  obtain ⟨q, out, hrun, hshown⟩ := run_invariant hstart es fun _ e _ _ _ _ _ h => h.process e
  obtain ⟨profile, s, -, -, hs, hkept⟩ := hshown.driven
  have hreleased := hkept.released
  rw [hs] at hreleased
  exact ⟨q, out, hrun, hshown.live_eq, hreleased⟩

/-- Of two modifiers one is withheld. It shuts and opens the gate unseen, but the last opening
and the last shutting are by the other one, so the output is released. -/
theorem released_while_shut_of_two_modifiers :
    let south : Channel := .key Code.btnSouth
    let thumb : Channel := .key Code.btnThumb
    let mode : Channel := .key Code.btnMode
    let modifiers : List Modifier :=
      [{ source := thumb, min := some 1 }, { source := mode, max := some 0 }]
    let entry : RuleEntry := { source := south, target := .key 45, modifiers }
    let filter : Filter := { rules := [.channel mode], inverted := true }
    let c : Config := { filter := some filter, rules := [entry] }
    let es : List Event := [⟨thumb, 1⟩, ⟨south, 1⟩, ⟨mode, 1⟩, ⟨mode, 0⟩, ⟨thumb, 0⟩, ⟨thumb, 1⟩,
      .report, ⟨thumb, 0⟩]
    ∃ p q out, Pipeline.new .custom c = .ok p ∧ p.run es = .ok (q, out) ∧
      entry.rule.isActive q.live = false ∧ filter.AdmitsLast 2 (entry.rule.edges {} es) ∧
      ∀ v ∈ Event.lastOn entry.target out.events, v = entry.releaseValue := by
  intro south thumb mode modifiers entry filter c es
  have hp : Pipeline.new .custom c = .ok _ := rfl
  have hentry : c.rules = [] ++ entry :: [] := rfl
  obtain ⟨q, out, hrun, hlive, hreleased⟩ :=
    released_while_shut hp hentry (by decide) (by decide) (fun _ h => nomatch h) es
  have hshut : entry.rule.isActive q.live = false := by
    rw [hlive]
    decide
  have hlast : filter.AdmitsLast 2 (entry.rule.edges {} es) := by decide
  exact ⟨_, q, out, hp, hrun, hshut, hlast, hreleased hshut hlast⟩

/-- The only modifier is withheld: it opens the gate for the source and shuts it unseen, so the
output stays pressed. -/
theorem held_of_hidden_modifier :
    let south : Channel := .key Code.btnSouth
    let thumb : Channel := .key Code.btnThumb
    let modifiers : List Modifier := [{ source := thumb, min := some 1 }]
    let entry : RuleEntry := { source := south, target := .key 45, modifiers }
    let filter : Filter := { rules := [.channel thumb], inverted := true }
    let c : Config := { filter := some filter, rules := [entry] }
    ∃ p q out, Pipeline.new .custom c = .ok p ∧
      p.run [⟨thumb, 1⟩, ⟨south, 1⟩, ⟨thumb, 0⟩] = .ok (q, out) ∧
      entry.rule.isActive q.live = false ∧
      Event.lastOn entry.target out.events = some 1 ∧ entry.releaseValue ≠ 1 :=
  ⟨_, _, _, rfl, rfl, by decide, by decide, by decide⟩

end Pipeline

end ControllerRemap
