import ControllerRemap.Proofs.Profile.Step
import ControllerRemap.Proofs.Remap.Release

/-! Bringing the virtual device to rest. A channel that no rule has as its target carries a
value other than zero only while something touched holds it, and a shutdown lets go of what
is touched before it releases the rules. So after a shutdown every channel that was sent
anything carries the release value of its first rule, or zero if it has no rule. Relative
motion and the position of the absolute pointer are not held and have no value of rest. -/

namespace ControllerRemap

namespace ProfileKind

/-- The channels of a profile that carry motion or a position. -/
def motion : ProfileKind → List Channel
  | gamepad => []
  | desktop => [.rel Code.relWheel]
  | gyroMouse => [.rel Code.relX, .rel Code.relY]
  | tablet => [.abs Code.absX, .abs Code.absY]
  | custom => []

end ProfileKind

namespace Response

theorem lastOn_report {c : Channel} (hc : c.kind ≠ .syn) :
    Event.lastOn c report.events = none := by
  refine Event.lastOn_eq_none fun o ho => ?_
  cases List.mem_singleton.1 ho
  exact fun h => hc (h ▸ rfl)

end Response

namespace Profile

/-- Whether something touched holds a channel. -/
def holds (c : Channel) : Profile → Bool
  | gamepad p => p.hat.holds id c
  | desktop p => p.arrows.holds id c
  | gyroMouse _ => false
  | tablet p => p.mapper.touching && c == TouchMapper.tool
  | custom p => p.regions.holds PlacedButton.button c

/-- A channel whose rest is zero: no rule has it as its target, and it carries no motion. -/
structure RestsAtZero (p : Profile) (c : Channel) : Prop where
  kind : c.kind ≠ .syn
  motion : c ∉ p.kind.motion
  rules : Rule.restValue? p.rules c = none

/-- What a step of a profile keeps: its rules stay, and a channel that is not held after the
step has been let go of by it or was not held before. -/
structure Keeps (p q : Profile) (r : Response) : Prop where
  kind : q.kind = p.kind
  indexed : q.Indexed
  rules : q.rules = p.rules
  letGo : ∀ c, p.RestsAtZero c → q.holds c = false →
    Event.lastOn c r.events = if p.holds c then some 0 else none

theorem Keeps.refl {p : Profile} (h : p.Indexed) : p.Keeps p {} := by
  refine ⟨rfl, h, rfl, fun c _ hfree => ?_⟩
  rw [hfree]
  rfl

/-- A step that sends on targets of rules only and touches nothing. -/
theorem Keeps.of_rules {p q : Profile} {r : Response} (kind : q.kind = p.kind)
    (indexed : q.Indexed) (rules : q.rules = p.rules) (holds : ∀ c, q.holds c = p.holds c)
    (sent : ∀ c, Rule.restValue? p.rules c = none → Event.lastOn c r.events = none) :
    p.Keeps q r := by
  refine ⟨kind, indexed, rules, fun c hc hfree => ?_⟩
  rw [sent c hc.rules, ← holds c, hfree]
  rfl

/-- A step that changes what is touched, and then sends nothing but motion and the end of a
frame. -/
theorem Keeps.of_sweep {p q : Profile} {r : Response} (fired moved : List Event)
    (kind : q.kind = p.kind) (indexed : q.Indexed) (rules : q.rules = p.rules)
    (swept : ∀ c, q.holds c = false →
      Event.lastOn c fired = if p.holds c then some 0 else none)
    (hmoved : ∀ c, c ∉ p.kind.motion → Event.lastOn c moved = none)
    (events : r.events = fired ++ moved ++ [.report]) : p.Keeps q r := by
  refine ⟨kind, indexed, rules, fun c hc hfree => ?_⟩
  have hreport : Event.lastOn c [Event.report] = none := Response.lastOn_report hc.kind
  rw [events, Event.lastOn_append, hreport, Option.none_or, Event.lastOn_append,
    hmoved c hc.motion, Option.none_or]
  exact swept c hfree

end Profile

/-! ### Steps -/

section Steps

variable (e : Event) (live : Live)

namespace RegionMap

theorem lastOn_fireAll_of_not_holds (m : RegionMap TouchButton) (now : Region TouchButton → Bool)
    (c : Channel) (h : (m.sweep now).1.holds id c = false) :
    Event.lastOn c (TouchButton.fireAll (m.sweep now).2).events =
      if m.holds id c then some 0 else none := by
  rw [← fired_id]
  exact lastOn_sweep_of_not_holds id now m c h

end RegionMap

theorem Gamepad.handle_keeps {g : Gamepad} (h : g.remapper.Indexed) :
    (Profile.gamepad g).Keeps (.gamepad (g.handle e live).1) (g.handle e live).2 := by
  rw [Gamepad.handle]
  split
  · exact .of_rules rfl (h.dispatch e live) (h.rules_dispatch e live) (fun _ => rfl)
      fun c hc => h.lastOn_dispatch_of_ne hc e live
  · split
    · obtain ⟨now, hnow⟩ := g.exists_sweepHat live
      rw [hnow]
      exact .of_sweep _ [] rfl h rfl (fun c hfree => g.hat.lastOn_fireAll_of_not_holds now c hfree)
        (fun _ _ => rfl) (by rw [List.append_nil]; rfl)
    · exact .refl h

theorem Desktop.lastOn_scroll (d : Desktop) {c : Channel} (hc : c ≠ .rel Code.relWheel) :
    Event.lastOn c (d.scroll live).2.events = none := by
  refine Event.lastOn_eq_none fun o ho => ?_
  rw [channel_of_scroll live ho]
  exact Ne.symm hc

theorem Desktop.handle_keeps {d : Desktop} (h : d.remapper.Indexed) :
    (Profile.desktop d).Keeps (.desktop (d.handle e live).1) (d.handle e live).2 := by
  rw [Desktop.handle]
  split
  · exact .of_rules rfl (h.dispatch e live) (h.rules_dispatch e live) (fun _ => rfl)
      fun c hc => h.lastOn_dispatch_of_ne hc e live
  · split
    · refine .of_sweep _ (d.scroll live).2.events rfl h rfl
        (fun c hfree => d.arrows.lastOn_fireAll_of_not_holds _ c hfree) (fun c hc => ?_) rfl
      exact d.lastOn_scroll live (by simpa [Profile.kind, ProfileKind.motion] using hc)
    · exact .refl h

theorem GyroPointer.lastOn_move (magnitude : UInt16) {code : UInt16} (n : Int32) {c : Channel}
    (hc : c ≠ .rel code) : Event.lastOn c (move magnitude code n).events = none := by
  refine Event.lastOn_eq_none fun o ho => ?_
  rw [channel_of_move ho]
  exact Ne.symm hc

theorem GyroPointer.handle_keeps {g : GyroPointer} (h : g.remapper.Indexed) :
    (Profile.gyroMouse g).Keeps (.gyroMouse (g.handle e live).1) (g.handle e live).2 := by
  rw [GyroPointer.handle]
  split
  · exact .of_rules rfl (h.dispatch e live) (h.rules_dispatch e live) (fun _ => rfl)
      fun c hc => h.lastOn_dispatch_of_ne hc e live
  · split
    · refine .of_sweep [] (_ ++ _) rfl h rfl (fun _ _ => rfl) (fun c hc => ?_) rfl
      have hne : c ≠ .rel Code.relX ∧ c ≠ .rel Code.relY := by
        simpa [Profile.kind, ProfileKind.motion] using hc
      rw [Event.lastOn_append, lastOn_move _ _ hne.2, lastOn_move _ _ hne.1]
      rfl
    · exact .refl h

theorem Custom.handle_keeps {p : Custom} (h : p.remapper.Indexed) :
    (Profile.custom p).Keeps (.custom (p.handle e live).1) (p.handle e live).2 := by
  rw [Custom.handle]
  split
  · split
    · exact .of_sweep _ [] rfl h rfl
        (fun c hfree => p.regions.lastOn_sweep_of_not_holds PlacedButton.button _ c hfree)
        (fun _ _ => rfl) (by rw [List.append_nil]; rfl)
    · exact .refl h
  · exact .of_rules rfl (h.dispatch e live) (h.rules_dispatch e live) (fun _ => rfl)
      fun c hc => h.lastOn_dispatch_of_ne hc e live

/-- The finger leaving the surface lets go of the tool. -/
theorem TouchMapper.lastOn_release (m : TouchMapper) {c : Channel} (hc : c.kind ≠ .syn) :
    Event.lastOn c m.release.2 = if m.touching && c == tool then some 0 else none := by
  rw [release]
  cases m.touching with
  | false => rfl
  | true =>
    have hreport : Event.lastOn c [Event.report] = none := Response.lastOn_report hc
    rw [if_pos rfl, ← List.singleton_append, Event.lastOn_append, hreport, Option.none_or,
      Event.lastOn_singleton]
    by_cases h : c = tool <;> simp [h, Ne.symm]

/-- A position of the finger holds the tool, and sends on no other channel than the two axes. -/
theorem TouchMapper.lastOn_update {m m' : TouchMapper} {x y : Float} {out : List Event}
    (h : m.update x y = .ok (m', out)) {c : Channel} (hc : c.kind ≠ .syn)
    (hmotion : c ∉ ProfileKind.tablet.motion) (htool : c ≠ tool) : Event.lastOn c out = none := by
  obtain ⟨-, px, py, rfl⟩ := update_eq_ok h
  have hne : c ≠ .abs Code.absX ∧ c ≠ .abs Code.absY := by
    simpa [ProfileKind.motion] using hmotion
  have hpress : ∀ o ∈ (if m.touching then [] else [⟨tool, 1⟩] : List Event), o.channel ≠ c := by
    split
    · exact fun _ ho => nomatch ho
    · intro o ho
      cases List.mem_singleton.1 ho
      exact Ne.symm htool
  have hplace : ∀ o ∈ [⟨.abs Code.absX, px⟩, ⟨.abs Code.absY, py⟩, Event.report],
      o.channel ≠ c := by
    simp only [List.forall_mem_cons]
    exact ⟨Ne.symm hne.1, Ne.symm hne.2, fun h => hc (h ▸ rfl), fun _ ho => nomatch ho⟩
  rw [Event.lastOn_append_of_ne _ hplace, Event.lastOn_eq_none hpress]

theorem Tablet.handle_keeps {t t' : Tablet} {r : Response} (h : t.handle e live = .ok (t', r)) :
    (Profile.tablet t).Keeps (.tablet t') r := by
  by_cases htouch : e.isReport = true ∧ live.held t.layout.touchRight = true
  · rw [handle_of_touch htouch.1 htouch.2] at h
    obtain ⟨m, hupdate, heq⟩ := exists_of_map_eq_ok h
    cases heq
    obtain ⟨hmapper, -⟩ := TouchMapper.update_eq_ok hupdate
    refine ⟨rfl, trivial, rfl, fun c hc hfree => ?_⟩
    have htool : c ≠ TouchMapper.tool := by
      simpa [Profile.holds, hmapper] using hfree
    have hbefore : (Profile.tablet t).holds c = false := by simp [Profile.holds, htool]
    rw [hbefore]
    exact TouchMapper.lastOn_update hupdate hc.kind hc.motion htool
  · rw [handle_of_not_touch htouch] at h
    split at h
    · cases h
      exact ⟨rfl, trivial, rfl, fun c hc _ => t.mapper.lastOn_release hc.kind⟩
    · cases h
      exact .refl trivial

theorem Profile.handle_keeps {p q : Profile} {r : Response} (h : p.Indexed)
    (hq : p.handle e live = .ok (q, r)) : p.Keeps q r := by
  cases p with
  | gamepad g => cases hq; exact g.handle_keeps e live h
  | desktop d => cases hq; exact d.handle_keeps e live h
  | gyroMouse g => cases hq; exact g.handle_keeps e live h
  | custom p => cases hq; exact p.handle_keeps e live h
  | tablet t =>
    rw [handle] at hq
    obtain ⟨result, ht, heq⟩ := exists_of_map_eq_ok hq
    cases heq
    exact Tablet.handle_keeps e live ht

/-- A release leaves a channel at the rest value of its rules. A channel without a rule is let
go of. -/
theorem Profile.lastOn_release (p : Profile) {c : Channel} (hc : c.kind ≠ .syn) :
    Event.lastOn c p.release.2.events =
      (Rule.restValue? p.rules c).or (if p.holds c then some 0 else none) := by
  have hreport : Event.lastOn c [Event.report] = none := Response.lastOn_report hc
  -- regions first, then rules, then the end of the frame
  have horder (fired : List Event) (r : Remapper) :
      Event.lastOn c (fired ++ r.releaseAll ++ [.report]) =
        (Rule.restValue? r.rules c).or (Event.lastOn c fired) := by
    rw [Event.lastOn_append, hreport, Option.none_or, Event.lastOn_append, r.lastOn_releaseAll]
  cases p with
  | gamepad g =>
    have hleft := g.hat.lastOn_fireAll_of_not_holds (fun _ => false) c (g.hat.holds_release id c)
    exact (horder _ g.remapper).trans (congrArg _ hleft)
  | desktop d =>
    have hleft := d.arrows.lastOn_fireAll_of_not_holds (fun _ => false) c
      (d.arrows.holds_release id c)
    exact (horder _ d.remapper).trans (congrArg _ hleft)
  | gyroMouse g => exact horder [] g.remapper
  | tablet t => exact t.mapper.lastOn_release hc
  | custom p =>
    have hleft := p.regions.lastOn_sweep_of_not_holds PlacedButton.button (fun _ => false) c
      (p.regions.holds_release PlacedButton.button c)
    exact (horder _ p.remapper).trans (congrArg _ hleft)

end Steps

/-! ### The pipeline -/

namespace Pipeline

/-- A channel that rests at zero and is not held was never sent anything, or zero last. -/
structure AtRest (kind : ProfileKind) (rules : List Rule) (q : Pipeline) (out : Response) : Prop where
  kind_eq : q.profile.kind = kind
  indexed : q.profile.Indexed
  rules_eq : q.profile.rules = rules
  free : ∀ c, q.profile.RestsAtZero c → q.profile.holds c = false →
    ∀ v ∈ Event.lastOn c out.events, v = 0

theorem AtRest.process {kind : ProfileKind} {rules : List Rule} {q q' : Pipeline} {e : Event}
    {out r : Response} (h : q.AtRest kind rules out) (hprocess : q.process e = .ok (q', r)) :
    q'.AtRest kind rules (out ++ r) := by
  have hkeeps : q.profile.Keeps q'.profile r := by
    obtain ⟨-, -, ⟨-, hhandle⟩ | ⟨-, hsame, rfl⟩⟩ := process_eq_ok hprocess
    · exact Profile.handle_keeps e _ h.indexed hhandle
    · rw [hsame]
      exact .refl h.indexed
  refine ⟨hkeeps.kind.trans h.kind_eq, hkeeps.indexed, hkeeps.rules.trans h.rules_eq, ?_⟩
  intro c hc hfree
  have hrest : q.profile.RestsAtZero c :=
    ⟨hc.kind, hkeeps.kind ▸ hc.motion, hkeeps.rules ▸ hc.rules⟩
  rw [Response.events_append, Event.lastOn_append, hkeeps.letGo c hrest hfree]
  cases hheld : q.profile.holds c with
  | true => simp
  | false => exact h.free c hrest hheld

/-- After any run that meets no fault, and a shutdown, the last value sent on a channel, if any
was sent, is the release value of the first rule with the channel as its target, and zero if
there is no such rule. This holds of every profile and every filter, and of every channel but
those of synchronisation and of motion. -/
theorem at_rest_after_shutdown {kind : ProfileKind} {c : Config} {p q : Pipeline}
    (hp : Pipeline.new kind c = .ok p) {es : List Event} {out : Response}
    (hrun : p.run es = .ok (q, out)) {ch : Channel} (hsyn : ch.kind ≠ .syn)
    (hmotion : ch ∉ kind.motion) :
    ∀ v ∈ Event.lastOn ch (out ++ q.shutdown.2).events,
      v = (((kind.rules c).find? (·.target = ch)).map (·.releaseValue)).getD 0 := by
  have hstart : p.AtRest kind (kind.rules c) {} := by
    rw [Pipeline.new] at hp
    cases hprofile : Profile.new kind c {} with
    | error e => rw [hprofile] at hp; cases hp
    | ok profile =>
      rw [hprofile] at hp
      cases hp
      obtain ⟨hkind, hindexed, hrules⟩ := Profile.new_rules hprofile
      exact ⟨hkind, hindexed, hrules, fun _ _ _ v hv => (Option.not_mem_none v hv).elim⟩
  have hrest := run_preserves (fun _ _ _ _ _ h hp => h.process hp) hstart hrun
  rw [Response.empty_append] at hrest
  have hshutdown := q.profile.lastOn_release hsyn
  rw [hrest.rules_eq] at hshutdown
  change ∀ v ∈ Event.lastOn ch (out.events ++ q.profile.release.2.events),
    v = (Rule.restValue? (kind.rules c) ch).getD 0
  rw [Event.lastOn_append, hshutdown]
  cases hvalue : Rule.restValue? (kind.rules c) ch with
  | some v => simp
  | none =>
    cases hheld : q.profile.holds ch with
    | true => simp
    | false =>
      refine hrest.free ch ⟨hsyn, ?_, ?_⟩ hheld
      · rwa [hrest.kind_eq]
      · rwa [hrest.rules_eq]

/-- Two rules share a target and two regions share another; one region is left with its value
sent last. The shutdown leaves the first target at the release value of the first rule, and the
second one at zero. -/
theorem at_rest_of_shared_targets :
    let south : Channel := .key Code.btnSouth
    let east : Channel := .key Code.btnEast
    let first : RuleEntry := { source := south, target := .key 45, releaseValue := 3 }
    let second : RuleEntry := { source := east, target := .key 45, releaseValue := 4 }
    let region (held : Channel) (value : Int32) : RegionEntry :=
      { x := .abs 0, y := .abs 1, whileHeld := some held, shape := .rect none none none none,
        target := .key 46, value }
    let c : Config := { rules := [first, second], regions := [region south 7, region east 9] }
    let es : List Event := [⟨south, 1⟩, ⟨east, 1⟩, .report, ⟨south, 0⟩, .report, ⟨south, 1⟩, .report]
    ∃ p q out, Pipeline.new .custom c = .ok p ∧ p.run es = .ok (q, out) ∧
      Event.lastOn (.key 46) out.events = some 7 ∧
      (∀ v ∈ Event.lastOn (.key 45) (out ++ q.shutdown.2).events, v = 3) ∧
      ∀ v ∈ Event.lastOn (.key 46) (out ++ q.shutdown.2).events, v = 0 := by
  intro south east first second region c es
  have hrest (p q : Pipeline) (out : Response) (hp : Pipeline.new .custom c = .ok p)
      (hrun : p.run es = .ok (q, out)) :
      (∀ v ∈ Event.lastOn (.key 45) (out ++ q.shutdown.2).events, v = 3) ∧
        ∀ v ∈ Event.lastOn (.key 46) (out ++ q.shutdown.2).events, v = 0 :=
    ⟨at_rest_after_shutdown hp hrun (by decide) (by decide),
      at_rest_after_shutdown hp hrun (by decide) (by decide)⟩
  exact ⟨_, _, _, rfl, rfl, by decide, hrest _ _ _ rfl rfl⟩

end Pipeline

end ControllerRemap
