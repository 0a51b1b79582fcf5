import ControllerRemap.Proofs.Profile.Hat

/-! The two uses of a click on the left pad of the gamepad. The thumb button is gated by the
touch value of every event, and the hat looks at the touch at the end of a frame. As long as
touch values are not negative, a report that leaves a slice of the hat held finds the gate of
the thumb button shut, and what was last sent on the button is its release. -/

namespace ControllerRemap

/-- What holds of the first value of a channel and of every value that events give it holds of
its value after the events. -/
theorem Live.value_after {P : Int32 → Prop} {c : Channel} {t : Live} (h : P (t.value c))
    (es : List Event) (hes : ∀ e ∈ es, e.channel = c → P e.value) : P ((t.after es).value c) := by
  induction es generalizing t with
  | nil => exact h
  | cons e es ih =>
    refine ih (t := t.apply e) ?_ fun d hd => hes d (List.mem_cons_of_mem e hd)
    by_cases hc : e.channel = c
    · by_cases hs : e.channel.kind = .syn
      · rwa [apply_of_syn t hs]
      · subst hc
        rw [value_apply_self t hs]
        exact hes e List.mem_cons_self rfl
    · rwa [value_apply_of_ne t (Ne.symm hc)]

namespace RegionMap

/-- Leaving a pad leaves all its regions. -/
theorem not_mem_states_release {α : Type} (m : RegionMap α) : true ∉ m.release.1.states := by
  rw [release, states_sweep]
  simp

theorem IsHat.length_states {m : RegionMap TouchButton} (h : m.IsHat) : m.states.length = 4 := by
  obtain ⟨right, up, left, down, rfl, -⟩ := h.exists_regions
  rfl

/-- The buttons of a hat send on its axes. -/
theorem IsHat.exists_axis {m : RegionMap TouchButton} (h : m.IsHat) {b : TouchButton}
    (hb : b ∈ m.actions) : ∃ axis : HatAxis, b.target = axis.channel := by
  have hmem := List.mem_map_of_mem (f := fun b => (b.target, b.value)) hb
  rw [h] at hmem
  obtain ⟨s, -, hs⟩ := List.mem_map.1 hmem
  exact ⟨s.axis, (congrArg Prod.fst hs).symm⟩

end RegionMap

namespace Gamepad

/-- The channel of the thumb button. -/
def thumb : Channel := .key Code.btnThumbL

/-- A click is the thumb button while the pad is not touched. -/
def thumbRule (l : Layout) : Rule where
  source := l.clickLeft
  target := thumb
  modifiers := [{ source := l.touchLeft, max := some 0 }]

theorem isActive_thumbRule (l : Layout) (live : Live) :
    (thumbRule l).isActive live = decide (live.value l.touchLeft ≤ 0) := by
  simp [thumbRule, Rule.isActive, Modifier.holds]

theorem gatedBy_thumbRule {l : Layout} {c : Channel} (h : c ≠ l.touchLeft) :
    (thumbRule l).gatedBy c = false := by
  simpa [thumbRule, Rule.gatedBy] using h

theorem rules_eq_thumbRule (l : Layout) :
    rules l = (rules l).take 9 ++ thumbRule l :: (rules l).drop 10 := rfl

theorem thumb_alone (l : Layout) :
    ∀ rule ∈ (rules l).take 9 ++ (rules l).drop 10, rule.target ≠ (thumbRule l).target := by
  -- the layout decides the sources but not the targets
  have htargets : ((rules l).take 9 ++ (rules l).drop 10).map (·.target) =
      ((rules {}).take 9 ++ (rules {}).drop 10).map (·.target) := rfl
  have halone : ∀ c ∈ ((rules {}).take 9 ++ (rules {}).drop 10).map (·.target), c ≠ thumb := by
    decide
  intro rule h
  refine halone rule.target ?_
  rw [← htargets]
  exact List.mem_map_of_mem h

/-- The gate of the thumb button is up to date, and the last value sent on the button is its
release while the gate is shut. -/
structure Interlocked (g : Gamepad) (live : Live) (last : Option Int32) : Prop where
  indexed : g.remapper.Indexed
  hat : g.hat.IsHat
  gated : ∃ s, g.remapper.Sole s ∧ s.rule = thumbRule g.layout ∧
    s.isOpen = s.rule.isActive live ∧ (s.rule.isActive live = false → ∀ v ∈ last, v = 0)

variable {g : Gamepad} {live : Live} {last : Option Int32} {e : Event}

/-- An event that the rules do not see, on another channel than the touch of the pad. -/
theorem Interlocked.unseen (h : g.Interlocked live last) (he : e.channel ≠ g.layout.touchLeft)
    {hat : RegionMap TouchButton} (hhat : hat.IsHat) :
    { g with hat }.Interlocked (live.apply e) last := by
  obtain ⟨s, hsole, hrule, gate, released⟩ := h.gated
  have hactive : s.rule.isActive (live.apply e) = s.rule.isActive live := by
    rw [hrule]
    exact Rule.isActive_apply (gatedBy_thumbRule he) live
  refine ⟨h.indexed, hhat, s, hsole, hrule, ?_, ?_⟩
  · rw [hactive, gate]
  · rwa [hactive]

theorem Interlocked.dispatch (h : g.Interlocked live last) (e : Event) :
    { g with remapper := (g.remapper.dispatch e (live.apply e)).1 }.Interlocked (live.apply e)
      ((Event.lastOn thumb (g.remapper.dispatch e (live.apply e)).2).or last) := by
  obtain ⟨s, hsole, hrule, gate, released⟩ := h.gated
  have hrelease : s.rule.releaseValue = 0 := by rw [hrule]; rfl
  have htarget : s.rule.target = thumb := by rw [hrule]; rfl
  have hsent : Event.lastOn thumb (g.remapper.dispatch e (live.apply e)).2 =
      s.sendsLast e (live.apply e) := by
    rw [← htarget]
    exact h.indexed.lastOn_dispatch hsole e (live.apply e)
  refine ⟨h.indexed.dispatch e _, h.hat, s.settled e (live.apply e),
    h.indexed.sole_dispatch hsole e _, ?_, ?_, ?_⟩
  · rw [Slot.settled_rule, hrule]
  · rw [Slot.settled_rule]
    exact Slot.isOpen_settled gate
  · rw [Slot.settled_rule, hsent, ← hrelease]
    rw [← hrelease] at released
    exact Slot.released_step gate released

/-- A slice is held after a frame only if the pad is touched at its end. -/
theorem held_of_sweepHat (h : true ∈ (g.sweepHat live).1.states) :
    live.held g.layout.touchLeft = true := by
  rw [sweepHat] at h
  split at h
  · next hboth => exact (Bool.and_eq_true_iff.1 hboth).1
  · exact absurd h g.hat.not_mem_states_release

theorem Interlocked.handle (h : g.Interlocked live last)
    (htouch : g.layout.touchLeft.kind = .key ∨ g.layout.touchLeft.kind = .abs) (e : Event) :
    (g.handle e (live.apply e)).1.Interlocked (live.apply e)
      ((Event.lastOn thumb (g.handle e (live.apply e)).2.events).or last) := by
  rw [Gamepad.handle]
  split
  · exact h.dispatch e
  · next hkind =>
    have hother : e.channel ≠ g.layout.touchLeft := fun hc => hkind (hc ▸ htouch)
    split
    · obtain ⟨now, hnow⟩ := g.exists_sweepHat (live.apply e)
      rw [hnow]
      have hquiet : ∀ o ∈ (TouchButton.fireAll (g.hat.sweep now).2 ++ Response.report).events,
          o.channel ≠ thumb := by
        intro o ho
        rcases List.mem_append.1 ho with ho | ho
        · obtain ⟨⟨b, pressed⟩, hb, hc⟩ := TouchButton.channel_of_fireAll ho
          obtain ⟨axis, haxis⟩ := h.hat.exists_axis (RegionMap.mem_actions_of_sweep hb)
          rw [hc, haxis]
          cases axis <;> decide
        · cases List.mem_singleton.1 ho
          decide
      rw [Event.lastOn_eq_none hquiet]
      exact h.unseen hother (h.hat.sweep now)
    · exact h.unseen hother h.hat

theorem layout_handle (g : Gamepad) (e : Event) (live : Live) :
    (g.handle e live).1.layout = g.layout := by
  rw [Gamepad.handle]
  split
  · rfl
  · split <;> rfl

theorem handle_report (g : Gamepad) (he : e.isReport = true) (live : Live) :
    (g.handle e live).1 = { g with hat := (g.sweepHat live).1 } := by
  rw [Gamepad.handle, if_neg (by rw [Event.kind_of_isReport he]; decide), if_pos he]

end Gamepad

namespace Pipeline

/-- A pipeline that passes all events to an interlocked gamepad. -/
structure Interlocks (l : Layout) (es : List Event) (q : Pipeline) (out : Response) : Prop where
  filter : q.filter = .passAll
  live : q.live = Live.after {} es
  gamepad : ∃ g, q.profile = .gamepad g ∧ g.layout = l ∧
    g.Interlocked q.live (Event.lastOn Gamepad.thumb out.events)

variable {l : Layout} {es : List Event} {q : Pipeline} {out : Response}

theorem Interlocks.process (h : q.Interlocks l es out)
    (htouch : l.touchLeft.kind = .key ∨ l.touchLeft.kind = .abs) (e : Event) :
    ∃ q' r, q.process e = .ok (q', r) ∧ q'.Interlocks l (es ++ [e]) (out ++ r) := by
  obtain ⟨g, hprofile, rfl, hg⟩ := h.gamepad
  have hlive : q.live.apply e = Live.after {} (es ++ [e]) := by rw [h.live, Live.after_concat]
  cases hadmits : q.filter.admits e with
  | true =>
    have hhandle : q.profile.handle e (q.live.apply e) =
        .ok (.gamepad (g.handle e (q.live.apply e)).1, (g.handle e (q.live.apply e)).2) := by
      rw [hprofile]
      rfl
    refine ⟨_, _, process_of_handle hadmits hhandle, h.filter, hlive, _, rfl, g.layout_handle e _, ?_⟩
    rw [Response.events_append, Event.lastOn_append]
    exact hg.handle htouch e
  | false =>
    -- only synchronisation that ends no frame is withheld
    have hsyn : e.channel.kind = .syn := by
      by_contra hs
      rw [h.filter, Filter.admits, if_neg hs] at hadmits
      cases hadmits
    have hother : e.channel ≠ g.layout.touchLeft := by
      intro hc
      rw [← hc, hsyn] at htouch
      exact absurd htouch (by decide)
    refine ⟨_, _, process_of_not_admits hadmits, h.filter, hlive, g, hprofile, rfl, ?_⟩
    rw [Response.append_empty]
    exact hg.unseen hother hg.hat

theorem process_report {q : Pipeline} {g : Gamepad} (hprofile : q.profile = .gamepad g) {e : Event}
    (he : e.isReport = true) : ∃ r, q.process e =
      .ok ({ q with profile := .gamepad { g with hat := (g.sweepHat q.live).1 } }, r) := by
  have hanswer : q.profile.handle e q.live =
      .ok (.gamepad { g with hat := (g.sweepHat q.live).1 }, (g.handle e q.live).2) := by
    rw [hprofile, ← g.handle_report he q.live]
    rfl
  refine ⟨(g.handle e q.live).2, ?_⟩
  rw [Pipeline.process, if_pos (Event.kind_of_isReport he), if_pos he]
  exact answer_of_handle hanswer

/-- The states of the slices of the hat. Only a gamepad has a hat. -/
def slices (p : Pipeline) : List Bool :=
  match p.profile with
  | .gamepad g => g.hat.states
  | _ => []

/-- A gamepad without a filter never faults. If the touch channel of its left pad is a key or an
absolute axis and no event gives it a negative value, then after every report at which a slice
of the hat is held, the thumb button is released if anything was ever sent on it. The other
channels of the layout are arbitrary and may coincide. -/
theorem thumb_released_while_hat_held {c : Config} (hfilter : c.filter = none)
    (htouch : c.layout.touchLeft.kind = .key ∨ c.layout.touchLeft.kind = .abs) {es : List Event}
    (hes : ∀ e ∈ es, e.channel = c.layout.touchLeft → 0 ≤ e.value) {e : Event}
    (he : e.isReport = true) :
    ∃ p q out, Pipeline.new .gamepad c = .ok p ∧ p.run (es ++ [e]) = .ok (q, out) ∧
      q.slices.length = 4 ∧
      (true ∈ q.slices → ∀ v ∈ Event.lastOn (.key Code.btnThumbL) out.events, v = 0) := by
  obtain ⟨g, hnew, hlayout, hcurrent, hrules, hhat⟩ := Gamepad.exists_new c {}
  have hp : Pipeline.new .gamepad c = .ok { filter := .passAll, profile := .gamepad g } := by
    rw [Pipeline.new, Profile.new, hnew, hfilter]
    rfl
  have hstart : Interlocks c.layout [] { filter := .passAll, profile := .gamepad g } {} := by
    have hsplit := hrules.trans (Gamepad.rules_eq_thumbRule c.layout)
    obtain ⟨s, hs, hsole⟩ := Remapper.exists_sole hsplit (Gamepad.thumb_alone c.layout)
    refine ⟨rfl, rfl, g, rfl, hlayout, hcurrent.indexed, ?_, s, hsole, ?_, ?_, ?_⟩
    · rw [hhat]
      exact Gamepad.isHat_fourWayPad _ _
    · rw [hs, hlayout]
    · exact hcurrent.gates s hsole.mem
    · intro _ v hv
      cases hv
  obtain ⟨q, out, hrun, h⟩ := run_invariant hstart es fun _ d _ _ _ _ _ h => h.process htouch d
  obtain ⟨g, hprofile, hl, -⟩ := h.gamepad
  obtain ⟨r, hreport⟩ := process_report hprofile he
  obtain ⟨q', r', hprocess, h'⟩ := h.process htouch e
  cases hreport.symm.trans hprocess
  obtain ⟨g', hprofile', hlayout', hg'⟩ := h'.gamepad
  cases hprofile'
  refine ⟨_, _, _, hp, run_concat hrun hprocess, hg'.hat.length_states, fun hheld => ?_⟩
  obtain ⟨s, -, hs, -, released⟩ := hg'.gated
  refine released ?_
  have hpositive : 0 ≤ q.live.value c.layout.touchLeft := by
    rw [h.live]
    refine Live.value_after (P := fun v => 0 ≤ v) ?_ es hes
    rw [Live.value_empty]
    decide
  have htouched : q.live.value c.layout.touchLeft ≠ 0 := by
    have hnow := Gamepad.held_of_sweepHat hheld
    rw [hl] at hnow
    simpa [Live.held] using hnow
  rw [hs, Gamepad.isActive_thumbRule, hlayout', decide_eq_false_iff_not, Int32.not_le]
  exact Int32.lt_of_le_of_ne hpositive (Ne.symm htouched)

/-- Touch and click arrive on one channel: the click shuts the gate that its own value would
pass, and the lower slice is held with the button released. -/
theorem thumb_released_of_one_channel :
    let c : Config := { layout := { touchLeft := .key Code.btnThumbL } }
    let es : List Event := [⟨.key Code.btnThumbL, 1⟩, ⟨.abs Code.absHat0Y, 20000⟩]
    ∃ p q out, Pipeline.new .gamepad c = .ok p ∧ p.run (es ++ [.report]) = .ok (q, out) ∧
      true ∈ q.slices ∧ Event.lastOn (.key Code.btnThumbL) out.events = some 0 ∧
      ∀ v ∈ Event.lastOn (.key Code.btnThumbL) out.events, v = 0 := by
  intro c es
  have hes : ∀ e ∈ es, e.channel = c.layout.touchLeft → 0 ≤ e.value := by decide
  have hreport : Event.report.isReport = true := rfl
  obtain ⟨p, q, out, hp, hrun, -, hreleased⟩ :=
    thumb_released_while_hat_held (show c.filter = none from rfl) (by decide) hes hreport
  have hvalue : ((Pipeline.new .gamepad c).toOption.bind fun p => (p.run (es ++ [.report])).toOption).map
      (fun x => (x.1.slices, Event.lastOn (.key Code.btnThumbL) x.2.events)) =
      some ([false, false, false, true], some 0) := by decide +kernel
  simp only [hp, hrun, Except.toOption, Option.bind_some, Option.map_some, Option.some.injEq,
    Prod.mk.injEq] at hvalue
  obtain ⟨hslices, hlast⟩ := hvalue
  have hheld : true ∈ q.slices := by
    rw [hslices]
    decide
  exact ⟨p, q, out, hp, hrun, hheld, hlast, hreleased hheld⟩

end Pipeline

end ControllerRemap
