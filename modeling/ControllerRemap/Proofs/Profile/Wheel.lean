import ControllerRemap.Proofs.Motion.Baseline
import ControllerRemap.Proofs.Profile.Fault

/-! The wheel of the desktop profile. Circling a finger turns it at the end of a frame, and every
tick is felt as a train of pulses. The wheel is engaged by a report with the pad touched and let go
by one without a touch or by a shutdown, so a finger that comes back elsewhere turns nothing until
the report after its first. Buttons and arrow regions, which answer the same events, send keys and
clicks only. -/

namespace ControllerRemap

/-! ### The share of the wheel in an answer -/

namespace Response

/-- The events on the wheel and the trains of pulses; a click has no period. -/
def onWheel (r : Response) : Response where
  events := r.events.filter (·.channel = .rel Code.relWheel)
  pulses := r.pulses.filter (·.period ≠ 0)

theorem onWheel_append (r s : Response) : (r ++ s).onWheel = r.onWheel ++ s.onWheel := by
  rw [onWheel, events_append, pulses_append, List.filter_append, List.filter_append]
  rfl

theorem onWheel_eq_empty {r : Response} (hevents : ∀ o ∈ r.events, o.channel ≠ .rel Code.relWheel)
    (hpulses : ∀ p ∈ r.pulses, p.period = 0) : r.onWheel = {} := by
  rw [onWheel, Response.mk.injEq, List.filter_eq_nil_iff, List.filter_eq_nil_iff]
  exact ⟨fun o ho => by simpa using hevents o ho, fun p hp => by simpa using hpulses p hp⟩

end Response

theorem TouchButton.period_of_fireAll {xs : List (TouchButton × Bool)} :
    ∀ p ∈ (fireAll xs).pulses, p.period = 0 := by
  induction xs with
  | nil => exact List.forall_mem_nil _
  | cons x xs ih =>
    obtain ⟨b, pressed⟩ := x
    rw [fireAll, Response.pulses_append]
    refine List.forall_mem_append.2 ⟨?_, ih⟩
    cases hb : b.haptic with
    | none => simp [fire, hb]
    | some haptic => simp [fire, hb, Pulse.click]

namespace Desktop

theorem onWheel_ticks (magnitude : UInt16) (n : Int32) :
    (ticks magnitude n).onWheel = ticks magnitude n := by
  rw [ticks]
  split <;> rfl

/-- The settings of a configuration, and no output but keys and the wheel. -/
structure Configured (c : Config) (d : Desktop) : Prop where
  layout : d.layout = c.layout
  magnitude : d.hapticMagnitude = c.pad.hapticMagnitude
  indexed : d.remapper.Indexed
  keys : ∀ ch ∈ d.remapper.outputs ++ d.arrows.outputs id, ch.kind = .key

variable {c : Config} {d d' : Desktop}

theorem configured_of_new {live : Live} (h : Desktop.new c live = .ok d) :
    d.Configured c ∧ d.wheel.engaged = false := by
  obtain ⟨hcurrent, hrules, hlayout, harrows⟩ := of_new h
  have hkeys : ∀ ch ∈ d.remapper.outputs ++ d.arrows.outputs id, ch.kind = .key := by
    rw [Remapper.outputs, hrules, harrows]
    exact show ∀ ch ∈ (rules {}).map (·.target) ++ (arrowButtons 0).map (·.target),
      ch.kind = .key by decide
  rw [Desktop.new] at h
  cases hr : Remapper.ofRules (rules c.layout) live with
  | error e => rw [hr] at h; cases h
  | ok r =>
    rw [hr] at h
    cases h
    exact ⟨⟨hlayout, rfl, hcurrent.indexed, hkeys⟩, rfl⟩

theorem Configured.of_idle (h : d.Configured c)
    (hidle : (Profile.desktop d').idle = (Profile.desktop d).idle) : d'.Configured c := by
  have hindexed := Profile.indexed_congr hidle
  have houtputs : d'.remapper.outputs ++ d'.arrows.outputs id =
      d.remapper.outputs ++ d.arrows.outputs id :=
    List.append_cancel_right (Profile.outputs_congr hidle)
  have hrest := Profile.desktop.inj hidle
  refine ⟨(congrArg Desktop.layout hrest).trans h.layout,
    (congrArg Desktop.hapticMagnitude hrest).trans h.magnitude, hindexed.2 h.indexed, ?_⟩
  rw [houtputs]
  exact h.keys

theorem Configured.ne_wheel (h : d.Configured c) {ch : Channel}
    (hch : ch ∈ d.remapper.outputs ++ d.arrows.outputs id) : ch ≠ .rel Code.relWheel := by
  rintro rfl
  exact absurd (h.keys _ hch) (by decide)

/-- Arrow regions click. -/
theorem Configured.onWheel_fireAll (h : d.Configured c) (now : Region TouchButton → Bool) :
    (TouchButton.fireAll (d.arrows.sweep now).2).onWheel = {} :=
  Response.onWheel_eq_empty
    (fun _ ho => h.ne_wheel (List.mem_append_right _ (RegionMap.mem_outputs_of_fireAll ho)))
    TouchButton.period_of_fireAll

theorem Configured.onWheel_ofEvents (h : d.Configured c) {es : List Event}
    (hes : ∀ o ∈ es, o.channel ∈ d.remapper.outputs) : (Response.ofEvents es).onWheel = {} :=
  Response.onWheel_eq_empty (fun o ho => h.ne_wheel (List.mem_append_left _ (hes o ho)))
    (List.forall_mem_nil _)

/-- Only a report moves the wheel. -/
theorem Configured.handle_wheel (h : d.Configured c) (e : Event) (live : Live) :
    ((d.handle e live).1.wheel, (d.handle e live).2.onWheel) =
      if e.isReport then ((d.scroll live).1, (d.scroll live).2.onWheel) else (d.wheel, {}) := by
  by_cases hkey : e.channel.kind = .key
  · have hsent : (Response.ofEvents (d.remapper.dispatch e live).2).onWheel = {} :=
      h.onWheel_ofEvents fun _ ho => h.indexed.mem_outputs_of_dispatch ho
    rw [handle, if_pos hkey, Event.isReport_of_ne_syn (by rw [hkey]; decide)]
    exact congrArg (Prod.mk _) hsent
  · cases hreport : e.isReport with
    | true =>
      rw [handle, if_neg hkey, if_pos hreport, if_pos rfl]
      refine congrArg (Prod.mk _) ?_
      rw [Response.onWheel_append, Response.onWheel_append, RegionMap.update, RegionMap.updateEach,
        h.onWheel_fireAll]
      exact Response.append_empty _
    | false =>
      rw [handle, if_neg hkey, hreport]
      rfl

theorem Configured.release_wheel (h : d.Configured c) :
    (d.release.1.wheel, d.release.2.onWheel) = (d.wheel.release, {}) := by
  have hsent : (Response.ofEvents d.remapper.releaseAll).onWheel = {} :=
    h.onWheel_ofEvents fun _ ho => Remapper.mem_outputs_of_releaseAll ho
  rw [release]
  refine congrArg (Prod.mk _) ?_
  rw [Response.onWheel_append, Response.onWheel_append, RegionMap.release, h.onWheel_fireAll, hsent]
  rfl

/-- The wheel is engaged only while the pad is touched, and ticks only if it was engaged
before. -/
theorem scroll_cases (d : Desktop) (live : Live) :
    ((d.scroll live).1.engaged = true → live.held d.layout.touchLeft = true) ∧
      ∃ n, (d.scroll live).2.onWheel = ticks d.hapticMagnitude n ∧
        (n ≠ 0 → live.held d.layout.touchLeft = true ∧ d.wheel.engaged = true) := by
  rw [scroll]
  split
  · next hheld =>
    refine ⟨fun _ => hheld, _, onWheel_ticks _ _, fun hticks => ⟨hheld, ?_⟩⟩
    by_contra hengaged
    exact hticks (Stepper.steps_of_not_engaged (Bool.not_eq_true _ ▸ hengaged) _)
  · exact ⟨fun hengaged => absurd hengaged Bool.false_ne_true, 0, rfl, fun h => absurd rfl h⟩

end Desktop

/-! ### Sessions -/

namespace Pipeline

/-- The last frame was ended by a report, while a channel was held. -/
def LastFrameHeld (c : Channel) (calls : List Call) : Prop :=
  ∃ pre e post, calls = pre ++ .event e :: post ∧ e.isReport = true ∧
    (Live.after {} (pre.filterMap Call.event?)).held c = true ∧ ∀ x ∈ post, x.reports = false

section

variable {ch : Channel} {calls : List Call} {call : Call}

theorem LastFrameHeld.concat (h : LastFrameHeld ch calls) (hcall : call.reports = false) :
    LastFrameHeld ch (calls ++ [call]) := by
  obtain ⟨pre, e, post, rfl, he, hheld, hpost⟩ := h
  refine ⟨pre, e, post ++ [call], by simp, he, hheld, ?_⟩
  exact List.forall_mem_append.2 ⟨hpost, List.forall_mem_singleton.2 hcall⟩

theorem lastFrameHeld_report {e : Event} (he : e.isReport = true)
    (hheld : (Live.after {} (calls.filterMap Call.event?)).held ch = true) :
    LastFrameHeld ch (calls ++ [.event e]) :=
  ⟨calls, e, [], rfl, he, hheld, List.forall_mem_nil _⟩

end

/-- The profile is a desktop whose wheel is engaged only if the last frame was ended with a touch of
the left pad. -/
structure FollowsPad (c : Config) (calls : List Call) (q : Pipeline) : Prop where
  live : q.live = Live.after {} (calls.filterMap Call.event?)
  desktop : ∃ d, q.profile = .desktop d ∧ d.Configured c ∧
    (d.wheel.engaged = true → LastFrameHeld c.layout.touchLeft calls)

/-- What an answer to a call may have to do with the wheel: a number of ticks, and none but at a
report with the pad touched, when the last frame was ended with a touch as well. -/
def Turns (c : Config) (calls : List Call) (call : Call) (live : Live) (r : Response) : Prop :=
  ∃ n, r.onWheel = Desktop.ticks c.pad.hapticMagnitude n ∧
    (n ≠ 0 → (∃ e, call = .event e ∧ e.isReport = true) ∧
      live.held c.layout.touchLeft = true ∧ LastFrameHeld c.layout.touchLeft calls)

variable {c : Config} {calls : List Call} {p q : Pipeline} {live : Live}

theorem turns_of_empty {call : Call} {r : Response} (h : r.onWheel = {}) :
    Turns c calls call live r :=
  ⟨0, h, fun h => absurd rfl h⟩

/-- An event that is handled engages the wheel only as a report with the pad touched, and turns it
only if it was engaged. -/
theorem turns_of_handle {d : Desktop} (hd : d.Configured c)
    (hengaged : d.wheel.engaged = true → LastFrameHeld c.layout.touchLeft calls)
    (hlive : live = Live.after {} (calls.filterMap Call.event?)) (e : Event) :
    ((d.handle e (live.apply e)).1.wheel.engaged = true →
        LastFrameHeld c.layout.touchLeft (calls ++ [.event e])) ∧
      Turns c calls (.event e) (live.apply e) (d.handle e (live.apply e)).2 := by
  have hstep := hd.handle_wheel e (live.apply e)
  cases hreport : e.isReport with
  | false =>
    rw [hreport] at hstep
    obtain ⟨hwheel, honWheel⟩ := Prod.mk.inj hstep
    refine ⟨fun hon => ?_, turns_of_empty honWheel⟩
    rw [hwheel] at hon
    exact (hengaged hon).concat hreport
  | true =>
    rw [if_pos hreport] at hstep
    obtain ⟨hwheel, honWheel⟩ := Prod.mk.inj hstep
    obtain ⟨htouched, n, hticks, hturned⟩ := d.scroll_cases (live.apply e)
    rw [hd.magnitude] at hticks
    rw [hd.layout] at htouched hturned
    refine ⟨fun hon => ?_, n, honWheel.trans hticks,
      fun hn => ⟨⟨e, rfl, hreport⟩, (hturned hn).1, hengaged (hturned hn).2⟩⟩
    rw [hwheel] at hon
    refine lastFrameHeld_report hreport ?_
    rw [← hlive, ← Live.apply_of_syn live (Event.kind_of_isReport hreport)]
    exact htouched hon

/-- Every call is answered and keeps the agreement. -/
theorem FollowsPad.perform (h : FollowsPad c calls q) (call : Call) : ∃ q' r,
    q.perform call = .ok (q', r) ∧ FollowsPad c (calls ++ [call]) q' ∧
      Turns c calls call q'.live r := by
  obtain ⟨d, hprofile, hd, hengaged⟩ := h.desktop
  have hlive : Live.after {} ((calls ++ [call]).filterMap Call.event?) =
      q.live.after call.event?.toList := by
    rw [List.filterMap_append, Live.after, List.foldl_append, h.live]
    cases call <;> rfl
  cases call with
  | shutdown =>
    obtain ⟨hwheel, honWheel⟩ := Prod.mk.inj hd.release_wheel
    have hidle := (Profile.desktop d).release_step.idle
    refine ⟨{ q with profile := .desktop d.release.1 }, d.release.2, ?_, ⟨hlive.symm, _, rfl,
      hd.of_idle hidle, fun hon => ?_⟩, turns_of_empty honWheel⟩
    · rw [perform_shutdown, hprofile]
      rfl
    · rw [hwheel] at hon
      cases hon
  | event e =>
    cases hadmits : q.filter.admits e with
    | false =>
      have hquiet := Filter.isReport_of_not_admits hadmits
      exact ⟨q.updated e, {}, process_of_not_admits hadmits, ⟨hlive.symm, d, hprofile, hd,
        fun hon => (hengaged hon).concat hquiet⟩, turns_of_empty rfl⟩
    | true =>
      have hidle := (Desktop.handle_step e (q.live.apply e) hd.indexed).idle
      have hhandle : q.profile.handle e (q.live.apply e) =
          .ok (.desktop (d.handle e (q.live.apply e)).1, (d.handle e (q.live.apply e)).2) := by
        rw [hprofile]
        rfl
      obtain ⟨hon, hturns⟩ := turns_of_handle hd hengaged h.live e
      exact ⟨_, _, process_of_handle hadmits hhandle,
        ⟨hlive.symm, _, rfl, hd.of_idle hidle, hon⟩, hturns⟩

theorem FollowsPad.of_new (hp : Pipeline.new .desktop c = .ok p) : FollowsPad c [] p := by
  obtain ⟨_, hprofile, rfl⟩ := exists_profile_of_new hp
  cases Profile.built_of_new hprofile with
  | desktop hd =>
    obtain ⟨hconfigured, hengaged⟩ := Desktop.configured_of_new hd
    exact ⟨rfl, _, rfl, hconfigured, fun hon => absurd hon (hengaged ▸ Bool.false_ne_true)⟩

/-- Whatever the filter and the calls before, a call is answered without moving the wheel or
requesting a train of pulses, or it is a report with the left pad touched. In that case the frame
before was ended by a report with the pad touched as well, and the answer moves the wheel once, by a
number of ticks that is not zero, and requests one train on the left, of the configured
magnitude and with a pulse for every tick as far as a train can count. -/
theorem wheel_follows_touch (hp : Pipeline.new .desktop c = .ok p) (calls : List Call)
    (call : Call) : ∃ (q : Pipeline) (r : Response),
      p.session (calls ++ [call]) = (q, (p.session calls).2 ++ [(call, r)]) ∧
      (r.onWheel = {} ∨ ∃ n, n ≠ 0 ∧
        r.onWheel = { events := [⟨.rel Code.relWheel, n⟩],
                      pulses := [.train .left c.pad.hapticMagnitude (Pulse.countOf n)] } ∧
        (Pulse.countOf n).toNat = min n.toInt.natAbs 65535 ∧
        (∃ e, call = .event e ∧ e.isReport = true) ∧
        q.live.value c.layout.touchLeft ≠ 0 ∧ LastFrameHeld c.layout.touchLeft calls) := by
  have hstep (calls : List Call) (q : Pipeline) (call : Call) (h : FollowsPad c calls q) :
      ∃ q' r, q.perform call = .ok (q', r) ∧ FollowsPad c (calls ++ [call]) q' := by
    obtain ⟨q', r, hcall, h', -⟩ := h.perform call
    exact ⟨q', r, hcall, h'⟩
  obtain ⟨hall, hfollows⟩ := session_history (FollowsPad.of_new hp) hstep calls
  obtain ⟨q, r, hcall, -, n, hticks, hturned⟩ := hfollows.perform call
  refine ⟨q, r, session_concat hall hcall, ?_⟩
  by_cases hn : n = 0
  · refine .inl ?_
    rw [hticks, Desktop.ticks, if_pos hn]
  · obtain ⟨hreport, hheld, hlast⟩ := hturned hn
    refine .inr ⟨n, hn, ?_, ?_, hreport, bne_iff_ne.1 hheld, hlast⟩
    · rw [hticks, Desktop.ticks, if_neg hn]
    · exact UInt16.toNat_ofNat_of_lt' (show min n.toInt.natAbs 65535 < 65536 by omega)

/-- A filter that passes nothing. The finger is lifted above the centre and comes back below it,
which turns nothing; half a circle after that is six ticks back. -/
theorem wheel_follows_touch_of_lift :
    let c : Config := { filter := some {} }
    let touch (value : Int32) : Call := .event ⟨c.layout.touchLeft, value⟩
    let slide (y : Int32) : Call := .event ⟨c.layout.leftPadY, y⟩
    let report : Call := .event .report
    let calls := [touch 1, slide 20000, report, touch 0, report, touch 1, slide (-20000), report,
      slide 20000]
    ∃ p q r, Pipeline.new .desktop c = .ok p ∧
      p.session (calls ++ [report]) = (q, (p.session calls).2 ++ [(report, r)]) ∧
      (∀ s ∈ (p.session calls).2, s.2.onWheel = {}) ∧
      r.onWheel = { events := [⟨.rel Code.relWheel, -6⟩], pulses := [.train .left 32768 6] } ∧
      LastFrameHeld c.layout.touchLeft calls := by
  intro c touch slide report calls
  obtain ⟨p, hp, hquiet, hlast⟩ : ∃ p, Pipeline.new .desktop c = .ok p ∧
      (∀ s ∈ (p.session calls).2, s.2.onWheel = {}) ∧
      (p.session (calls ++ [report])).2.getLast?.map (·.2.onWheel) =
        some { events := [⟨.rel Code.relWheel, -6⟩], pulses := [.train .left 32768 6] } :=
    ⟨_, rfl, by decide +kernel, by decide +kernel⟩
  obtain ⟨q, r, hsession, hanswer⟩ := wheel_follows_touch hp calls report
  rw [hsession, List.getLast?_concat, Option.map_some, Option.some_inj] at hlast
  obtain hempty | ⟨_, -, -, -, -, -, hheld⟩ := hanswer
  · exact absurd (hlast.symm.trans hempty) (by decide)
  · exact ⟨p, q, r, hp, hsession, hquiet, hlast, hheld⟩

end Pipeline

end ControllerRemap
