import ControllerRemap.Proofs.Profile.Shutdown

/-! The tool button of the absolute pointer. A touch of the pad is found at a report, in the live
table, but its end is found in the event itself. The two agree if the touch channel is a key and
the filter lets it through: the tool is pressed only while the pad is touched, at every report it
is pressed exactly if the pad is touched, and a position is sent only while it is pressed. -/

namespace ControllerRemap

/-- A filter looks at channels only. -/
theorem Filter.passes_congr (f : Filter) {d e : Event} (h : d.channel = e.channel) :
    f.passes d = f.passes e := by
  have hmatch (rule : FilterRule) : rule.isMatch d = rule.isMatch e := by
    cases rule <;> simp only [FilterRule.isMatch, h]
  simp only [passes, hmatch]

/-- The first position of a stroke presses the tool, and no later one does. -/
theorem TouchMapper.lastOn_tool_update {m m' : TouchMapper} {x y : Float} {out : List Event}
    (h : m.update x y = .ok (m', out)) :
    Event.lastOn tool out = if m.touching then none else some 1 := by
  obtain ⟨-, px, py, rfl⟩ := update_eq_ok h
  have hplace : ∀ o ∈ [⟨.abs Code.absX, px⟩, ⟨.abs Code.absY, py⟩, Event.report],
      o.channel ≠ tool := by
    simp only [List.forall_mem_cons]
    exact ⟨by decide, by decide, by decide, List.forall_mem_nil _⟩
  rw [Event.lastOn_append_of_ne _ hplace]
  split
  · rfl
  · rw [Event.lastOn_singleton, if_pos rfl]

theorem TouchMapper.channel_of_release {m : TouchMapper} {o : Event} (ho : o ∈ m.release.2) :
    o.channel ∉ ProfileKind.tablet.motion := by
  have hlift : ∀ o ∈ [(⟨tool, 0⟩ : Event), .report], o.channel ∉ ProfileKind.tablet.motion := by
    decide
  rw [release] at ho
  split at ho
  · exact hlift o ho
  · cases ho

namespace Tablet

/-- The value that the tool was last sent says whether there is a stroke, and there is none
without a touch. -/
structure Strokes (t : Tablet) (live : Live) (tool : Option Int32) : Prop where
  pressed : tool = some 1 ↔ t.mapper.touching = true
  touched : t.mapper.touching = true → live.held t.layout.touchRight = true

variable {t t' : Tablet} {live : Live} {tool : Option Int32} {e : Event} {r : Response}

/-- An event that does not end a touch leaves a stroke as it is. -/
theorem Strokes.apply (h : t.Strokes live tool)
    (he : e.channel = t.layout.touchRight → e.channel.kind ≠ .syn ∧ e.value ≠ 0) :
    t.Strokes (live.apply e) tool := by
  refine ⟨h.pressed, fun htouching => ?_⟩
  by_cases hc : t.layout.touchRight = e.channel
  · obtain ⟨hsyn, hvalue⟩ := he hc.symm
    rw [hc, Live.held, Live.value_apply_self live hsyn]
    exact bne_iff_ne.2 hvalue
  · rw [Live.held, Live.value_apply_of_ne live hc]
    exact h.touched htouching

/-- A position while the pad is touched begins a stroke or goes on with it. -/
theorem Strokes.update {m : TouchMapper} {x y : Float} {out : List Event} (h : t.Strokes live tool)
    (hheld : live.held t.layout.touchRight = true) (hupdate : t.mapper.update x y = .ok (m, out)) :
    Strokes { t with mapper := m } live ((Event.lastOn TouchMapper.tool out).or tool) := by
  obtain ⟨hmapper, -⟩ := TouchMapper.update_eq_ok hupdate
  refine ⟨iff_of_true ?_ (by rw [hmapper]), fun _ => hheld⟩
  rw [TouchMapper.lastOn_tool_update hupdate]
  cases hbefore : t.mapper.touching with
  | true => exact h.pressed.2 hbefore
  | false => rfl

/-- After a lift there is no stroke, whether or not there was one. -/
theorem Strokes.release (h : t.Strokes live tool) (now : Live) :
    Strokes { t with mapper := t.mapper.release.1 } now
      ((Event.lastOn TouchMapper.tool t.mapper.release.2).or tool) := by
  have hlifted : ¬t.mapper.release.1.touching = true := Bool.false_ne_true
  refine ⟨iff_of_false ?_ hlifted, fun htouching => absurd htouching hlifted⟩
  rw [t.mapper.lastOn_release (show TouchMapper.tool.kind ≠ .syn by decide)]
  cases hbefore : t.mapper.touching with
  | true => exact (by decide : some (0 : Int32) ≠ some 1)
  | false => exact fun hpressed => absurd (h.pressed.1 hpressed) (by rw [hbefore]; decide)

/-- Handling keeps the agreement. After a report with a touch there is a stroke, and a position is
sent in a stroke only. -/
theorem Strokes.handle (h : t.Strokes live tool) (hkey : t.layout.touchRight.kind = .key)
    (hhandle : t.handle e (live.apply e) = .ok (t', r)) : t'.layout = t.layout ∧
      t'.Strokes (live.apply e) ((Event.lastOn TouchMapper.tool r.events).or tool) ∧
      (e.isReport = true → (live.apply e).held t.layout.touchRight = true →
        t'.mapper.touching = true) ∧
      ∀ o ∈ r.events, o.channel ∈ ProfileKind.tablet.motion → t'.mapper.touching = true := by
  by_cases htouch : e.isReport = true ∧ (live.apply e).held t.layout.touchRight = true
  · rw [handle_of_touch htouch.1 htouch.2] at hhandle
    obtain ⟨⟨m, out⟩, hupdate, heq⟩ := exists_of_map_eq_ok hhandle
    cases heq
    have hstroke : m.touching = true := by rw [(TouchMapper.update_eq_ok hupdate).1]
    have hsame : t.Strokes (live.apply e) tool := ⟨h.pressed, fun _ => htouch.2⟩
    exact ⟨rfl, hsame.update htouch.2 hupdate, fun _ _ => hstroke, fun _ _ _ => hstroke⟩
  · rw [handle_of_not_touch htouch] at hhandle
    have hreport (hr : e.isReport = true) (hheld : (live.apply e).held t.layout.touchRight = true) :
        t'.mapper.touching = true := absurd ⟨hr, hheld⟩ htouch
    split at hhandle
    · cases hhandle
      exact ⟨rfl, h.release _, hreport,
        fun o ho hmotion => absurd hmotion (TouchMapper.channel_of_release ho)⟩
    · next hlift =>
      cases hhandle
      refine ⟨rfl, h.apply fun hc => ?_, hreport, List.forall_mem_nil _⟩
      have hkind : e.channel.kind = .key := hc ▸ hkey
      exact ⟨by rw [hkind]; decide, fun hvalue => hlift ⟨hkind, hc, hvalue⟩⟩

end Tablet

namespace Pipeline

/-- The profile is an absolute pointer whose strokes agree with the live table and with what was
sent on the tool. -/
structure FollowsTouch (c : Config) (q : Pipeline) (out : Response) : Prop where
  filter : q.filter = c.filter.getD .passAll
  tablet : ∃ t, q.profile = .tablet t ∧ t.layout = c.layout ∧
    t.Strokes q.live (Event.lastOn TouchMapper.tool out.events)

variable {c : Config} {p q q' : Pipeline} {e : Event} {out r : Response} {v : Int32}

/-- While they agree, the tool is pressed only with a touch. -/
theorem FollowsTouch.held (h : q.FollowsTouch c out)
    (hpressed : Event.lastOn TouchMapper.tool out.events = some 1) :
    q.live.held c.layout.touchRight = true := by
  obtain ⟨t, -, hlayout, hstrokes⟩ := h.tablet
  exact hlayout ▸ hstrokes.touched (hstrokes.pressed.1 hpressed)

/-- A call keeps the agreement. A report with a touch leaves the tool pressed, and so does a call
that sends a position. -/
theorem FollowsTouch.process (h : q.FollowsTouch c out) (hkey : c.layout.touchRight.kind = .key)
    (hpass : (c.filter.getD .passAll).passes ⟨c.layout.touchRight, v⟩ = true)
    (hprocess : q.process e = .ok (q', r)) : q'.FollowsTouch c (out ++ r) ∧
      (e.isReport = true → q'.live.held c.layout.touchRight = true →
        Event.lastOn TouchMapper.tool (out ++ r).events = some 1) ∧
      ∀ o ∈ r.events, o.channel ∈ ProfileKind.tablet.motion →
        Event.lastOn TouchMapper.tool (out ++ r).events = some 1 := by
  obtain ⟨t, hprofile, hlayout, hstrokes⟩ := h.tablet
  obtain ⟨hlive, hfilter, ⟨-, hhandle⟩ | ⟨hadmits, hsame, rfl⟩⟩ := process_eq_ok hprocess
  · rw [hprofile, Profile.handle] at hhandle
    obtain ⟨⟨t', r'⟩, ht, heq⟩ := exists_of_map_eq_ok hhandle
    obtain ⟨hprofile', rfl⟩ := Prod.mk.inj heq
    obtain ⟨hlayout', hstrokes', hreport, hmotion⟩ := hstrokes.handle (hlayout ▸ hkey) ht
    rw [← hlive, ← Event.lastOn_append] at hstrokes'
    rw [← hlive, hlayout] at hreport
    exact ⟨⟨hfilter.trans h.filter, t', hprofile'.symm, hlayout'.trans hlayout, hstrokes'⟩,
      fun he hheld => hstrokes'.pressed.2 (hreport he hheld),
      fun o ho hm => hstrokes'.pressed.2 (hmotion o ho hm)⟩
  · rw [Response.append_empty]
    refine ⟨⟨hfilter.trans h.filter, t, hsame.trans hprofile, hlayout, ?_⟩, fun he _ => ?_,
      List.forall_mem_nil _⟩
    · -- an event on the touch channel would have been admitted
      rw [hlive]
      refine hstrokes.apply fun hc => ?_
      rw [hlayout] at hc
      rw [h.filter, Filter.admits, if_neg (by rw [hc, hkey]; decide),
        Filter.passes_congr _ (show e.channel = (⟨c.layout.touchRight, v⟩ : Event).channel from hc),
        hpass] at hadmits
      cases hadmits
    · rw [Filter.isReport_of_not_admits hadmits] at he
      cases he

/-- The touch channel is a key that the filter lets through. After every call of a run that meets
no fault, the tool is pressed only if the pad is touched, and after a report it is pressed exactly
if the pad is touched. A call that sends a position leaves the tool pressed. -/
theorem tool_follows_touch {es : List Event} (hp : Pipeline.new .tablet c = .ok p)
    (hkey : c.layout.touchRight.kind = .key)
    (hpass : (c.filter.getD .passAll).passes ⟨c.layout.touchRight, v⟩ = true)
    (hrun : p.run es = .ok (q, out)) (hprocess : q.process e = .ok (q', r)) :
    let pressed := Event.lastOn (.key Code.btnToolFinger) (out ++ r).events = some 1
    let touched := q'.live.value c.layout.touchRight ≠ 0
    (pressed → touched) ∧ (e.isReport = true → (pressed ↔ touched)) ∧
      ∀ o ∈ r.events, o.channel = .abs Code.absX ∨ o.channel = .abs Code.absY → pressed := by
  have hstart : p.FollowsTouch c {} := by
    cases hp
    exact ⟨rfl, _, rfl, rfl, iff_of_false (by rintro ⟨⟩) Bool.false_ne_true,
      fun h => absurd h Bool.false_ne_true⟩
  have h := run_preserves (fun _ _ _ _ _ h hp => (h.process hkey hpass hp).1) hstart hrun
  obtain ⟨h', hreport, hmotion⟩ := h.process hkey hpass hprocess
  rw [Response.empty_append] at h' hreport hmotion
  have htouched : q'.live.held c.layout.touchRight = true ↔
      q'.live.value c.layout.touchRight ≠ 0 := bne_iff_ne
  refine ⟨fun hpressed => htouched.1 (h'.held hpressed), fun he =>
    ⟨fun hpressed => htouched.1 (h'.held hpressed), fun hheld => hreport he (htouched.2 hheld)⟩, ?_⟩
  intro o ho hc
  refine hmotion o ho ?_
  rcases hc with hc | hc <;> rw [hc] <;> decide

/-- The filter passes the touch channel alone, so positions reach the live table only. The pad is
touched with a negative value, lifted twice and touched again; the report after it starts a second
stroke. -/
theorem tool_follows_touch_of_second_stroke :
    let c : Config := { filter := some { rules := [.channel (.key Code.btnThumb2)] } }
    let touch (v : Int32) : Event := ⟨c.layout.touchRight, v⟩
    let es : List Event := [touch (-1), ⟨c.layout.rightPadX, 20000⟩, .report, touch 0, touch 0, touch 2]
    ∃ p q out q' r, Pipeline.new .tablet c = .ok p ∧ p.run es = .ok (q, out) ∧
      q.process .report = .ok (q', r) ∧ c.layout.touchRight.kind = .key ∧
      (c.filter.getD .passAll).passes ⟨c.layout.touchRight, 0⟩ = true ∧
      Event.lastOn (.key Code.btnToolFinger) out.events = some 0 ∧
      (Event.lastOn (.key Code.btnToolFinger) (out ++ r).events = some 1 ↔
        q'.live.value c.layout.touchRight ≠ 0) ∧
      Event.lastOn (.key Code.btnToolFinger) (out ++ r).events = some 1 := by
  intro c touch es
  have hpass : (c.filter.getD .passAll).passes ⟨c.layout.touchRight, 0⟩ = true := by decide
  have hvalue : ((Pipeline.new .tablet c).toOption.bind fun p => (p.run es).toOption.bind fun x =>
      (x.1.process .report).toOption.map fun y =>
        (Event.lastOn (.key Code.btnToolFinger) x.2.events,
          Event.lastOn (.key Code.btnToolFinger) (x.2 ++ y.2).events)) =
      some (some 0, some 1) := by decide +kernel
  obtain ⟨p, hp, hrest⟩ := Option.bind_eq_some_iff.1 hvalue
  obtain ⟨⟨q, out⟩, hrun, hlast⟩ := Option.bind_eq_some_iff.1 hrest
  obtain ⟨⟨q', r⟩, hprocess, hsent⟩ := Option.map_eq_some_iff.1 hlast
  obtain ⟨hbefore, hafter⟩ := Prod.mk.inj hsent
  have hp := eq_ok_of_toOption hp
  have hrun := eq_ok_of_toOption hrun
  have hprocess := eq_ok_of_toOption hprocess
  exact ⟨p, q, out, q', r, hp, hrun, hprocess, rfl, hpass, hbefore,
    (tool_follows_touch hp rfl hpass hrun hprocess).2.1 rfl, hafter⟩

end Pipeline

end ControllerRemap
