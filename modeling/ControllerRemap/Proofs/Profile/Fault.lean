import ControllerRemap.Config.Decoder
import ControllerRemap.Proofs.Number.Finite
import ControllerRemap.Proofs.Profile.Session

/-! What can stop a session. The absolute pointer meets a fault if a frame ends while its pad is
touched and both ends of an axis of the input region are NaN; settings do not change while a
pipeline runs, so the calls alone say whether it comes to that. Every other session is answered to
its end. -/

namespace ControllerRemap

/-! ### Positions on a touch surface -/

namespace AxisMap

variable {a : AxisMap} {v : Float}

/-- No position is within an axis with two NaN ends. -/
def IsUnbounded (a : AxisMap) : Prop := a.inputStart.isNaN = true ∧ a.inputEnd.isNaN = true

/-- The span of such an axis is NaN too, so the guard against flat regions does not catch it. -/
theorem map_of_isUnbounded (h : a.IsUnbounded) (hv : v.isFinite = true) :
    a.map v = .error { sent := [] } := by
  have hspan : (a.inputEnd - a.inputStart == 0.0) = false := Binary64.sub_nan_beq_zero h.2 h.1
  have hfraction : a.fraction v = .error { sent := [] } := by
    simp only [fraction, hspan, hv, h.1, h.2]
    rfl
  rw [map, hfraction]
  rfl

theorem exists_map (h : ¬a.IsUnbounded) (v : Float) : ∃ n, a.map v = .ok n := by
  have hends : (a.inputStart.isNaN && a.inputEnd.isNaN) = false := by
    rwa [Bool.eq_false_iff, ne_eq, Bool.and_eq_true]
  obtain ⟨t, ht⟩ : ∃ t, a.fraction v = .ok t := by
    simp only [fraction, hends]
    split <;> exact ⟨_, rfl⟩
  exact ⟨a.scale t, by rw [map, ht]; rfl⟩

end AxisMap

namespace TouchMapper

variable {m : TouchMapper} {x y : Float}

def IsUnbounded (m : TouchMapper) : Prop := m.x.IsUnbounded ∨ m.y.IsUnbounded

theorem update_of_isUnbounded (h : m.IsUnbounded) (hx : x.isFinite = true) (hy : y.isFinite = true) :
    ∃ fault, m.update x y = .error fault := by
  rw [update]
  rcases h with h | h
  · rw [AxisMap.map_of_isUnbounded h hx]
    exact ⟨_, rfl⟩
  · rw [AxisMap.map_of_isUnbounded h hy]
    by_cases hm : m.x.IsUnbounded
    · rw [AxisMap.map_of_isUnbounded hm hx]
      exact ⟨_, rfl⟩
    · obtain ⟨px, hpx⟩ := AxisMap.exists_map hm x
      rw [hpx]
      exact ⟨_, rfl⟩

theorem exists_update (h : ¬m.IsUnbounded) (x y : Float) : ∃ result, m.update x y = .ok result := by
  obtain ⟨hmx, hmy⟩ := not_or.1 h
  obtain ⟨px, hpx⟩ := AxisMap.exists_map hmx x
  obtain ⟨py, hpy⟩ := AxisMap.exists_map hmy y
  rw [update, hpx, hpy]
  exact ⟨_, rfl⟩

end TouchMapper

/-! ### Profiles -/

/-- A frame that ends while a channel is held meets a fault. -/
def Profile.Hazard (c : Channel) : Profile → Prop
  | tablet t => t.mapper.IsUnbounded ∧ t.layout.touchRight = c
  | _ => False

/-- An axis of a rectangle has two NaN ends. -/
def Corners.IsUnbounded (r : Corners) : Prop :=
  r.x0.isNaN = true ∧ r.x1.isNaN = true ∨ r.y0.isNaN = true ∧ r.y1.isNaN = true

theorem Profile.new_hazard {kind : ProfileKind} {c : Config} {live : Live} {p : Profile}
    (h : Profile.new kind c live = .ok p) (ch : Channel) : p.Hazard ch ↔
      kind = .tablet ∧ c.tablet.inputRegion.IsUnbounded ∧ c.layout.touchRight = ch := by
  cases built_of_new h with
  | tablet => exact ⟨fun hc => ⟨rfl, hc⟩, And.right⟩
  | _ =>
    refine iff_of_false id ?_
    rintro ⟨hkind, -⟩
    cases hkind

theorem Profile.hazard_congr {p q : Profile} (h : q.idle = p.idle) (c : Channel) :
    q.Hazard c ↔ p.Hazard c := by
  have hidle (p : Profile) : p.idle.Hazard c ↔ p.Hazard c := by cases p <;> rfl
  rw [← hidle q, h, hidle]

theorem Tablet.isFinite_position (t : Tablet) (live : Live) :
    (t.position live).1.isFinite = true ∧ (t.position live).2.isFinite = true := by
  have hnumber (c : Channel) : (live.number c).isFinite = true := Binary64.isFinite_ofInt32 _
  refine ⟨hnumber _, ?_⟩
  simp only [position]
  split
  · exact hnumber _
  · exact (Binary64.isFinite_neg _).trans (hnumber _)

theorem Tablet.handle_eq_error_iff {t : Tablet} {e : Event} {live : Live} :
    (∃ fault, t.handle e live = .error fault) ↔
      e.isReport = true ∧ live.held t.layout.touchRight = true ∧ t.mapper.IsUnbounded := by
  by_cases htouch : e.isReport = true ∧ live.held t.layout.touchRight = true
  · rw [handle_of_touch htouch.1 htouch.2]
    by_cases hm : t.mapper.IsUnbounded
    · obtain ⟨hx, hy⟩ := t.isFinite_position live
      obtain ⟨fault, hupdate⟩ := TouchMapper.update_of_isUnbounded hm hx hy
      rw [hupdate]
      exact iff_of_true ⟨_, rfl⟩ ⟨htouch.1, htouch.2, hm⟩
    · obtain ⟨result, hupdate⟩ :=
        TouchMapper.exists_update hm (t.position live).1 (t.position live).2
      rw [hupdate]
      exact iff_of_false (by simp [Except.map]) fun h => hm h.2.2
  · rw [handle_of_not_touch htouch]
    exact iff_of_false (by simp) fun h => htouch ⟨h.1, h.2.1⟩

/-- A profile meets a fault at the end of a frame, with its hazard held, and at no other time. -/
theorem Profile.handle_eq_error_iff {p : Profile} {e : Event} {live : Live} :
    (∃ fault, p.handle e live = .error fault) ↔
      e.isReport = true ∧ ∃ c, p.Hazard c ∧ live.held c = true := by
  cases p with
  | tablet t =>
    have hmap : (∃ fault, (tablet t).handle e live = .error fault) ↔
        ∃ fault, t.handle e live = .error fault := exists_congr fun _ => map_eq_error_iff
    rw [hmap, Tablet.handle_eq_error_iff]
    constructor
    · rintro ⟨he, hheld, hm⟩
      exact ⟨he, _, ⟨hm, rfl⟩, hheld⟩
    · rintro ⟨he, _, ⟨hm, rfl⟩, hheld⟩
      exact ⟨he, hheld, hm⟩
  | _ => simp [handle, Hazard]

/-! ### Sessions -/

namespace Pipeline

def Call.event? : Call → Option Event
  | .event e => some e
  | .shutdown => none

/-- A frame ends while a channel is held. -/
def EndsFrameHolding (c : Channel) (live : Live) (calls : List Call) : Prop :=
  ∃ pre e post, calls = pre ++ .event e :: post ∧ e.isReport = true ∧
    (live.after (pre.filterMap Call.event?)).held c = true

variable {p q : Pipeline} {call : Call} {c : Channel} {live : Live}

theorem not_endsFrameHolding_nil : ¬EndsFrameHolding c live [] := by
  rintro ⟨pre, e, post, h, -⟩
  simp at h

theorem endsFrameHolding_cons {calls : List Call} : EndsFrameHolding c live (call :: calls) ↔
    (∃ e, call = .event e ∧ e.isReport = true ∧ live.held c = true) ∨
      EndsFrameHolding c (live.after call.event?.toList) calls := by
  constructor
  · rintro ⟨pre, e, post, h, he, hheld⟩
    cases pre with
    | nil =>
      cases h
      exact .inl ⟨e, rfl, he, hheld⟩
    | cons first pre =>
      cases h
      refine .inr ⟨pre, e, post, rfl, he, ?_⟩
      cases call <;> exact hheld
  · rintro (⟨e, rfl, he, hheld⟩ | ⟨pre, e, post, rfl, he, hheld⟩)
    · exact ⟨[], e, calls, rfl, he, hheld⟩
    · refine ⟨call :: pre, e, post, rfl, he, ?_⟩
      cases call <;> exact hheld

theorem live_perform {r : Response} (h : p.perform call = .ok (q, r)) :
    q.live = p.live.after call.event?.toList := by
  cases call with
  | event e => exact (process_eq_ok h).1
  | shutdown =>
    cases h
    rfl

theorem perform_eq_error_iff : (∃ fault, p.perform call = .error fault) ↔
    ∃ c, p.profile.Hazard c ∧ ∃ e, call = .event e ∧ e.isReport = true ∧ p.live.held c = true := by
  constructor
  · rintro ⟨fault, h⟩
    cases call with
    | shutdown => cases h
    | event e =>
      obtain ⟨-, hhandle⟩ := process_eq_error_iff.1 h
      obtain ⟨he, c, hc, hheld⟩ := Profile.handle_eq_error_iff.1 ⟨fault, hhandle⟩
      rw [Live.apply_of_syn p.live (Event.kind_of_isReport he)] at hheld
      exact ⟨c, hc, e, rfl, he, hheld⟩
  · rintro ⟨c, hc, e, rfl, he, hheld⟩
    have hsyn := Event.kind_of_isReport he
    have hadmits : p.filter.admits e = true := by rw [Filter.admits, if_pos hsyn, he]
    rw [← Live.apply_of_syn p.live hsyn] at hheld
    obtain ⟨fault, hhandle⟩ := Profile.handle_eq_error_iff.2 ⟨he, c, hc, hheld⟩
    exact ⟨fault, process_eq_error_iff.2 ⟨hadmits, hhandle⟩⟩

/-- All calls of a session are answered unless a frame ends with a hazard held. -/
theorem session_answers_iff (hindexed : p.profile.Indexed) (calls : List Call) :
    (p.session calls).2.map (·.1) = calls ↔
      ∀ c, p.profile.Hazard c → ¬EndsFrameHolding c p.live calls := by
  induction calls generalizing p with
  | nil => exact iff_of_true rfl fun _ _ => not_endsFrameHolding_nil
  | cons call calls ih =>
    simp only [endsFrameHolding_cons, not_or]
    cases hcall : p.perform call with
    | error fault =>
      obtain ⟨c, hc, hends⟩ := perform_eq_error_iff.1 ⟨fault, hcall⟩
      rw [session_cons_of_error hcall]
      exact iff_of_false (by simp) fun h => (h c hc).1 hends
    | ok result =>
      obtain ⟨q, r⟩ := result
      have hstep := perform_step hindexed hcall
      -- the rest of the session starts from the same hazard and the live table of the calls so far
      have hgo : ∀ c, p.profile.Hazard c →
          ¬∃ e, call = .event e ∧ e.isReport = true ∧ p.live.held c = true := by
        intro c hc hends
        obtain ⟨fault, hfault⟩ := perform_eq_error_iff.2 ⟨c, hc, hends⟩
        rw [hcall] at hfault
        cases hfault
      rw [session_cons_of_ok hcall, List.map_cons, List.cons_inj_right,
        ih ((Profile.indexed_congr hstep.idle).2 hindexed), live_perform hcall]
      simp only [Profile.hazard_congr hstep.idle]
      exact forall₂_congr fun c hc => ⟨fun h => ⟨hgo c hc, h⟩, fun h => h.2⟩

/-- All calls are answered unless the profile is the absolute pointer, an axis of its input region
has two NaN ends, and a frame ends while the right pad is touched. -/
theorem answers_all_iff {kind : ProfileKind} {c : Config} {p : Pipeline}
    (hp : Pipeline.new kind c = .ok p) (calls : List Call) :
    (p.session calls).2.map (·.1) = calls ↔
      ¬(kind = .tablet ∧ c.tablet.inputRegion.IsUnbounded ∧
        EndsFrameHolding c.layout.touchRight {} calls) := by
  obtain ⟨profile, hprofile, rfl⟩ := exists_of_map_eq_ok hp
  obtain ⟨-, hindexed, -⟩ := Profile.new_rules hprofile
  rw [session_answers_iff hindexed]
  simp only [Profile.new_hazard hprofile]
  constructor
  · rintro h ⟨hkind, hregion, hends⟩
    exact h _ ⟨hkind, hregion, rfl⟩ hends
  · rintro h _ ⟨hkind, hregion, rfl⟩ hends
    exact h ⟨hkind, hregion, hends⟩

/-- One NaN corner leaves each axis an end that is a number. -/
theorem answers_all_of_one_nan :
    let region : Corners := ⟨0.0 / 0.0, -20000.0, 20000.0, 20000.0⟩
    let c : Config := { tablet := { inputRegion := region } }
    let calls : List Call := [.event ⟨c.layout.touchRight, 1⟩, .event .report, .shutdown]
    ∃ p, Pipeline.new .tablet c = .ok p ∧ region.x0.isNaN = true ∧
      (p.session calls).2.map (·.1) = calls := by
  intro region c calls
  have hnew : Pipeline.new .tablet c = .ok _ := rfl
  have hregion : ¬region.IsUnbounded := by
    rintro (⟨-, h⟩ | ⟨-, h⟩)
    · exact absurd h (by decide +kernel)
    · exact absurd h (by decide +kernel)
  exact ⟨_, hnew, by decide +kernel, (answers_all_iff hnew calls).2 fun h => hregion h.2.1⟩

/-- A document that sets every corner of the input region to NaN is accepted, and the first frame
with a touch meets the fault. The tool is pressed by then. -/
theorem fault_of_nan_corners : ∃ c p,
    Config.parse "[tablet]\ninput_region = [nan, nan, nan, nan]\n" = .ok c ∧
      Pipeline.new .tablet c = .ok p ∧
      p.run [⟨.key Code.btnThumb2, 1⟩, .report] =
        .error { sent := [⟨TouchMapper.tool, 1⟩] } := by
  have hfault : ((Config.parse "[tablet]\ninput_region = [nan, nan, nan, nan]\n").toOption.bind
      fun c => (Pipeline.new .tablet c).toOption.bind fun p =>
        match p.run [⟨.key Code.btnThumb2, 1⟩, .report] with
        | .error fault => some fault
        | .ok _ => none) = some { sent := [⟨TouchMapper.tool, 1⟩] } := by decide +kernel
  obtain ⟨c, hc, hbuilt⟩ := Option.bind_eq_some_iff.1 hfault
  obtain ⟨p, hp, hrun⟩ := Option.bind_eq_some_iff.1 hbuilt
  refine ⟨c, p, eq_ok_of_toOption hc, eq_ok_of_toOption hp, ?_⟩
  split at hrun
  · next fault hf =>
    cases hrun
    exact hf
  · cases hrun

end Pipeline

end ControllerRemap
