import ControllerRemap.Proofs.Motion.Carry
import ControllerRemap.Proofs.Profile.Fault

/-! Pointing by orientation, frame by frame. An orientation comes in one component at a time, so a
report can find one in the live table that has no finite unit form, as before the first component.
Such a report leaves no trace: it changes no state and is answered by a report alone, and the other
calls are answered as if it had not been there. The first other report since the start or a shutdown
is the baseline, and later ones move the pointer. -/

namespace ControllerRemap

open ControllerRemap.Geometry

/-! ### Malformed orientations -/

/-- A component of the unit form is not finite. -/
def Geometry.Quaternion.isMalformed (q : Quaternion) : Bool :=
  q.normalize.toList.any fun x => !x.isFinite

namespace GyroMouse

variable {m : GyroMouse} {q : Quaternion}

theorem direction?_eq_none_iff : direction? q = none ↔ q.isMalformed = true := by
  rw [direction?, Quaternion.isMalformed, List.any_eq_not_all_not]
  simp

/-- Steps are counted from a baseline to an orientation that is well formed. -/
theorem steps_eq_zero (h : q.isMalformed = true ∨ m.engaged = false) : (m.update q).2 = {} := by
  cases hq : direction? q with
  | none => rw [update_malformed hq]
  | some d =>
    rcases h with h | h
    · rw [direction?_eq_none_iff.2 h] at hq
      cases hq
    · have hlast : m.last = none := by simpa [engaged] using h
      rw [update_baseline hq hlast]

theorem engaged_of_update (h : (m.update q).1.engaged = true) :
    m.engaged = true ∨ q.isMalformed = false := by
  cases hq : q.isMalformed with
  | false => exact .inr rfl
  | true =>
    rw [update_malformed (direction?_eq_none_iff.2 hq)] at h
    exact .inl h

end GyroMouse

/-! ### Answers to calls -/

namespace GyroPointer

/-- A motion along an axis, unless there are no steps. -/
def motion (code : UInt16) (n : Int32) : List Event := if n = 0 then [] else [⟨.rel code, n⟩]

/-- The motions of some steps, the first axis first. -/
def motions (steps : GyroSteps) : List Event :=
  motion Code.relX (-steps.horizontal) ++ motion Code.relY steps.vertical

/-- Motions, each with a train of pulses, at the end of a frame. -/
def pointing (magnitude : UInt16) (motions : List Event) : Response where
  events := motions ++ [.report]
  pulses := motions.map fun o => .train .right magnitude (Pulse.countOf o.value)

variable (magnitude code : UInt16) (n : Int32) (steps : GyroSteps)

theorem move_eq : move magnitude code n =
    ⟨motion code n, (motion code n).map fun o => .train .right magnitude (Pulse.countOf o.value)⟩ := by
  rw [move, motion]
  split <;> rfl

theorem moves_eq : move magnitude Code.relX (-steps.horizontal) ++
    move magnitude Code.relY steps.vertical ++ .report = pointing magnitude (motions steps) := by
  rw [move_eq, move_eq, pointing, motions, List.map_append]
  exact congrArg (Response.mk _) (List.append_nil _)

theorem motions_zero : motions {} = [] := by decide

theorem motion_sublist : ((motion code n).map (·.channel)).Sublist [.rel code] := by
  rw [motion]
  split
  · exact List.nil_sublist _
  · exact List.Sublist.refl _

theorem motions_sublist :
    ((motions steps).map (·.channel)).Sublist [.rel Code.relX, .rel Code.relY] := by
  rw [motions, List.map_append]
  exact (motion_sublist _ _).append (motion_sublist _ _)

variable {magnitude code n steps}

theorem value_of_motion {o : Event} (ho : o ∈ motion code n) : o.value ≠ 0 := by
  rw [motion] at ho
  split at ho
  · cases ho
  · next hn =>
    cases List.mem_singleton.1 ho
    exact hn

theorem value_of_motions {o : Event} (ho : o ∈ motions steps) : o.value ≠ 0 := by
  rcases List.mem_append.1 ho with ho | ho
  · exact value_of_motion ho
  · exact value_of_motion ho

/-- What a call does to a pointer and how it is answered. -/
inductive Does (g : GyroPointer) (live : Live) : Pipeline.Call → GyroPointer → Response → Prop where
  | report {e : Event} (he : e.isReport = true) :
    Does g live (.event e) { g with mouse := (g.mouse.update (sample g.orientation live)).1 }
      (pointing g.hapticMagnitude (motions (g.mouse.update (sample g.orientation live)).2))
  | other {e : Event} (he : e.isReport = false) (remapper : Remapper) (r : Response) :
    Does g live (.event e) { g with remapper } r
  | shutdown (r : Response) : Does g live .shutdown { g with mouse := g.mouse.release } r

theorem does_handle (g : GyroPointer) (e : Event) (live : Live) :
    g.Does live (.event e) (g.handle e (live.apply e)).1 (g.handle e (live.apply e)).2 := by
  rw [handle]
  split
  · next hkey =>
    exact .other (Event.isReport_of_ne_syn (by rw [hkey]; decide)) _ _
  · split
    · next he =>
      rw [Live.apply_of_syn live (Event.kind_of_isReport he)]
      change Does g live _ _ (move _ _ (-GyroSteps.horizontal _) ++ move _ _ _ ++ .report)
      rw [moves_eq]
      exact .report he
    · next he => exact .other (Bool.not_eq_true _ ▸ he) g.remapper {}

theorem settings_of_new {c : Config} {live : Live} {g : GyroPointer}
    (h : GyroPointer.new c live = .ok g) : c.gyro.orientation = .ok g.orientation ∧
      g.hapticMagnitude = c.gyro.hapticMagnitude ∧ g.mouse.engaged = false := by
  refine ⟨(of_new h).2.2, ?_⟩
  rw [GyroPointer.new] at h
  cases ho : c.gyro.orientation with
  | error e => rw [ho] at h; cases h
  | ok orientation =>
    cases hr : Remapper.ofRules (rules c.layout) live with
    | error e => rw [ho, hr] at h; cases h
    | ok r =>
      rw [ho, hr] at h
      cases h
      exact ⟨rfl, rfl⟩

end GyroPointer

namespace Pipeline

variable {p : Pipeline} {g : GyroPointer}

/-- Every call is answered. -/
theorem exists_does (h : p.profile = .gyroMouse g) (call : Call) : ∃ g' r,
    g.Does p.live call g' r ∧ p.perform call =
      .ok ({ p with live := p.live.after call.event?.toList, profile := .gyroMouse g' }, r) := by
  cases call with
  | shutdown =>
    refine ⟨g.release.1, g.release.2, .shutdown _, ?_⟩
    rw [perform_shutdown, h]
    rfl
  | event e =>
    cases hadmits : p.filter.admits e with
    | false =>
      refine ⟨g, {}, .other (Filter.isReport_of_not_admits hadmits) g.remapper {}, ?_⟩
      rw [perform, process_of_not_admits hadmits, ← h]
      rfl
    | true =>
      refine ⟨_, _, g.does_handle e p.live, ?_⟩
      exact process_of_handle hadmits (by rw [h]; rfl)

/-- Whether a call is a report while the live table has no well-formed orientation. -/
def Call.malformed (o : OrientationChannels) (live : Live) : Call → Bool
  | .event e => e.isReport && (GyroPointer.sample o live).isMalformed
  | .shutdown => false

/-- Leaves out the malformed reports. -/
def withoutMalformed {β : Type} (o : OrientationChannels) (call : β → Call) : Live → List β → List β
  | _, [] => []
  | live, b :: bs =>
    let rest := withoutMalformed o call (live.after (call b).event?.toList) bs
    if (call b).malformed o live then rest else b :: rest

/-- A malformed report changes nothing. -/
theorem does_malformed {live : Live} {call : Call} {g' : GyroPointer} {r : Response}
    (hcall : call.malformed g.orientation live = true) (h : g.Does live call g' r) :
    g' = g ∧ r = .report := by
  cases h with
  | report he =>
    obtain ⟨-, hq⟩ := Bool.and_eq_true_iff.1 hcall
    rw [GyroMouse.update_malformed (GyroMouse.direction?_eq_none_iff.2 hq)]
    rw [GyroPointer.motions_zero]
    exact ⟨rfl, rfl⟩
  | other he =>
    rw [Call.malformed, he] at hcall
    cases hcall
  | shutdown => cases hcall

theorem orientation_of_does {live : Live} {call : Call} {g' : GyroPointer} {r : Response}
    (h : g.Does live call g' r) :
    g'.orientation = g.orientation ∧ g'.hapticMagnitude = g.hapticMagnitude := by
  cases h <;> exact ⟨rfl, rfl⟩

theorem after_of_malformed {o : OrientationChannels} {live : Live} {call : Call}
    (h : call.malformed o live = true) : live.after call.event?.toList = live := by
  cases call with
  | shutdown => rfl
  | event e =>
    obtain ⟨he, -⟩ := Bool.and_eq_true_iff.1 h
    exact Live.apply_of_syn live (Event.kind_of_isReport he)

/-- Without the malformed reports a session ends in the same pipeline and has the same answers to
the other calls. -/
theorem session_withoutMalformed (h : p.profile = .gyroMouse g) (calls : List Call) :
    p.session (withoutMalformed g.orientation id p.live calls) =
      ((p.session calls).1, withoutMalformed g.orientation Prod.fst p.live (p.session calls).2) := by
  induction calls generalizing p g with
  | nil => rfl
  | cons call calls ih =>
    obtain ⟨g', r, hdoes, hcall⟩ := exists_does h call
    have hrest := ih (p := { p with live := p.live.after call.event?.toList,
                                    profile := .gyroMouse g' }) rfl
    rw [(orientation_of_does hdoes).1] at hrest
    rw [session_cons_of_ok hcall, withoutMalformed, withoutMalformed, id]
    cases hmalformed : call.malformed g.orientation p.live with
    | false =>
      simp only [Bool.false_eq_true, if_false]
      rw [session_cons_of_ok hcall, hrest]
    | true =>
      obtain ⟨rfl, -⟩ := does_malformed hmalformed hdoes
      rw [after_of_malformed hmalformed, ← h] at hrest ⊢
      simp only [if_true]
      exact hrest

/-! ### Baselines -/

/-- A well-formed report came since the start or the last shutdown. -/
def Anchored (o : OrientationChannels) (calls : List Call) : Prop :=
  ∃ pre e post, calls = pre ++ .event e :: post ∧ e.isReport = true ∧
    (GyroPointer.sample o (Live.after {} (pre.filterMap Call.event?))).isMalformed = false ∧
    Call.shutdown ∉ post

theorem live_concat (live : Live) (calls : List Call) (call : Call) :
    live.after ((calls ++ [call]).filterMap Call.event?) =
      (live.after (calls.filterMap Call.event?)).after call.event?.toList := by
  rw [List.filterMap_append, Live.after, List.foldl_append]
  cases call <;> rfl

variable {c : Config} {o : OrientationChannels} {calls : List Call} {q : Pipeline}

theorem Anchored.concat (h : Anchored o calls) (e : Event) : Anchored o (calls ++ [.event e]) := by
  obtain ⟨pre, e', post, rfl, he', hq, hpost⟩ := h
  refine ⟨pre, e', post ++ [.event e], by simp, he', hq, ?_⟩
  rw [List.mem_append, List.mem_singleton]
  rintro (hshutdown | hevent)
  · exact hpost hshutdown
  · cases hevent

/-- The profile points by an orientation, with the settings of a configuration, and has a baseline
only if there was a report for it. -/
structure FollowsOrientation (c : Config) (o : OrientationChannels) (calls : List Call)
    (q : Pipeline) : Prop where
  live : q.live = Live.after {} (calls.filterMap Call.event?)
  pointer : ∃ g, q.profile = .gyroMouse g ∧ g.orientation = o ∧
    g.hapticMagnitude = c.gyro.hapticMagnitude ∧ (g.mouse.engaged = true → Anchored o calls)

/-- Every call is answered and keeps the agreement. A report with a malformed orientation or without
a baseline moves nothing. -/
theorem FollowsOrientation.perform (h : FollowsOrientation c o calls q) (call : Call) : ∃ q' r,
    q.perform call = .ok (q', r) ∧ FollowsOrientation c o (calls ++ [call]) q' ∧
      ∀ e, call = .event e → e.isReport = true → ∃ steps : GyroSteps,
        r = GyroPointer.pointing c.gyro.hapticMagnitude (GyroPointer.motions steps) ∧
        ((GyroPointer.sample o q.live).isMalformed = true ∨ ¬Anchored o calls → steps = {}) := by
  obtain ⟨g, hprofile, horientation, hmagnitude, hengaged⟩ := h.pointer
  obtain ⟨g', r, hdoes, hcall⟩ := exists_does hprofile call
  refine ⟨_, r, hcall, ⟨?_, g', rfl, ?_⟩, ?_⟩
  · rw [live_concat, ← h.live]
  · obtain ⟨horientation', hmagnitude'⟩ := orientation_of_does hdoes
    refine ⟨horientation'.trans horientation, hmagnitude'.trans hmagnitude, fun hon => ?_⟩
    cases hdoes with
    | report he =>
      rcases GyroMouse.engaged_of_update hon with hbefore | hq
      · exact (hengaged hbefore).concat _
      · rw [horientation, h.live] at hq
        exact ⟨calls, _, [], rfl, he, hq, List.not_mem_nil⟩
    | other => exact (hengaged hon).concat _
    | shutdown => cases hon
  · rintro e rfl he
    cases hdoes with
    | report =>
      refine ⟨_, by rw [hmagnitude], fun hidle => GyroMouse.steps_eq_zero ?_⟩
      rw [horientation]
      exact hidle.imp_right fun hnone => Bool.eq_false_iff.2 fun hon => hnone (hengaged hon)
    | other he' =>
      rw [he] at he'
      cases he'

theorem FollowsOrientation.of_new (hp : Pipeline.new .gyroMouse c = .ok p) :
    ∃ g, p.profile = .gyroMouse g ∧ c.gyro.orientation = .ok g.orientation ∧
      p.live = {} ∧ FollowsOrientation c g.orientation [] p := by
  obtain ⟨_, hprofile, rfl⟩ := exists_profile_of_new hp
  cases Profile.built_of_new hprofile with
  | @gyroMouse g hg =>
    obtain ⟨horientation, hmagnitude, hengaged⟩ := GyroPointer.settings_of_new hg
    exact ⟨g, rfl, horientation, rfl, rfl, g, rfl, rfl, hmagnitude,
      fun hon => absurd hon (hengaged ▸ Bool.false_ne_true)⟩

/-- Every call is answered. Taking the malformed reports out of a session takes out their answers and
changes no other answer. A report is answered by at most one motion along each axis, the first axis
first, and a report after them. No motion is zero, and each has one train of pulses on the right, of
the configured magnitude and with a pulse for every step as far as a train can count. There are no
motions at a malformed report and at the first well-formed one since the start or a shutdown. -/
theorem malformed_reports_leave_no_trace (hp : Pipeline.new .gyroMouse c = .ok p) :
    ∃ o, c.gyro.orientation = .ok o ∧
      (∀ calls, (p.session calls).2.map (·.1) = calls ∧
        p.session (withoutMalformed o id {} calls) =
          ((p.session calls).1, withoutMalformed o Prod.fst {} (p.session calls).2)) ∧
      ∀ calls e, e.isReport = true → ∃ (q : Pipeline) (motions : List Event),
        p.session (calls ++ [.event e]) = (q, (p.session calls).2 ++ [(.event e, {
          events := motions ++ [.report],
          pulses := motions.map fun m =>
            .train .right c.gyro.hapticMagnitude (Pulse.countOf m.value) })]) ∧
        (motions.map (·.channel)).Sublist [.rel Code.relX, .rel Code.relY] ∧
        (∀ m ∈ motions, m.value ≠ 0 ∧
          (Pulse.countOf m.value).toNat = min m.value.toInt.natAbs 65535) ∧
        ((GyroPointer.sample o (Live.after {} (calls.filterMap Call.event?))).isMalformed = true ∨
          ¬Anchored o calls → motions = []) := by
  obtain ⟨g, hprofile, horientation, hlive, hstart⟩ := FollowsOrientation.of_new hp
  have hstep (calls : List Call) (q : Pipeline) (call : Call)
      (h : FollowsOrientation c g.orientation calls q) : ∃ q' r, q.perform call = .ok (q', r) ∧
        FollowsOrientation c g.orientation (calls ++ [call]) q' := by
    obtain ⟨q', r, hcall, h', -⟩ := h.perform call
    exact ⟨q', r, hcall, h'⟩
  refine ⟨g.orientation, horientation, fun calls => ⟨(session_history hstart hstep calls).1, ?_⟩,
    fun calls e he => ?_⟩
  · rw [← hlive]
    exact session_withoutMalformed hprofile calls
  · obtain ⟨hall, hfollows⟩ := session_history hstart hstep calls
    obtain ⟨q, r, hcall, -, hreport⟩ := hfollows.perform (.event e)
    obtain ⟨steps, rfl, hidle⟩ := hreport e rfl he
    refine ⟨q, GyroPointer.motions steps, session_concat hall hcall,
      GyroPointer.motions_sublist steps, fun m hm => ⟨GyroPointer.value_of_motions hm, ?_⟩,
      fun h => ?_⟩
    · exact UInt16.toNat_ofNat_of_lt' (show min m.value.toInt.natAbs 65535 < 65536 by omega)
    · rw [← hfollows.live] at h
      rw [hidle h, GyroPointer.motions_zero]

/-- Every component is zero at first and again when the first one goes before the second one comes,
so the first and the third report are malformed. Half a turn from the baseline is a step of a
hundred degrees. -/
theorem malformed_reports_leave_no_trace_of_half_turn :
    let component (n : UInt16) : Channel := .abs (Code.absHat2X + n)
    let c : Config := { gyro := { step := 100, qw := component 0, qx := component 1,
                                  qy := component 2, qz := component 3 } }
    let set (n : UInt16) (v : Int32) : Call := .event ⟨component n, v⟩
    let report : Call := .event .report
    let calls := [report, set 0 1, report, set 0 0, report, set 1 1]
    ∃ p q o, Pipeline.new .gyroMouse c = .ok p ∧ c.gyro.orientation = .ok o ∧
      p.session (calls ++ [report]) = (q, (p.session calls).2 ++ [(report, {
        events := [⟨.rel Code.relX, 1⟩, .report], pulses := [.train .right 64 1] })]) ∧
      (p.session calls).2.map (·.2) = [.report, {}, .report, {}, .report, {}] ∧
      (withoutMalformed o id {} calls).filterMap Call.event? =
        [⟨component 0, 1⟩, .report, ⟨component 0, 0⟩, ⟨component 1, 1⟩] ∧
      p.session (withoutMalformed o id {} calls) =
        ((p.session calls).1, withoutMalformed o Prod.fst {} (p.session calls).2) := by
  intro component c set report calls
  obtain ⟨p, hp, hanswers, hlast⟩ : ∃ p, Pipeline.new .gyroMouse c = .ok p ∧
      (p.session calls).2.map (·.2) = [.report, {}, .report, {}, .report, {}] ∧
      (p.session (calls ++ [report])).2.getLast?.map (·.2) = some {
        events := [⟨.rel Code.relX, 1⟩, .report], pulses := [.train .right 64 1] } :=
    ⟨_, rfl, by decide +kernel, by decide +kernel⟩
  obtain ⟨o, ho, hdelete, hreports⟩ := malformed_reports_leave_no_trace hp
  obtain ⟨q, motions, hsession, -⟩ := hreports calls .report rfl
  rw [hsession, List.getLast?_concat, Option.map_some, Option.some_inj] at hlast
  refine ⟨p, q, o, hp, ho, ?_, hanswers, ?_, (hdelete calls).2⟩
  · rw [hsession, ← hlast]
  · cases ho
    decide +kernel

end Pipeline

end ControllerRemap
