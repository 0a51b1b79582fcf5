import ControllerRemap.Proofs.Profile.Inputs
import ControllerRemap.Proofs.Profile.Session

/-! Calls that a pipeline does not notice. Two pipelines with the same profile whose live tables
agree on the channels that the profile uses answer every call alike and stay so, and an event on
another channel, or synchronisation that ends no frame, is answered with nothing and may be taken
by one of them alone. So the other calls are answered as if it had not been there. -/

namespace ControllerRemap.Pipeline

/-- A call matters to a profile that uses some channels: it shuts down, ends a frame or is an
event on one of the channels. -/
def Call.matters (cs : List Channel) : Call → Bool
  | .event e => if e.channel.kind = .syn then e.isReport else e.channel ∈ cs
  | .shutdown => true

/-- Two pipelines that differ at most in what they remember of unused channels. -/
structure Alike (cs : List Channel) (p q : Pipeline) : Prop where
  indexed : p.profile.Indexed
  inputs : p.profile.inputs = cs
  profile : q.profile = p.profile
  filter : q.filter = p.filter
  live : Live.AgreeOn cs p.live q.live

section

variable {cs : List Channel} {p p' q : Pipeline} {call : Call} {r : Response}

theorem Alike.handle (h : Alike cs p q) (e : Event) :
    q.profile.handle e (q.live.apply e) = p.profile.handle e (p.live.apply e) := by
  have hagree : Live.AgreeOn p.profile.inputs (p.live.apply e) (q.live.apply e) := by
    rw [h.inputs]
    exact h.live.apply e
  rw [h.profile, Profile.handle_congr h.indexed hagree]

/-- What a call answers, it answers to both, and leaves both alike. -/
theorem Alike.perform (h : Alike cs p q) (hp : p.perform call = .ok (p', r)) :
    ∃ q', q.perform call = .ok (q', r) ∧ Alike cs p' q' := by
  have hidle := (perform_step h.indexed hp).idle
  have hindexed : p'.profile.Indexed := (Profile.indexed_congr hidle).2 h.indexed
  have hinputs : p'.profile.inputs = cs := (Profile.inputs_congr hidle).trans h.inputs
  cases call with
  | shutdown =>
    rw [perform_shutdown] at hp
    cases hp
    refine ⟨{ q with profile := p.profile.release.1 }, ?_, hindexed, hinputs, rfl, h.filter, h.live⟩
    rw [perform_shutdown, h.profile]
  | event e =>
    obtain ⟨hlive, hfilter, ⟨hadmits, hhandle⟩ | ⟨hadmits, hprofile, rfl⟩⟩ := process_eq_ok hp
    · refine ⟨{ q.updated e with profile := p'.profile }, ?_, hindexed, hinputs, rfl, ?_, ?_⟩
      · exact process_of_handle (h.filter ▸ hadmits) ((h.handle e).trans hhandle)
      · exact h.filter.trans hfilter.symm
      · rw [hlive]
        exact h.live.apply e
    · refine ⟨q.updated e, ?_, hindexed, hinputs, h.profile.trans hprofile.symm, ?_, ?_⟩
      · exact process_of_not_admits (h.filter ▸ hadmits)
      · exact h.filter.trans hfilter.symm
      · rw [hlive]
        exact h.live.apply e

/-- A fault that one meets, the other meets. -/
theorem Alike.perform_error (h : Alike cs p q) {fault : Fault} (hp : p.perform call = .error fault) :
    q.perform call = .error fault := by
  cases call with
  | shutdown => cases hp
  | event e =>
    obtain ⟨hadmits, hhandle⟩ := process_eq_error_iff.1 hp
    exact process_eq_error_iff.2 ⟨h.filter ▸ hadmits, (h.handle e).trans hhandle⟩

/-- A call that does not matter has no answer and may be left out. -/
theorem Alike.perform_of_not_matters (h : Alike cs p q) (hcall : call.matters cs = false) :
    ∃ p', p.perform call = .ok (p', {}) ∧ Alike cs p' q := by
  cases call with
  | shutdown => cases hcall
  | event e =>
    rw [Call.matters] at hcall
    by_cases hsyn : e.channel.kind = .syn
    · have hadmits : p.filter.admits e = false := by
        rw [if_pos hsyn] at hcall
        rw [Filter.admits, if_pos hsyn, hcall]
      refine ⟨p.updated e, process_of_not_admits hadmits, h.indexed, h.inputs, h.profile, h.filter, ?_⟩
      rw [updated, Live.apply_of_syn p.live hsyn]
      exact h.live
    · have hunused : e.channel ∉ cs := by
        rw [if_neg hsyn] at hcall
        exact of_decide_eq_false hcall
      have hprocess : p.process e = .ok (p.updated e, {}) := by
        cases hadmits : p.filter.admits e with
        | false => exact process_of_not_admits hadmits
        | true =>
          exact process_of_handle hadmits
            (Profile.handle_of_not_mem h.indexed hsyn (h.inputs ▸ hunused) _)
      exact ⟨p.updated e, hprocess, h.indexed, h.inputs, h.profile, h.filter,
        h.live.apply_left hunused⟩

/-- Without the calls that do not matter a session has the same answers to the others. -/
theorem Alike.session (h : Alike cs p q) (calls : List Call) :
    (q.session (calls.filter (·.matters cs))).2 = (p.session calls).2.filter (·.1.matters cs) ∧
      ∀ x ∈ (p.session calls).2, x.1.matters cs = false → x.2 = {} := by
  -- every call that is left out moves the two live tables further apart, so both pipelines vary
  induction calls generalizing p q with
  | nil => exact ⟨rfl, List.forall_mem_nil _⟩
  | cons call calls ih =>
    cases hcall : call.matters cs with
    | false =>
      obtain ⟨p', hp, h'⟩ := h.perform_of_not_matters hcall
      obtain ⟨hanswers, hsilent⟩ := ih h'
      rw [session_cons_of_ok hp, List.filter_cons_of_neg (by simp [hcall]),
        List.filter_cons_of_neg (by simp [hcall])]
      exact ⟨hanswers, List.forall_mem_cons.2 ⟨fun _ => rfl, hsilent⟩⟩
    | true =>
      rw [List.filter_cons_of_pos hcall]
      cases hp : p.perform call with
      | error fault =>
        rw [session_cons_of_error hp, session_cons_of_error (h.perform_error hp)]
        exact ⟨rfl, List.forall_mem_nil _⟩
      | ok result =>
        obtain ⟨p', r⟩ := result
        obtain ⟨q', hq, h'⟩ := h.perform hp
        obtain ⟨hanswers, hsilent⟩ := ih h'
        rw [session_cons_of_ok hp, session_cons_of_ok hq, List.filter_cons_of_pos (by exact hcall),
          hanswers]
        refine ⟨rfl, List.forall_mem_cons.2 ⟨fun hnot => ?_, hsilent⟩⟩
        rw [hcall] at hnot
        cases hnot

end

/-- Taking the calls that do not matter out of a session takes out their answers, which are empty,
and changes no other answer. -/
theorem ignores_unused {kind : ProfileKind} {c : Config} {p : Pipeline}
    (hp : Pipeline.new kind c = .ok p) (calls : List Call) :
    (p.session (calls.filter (·.matters (kind.inputs c)))).2 =
        (p.session calls).2.filter (·.1.matters (kind.inputs c)) ∧
      ∀ x ∈ (p.session calls).2, x.1.matters (kind.inputs c) = false → x.2 = {} := by
  obtain ⟨profile, hprofile, rfl⟩ := exists_of_map_eq_ok hp
  obtain ⟨-, hindexed, -⟩ := Profile.new_rules hprofile
  have halike : Alike (kind.inputs c) { filter := c.filter.getD .passAll, profile }
      { filter := c.filter.getD .passAll, profile } :=
    ⟨hindexed, Profile.new_inputs hprofile, rfl, rfl, fun _ _ => rfl⟩
  exact halike.session calls

/-- A rule with a modifier. A button that the rule does not look at and a synchronisation event that
ends no frame come between the others and leave no trace. -/
theorem ignores_unused_of_rule :
    let south : Channel := .key Code.btnSouth
    let east : Channel := .key Code.btnEast
    let west : Channel := .key Code.btnWest
    let space : Channel := .key Code.keySpace
    let rule : RuleEntry := { source := south, target := space, modifiers := [⟨east, some 1, none⟩] }
    let c : Config := { rules := [rule] }
    let calls : List Call := [.event ⟨west, 1⟩, .event ⟨east, 1⟩, .event ⟨.syn 3, 0⟩,
      .event ⟨south, 1⟩, .event .report, .shutdown]
    let used : List Call := [.event ⟨east, 1⟩, .event ⟨south, 1⟩, .event .report, .shutdown]
    ∃ p, Pipeline.new .custom c = .ok p ∧
      (p.session used).2.map (·.2.events) =
        [[⟨space, 0⟩], [⟨space, 1⟩], [.report], [⟨space, 0⟩, .report]] ∧
      (p.session used).2 = (p.session calls).2.filter (·.1.matters (ProfileKind.custom.inputs c)) ∧
      ∀ x ∈ (p.session calls).2, x.1.matters (ProfileKind.custom.inputs c) = false → x.2 = {} := by
  intro south east west space rule c calls used
  have hnew : Pipeline.new .custom c = .ok _ := rfl
  have hused : calls.filter (·.matters (ProfileKind.custom.inputs c)) = used := rfl
  refine ⟨_, hnew, by decide, ?_⟩
  rw [← hused]
  exact ignores_unused hnew calls

end ControllerRemap.Pipeline
