import ControllerRemap.Proofs.Profile.Run
import ControllerRemap.Proofs.Profile.Step

/-! Sessions of a pipeline. The event loop hands over input events and shuts the pipeline down,
in any order. A session is the record of such calls with their answers, one by one. The first
fault ends it: the call that meets the fault has no answer but the events that the fault carries, and
later calls are not made. -/

namespace ControllerRemap.Pipeline

/-- What the event loop asks of a pipeline. -/
inductive Call where
  | event (e : Event)
  | shutdown

def perform (p : Pipeline) : Call → Except Fault (Pipeline × Response)
  | .event e => p.process e
  | .shutdown => .ok p.shutdown

theorem perform_shutdown (p : Pipeline) :
    p.perform .shutdown = .ok ({ p with profile := p.profile.release.1 }, p.profile.release.2) := rfl

/-- The pipeline after a list of calls, and the answered calls with their answers. -/
def session (p : Pipeline) : List Call → Pipeline × List (Call × Response)
  | [] => (p, [])
  | call :: calls =>
    match p.perform call with
    | .ok (q, r) => ((q.session calls).1, (call, r) :: (q.session calls).2)
    | .error _ => (p, [])

variable {p q : Pipeline} {call : Call}

theorem session_cons_of_ok {r : Response} (h : p.perform call = .ok (q, r)) (calls : List Call) :
    p.session (call :: calls) = ((q.session calls).1, (call, r) :: (q.session calls).2) := by
  rw [session, h]

theorem session_cons_of_error {fault : Fault} (h : p.perform call = .error fault)
    (calls : List Call) : p.session (call :: calls) = (p, []) := by
  rw [session, h]

/-- The fault that ends a session, if one does. -/
def fault? (p : Pipeline) : List Call → Option Fault
  | [] => none
  | call :: calls =>
    match p.perform call with
    | .ok (q, _) => q.fault? calls
    | .error fault => some fault

theorem fault?_eq_none_iff (calls : List Call) :
    p.fault? calls = none ↔ (p.session calls).2.map (·.1) = calls := by
  induction calls generalizing p with
  | nil => exact iff_of_true rfl rfl
  | cons call calls ih =>
    rw [fault?, session]
    cases p.perform call with
    | error fault => exact iff_of_false (Option.some_ne_none _) (List.cons_ne_nil _ _).symm
    | ok result => rw [List.map_cons, List.cons_inj_right, ih]

/-- Whether a call ends a frame of the profiles that end theirs by reports. -/
def Call.reports : Call → Bool
  | .event e => e.isReport
  | .shutdown => true

/-- A call that is answered makes a step of the profile. -/
theorem perform_framedStep {r : Response} (hindexed : p.profile.Indexed)
    (h : p.perform call = .ok (q, r)) :
    p.profile.FramedStep q.profile (p.profile.kind.endsFrame call.reports r.events) r := by
  cases call with
  | event e =>
    obtain ⟨-, -, ⟨-, hhandle⟩ | ⟨hadmits, hprofile, rfl⟩⟩ := process_eq_ok h
    · exact Profile.handle_step e _ hindexed hhandle
    · rw [hprofile, Call.reports, Filter.isReport_of_not_admits hadmits]
      exact .refl _ (by cases p.profile.kind <;> decide)
  | shutdown =>
    cases h
    exact p.profile.release_step

theorem perform_step {r : Response} (hindexed : p.profile.Indexed)
    (h : p.perform call = .ok (q, r)) : p.profile.Step q.profile r :=
  (perform_framedStep hindexed h).step

theorem channel_of_fault {fault : Fault} (h : p.perform call = .error fault) :
    ∀ o ∈ fault.sent, o.channel ∈ p.profile.outputs := by
  cases call with
  | event e => exact Profile.channel_of_fault (process_eq_error_iff.1 h).2
  | shutdown => cases h

/-- What every answered call keeps holds after a session, and what it guarantees of its answer
holds of all answers. -/
theorem session_invariant {Inv : Pipeline → Prop} {Good : Call → Response → Prop}
    (step : ∀ q call q' r, Inv q → q.perform call = .ok (q', r) → Inv q' ∧ Good call r)
    (h : Inv p) (calls : List Call) :
    Inv (p.session calls).1 ∧ ∀ x ∈ (p.session calls).2, Good x.1 x.2 := by
  induction calls generalizing p with
  | nil => exact ⟨h, List.forall_mem_nil _⟩
  | cons call calls ih =>
    cases hcall : p.perform call with
    | error fault =>
      rw [session_cons_of_error hcall]
      exact ⟨h, List.forall_mem_nil _⟩
    | ok result =>
      obtain ⟨hinv, hgood⟩ := step p call result.1 result.2 h hcall
      obtain ⟨hlast, hrest⟩ := ih hinv
      rw [session_cons_of_ok hcall]
      exact ⟨hlast, List.forall_mem_cons.2 ⟨hgood, hrest⟩⟩

theorem session_concat {calls : List Call} {r : Response}
    (hall : (p.session calls).2.map (·.1) = calls)
    (hcall : (p.session calls).1.perform call = .ok (q, r)) :
    p.session (calls ++ [call]) = (q, (p.session calls).2 ++ [(call, r)]) := by
  induction calls generalizing p with
  | nil => exact session_cons_of_ok hcall []
  | cons first calls ih =>
    cases hfirst : p.perform first with
    | error fault =>
      rw [session_cons_of_error hfirst] at hall
      cases hall
    | ok result =>
      rw [session_cons_of_ok hfirst] at hall hcall
      rw [List.cons_append, session_cons_of_ok hfirst, session_cons_of_ok hfirst,
        ih (List.cons_inj_right _ |>.1 hall) hcall, List.cons_append]

/-- An invariant of the calls so far and the pipeline holds after a session if every call is
answered and keeps it. -/
theorem session_history {Inv : List Call → Pipeline → Prop} (start : Inv [] p)
    (step : ∀ calls q call, Inv calls q →
      ∃ q' r, q.perform call = .ok (q', r) ∧ Inv (calls ++ [call]) q') (calls : List Call) :
    (p.session calls).2.map (·.1) = calls ∧ Inv calls (p.session calls).1 := by
  induction calls using List.reverseRecOn with
  | nil => exact ⟨rfl, start⟩
  | append_singleton calls call ih =>
    obtain ⟨hall, hinv⟩ := ih
    obtain ⟨q, r, hcall, hinv'⟩ := step calls _ call hinv
    rw [session_concat hall hcall, List.map_append, hall]
    exact ⟨rfl, hinv'⟩

/-- A session changes nothing but the state of the profile. Every answer sends on its outputs, and
ends a frame or does not. -/
theorem session_framed (hindexed : p.profile.Indexed) (calls : List Call) :
    (p.session calls).1.profile.idle = p.profile.idle ∧
      ∀ x ∈ (p.session calls).2, Event.Framed (· ∈ p.profile.outputs)
        (p.profile.kind.endsFrame x.1.reports x.2.events) x.2.events := by
  have hstep (q : Pipeline) (call : Call) (q' : Pipeline) (r : Response)
      (hidle : q.profile.idle = p.profile.idle) (hcall : q.perform call = .ok (q', r)) :
      q'.profile.idle = p.profile.idle ∧ Event.Framed (· ∈ p.profile.outputs)
        (p.profile.kind.endsFrame call.reports r.events) r.events := by
    have h := perform_framedStep ((Profile.indexed_congr hidle).2 hindexed) hcall
    rw [← Profile.outputs_congr hidle, ← Profile.kind_congr hidle]
    exact ⟨h.idle.trans hidle, h.framed⟩
  exact session_invariant hstep rfl calls

theorem session_steps (hindexed : p.profile.Indexed) (calls : List Call) :
    (p.session calls).1.profile.idle = p.profile.idle ∧
      ∀ x ∈ (p.session calls).2, Profile.SentOn p.profile.outputs x.2.events := by
  obtain ⟨hidle, hframed⟩ := session_framed hindexed calls
  exact ⟨hidle, fun x hx => .of_framed (hframed x hx)⟩

/-- The call that a fault stops has sent on the outputs of the profile, like those before it. -/
theorem session_fault (hindexed : p.profile.Indexed) {calls : List Call} {fault : Fault}
    (h : p.fault? calls = some fault) : ∀ o ∈ fault.sent, o.channel ∈ p.profile.outputs := by
  induction calls generalizing p with
  | nil => cases h
  | cons call calls ih =>
    rw [fault?] at h
    cases hcall : p.perform call with
    | error f =>
      rw [hcall] at h
      cases h
      exact channel_of_fault hcall
    | ok result =>
      obtain ⟨q, r⟩ := result
      rw [hcall] at h
      have hidle := (perform_step hindexed hcall).idle
      rw [← Profile.outputs_congr hidle]
      exact ih ((Profile.indexed_congr hidle).2 hindexed) h

end ControllerRemap.Pipeline
