import ControllerRemap.Profile.Pipeline
import ControllerRemap.Proofs.Event.History
import ControllerRemap.Proofs.Remap.Gate
import Mathlib.Data.List.Induction

/-! Runs of a pipeline. An event updates the live table in any case and reaches the
profile if the filter admits it; a run joins the answers of its events. A property that
the first pipeline has and every event keeps holds after every run, and if no event meets
a fault under that property, no run does. -/

namespace ControllerRemap

/-- Whether an event reaches the profile: a report does and other synchronisation does
not, whatever the rules of the filter say. -/
def Filter.admits (f : Filter) (e : Event) : Bool :=
  if e.channel.kind = .syn then e.isReport else f.passes e

/-- A report is never withheld. -/
theorem Filter.isReport_of_not_admits {f : Filter} {e : Event} (h : f.admits e = false) :
    e.isReport = false := by
  refine Bool.eq_false_iff.2 fun hreport => ?_
  rw [admits, if_pos (Event.kind_of_isReport hreport), hreport] at h
  cases h

namespace Response

@[simp] theorem append_empty (r : Response) : r ++ ({} : Response) = r := by
  change Response.mk (r.events ++ []) (r.pulses ++ []) = r
  rw [List.append_nil, List.append_nil]

@[simp] theorem empty_append (r : Response) : ({} : Response) ++ r = r := rfl

theorem append_assoc (r s t : Response) : r ++ s ++ t = r ++ (s ++ t) := by
  change Response.mk (r.events ++ s.events ++ t.events) (r.pulses ++ s.pulses ++ t.pulses) =
    Response.mk (r.events ++ (s.events ++ t.events)) (r.pulses ++ (s.pulses ++ t.pulses))
  rw [List.append_assoc, List.append_assoc]

end Response

namespace Pipeline

/-- The pipeline after an event has updated its live table. -/
def updated (p : Pipeline) (e : Event) : Pipeline := { p with live := p.live.apply e }

theorem process_of_admits {p : Pipeline} {e : Event} (h : p.filter.admits e = true) :
    p.process e = (p.updated e).answer e := by
  by_cases hs : e.channel.kind = .syn
  · rw [Filter.admits, if_pos hs] at h
    rw [process, if_pos hs, if_pos h, updated, Live.apply_of_syn p.live hs]
  · rw [Filter.admits, if_neg hs] at h
    rw [process, if_neg hs]
    exact if_pos h

/-- An event that is not admitted has no answer. -/
theorem process_of_not_admits {p : Pipeline} {e : Event} (h : p.filter.admits e = false) :
    p.process e = .ok (p.updated e, {}) := by
  by_cases hs : e.channel.kind = .syn
  · rw [Filter.admits, if_pos hs] at h
    rw [process, if_pos hs, h, updated, Live.apply_of_syn p.live hs]
    rfl
  · rw [Filter.admits, if_neg hs] at h
    rw [process, if_neg hs]
    exact if_neg (by simpa using h)

theorem answer_of_handle {p : Pipeline} {e : Event} {profile : Profile} {r : Response}
    (h : p.profile.handle e p.live = .ok (profile, r)) :
    p.answer e = .ok ({ p with profile }, r) := by
  rw [answer, h]
  rfl

theorem process_of_handle {p : Pipeline} {e : Event} {profile : Profile} {r : Response}
    (hadmits : p.filter.admits e = true)
    (h : p.profile.handle e (p.live.apply e) = .ok (profile, r)) :
    p.process e = .ok ({ p.updated e with profile }, r) := by
  rw [process_of_admits hadmits]
  exact answer_of_handle h

/-- An event that is processed updates the live table, and reaches the profile if it is
admitted. -/
theorem process_eq_ok {q q' : Pipeline} {e : Event} {r : Response}
    (h : q.process e = .ok (q', r)) : q'.live = q.live.apply e ∧ q'.filter = q.filter ∧
      (q.filter.admits e = true ∧ q.profile.handle e (q.live.apply e) = .ok (q'.profile, r) ∨
        q.filter.admits e = false ∧ q'.profile = q.profile ∧ r = {}) := by
  cases hadmits : q.filter.admits e with
  | false =>
    rw [process_of_not_admits hadmits] at h
    cases h
    exact ⟨rfl, rfl, .inr ⟨rfl, rfl, rfl⟩⟩
  | true =>
    rw [process_of_admits hadmits, answer] at h
    cases hp : (q.updated e).profile.handle e (q.updated e).live with
    | error fault => rw [hp] at h; cases h
    | ok result =>
      rw [hp] at h
      cases h
      exact ⟨rfl, rfl, .inl ⟨rfl, hp⟩⟩

/-- Only the profile meets faults. -/
theorem process_eq_error_iff {q : Pipeline} {e : Event} {fault : Fault} :
    q.process e = .error fault ↔
      q.filter.admits e = true ∧ q.profile.handle e (q.live.apply e) = .error fault := by
  cases hadmits : q.filter.admits e with
  | false => simp [process_of_not_admits hadmits]
  | true =>
    rw [process_of_admits hadmits, answer, updated]
    cases q.profile.handle e (q.live.apply e) with
    | error f => simp [bind, Except.bind]
    | ok result => simp [bind, Except.bind, pure, Except.pure]

/-- Processes events in order and joins the answers; a fault ends the run, and carries the events that
were sent before it. -/
def run (p : Pipeline) : List Event → Except Fault (Pipeline × Response)
  | [] => .ok (p, {})
  | e :: es => do
    let (q, r) ← p.process e
    let (q', s) ← (q.run es).mapError (·.after r.events)
    return (q', r ++ s)

theorem run_cons_eq_ok {p q : Pipeline} {e : Event} {es : List Event} {out : Response} :
    p.run (e :: es) = .ok (q, out) ↔
      ∃ p' r s, p.process e = .ok (p', r) ∧ p'.run es = .ok (q, s) ∧ out = r ++ s := by
  rw [run]
  constructor
  · intro h
    cases hp : p.process e with
    | error fault => rw [hp] at h; cases h
    | ok first =>
      cases hr : first.1.run es with
      | error fault => simp only [bind, Except.bind, hp, hr] at h; cases h
      | ok rest =>
        simp only [bind, Except.bind, hp, hr, pure, Except.pure] at h
        cases h
        exact ⟨first.1, first.2, rest.2, rfl, hr, rfl⟩
  · rintro ⟨p', r, s, hp, hr, rfl⟩
    simp only [bind, Except.bind, hp, hr, pure, Except.pure]
    rfl

theorem run_concat {p q q' : Pipeline} {es : List Event} {e : Event} {out r : Response}
    (hes : p.run es = .ok (q, out)) (he : q.process e = .ok (q', r)) :
    p.run (es ++ [e]) = .ok (q', out ++ r) := by
  induction es generalizing p out with
  | nil =>
    cases hes
    exact run_cons_eq_ok.2 ⟨q', r, {}, he, rfl, by simp⟩
  | cons d es ih =>
    obtain ⟨p', r', s, hp, hs, rfl⟩ := run_cons_eq_ok.1 hes
    exact run_cons_eq_ok.2 ⟨p', r', s ++ r, hp, ih hs, Response.append_assoc r' s r⟩

/-- The pipelines of a run: the first one, and the one after each event. -/
def trail (p : Pipeline) : List Event → List Pipeline
  | [] => [p]
  | e :: es => p :: match p.process e with
    | .ok (q, _) => q.trail es
    | .error _ => []

theorem head?_trail (p : Pipeline) (es : List Event) : (p.trail es).head? = some p := by
  cases es <;> rfl

theorem trail_concat {p q q' : Pipeline} {es : List Event} {e : Event} {out r : Response}
    (hes : p.run es = .ok (q, out)) (he : q.process e = .ok (q', r)) :
    p.trail (es ++ [e]) = p.trail es ++ [q'] := by
  induction es generalizing p out with
  | nil =>
    cases hes
    simp [trail, he]
  | cons d es ih =>
    obtain ⟨p', r', s, hp, hs, rfl⟩ := run_cons_eq_ok.1 hes
    simp [trail, hp, ih hs]

/-- The trail of a run ends in the pipeline that the run ends in. -/
theorem exists_trail_eq {p q : Pipeline} {es : List Event} {out : Response}
    (hes : p.run es = .ok (q, out)) : ∃ past, p.trail es = past ++ [q] := by
  induction es generalizing p out with
  | nil =>
    cases hes
    exact ⟨[], rfl⟩
  | cons d es ih =>
    obtain ⟨p', r', s, hp, hs, rfl⟩ := run_cons_eq_ok.1 hes
    obtain ⟨past, hpast⟩ := ih hs
    exact ⟨p :: past, by simp [trail, hp, hpast]⟩

/-- An invariant of the events so far, the pipeline and the answers so far holds after a
run if every event is processed without a fault and keeps it. -/
theorem run_invariant {Inv : List Event → Pipeline → Response → Prop} {p : Pipeline}
    (start : Inv [] p {}) (es : List Event)
    (step : ∀ pre e post q out, es = pre ++ e :: post → p.run pre = .ok (q, out) →
      Inv pre q out → ∃ q' r, q.process e = .ok (q', r) ∧ Inv (pre ++ [e]) q' (out ++ r)) :
    ∃ q out, p.run es = .ok (q, out) ∧ Inv es q out := by
  induction es using List.reverseRecOn with
  | nil => exact ⟨p, {}, rfl, start⟩
  | append_singleton es e ih =>
    obtain ⟨q, out, hq, hi⟩ := ih fun pre d post q out hpre =>
      step pre d (post ++ [e]) q out (by rw [hpre, List.append_assoc, List.cons_append])
    obtain ⟨q', r, hr, hi'⟩ := step es e [] q out rfl hq hi
    exact ⟨q', out ++ r, run_concat hq hr, hi'⟩

/-- What the first pipeline has and every event that is processed keeps holds after a run that
meets no fault. -/
theorem run_preserves {Inv : Pipeline → Response → Prop}
    (step : ∀ q out e q' r, Inv q out → q.process e = .ok (q', r) → Inv q' (out ++ r))
    {p q : Pipeline} {es : List Event} {start out : Response} (h : Inv p start)
    (hrun : p.run es = .ok (q, out)) : Inv q (start ++ out) := by
  induction es generalizing p start out with
  | nil =>
    cases hrun
    rwa [Response.append_empty]
  | cons e es ih =>
    obtain ⟨p', r, s, hp, hs, rfl⟩ := run_cons_eq_ok.1 hrun
    rw [← Response.append_assoc]
    exact ih (step p start e p' r h hp) hs

end Pipeline

end ControllerRemap
