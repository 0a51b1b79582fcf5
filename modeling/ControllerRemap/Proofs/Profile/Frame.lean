import ControllerRemap.Proofs.Profile.Fault

/-! Output frames. The virtual device hands events on when a report ends their frame. A report
that comes in and a shutdown send exactly one report, after everything else, and no other call
sends synchronisation; so output frames are input frames. The absolute pointer is the exception:
each of its answers is a frame of its own or sends nothing. A rule or region of the custom profile
could send synchronisation itself, so its targets have to be of other types. -/

namespace ControllerRemap

/-- No rule or region of the custom profile sends synchronisation. -/
structure Config.LeavesSyn (c : Config) : Prop where
  rules : ∀ r ∈ c.rules, r.target.kind ≠ .syn
  regions : ∀ r ∈ c.regions, r.target.kind ≠ .syn

theorem ProfileKind.kind_of_mem_outputs {kind : ProfileKind} {c : Config}
    (h : kind = .custom → c.LeavesSyn) : ∀ ch ∈ kind.outputs c, ch.kind ≠ .syn := by
  cases kind with
  | custom =>
    obtain ⟨hrules, hregions⟩ := h rfl
    simp only [outputs, List.forall_mem_append, List.forall_mem_map]
    exact ⟨hrules, hregions⟩
  | gamepad => exact show ∀ ch ∈ gamepad.outputs {}, ch.kind ≠ .syn by decide
  | desktop => exact show ∀ ch ∈ desktop.outputs {}, ch.kind ≠ .syn by decide
  | gyroMouse => exact show ∀ ch ∈ gyroMouse.outputs {}, ch.kind ≠ .syn by decide
  | tablet => exact show ∀ ch ∈ tablet.outputs {}, ch.kind ≠ .syn by decide

namespace Pipeline

/-- Whatever the filter and the calls, all profiles but the absolute pointer answer every call.
A report and a shutdown are answered by events that are no synchronisation and one report after
them, and other calls by events that are no synchronisation. An answer of the absolute pointer is
empty or ends with its only report. -/
theorem answers_framed {kind : ProfileKind} {c : Config} {p : Pipeline}
    (hp : Pipeline.new kind c = .ok p) (htargets : kind = .custom → c.LeavesSyn)
    (calls : List Call) :
    (kind ≠ .tablet → (p.session calls).2.map (·.1) = calls) ∧
      ∀ x ∈ (p.session calls).2, Event.Framed (·.kind ≠ .syn)
        (kind.endsFrame x.1.reports x.2.events) x.2.events := by
  obtain ⟨profile, hprofile, rfl⟩ := exists_of_map_eq_ok hp
  obtain ⟨hkind, hindexed, -⟩ := Profile.new_rules hprofile
  constructor
  · intro htablet
    refine (session_answers_iff hindexed calls).2 fun ch hhazard => ?_
    exact absurd ((Profile.new_hazard hprofile ch).1 hhazard).1 htablet
  · intro x hx
    have hframed := (session_framed hindexed calls).2 x hx
    simp only [hkind, Profile.new_outputs hprofile] at hframed
    exact hframed.mono (ProfileKind.kind_of_mem_outputs htargets)

/-- A filter that withholds synchronisation withholds no report. A rule sends on the wheel and a
region on a key, and the kernel reports lost events in between. -/
theorem answers_framed_of_hidden_reports :
    let south : Channel := .key Code.btnSouth
    let wheel : Channel := .rel Code.relWheel
    let space : Channel := .key Code.keySpace
    let c : Config := {
      filter := some { rules := [.kind .syn], inverted := true }
      rules := [{ source := south, target := wheel }]
      regions := [{ x := .abs 0, y := .abs 1, shape := .rect none none none none, target := space }] }
    let calls : List Call :=
      [.event ⟨south, 1⟩, .event .report, .event ⟨.syn 3, 0⟩, .event ⟨.syn 0, 7⟩, .shutdown]
    ∃ p, Pipeline.new .custom c = .ok p ∧ c.LeavesSyn ∧
      (p.session calls).2.map (·.2.events) = [[⟨wheel, 1⟩], [⟨space, 1⟩, .report], [], [.report],
        [⟨space, 0⟩, ⟨wheel, 0⟩, .report]] ∧
      (p.session calls).2.map (·.1) = calls ∧
      ∀ x ∈ (p.session calls).2, Event.Framed (·.kind ≠ .syn)
        (ProfileKind.custom.endsFrame x.1.reports x.2.events) x.2.events := by
  intro south wheel space c calls
  have hnew : Pipeline.new .custom c = .ok _ := rfl
  have hleaves : c.LeavesSyn := ⟨by decide, by simp [c, space, Channel.key, Kind.key, Kind.syn]⟩
  obtain ⟨hanswers, hframed⟩ := answers_framed hnew (fun _ => hleaves) calls
  exact ⟨_, hnew, hleaves, by decide, hanswers (by decide), hframed⟩

end Pipeline

end ControllerRemap
