import ControllerRemap.Proofs.Device.Declared
import ControllerRemap.Proofs.Profile.Session

/-! The device of a pipeline declares what the pipeline sends, also in a call that a fault stops. The
device and the outputs of a profile are those of the idle profile, so no step changes them, and a
profile as it is built declares every output whose type a device can declare. -/

namespace ControllerRemap

/-! ### Devices while profiles run -/

theorem Remapper.mem_targets {r : Remapper} {c : Channel} : c ∈ r.targets ↔ c ∈ r.outputs := by
  rw [targets, outputs, rules, List.mem_eraseDups, List.map_map]
  rfl

theorem Custom.targets_eq (p : Custom) :
    p.targets = p.remapper.targets ++ p.regions.outputs PlacedButton.button := by
  rw [targets, RegionMap.outputs, RegionMap.actions, List.map_map]
  rfl

namespace Profile

theorem spec_idle (p : Profile) : p.idle.spec = p.spec := by
  cases p with
  | gamepad g => rfl
  | desktop d => simp only [idle, spec, Desktop.spec, Remapper.targets_idle]
  | gyroMouse g => simp only [idle, spec, GyroPointer.spec, Remapper.targets_idle]
  | tablet t => rfl
  | custom p =>
    simp only [idle, spec, Custom.spec, Custom.targets_eq, Remapper.targets_idle,
      RegionMap.outputs_release]
    rfl

end Profile

/-! ### Outputs of profiles as they are built -/

/-- Every channel of a list that a device can declare is declared. -/
def DeviceSpec.Covers (s : DeviceSpec) (cs : List Channel) : Prop :=
  ∀ c ∈ cs, c.kind ∈ Kind.declarable → c ∈ s.declared

/-- The gamepad declares a fixed list. Its rules have the same targets for every layout. -/
theorem Gamepad.covers_outputs {c : Config} {g : Gamepad}
    (h : (Profile.gamepad g).outputs = ProfileKind.gamepad.outputs c) :
    g.spec.Covers (Profile.gamepad g).outputs := by
  have hsub : ProfileKind.gamepad.outputs {} ⊆ keys.map .key ++ axes.map fun a => .abs a.code := by
    decide
  intro x hx _
  rw [h] at hx
  rw [spec, DeviceSpec.mem_declared_addAbs_all, DeviceSpec.mem_declared_addKeys, or_assoc]
  exact .inr (List.mem_append.1 (hsub hx))

theorem Desktop.covers_outputs {c : Config} {live : Live} {d : Desktop}
    (h : Desktop.new c live = .ok d) : d.spec.Covers (Profile.desktop d).outputs := by
  obtain ⟨-, -, -, harrows⟩ := Desktop.of_new h
  have hkeys : d.arrows.outputs id = arrowKeys.map .key := by
    rw [harrows]
    rfl
  intro x hx hkind
  rw [spec, DeviceSpec.mem_declared_channels fun _ => rfl, DeviceSpec.mem_declared_addRel,
    DeviceSpec.mem_declared_addKeys, Remapper.mem_targets]
  simp only [Profile.outputs, List.mem_append, hkeys, List.mem_singleton] at hx
  rcases hx with (hx | hx) | hx
  · exact .inr ⟨hx, hkind⟩
  · exact .inl (.inl (.inr hx))
  · exact .inl (.inr hx)

theorem GyroPointer.covers_outputs (g : GyroPointer) :
    g.spec.Covers (Profile.gyroMouse g).outputs := by
  intro x hx hkind
  rw [spec, DeviceSpec.mem_declared_channels fun _ => rfl, DeviceSpec.mem_declared_addRel,
    DeviceSpec.mem_declared_addRel, Remapper.mem_targets]
  simp only [Profile.outputs, List.mem_append, List.mem_cons, List.not_mem_nil, or_false] at hx
  rcases hx with hx | hx | hx
  · exact .inr ⟨hx, hkind⟩
  · exact .inl (.inl (.inr hx))
  · exact .inl (.inr hx)

theorem Tablet.covers_outputs (t : Tablet) : t.spec.Covers (Profile.tablet t).outputs := by
  intro x hx hkind
  rw [spec, DeviceSpec.mem_declared_channels fun _ => rfl]
  exact .inr ⟨hx, hkind⟩

/-- A custom range is one of the axis that it was looked up for. -/
theorem Custom.code_axis (p : Custom) (code : UInt16) : (p.axis code).code = code := by
  rw [axis]
  cases h : p.axes.find? (·.code == code) with
  | none => rfl
  | some axis =>
    have hcode := List.find?_some h
    exact eq_of_beq hcode

theorem Custom.covers_outputs (p : Custom) : p.spec.Covers (Profile.custom p).outputs := by
  intro x hx hkind
  rw [spec, DeviceSpec.mem_declared_channels p.code_axis, targets_eq, List.mem_append,
    Remapper.mem_targets]
  exact .inr ⟨List.mem_append.1 hx, hkind⟩

theorem Profile.covers_outputs {kind : ProfileKind} {c : Config} {live : Live} {p : Profile}
    (h : Profile.new kind c live = .ok p) : p.spec.Covers p.outputs := by
  have houtputs := new_outputs h
  cases built_of_new h with
  | gamepad => exact Gamepad.covers_outputs houtputs
  | desktop hd => exact Desktop.covers_outputs hd
  | gyroMouse => exact GyroPointer.covers_outputs _
  | tablet => exact Tablet.covers_outputs _
  | custom => exact Custom.covers_outputs _

namespace Pipeline

/-- Whatever calls are made, the device stays the same and declares the channel of every key and
axis event that is sent. If a fault ends the session, this includes what the last call sent before
it. -/
theorem declares_sent {kind : ProfileKind} {c : Config} {p : Pipeline}
    (hp : Pipeline.new kind c = .ok p) (calls : List Call) :
    (p.session calls).1.spec = p.spec ∧ (∀ x ∈ (p.session calls).2, ∀ o ∈ x.2.events,
      o.channel.kind ∈ Kind.declarable → p.spec.declares o.channel = true) ∧
    ∀ fault, p.fault? calls = some fault → ∀ o ∈ fault.sent,
      o.channel.kind ∈ Kind.declarable → p.spec.declares o.channel = true := by
  obtain ⟨profile, hprofile, rfl⟩ := exists_of_map_eq_ok hp
  obtain ⟨-, hindexed, -⟩ := Profile.new_rules hprofile
  obtain ⟨hidle, hsent⟩ :=
    session_steps (p := { filter := c.filter.getD .passAll, profile }) hindexed calls
  have hdeclares (c : Channel) (hc : c ∈ profile.outputs) (hkind : c.kind ∈ Kind.declarable) :
      profile.spec.declares c = true :=
    DeviceSpec.declares_iff.2 (Profile.covers_outputs hprofile c hc hkind)
  refine ⟨?_, fun x hx o ho hkind => ?_, fun fault hfault o ho => ?_⟩
  · change Profile.spec _ = Profile.spec _
    rw [← Profile.spec_idle, hidle, Profile.spec_idle]
  · rcases hsent x hx o ho with hmem | hsyn
    · exact hdeclares _ hmem hkind
    · rw [hsyn] at hkind
      exact absurd hkind (by decide)
  · exact hdeclares _ (session_fault hindexed hfault o ho)

/-- A rule sends on the wheel and a region on a key; both are declared before either is sent. A touch
surface whose second axis has no bounds presses the tool and sends the first axis before the fault,
and both of these are declared too. -/
theorem declares_sent_of_rule_and_region :
    let south : Channel := .key Code.btnSouth
    let wheel : Channel := .rel Code.relWheel
    let space : Channel := .key Code.keySpace
    let c : Config := {
      rules := [{ source := south, target := wheel }]
      regions := [{ x := .abs 0, y := .abs 1, shape := .rect none none none none, target := space }] }
    let calls : List Call := [.event ⟨south, 1⟩, .event .report, .shutdown]
    let unbounded : Config := { tablet := { inputRegion := ⟨-1.0, 0.0 / 0.0, 1.0, 0.0 / 0.0⟩ } }
    let touches : List Call := [.event ⟨unbounded.layout.touchRight, 1⟩, .event .report]
    let sent : List Event := [⟨TouchMapper.tool, 1⟩, ⟨.abs Code.absX, -1⟩]
    (∃ p, Pipeline.new .custom c = .ok p ∧
      (p.session calls).2.map (·.2.events) =
        [[⟨wheel, 1⟩], [⟨space, 1⟩, .report], [⟨space, 0⟩, ⟨wheel, 0⟩, .report]] ∧
      (p.session calls).1.spec = p.spec ∧ ∀ x ∈ (p.session calls).2, ∀ o ∈ x.2.events,
        o.channel.kind ∈ Kind.declarable → p.spec.declares o.channel = true) ∧
    ∃ p, Pipeline.new .tablet unbounded = .ok p ∧ p.fault? touches = some { sent } ∧
      ∀ o ∈ sent, o.channel.kind ∈ Kind.declarable → p.spec.declares o.channel = true := by
  intro south wheel space c calls unbounded touches sent
  have hnew : Pipeline.new .custom c = .ok _ := rfl
  obtain ⟨hspec, hsent, -⟩ := declares_sent hnew calls
  have hfault :
      ((Pipeline.new .tablet unbounded).toOption.bind (·.fault? touches)) = some { sent } := by
    decide +kernel
  obtain ⟨p, hp, hfault⟩ := Option.bind_eq_some_iff.1 hfault
  obtain ⟨-, -, hbefore⟩ := declares_sent (eq_ok_of_toOption hp) touches
  exact ⟨⟨_, hnew, by decide, hspec, hsent⟩, p, eq_ok_of_toOption hp, hfault, hbefore _ hfault⟩

end Pipeline

end ControllerRemap
