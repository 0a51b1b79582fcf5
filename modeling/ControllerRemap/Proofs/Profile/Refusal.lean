import ControllerRemap.Proofs.Profile.Build

/-! Which configurations build a pipeline. The gamepad, the desktop and the absolute pointer are
built from every configuration. Pointing by orientation needs all four channels of the orientation
and names the first that is missing. The custom profile needs valid rules and names the first
invalid one, with its zero divisor if it has one and else its earliest repeated modifier. -/

namespace ControllerRemap

/-! ### Rules -/

/-- A formula that does not divide by zero. -/
def Formula.IsDefined : Formula → Prop
  | .linear _ div _ => div ≠ 0
  | _ => True

namespace RuleEntry

/-- No zero divisor, and no channel with two modifiers. -/
structure IsValid (r : RuleEntry) : Prop where
  defined : r.transform.IsDefined
  distinct : (r.modifiers.map (·.source)).Nodup

/-- What is wrong with an invalid rule. The divisor comes first, and of several repeated modifiers
the earliest counts. -/
inductive Fails (r : RuleEntry) : RuleError → Prop where
  | zeroDivisor (undefined : ¬r.transform.IsDefined) : Fails r .zeroDivisor
  | duplicateModifier {before after : List Modifier} {m : Modifier}
    (defined : r.transform.IsDefined) (split : r.modifiers = before ++ m :: after)
    (distinct : (before.map (·.source)).Nodup) (repeated : m.source ∈ before.map (·.source)) :
    Fails r (.duplicateModifier m.source)

theorem dividesByZero_rule {r : RuleEntry} :
    r.rule.dividesByZero = false ↔ r.transform.IsDefined := by
  rw [Rule.dividesByZero, rule]
  cases r.transform <;> simp [Formula.IsDefined]

theorem validate_eq_ok_iff {r : RuleEntry} : r.rule.validate = .ok () ↔ r.IsValid := by
  rw [Rule.validate_eq_ok_iff, dividesByZero_rule]
  exact ⟨fun h => ⟨h.1, h.2⟩, fun h => ⟨h.defined, h.distinct⟩⟩

/-- The earliest repeated channel is that of the earliest repeated modifier. -/
theorem firstRepeat_sources_eq_some_iff {ms : List Modifier} {c : Channel} :
    firstRepeat [] (ms.map (·.source)) = some c ↔ ∃ before m after, ms = before ++ m :: after ∧
      (before.map (·.source)).Nodup ∧ m.source ∈ before.map (·.source) ∧ m.source = c := by
  rw [firstRepeat_eq_some_iff]
  constructor
  · rintro ⟨sources, rest, hsplit, hdistinct, -, hrepeated⟩
    obtain ⟨before, tail, rfl, rfl, htail⟩ := List.map_eq_append_iff.1 hsplit
    obtain ⟨m, after, rfl, rfl, -⟩ := List.map_eq_cons_iff.1 htail
    exact ⟨before, m, after, rfl, hdistinct, hrepeated.resolve_right List.not_mem_nil, rfl⟩
  · rintro ⟨before, m, after, rfl, hdistinct, hrepeated, rfl⟩
    exact ⟨before.map (·.source), after.map (·.source), by rw [List.map_append, List.map_cons],
      hdistinct, fun _ _ => List.not_mem_nil, .inl hrepeated⟩

theorem validate_eq_error_iff {r : RuleEntry} {error : RuleError} :
    r.rule.validate = .error error ↔ r.Fails error := by
  have hundefined : r.rule.dividesByZero = true ↔ ¬r.transform.IsDefined := by
    rw [← dividesByZero_rule, Bool.not_eq_false]
  rw [Rule.validate_eq_error_iff, dividesByZero_rule, hundefined]
  constructor
  · rintro (⟨h, rfl⟩ | ⟨hdefined, c, hc, rfl⟩)
    · exact .zeroDivisor h
    · obtain ⟨before, m, after, hsplit, hdistinct, hrepeated, rfl⟩ :=
        firstRepeat_sources_eq_some_iff.1 hc
      exact .duplicateModifier hdefined hsplit hdistinct hrepeated
  · rintro (h | ⟨hdefined, hsplit, hdistinct, hrepeated⟩)
    · exact .inl ⟨h, rfl⟩
    · exact .inr ⟨hdefined, _, firstRepeat_sources_eq_some_iff.2
        ⟨_, _, _, hsplit, hdistinct, hrepeated, rfl⟩, rfl⟩

end RuleEntry

/-! ### Settings -/

/-- The settings that an orientation needs, by their names. -/
def GyroSettings.components (g : GyroSettings) : List (String × Option Channel) :=
  [("gyro.qw", g.qw), ("gyro.qx", g.qx), ("gyro.qy", g.qy), ("gyro.qz", g.qz)]

theorem GyroSettings.orientation_eq_error_iff {g : GyroSettings} {setting : String} :
    g.orientation = .error setting ↔ g.components.find? (·.2.isNone) = some (setting, none) := by
  rw [orientation, components]
  cases g.qw <;> cases g.qx <;> cases g.qy <;> cases g.qz <;> simp [List.find?]

theorem GyroSettings.exists_orientation_iff {g : GyroSettings} :
    (∃ orientation, g.orientation = .ok orientation) ↔ ∀ x ∈ g.components, x.2.isSome = true := by
  rw [orientation, components]
  cases g.qw <;> cases g.qx <;> cases g.qy <;> cases g.qz <;> simp

/-! ### Rule tables -/

namespace Remapper

variable {live : Live} {rules : List Rule} {n : Nat} {r : Remapper}

theorem exists_addAll_iff :
    (∃ r', addAll live n rules r = .ok r') ↔ ∀ rule ∈ rules, rule.validate = .ok () := by
  refine ⟨fun h => ?_, fun h => exists_addAll h n r⟩
  induction rules generalizing n r with
  | nil => exact List.forall_mem_nil _
  | cons rule rules ih =>
    rw [addAll] at h
    cases hv : rule.validate with
    | error error => simp [add_of_invalid r hv] at h
    | ok u =>
      rw [add_of_valid r hv] at h
      exact List.forall_mem_cons.2 ⟨hv, ih h⟩

/-- The first invalid rule is the error. -/
theorem addAll_eq_error_iff {error : ProfileError} : addAll live n rules r = .error error ↔
    ∃ before rule after cause, rules = before ++ rule :: after ∧
      (∀ b ∈ before, b.validate = .ok ()) ∧ rule.validate = .error cause ∧
      error = .rule (n + before.length) cause := by
  induction rules generalizing n r with
  | nil => simp [addAll]
  | cons rule rules ih =>
    rw [addAll]
    cases hv : rule.validate with
    | error cause =>
      rw [add_of_invalid r hv]
      constructor
      · intro h
        cases h
        exact ⟨[], rule, rules, cause, rfl, List.forall_mem_nil _, hv, rfl⟩
      · rintro ⟨before, first, after, cause', hsplit, hbefore, hfirst, rfl⟩
        cases before with
        | nil =>
          cases hsplit
          rw [hv] at hfirst
          cases hfirst
          rfl
        | cons b before =>
          cases hsplit
          rw [hbefore rule List.mem_cons_self] at hv
          cases hv
    | ok u =>
      rw [add_of_valid r hv]
      change addAll live (n + 1) rules (r.extend rule live) = _ ↔ _
      rw [ih]
      constructor
      · rintro ⟨before, first, after, cause, rfl, hbefore, hfirst, rfl⟩
        refine ⟨rule :: before, first, after, cause, rfl, List.forall_mem_cons.2 ⟨hv, hbefore⟩,
          hfirst, ?_⟩
        rw [List.length_cons, Nat.add_assoc, Nat.add_comm 1]
      · rintro ⟨before, first, after, cause, hsplit, hbefore, hfirst, rfl⟩
        cases before with
        | nil =>
          cases hsplit
          rw [hv] at hfirst
          cases hfirst
        | cons b before =>
          cases hsplit
          refine ⟨before, first, after, cause, rfl, (List.forall_mem_cons.1 hbefore).2, hfirst, ?_⟩
          rw [List.length_cons, Nat.add_assoc, Nat.add_comm 1]

end Remapper

/-! ### Profiles -/

/-- What a kind of profile asks of a configuration. -/
def Config.Suits (c : Config) : ProfileKind → Prop
  | .gamepad => True
  | .desktop => True
  | .gyroMouse => ∀ x ∈ c.gyro.components, x.2.isSome = true
  | .tablet => True
  | .custom => ∀ r ∈ c.rules, r.IsValid

/-- Why a configuration builds no profile of a kind. -/
inductive Config.Refuses (c : Config) : ProfileKind → ProfileError → Prop where
  | missing {setting : String}
    (first : c.gyro.components.find? (·.2.isNone) = some (setting, none)) :
    Refuses c .gyroMouse (.missing .gyroMouse setting)
  | rule {before after : List RuleEntry} {r : RuleEntry} {error : RuleError}
    (split : c.rules = before ++ r :: after) (valid : ∀ b ∈ before, b.IsValid)
    (fails : r.Fails error) : Refuses c .custom (.rule before.length error)

theorem exists_map_eq_ok_iff {ε α β : Type} {x : Except ε α} {f : α → β} :
    (∃ b, x.map f = .ok b) ↔ ∃ a, x = .ok a := by
  cases x <;> simp [Except.map]

variable {c : Config} {live : Live} {error : ProfileError}

/-- The rules of the desktop are valid whatever its layout. -/
theorem Desktop.validate_rules (l : Layout) : ∀ rule ∈ rules l, rule.validate = .ok () := by
  simp [Rule.validate_eq_ok_iff, rules, Rule.plain, Rule.dividesByZero]

/-- A desktop can be built from every configuration. -/
theorem Desktop.exists_new (c : Config) (live : Live) : ∃ d, Desktop.new c live = .ok d := by
  obtain ⟨r, hr⟩ : ∃ r, Remapper.addAll live 0 (rules c.layout) {} = .ok r :=
    Remapper.exists_addAll (validate_rules c.layout) 0 {}
  rw [Desktop.new, Remapper.ofRules, hr]
  exact ⟨_, rfl⟩

namespace GyroPointer

theorem validate_rules (l : Layout) : ∀ rule ∈ rules l, rule.validate = .ok () := by
  simp [Rule.validate_eq_ok_iff, rules, Rule.plain, Rule.dividesByZero]

/-- Only the orientation can be missing. -/
theorem new_eq_ok_or_missing (c : Config) (live : Live) :
    (∃ g orientation, GyroPointer.new c live = .ok g ∧ c.gyro.orientation = .ok orientation) ∨
      ∃ setting, GyroPointer.new c live = .error (.missing .gyroMouse setting) ∧
        c.gyro.orientation = .error setting := by
  obtain ⟨r, hr⟩ : ∃ r, Remapper.addAll live 0 (rules c.layout) {} = .ok r :=
    Remapper.exists_addAll (validate_rules c.layout) 0 {}
  rw [GyroPointer.new, Remapper.ofRules, hr]
  cases c.gyro.orientation with
  | ok orientation => exact .inl ⟨_, orientation, rfl, rfl⟩
  | error setting => exact .inr ⟨setting, rfl, rfl⟩

end GyroPointer

theorem Custom.exists_new_iff : (∃ p, Custom.new c live = .ok p) ↔ c.Suits .custom := by
  have hnew : (∃ p, Custom.new c live = .ok p) ↔
      ∃ r, Remapper.ofRules (c.rules.map (·.rule)) live = .ok r := exists_map_eq_ok_iff
  rw [hnew, Remapper.ofRules, Remapper.exists_addAll_iff, List.forall_mem_map]
  simp only [RuleEntry.validate_eq_ok_iff, Config.Suits]

theorem Custom.new_eq_error_iff : Custom.new c live = .error error ↔ c.Refuses .custom error := by
  have hnew : Custom.new c live = .error error ↔
      Remapper.ofRules (c.rules.map (·.rule)) live = .error error := map_eq_error_iff
  rw [hnew, Remapper.ofRules, Remapper.addAll_eq_error_iff]
  constructor
  · rintro ⟨pre, rule, rest, cause, hsplit, hvalid, hfails, rfl⟩
    obtain ⟨before, tail, hrules, rfl, htail⟩ := List.map_eq_append_iff.1 hsplit
    obtain ⟨r, after, rfl, rfl, rfl⟩ := List.map_eq_cons_iff.1 htail
    rw [List.forall_mem_map] at hvalid
    rw [List.length_map, Nat.zero_add]
    exact .rule hrules (fun b hb => RuleEntry.validate_eq_ok_iff.1 (hvalid b hb))
      (RuleEntry.validate_eq_error_iff.1 hfails)
  · intro h
    cases h with
    | @rule before after r cause hsplit hvalid hfails =>
      refine ⟨before.map (·.rule), r.rule, after.map (·.rule), cause, ?_,
        List.forall_mem_map.2 fun b hb => RuleEntry.validate_eq_ok_iff.2 (hvalid b hb),
        RuleEntry.validate_eq_error_iff.2 hfails, ?_⟩
      · rw [hsplit, List.map_append, List.map_cons]
      · rw [List.length_map, Nat.zero_add]

theorem GyroPointer.exists_new_iff : (∃ g, GyroPointer.new c live = .ok g) ↔ c.Suits .gyroMouse := by
  rw [Config.Suits, ← GyroSettings.exists_orientation_iff]
  rcases new_eq_ok_or_missing c live with ⟨g, orientation, hg, horientation⟩ | ⟨setting, hg, hmissing⟩
  · exact iff_of_true ⟨g, hg⟩ ⟨orientation, horientation⟩
  · rw [hg, hmissing]
    simp

theorem GyroPointer.new_eq_error_iff :
    GyroPointer.new c live = .error error ↔ c.Refuses .gyroMouse error := by
  rcases new_eq_ok_or_missing c live with ⟨g, orientation, hg, horientation⟩ | ⟨setting, hg, hmissing⟩
  · rw [hg]
    refine iff_of_false (by rintro ⟨⟩) ?_
    rintro ⟨first⟩
    cases horientation.symm.trans (GyroSettings.orientation_eq_error_iff.2 first)
  · rw [hg, Except.error.injEq]
    constructor
    · rintro rfl
      exact .missing (GyroSettings.orientation_eq_error_iff.1 hmissing)
    · rintro ⟨first⟩
      cases hmissing.symm.trans (GyroSettings.orientation_eq_error_iff.2 first)
      rfl

/-- A pipeline is built exactly if the configuration has what the kind of profile asks of it, and
otherwise the error is what the configuration is refused for. -/
theorem Pipeline.new_outcome (kind : ProfileKind) (c : Config) :
    ((∃ p, Pipeline.new kind c = .ok p) ↔ c.Suits kind) ∧
      ∀ error, Pipeline.new kind c = .error error ↔ c.Refuses kind error := by
  have hok : (∃ p, Pipeline.new kind c = .ok p) ↔ ∃ p, Profile.new kind c {} = .ok p :=
    exists_map_eq_ok_iff
  have herror (error : ProfileError) :
      Pipeline.new kind c = .error error ↔ Profile.new kind c {} = .error error := map_eq_error_iff
  simp only [hok, herror]
  cases kind with
  | gamepad =>
    obtain ⟨g, hg, -⟩ := Gamepad.exists_new c {}
    rw [Profile.new, hg]
    exact ⟨iff_of_true ⟨_, rfl⟩ trivial, fun _ => iff_of_false (by rintro ⟨⟩) (by rintro ⟨⟩)⟩
  | desktop =>
    obtain ⟨d, hd⟩ := Desktop.exists_new c {}
    rw [Profile.new, hd]
    exact ⟨iff_of_true ⟨_, rfl⟩ trivial, fun _ => iff_of_false (by rintro ⟨⟩) (by rintro ⟨⟩)⟩
  | tablet =>
    exact ⟨iff_of_true ⟨_, rfl⟩ trivial, fun _ => iff_of_false (by rintro ⟨⟩) (by rintro ⟨⟩)⟩
  | gyroMouse =>
    exact ⟨exists_map_eq_ok_iff.trans GyroPointer.exists_new_iff,
      fun _ => map_eq_error_iff.trans GyroPointer.new_eq_error_iff⟩
  | custom =>
    exact ⟨exists_map_eq_ok_iff.trans Custom.exists_new_iff,
      fun _ => map_eq_error_iff.trans Custom.new_eq_error_iff⟩

-- both faults at once, in two rules
example :
    let fine : RuleEntry := { source := .key Code.btnSouth, target := .key Code.keySpace }
    let east : Modifier := { source := .key Code.btnEast }
    let faulty : RuleEntry := { fine with transform := .linear 1 0 0, modifiers := [east, east] }
    Pipeline.new .custom { rules := [fine, faulty, faulty] } = .error (.rule 1 .zeroDivisor) := by
  rfl

end ControllerRemap
