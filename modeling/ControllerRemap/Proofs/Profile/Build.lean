import ControllerRemap.Profile.Pipeline
import ControllerRemap.Proofs.Remap.Gate

/-! Profiles as they are built. A rule table built from a list of rules holds the rules in
order, correctly indexed and with gates that are up to date, and it can be built if every
rule is valid. -/

namespace ControllerRemap

namespace Remapper

variable {live : Live}

theorem addAll_current {rules : List Rule} {n : Nat} {r r' : Remapper} (h : r.Current live)
    (hr : addAll live n rules r = .ok r') : r'.Current live ∧ r'.rules = r.rules ++ rules := by
  induction rules generalizing n r with
  | nil => cases hr; exact ⟨h, (List.append_nil _).symm⟩
  | cons rule rules ih =>
    rw [addAll] at hr
    cases hv : rule.validate with
    | error e => rw [add_of_invalid r hv] at hr; cases hr
    | ok u =>
      rw [add_of_valid r hv] at hr
      obtain ⟨hc, he⟩ := ih (h.extend hv) hr
      rw [he, rules_extend, List.append_assoc]
      exact ⟨hc, rfl⟩

theorem ofRules_current {rules : List Rule} {r : Remapper} (h : ofRules rules live = .ok r) :
    r.Current live ∧ r.rules = rules :=
  addAll_current (current_empty live) h

theorem exists_addAll {rules : List Rule} (h : ∀ rule ∈ rules, rule.validate = .ok ()) (n : Nat)
    (r : Remapper) : ∃ r', addAll live n rules r = .ok r' := by
  induction rules generalizing n r with
  | nil => exact ⟨r, rfl⟩
  | cons rule rules ih =>
    rw [addAll, add_of_valid r (h rule List.mem_cons_self)]
    exact ih (fun t ht => h t (List.mem_cons_of_mem rule ht)) (n + 1) (r.extend rule live)

end Remapper

/-- A result that comes out of a map went into it. -/
theorem exists_of_map_eq_ok {ε α β : Type} {x : Except ε α} {f : α → β} {b : β}
    (h : x.map f = .ok b) : ∃ a, x = .ok a ∧ f a = b := by
  cases x with
  | error e => cases h
  | ok a => cases h; exact ⟨a, rfl, rfl⟩

theorem map_eq_error_iff {ε α β : Type} {x : Except ε α} {f : α → β} {error : ε} :
    x.map f = .error error ↔ x = .error error := by
  cases x <;> simp [Except.map]

theorem eq_ok_of_toOption {ε α : Type} {x : Except ε α} {a : α} (h : x.toOption = some a) :
    x = .ok a := by
  cases x with
  | error e => cases h
  | ok b =>
    cases h
    rfl

theorem Desktop.of_new {c : Config} {live : Live} {d : Desktop} (h : Desktop.new c live = .ok d) :
    d.remapper.Current live ∧ d.remapper.rules = rules c.layout ∧ d.layout = c.layout ∧
      d.arrows = fourWayPad c.pad.minRadius (arrowButtons c.pad.hapticMagnitude) := by
  rw [Desktop.new] at h
  cases hr : Remapper.ofRules (rules c.layout) live with
  | error e => rw [hr] at h; cases h
  | ok r =>
    rw [hr] at h
    cases h
    obtain ⟨hc, hrules⟩ := Remapper.ofRules_current hr
    exact ⟨hc, hrules, rfl, rfl⟩

theorem GyroPointer.of_new {c : Config} {live : Live} {g : GyroPointer}
    (h : GyroPointer.new c live = .ok g) :
    g.remapper.Current live ∧ g.remapper.rules = rules c.layout ∧
      c.gyro.orientation = .ok g.orientation := by
  rw [GyroPointer.new] at h
  cases ho : c.gyro.orientation with
  | error e => rw [ho] at h; cases h
  | ok orientation =>
    cases hr : Remapper.ofRules (rules c.layout) live with
    | error e => rw [ho, hr] at h; cases h
    | ok r =>
      rw [ho, hr] at h
      cases h
      obtain ⟨hc, hrules⟩ := Remapper.ofRules_current hr
      exact ⟨hc, hrules, rfl⟩

theorem Custom.of_new {c : Config} {live : Live} {p : Custom} (h : Custom.new c live = .ok p) :
    p.remapper.Current live ∧ p.remapper.rules = c.rules.map (·.rule) ∧
      p.regions.regions = c.regions.map (place c.pad.hapticMagnitude) := by
  rw [Custom.new] at h
  cases hr : Remapper.ofRules (c.rules.map (·.rule)) live with
  | error e => rw [hr] at h; cases h
  | ok r =>
    rw [hr] at h
    cases h
    obtain ⟨hc, hrules⟩ := Remapper.ofRules_current hr
    exact ⟨hc, hrules, rfl⟩

namespace Pipeline

/-- A pipeline starts with the profile of its configuration behind the filter. -/
theorem exists_profile_of_new {kind : ProfileKind} {c : Config} {p : Pipeline}
    (h : Pipeline.new kind c = .ok p) : ∃ profile, Profile.new kind c {} = .ok profile ∧
      { filter := c.filter.getD .passAll, profile } = p :=
  exists_of_map_eq_ok h

/-- A custom pipeline starts with the rules and regions of its configuration. -/
theorem new_custom {c : Config} {p : Pipeline} (h : Pipeline.new .custom c = .ok p) :
    ∃ profile : Custom, p = { filter := c.filter.getD .passAll, profile := .custom profile } ∧
      profile.remapper.Current {} ∧ profile.remapper.rules = c.rules.map (·.rule) ∧
      profile.regions.regions = c.regions.map (Custom.place c.pad.hapticMagnitude) := by
  obtain ⟨_, hp, rfl⟩ := exists_profile_of_new h
  obtain ⟨profile, hprofile, rfl⟩ := exists_of_map_eq_ok hp
  exact ⟨profile, rfl, Custom.of_new hprofile⟩

end Pipeline

/-- The rules of a gamepad are valid whatever its layout: none has two modifiers, and none
divides. -/
theorem Gamepad.validate_rules (l : Layout) : ∀ rule ∈ rules l, rule.validate = .ok () := by
  simp only [Rule.validate_eq_ok_iff, rules, List.forall_mem_cons]
  cases l.yAxisDown <;> simp [Rule.plain, Rule.dividesByZero]

/-- A gamepad can be built from every configuration. -/
theorem Gamepad.exists_new (c : Config) (live : Live) : ∃ g, Gamepad.new c live = .ok g ∧
    g.layout = c.layout ∧ g.remapper.Current live ∧ g.remapper.rules = rules c.layout ∧
    g.hat = fourWayPad c.pad.minRadius (hatButtons c.pad.hapticMagnitude) := by
  obtain ⟨r, hr⟩ : ∃ r, Remapper.addAll live 0 (rules c.layout) {} = .ok r :=
    Remapper.exists_addAll (validate_rules c.layout) 0 {}
  obtain ⟨hc, hrules⟩ := Remapper.ofRules_current hr
  rw [Gamepad.new, Remapper.ofRules, hr]
  exact ⟨_, rfl, rfl, hc, hrules, rfl⟩

theorem Gamepad.of_new {c : Config} {live : Live} {g : Gamepad} (h : Gamepad.new c live = .ok g) :
    g.remapper.Current live ∧ g.remapper.rules = rules c.layout ∧ g.layout = c.layout ∧
      g.hat = fourWayPad c.pad.minRadius (hatButtons c.pad.hapticMagnitude) := by
  obtain ⟨_, hnew, hlayout, hcurrent, hrules, hhat⟩ := exists_new c live
  cases hnew.symm.trans h
  exact ⟨hcurrent, hrules, hlayout, hhat⟩

theorem Pipeline.new_gamepad (c : Config) : ∃ profile : Gamepad,
    Pipeline.new .gamepad c =
      .ok { filter := c.filter.getD .passAll, profile := .gamepad profile } ∧
    profile.remapper.Current {} ∧ profile.remapper.rules = Gamepad.rules c.layout ∧
    profile.hat = fourWayPad c.pad.minRadius (Gamepad.hatButtons c.pad.hapticMagnitude) := by
  obtain ⟨profile, hprofile, -, hc, hrules, hhat⟩ := Gamepad.exists_new c {}
  refine ⟨profile, ?_, hc, hrules, hhat⟩
  rw [Pipeline.new, Profile.new, hprofile]
  rfl

/-! ### The rules of a profile -/

namespace ProfileKind

/-- The rules that a profile registers, in order. -/
def rules (c : Config) : ProfileKind → List Rule
  | gamepad => Gamepad.rules c.layout
  | desktop => Desktop.rules c.layout
  | gyroMouse => GyroPointer.rules c.layout
  | tablet => []
  | custom => c.rules.map (·.rule)

end ProfileKind

namespace Profile

def rules : Profile → List Rule
  | gamepad p => p.remapper.rules
  | desktop p => p.remapper.rules
  | gyroMouse p => p.remapper.rules
  | tablet _ => []
  | custom p => p.remapper.rules

def Indexed : Profile → Prop
  | gamepad p => p.remapper.Indexed
  | desktop p => p.remapper.Indexed
  | gyroMouse p => p.remapper.Indexed
  | tablet _ => True
  | custom p => p.remapper.Indexed

end Profile

namespace Profile

variable {kind : ProfileKind} {c : Config} {live : Live} {p : Profile}

/-- The profiles that a configuration builds. -/
inductive Built (c : Config) (live : Live) : ProfileKind → Profile → Prop where
  | gamepad {g : Gamepad} (h : Gamepad.new c live = .ok g) : Built c live .gamepad (gamepad g)
  | desktop {d : Desktop} (h : Desktop.new c live = .ok d) : Built c live .desktop (desktop d)
  | gyroMouse {g : GyroPointer} (h : GyroPointer.new c live = .ok g) :
    Built c live .gyroMouse (gyroMouse g)
  | tablet : Built c live .tablet (tablet (Tablet.new c))
  | custom {p : Custom} (h : Custom.new c live = .ok p) : Built c live .custom (custom p)

theorem built_of_new (h : Profile.new kind c live = .ok p) : Built c live kind p := by
  cases kind with
  | gamepad =>
    rw [Profile.new] at h
    obtain ⟨g, hg, rfl⟩ := exists_of_map_eq_ok h
    exact .gamepad hg
  | desktop =>
    rw [Profile.new] at h
    obtain ⟨d, hd, rfl⟩ := exists_of_map_eq_ok h
    exact .desktop hd
  | gyroMouse =>
    rw [Profile.new] at h
    obtain ⟨g, hg, rfl⟩ := exists_of_map_eq_ok h
    exact .gyroMouse hg
  | tablet =>
    cases h
    exact .tablet
  | custom =>
    rw [Profile.new] at h
    obtain ⟨p, hp, rfl⟩ := exists_of_map_eq_ok h
    exact .custom hp

/-- A profile starts with the rules of its kind. -/
theorem new_rules (h : Profile.new kind c live = .ok p) :
    p.kind = kind ∧ p.Indexed ∧ p.rules = kind.rules c := by
  cases built_of_new h with
  | gamepad hg =>
    obtain ⟨hc, hrules, -⟩ := Gamepad.of_new hg
    exact ⟨rfl, hc.indexed, hrules⟩
  | desktop hd =>
    obtain ⟨hc, hrules, -⟩ := Desktop.of_new hd
    exact ⟨rfl, hc.indexed, hrules⟩
  | gyroMouse hg =>
    obtain ⟨hc, hrules, -⟩ := GyroPointer.of_new hg
    exact ⟨rfl, hc.indexed, hrules⟩
  | tablet => exact ⟨rfl, trivial, rfl⟩
  | custom hp =>
    obtain ⟨hc, hrules, -⟩ := Custom.of_new hp
    exact ⟨rfl, hc.indexed, hrules⟩

end Profile

end ControllerRemap
