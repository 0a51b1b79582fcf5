import ControllerRemap.Proofs.Profile.Step
import ControllerRemap.Proofs.Remap.Inputs

/-! The channels that a profile uses: those that its rules look at, and the controls that it reads
at the end of a frame. Its answers depend on the live values of no other channel, and an event on
another channel leaves the profile as it is. -/

namespace ControllerRemap

/-! ### The channels that a profile uses -/

/-- The channels that a placed button reads. -/
def PlacedButton.controls (b : PlacedButton) : List Channel := b.x :: b.y :: b.whileHeld.toList

namespace ProfileKind

/-- The channels that a profile of a kind reads at the end of a frame. -/
def controls (c : Config) : ProfileKind → List Channel
  | gamepad => [c.layout.touchLeft, c.layout.clickLeft, c.layout.leftPadX, c.layout.leftPadY]
  | desktop => [c.layout.touchLeft, c.layout.leftPadX, c.layout.leftPadY, c.layout.stickX,
      c.layout.stickY]
  | gyroMouse => [c.gyro.qw, c.gyro.qx, c.gyro.qy, c.gyro.qz].filterMap id
  | tablet => [c.layout.touchRight, c.layout.rightPadX, c.layout.rightPadY]
  | custom => c.regions.flatMap fun r => r.x :: r.y :: r.whileHeld.toList

/-- The sources and modifiers of the rules, and the controls. -/
def inputs (c : Config) (kind : ProfileKind) : List Channel :=
  (kind.rules c).flatMap Rule.inputs ++ kind.controls c

end ProfileKind

namespace Profile

def controls : Profile → List Channel
  | gamepad g => [g.layout.touchLeft, g.layout.clickLeft, g.layout.leftPadX, g.layout.leftPadY]
  | desktop d => [d.layout.touchLeft, d.layout.leftPadX, d.layout.leftPadY, d.layout.stickX,
      d.layout.stickY]
  | gyroMouse g => g.orientation.toList
  | tablet t => [t.layout.touchRight, t.layout.rightPadX, t.layout.rightPadY]
  | custom p => p.regions.actions.flatMap PlacedButton.controls

def inputs (p : Profile) : List Channel := p.rules.flatMap Rule.inputs ++ p.controls

theorem inputs_idle (p : Profile) : p.idle.inputs = p.inputs := by
  cases p with
  | tablet t => rfl
  | custom p =>
    simp only [idle, inputs, rules, controls, Remapper.rules_idle, RegionMap.release,
      RegionMap.sweep_actions]
  | _ => simp only [idle, inputs, rules, controls, Remapper.rules_idle]

theorem inputs_congr {p q : Profile} (h : q.idle = p.idle) : q.inputs = p.inputs := by
  rw [← inputs_idle, h, inputs_idle]

end Profile

theorem GyroSettings.toList_of_orientation {g : GyroSettings} {q : OrientationChannels}
    (h : g.orientation = .ok q) : [g.qw, g.qx, g.qy, g.qz].filterMap id = q.toList := by
  rw [orientation] at h
  split at h
  · next hw hx hy hz =>
    cases h
    rw [hw, hx, hy, hz]
    rfl
  all_goals cases h

/-- A profile uses the channels of its kind. -/
theorem Profile.new_inputs {kind : ProfileKind} {c : Config} {live : Live} {p : Profile}
    (h : Profile.new kind c live = .ok p) : p.inputs = kind.inputs c := by
  obtain ⟨-, -, hrules⟩ := new_rules h
  suffices hcontrols : p.controls = kind.controls c by
    rw [inputs, hrules, hcontrols, ProfileKind.inputs]
  cases built_of_new h with
  | gamepad hg =>
    obtain ⟨-, -, hlayout, -⟩ := Gamepad.of_new hg
    simp only [controls, hlayout, ProfileKind.controls]
  | desktop hd =>
    obtain ⟨-, -, hlayout, -⟩ := Desktop.of_new hd
    simp only [controls, hlayout, ProfileKind.controls]
  | gyroMouse hg =>
    obtain ⟨-, -, horientation⟩ := GyroPointer.of_new hg
    exact (GyroSettings.toList_of_orientation horientation).symm
  | tablet => rfl
  | custom hp =>
    obtain ⟨-, -, hregions⟩ := Custom.of_new hp
    simp only [controls, RegionMap.actions, hregions, ProfileKind.controls, List.map_map,
      List.flatMap_map]
    rfl

/-! ### Answers depend on the used channels -/

namespace Live.AgreeOn

variable {cs : List Channel} {t u : Live} {x y : Channel}

theorem number (h : AgreeOn cs t u) (hx : x ∈ cs) : t.number x = u.number x := by
  rw [Live.number, Live.number, h x hx]

theorem held (h : AgreeOn cs t u) (hx : x ∈ cs) : t.held x = u.held x := by
  rw [Live.held, Live.held, h x hx]

theorem position (h : AgreeOn cs t u) (hx : x ∈ cs) (hy : y ∈ cs) (yAxisDown : Bool) :
    t.position x y yAxisDown = u.position x y yAxisDown := by
  simp only [Live.position, h.number hx, h.number hy]

end Live.AgreeOn

theorem RegionMap.updateEach_congr {α : Type} {f g : α → Option (Float × Float)} {m : RegionMap α}
    (h : ∀ a ∈ m.actions, f a = g a) : m.updateEach f = m.updateEach g := by
  have hregion (r : Region α) (hr : r ∈ m.regions) : f r.action = g r.action :=
    h r.action (List.mem_map_of_mem hr)
  rw [updateEach, updateEach, sweep, sweep, List.map_congr_left fun r hr => by rw [hregion r hr],
    List.flatMap_congr fun r hr => by rw [hregion r hr]]

section Congruence

variable {t u : Live}

open Profile

theorem Gamepad.handle_congr {g : Gamepad} (h : g.remapper.Indexed)
    (hagree : Live.AgreeOn (gamepad g).inputs t u) (e : Event) : g.handle e t = g.handle e u := by
  have hrules := hagree.mono (List.subset_append_left _ _)
  have hcontrols := hagree.mono (List.subset_append_right _ _)
  have hsweep : g.sweepHat t = g.sweepHat u := by
    rw [sweepHat, sweepHat, hcontrols.held (by simp [controls]), hcontrols.held (by simp [controls]),
      hcontrols.position (by simp [controls]) (by simp [controls])]
  rw [handle, handle, h.dispatch_congr hrules, hsweep]

theorem Desktop.handle_congr {d : Desktop} (h : d.remapper.Indexed)
    (hagree : Live.AgreeOn (desktop d).inputs t u) (e : Event) : d.handle e t = d.handle e u := by
  have hrules := hagree.mono (List.subset_append_left _ _)
  have hcontrols := hagree.mono (List.subset_append_right _ _)
  have hscroll : d.scroll t = d.scroll u := by
    rw [scroll, scroll, hcontrols.held (by simp [controls]),
      hcontrols.position (by simp [controls]) (by simp [controls])]
  rw [handle, handle, h.dispatch_congr hrules, hscroll,
    hcontrols.position (by simp [controls]) (by simp [controls])]

theorem GyroPointer.handle_congr {g : GyroPointer} (h : g.remapper.Indexed)
    (hagree : Live.AgreeOn (gyroMouse g).inputs t u) (e : Event) : g.handle e t = g.handle e u := by
  have hrules := hagree.mono (List.subset_append_left _ _)
  have hcontrols := hagree.mono (List.subset_append_right _ _)
  have hnumber (c : Channel) (hc : c ∈ g.orientation.toList) : t.number c = u.number c :=
    hcontrols.number hc
  have hsample : sample g.orientation t = sample g.orientation u := by
    simp only [OrientationChannels.toList, List.forall_mem_cons] at hnumber
    simp only [sample, hnumber]
  rw [handle, handle, h.dispatch_congr hrules, hsample]

theorem Tablet.handle_congr {p : Tablet} (hagree : Live.AgreeOn (tablet p).inputs t u) (e : Event) :
    p.handle e t = p.handle e u := by
  have hcontrols := hagree.mono (List.subset_append_right _ _)
  simp only [handle, hcontrols.held (x := p.layout.touchRight) (by simp [controls]),
    hcontrols.number (x := p.layout.rightPadX) (by simp [controls]),
    hcontrols.number (x := p.layout.rightPadY) (by simp [controls])]

theorem Custom.handle_congr {p : Custom} (h : p.remapper.Indexed)
    (hagree : Live.AgreeOn (custom p).inputs t u) (e : Event) : p.handle e t = p.handle e u := by
  have hrules := hagree.mono (List.subset_append_left _ _)
  have hlocate (b : PlacedButton) (hb : b ∈ p.regions.actions) :
      locate p.yAxisDown t b = locate p.yAxisDown u b := by
    have hcontrols (x : Channel) (hx : x ∈ b.controls) : x ∈ (custom p).inputs :=
      List.mem_append_right _ (List.mem_flatMap.2 ⟨b, hb, hx⟩)
    have hx : b.x ∈ (custom p).inputs := hcontrols b.x (by simp [PlacedButton.controls])
    have hy : b.y ∈ (custom p).inputs := hcontrols b.y (by simp [PlacedButton.controls])
    have hheld : b.whileHeld.all t.held = b.whileHeld.all u.held := by
      cases hw : b.whileHeld with
      | none => rfl
      | some c => exact hagree.held (hcontrols c (by simp [PlacedButton.controls, hw]))
    rw [locate, locate, hheld, hagree.position hx hy]
  rw [handle, handle, h.dispatch_congr hrules, RegionMap.updateEach_congr hlocate]

/-- The used channels alone decide how an event is handled. -/
theorem Profile.handle_congr {p : Profile} (h : p.Indexed) (hagree : Live.AgreeOn p.inputs t u)
    (e : Event) : p.handle e t = p.handle e u := by
  cases p with
  | gamepad g => rw [handle, handle, g.handle_congr h hagree]
  | desktop d => rw [handle, handle, d.handle_congr h hagree]
  | gyroMouse g => rw [handle, handle, g.handle_congr h hagree]
  | tablet p => rw [handle, handle, p.handle_congr hagree]
  | custom p => rw [handle, handle, p.handle_congr h hagree]

end Congruence

/-! ### Events on other channels -/

/-- An event on a channel that is not used does nothing. -/
theorem Profile.handle_of_not_mem {p : Profile} (h : p.Indexed) {e : Event}
    (hsyn : e.channel.kind ≠ .syn) (he : e.channel ∉ p.inputs) (live : Live) :
    p.handle e live = .ok (p, {}) := by
  have hreport := Event.isReport_of_ne_syn hsyn
  have hrules : e.channel ∉ p.rules.flatMap Rule.inputs :=
    fun hc => he (List.mem_append_left _ hc)
  cases p with
  | gamepad g =>
    have hhandle : g.handle e live = (g, {}) := by
      rw [Gamepad.handle, Remapper.Indexed.dispatch_of_not_mem h hrules, hreport]
      split <;> rfl
    rw [handle, hhandle]
  | desktop d =>
    have hhandle : d.handle e live = (d, {}) := by
      rw [Desktop.handle, Remapper.Indexed.dispatch_of_not_mem h hrules, hreport]
      split <;> rfl
    rw [handle, hhandle]
  | gyroMouse g =>
    have hhandle : g.handle e live = (g, {}) := by
      rw [GyroPointer.handle, Remapper.Indexed.dispatch_of_not_mem h hrules, hreport]
      split <;> rfl
    rw [handle, hhandle]
  | tablet p =>
    have htouch : e.channel ≠ p.layout.touchRight := by
      rintro hc
      exact he (hc ▸ List.mem_append_right _ List.mem_cons_self)
    have hhandle : p.handle e live = .ok (p, {}) := by
      simp [Tablet.handle, htouch, hreport]
    rw [handle, hhandle]
    rfl
  | custom p =>
    have hhandle : p.handle e live = (p, {}) := by
      rw [Custom.handle, if_neg hsyn, Remapper.Indexed.dispatch_of_not_mem h hrules]
      rfl
    rw [handle, hhandle]

end ControllerRemap
