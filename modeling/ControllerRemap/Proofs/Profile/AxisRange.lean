import ControllerRemap.Proofs.Device.FirstDeclaration
import ControllerRemap.Proofs.Profile.Declared
import ControllerRemap.Proofs.Profile.Refusal

/-! The ranges of the axes of a custom device. Every absolute axis that a rule or a region sends on
is declared once. An axis entry names a whole channel, but only its number is looked up: the axis
has the range of the first entry with its number, which may be the entry of a key. -/

namespace ControllerRemap

theorem Declaration.abs?_ofChannel? (range : UInt16 → AbsAxis) (c : Channel) :
    (ofChannel? range c).bind abs? = if c.kind = .abs then some (range c.code) else none := by
  have hka : Kind.key ≠ .abs := by decide
  have hra : Kind.rel ≠ .abs := by decide
  rw [ofChannel?]
  split
  · next h => rw [h, if_neg hka]; rfl
  · split
    · next h => rw [h, if_neg hra]; rfl
    · split <;> rfl

/-- Ranges that keep codes are the only ones that axes get. -/
theorem DeviceSpec.filter_abs_channels {range : UInt16 → AbsAxis}
    (hrange : ∀ code, (range code).code = code) {name : String} {cs : List Channel} {c : Channel}
    (hc : c ∈ cs) (hkind : c.kind = .abs) :
    ((named name).channels range cs).abs.filter (·.code = c.code) = [range c.code] := by
  have hlists : ((named name).channels range cs).Lists
      (cs.filterMap (Declaration.ofChannel? range)) := by
    rw [channels_eq]
    exact lists_addAll name _
  have hmem {axis : AbsAxis} :
      axis ∈ (cs.filterMap (Declaration.ofChannel? range)).filterMap Declaration.abs? ↔
        ∃ d ∈ cs, d.kind = .abs ∧ range d.code = axis := by
    simp [List.filterMap_filterMap, Declaration.abs?_ofChannel?]
  refine hlists.abs.filter_eq ?_
  cases hfirst : List.find? (·.code == c.code)
      ((cs.filterMap (Declaration.ofChannel? range)).filterMap Declaration.abs?) with
  | none =>
    have hother := List.find?_eq_none.1 hfirst _ (hmem.2 ⟨c, hc, hkind, rfl⟩)
    exact absurd (beq_iff_eq.2 (hrange c.code)) hother
  | some axis =>
    obtain ⟨d, -, -, rfl⟩ := hmem.1 (List.mem_of_find?_eq_some hfirst)
    have hcode := List.find?_some hfirst
    rw [← eq_of_beq hcode, hrange]

/-- The ends that an axis entry gives, or those of an axis without an entry. -/
def AxisEntry.ends (entry : Option AxisEntry) : Int32 × Int32 :=
  (entry.map fun a => (a.min, a.max)).getD (-32768, 32767)

namespace Config

/-- The first axis entry for a channel. -/
def axisOf? (c : Config) (ch : Channel) : Option AxisEntry := c.axes.find? (·.axis = ch)

/-- The first axis entry for any channel with a number. -/
def axisNumbered? (c : Config) (code : UInt16) : Option AxisEntry :=
  c.axes.find? (·.axis.code = code)

/-- The first entry with the number of an absolute axis is one of an absolute axis, or happens to
give the ends that the axis should have. -/
def Heeds (c : Config) (ch : Channel) : Prop :=
  ∀ entry ∈ c.axisNumbered? ch.code,
    entry.axis.kind = .abs ∨ AxisEntry.ends (some entry) = AxisEntry.ends (c.axisOf? ch)

/-- The configuration without the axis entries that name no absolute axis. -/
def withoutStrayAxes (c : Config) : Config :=
  { c with axes := c.axes.filter (·.axis.kind = .abs) }

variable {c : Config} {ch : Channel}

theorem axisOf?_of_axisNumbered? {entry : AxisEntry}
    (h : c.axisNumbered? ch.code = some entry) (hentry : entry.axis = ch) :
    c.axisOf? ch = some entry := by
  obtain ⟨-, before, after, hsplit, hbefore⟩ := List.find?_eq_some_iff_append.1 h
  refine List.find?_eq_some_iff_append.2 ⟨by simpa using hentry, before, after, hsplit, ?_⟩
  intro a ha
  have hcode := hbefore a ha
  simp only [Bool.not_eq_true', decide_eq_false_iff_not] at hcode ⊢
  exact fun haxis => hcode (congrArg Channel.code haxis)

theorem axisOf?_eq_none (h : c.axisNumbered? ch.code = none) : c.axisOf? ch = none := by
  rw [axisNumbered?, List.find?_eq_none] at h
  rw [axisOf?, List.find?_eq_none]
  intro a ha haxis
  exact h a ha (decide_eq_true (congrArg Channel.code (of_decide_eq_true haxis)))

theorem ends_eq_iff (hkind : ch.kind = .abs) :
    AxisEntry.ends (c.axisNumbered? ch.code) = AxisEntry.ends (c.axisOf? ch) ↔ c.Heeds ch := by
  constructor
  · intro h entry hentry
    rw [Option.mem_def.1 hentry] at h
    exact .inr h
  · intro h
    cases hentry : c.axisNumbered? ch.code with
    | none => rw [axisOf?_eq_none hentry]
    | some entry =>
      rcases h entry hentry with habs | hends
      · have hcode := List.find?_some hentry
        have haxis : entry.axis = ch :=
          Channel.eq_mk_iff.2 ⟨habs.trans hkind.symm, of_decide_eq_true hcode⟩
        rw [axisOf?_of_axisNumbered? hentry haxis]
      · exact hends

theorem axisNumbered?_withoutStrayAxes (hkind : ch.kind = .abs) :
    c.withoutStrayAxes.axisNumbered? ch.code = c.axisOf? ch := by
  rw [axisNumbered?, withoutStrayAxes, List.find?_filter, axisOf?]
  congr 1
  funext a
  have haxis : a.axis = ch ↔ a.axis.kind = .abs ∧ a.axis.code = ch.code := by
    rw [← hkind]
    exact Channel.eq_mk_iff
  simp only [haxis, decide_eq_true_eq]

end Config

namespace Custom

variable {c : Config} {live : Live} {p : Custom} {ch : Channel}

theorem axis_of_new (h : Custom.new c live = .ok p) (code : UInt16) :
    p.axis code = .new code (AxisEntry.ends (c.axisNumbered? code)).1
      (AxisEntry.ends (c.axisNumbered? code)).2 := by
  have haxes : p.axes = c.axes.map fun a => .new a.axis.code a.min a.max := by
    rw [Custom.new] at h
    cases hr : Remapper.ofRules (c.rules.map (·.rule)) live with
    | error e => rw [hr] at h; cases h
    | ok r =>
      rw [hr] at h
      cases h
      rfl
  rw [axis, haxes, List.find?_map]
  change ((c.axisNumbered? code).map fun a => AbsAxis.new a.axis.code a.min a.max).getD _ = _
  cases hentry : c.axisNumbered? code with
  | none => rfl
  | some entry =>
    have hcode := List.find?_some hentry
    exact congrArg (AbsAxis.new · entry.min entry.max) (of_decide_eq_true hcode)

theorem filter_spec (h : Custom.new c live = .ok p)
    (hch : ch ∈ c.rules.map (·.target) ++ c.regions.map (·.target)) (hkind : ch.kind = .abs) :
    p.spec.abs.filter (·.code = ch.code) = [p.axis ch.code] := by
  have hnew : Profile.new .custom c live = .ok (.custom p) := by rw [Profile.new, h]; rfl
  have houtputs : (Profile.custom p).outputs =
      c.rules.map (·.target) ++ c.regions.map (·.target) := Profile.new_outputs hnew
  have hmem : ch ∈ p.targets := by
    rw [targets_eq, List.mem_append, Remapper.mem_targets, ← List.mem_append]
    exact show ch ∈ (Profile.custom p).outputs from houtputs ▸ hch
  exact DeviceSpec.filter_abs_channels p.code_axis hmem hkind

end Custom

namespace Pipeline

/-- Every absolute axis that a rule or a region sends on is declared once, without noise and dead
zone. It has the range of the first axis entry with its number. That is the range of the first entry
for the axis itself, and the range that it would have without the entries for other types of
channels, exactly if the first entry with the number is for an absolute axis or gives the same
range. -/
theorem axis_ranges_iff {c : Config} {p : Pipeline} (hp : Pipeline.new .custom c = .ok p) :
    ∃ q, Pipeline.new .custom c.withoutStrayAxes = .ok q ∧
      ∀ ch ∈ c.rules.map (·.target) ++ c.regions.map (·.target), ch.kind = .abs →
        ∃ axis : AbsAxis, p.spec.abs.filter (·.code = ch.code) = [axis] ∧
          axis.fuzz = 0 ∧ axis.flat = 0 ∧
          (axis.min, axis.max) = AxisEntry.ends (c.axisNumbered? ch.code) ∧
          ((axis.min, axis.max) = AxisEntry.ends (c.axisOf? ch) ↔ c.Heeds ch) ∧
          (q.spec.abs.filter (·.code = ch.code) = [axis] ↔ c.Heeds ch) := by
  obtain ⟨_, hprofile, rfl⟩ := exists_profile_of_new hp
  obtain ⟨profile, hnew, rfl⟩ := exists_of_map_eq_ok hprofile
  have hsuits : c.Suits .custom := Custom.exists_new_iff.1 ⟨profile, hnew⟩
  obtain ⟨other, hother⟩ : ∃ other, Custom.new c.withoutStrayAxes {} = .ok other :=
    Custom.exists_new_iff.2 hsuits
  refine ⟨_, by rw [Pipeline.new, Profile.new, hother]; rfl, fun ch hch hkind => ?_⟩
  have hp := Custom.filter_spec hnew hch hkind
  have hq := Custom.filter_spec hother hch hkind
  rw [Custom.axis_of_new hnew] at hp
  rw [Custom.axis_of_new hother, Config.axisNumbered?_withoutStrayAxes hkind] at hq
  refine ⟨_, hp, rfl, rfl, rfl, Config.ends_eq_iff hkind, ?_⟩
  have haxes {lo hi lo' hi' : Int32} : [AbsAxis.new ch.code lo hi] = [AbsAxis.new ch.code lo' hi'] ↔
      (lo, hi) = (lo', hi') := by
    simp [AbsAxis.new]
  change List.filter _ other.spec.abs = _ ↔ _
  rw [hq, haxes, ← Config.ends_eq_iff hkind, eq_comm]

/-- A rule and a region send on one axis. The entry for a key with its number comes second and the
other entry for the axis third. -/
theorem axis_ranges_of_later_entries :
    let x : Channel := .abs Code.absX
    let c : Config := {
      rules := [{ source := .abs Code.absHat2Y, target := x }]
      regions := [{ x := x, y := x, shape := .rect none none none none, target := x }]
      axes := [⟨x, 0, 255⟩, ⟨.key Code.absX, 1, 2⟩, ⟨x, -1, 1⟩] }
    ∃ p q, Pipeline.new .custom c = .ok p ∧ Pipeline.new .custom c.withoutStrayAxes = .ok q ∧
      x ∈ c.rules.map (·.target) ++ c.regions.map (·.target) ∧ x.kind = .abs ∧ c.Heeds x ∧
      p.spec.abs.filter (·.code = x.code) = [.new Code.absX 0 255] ∧
      q.spec.abs.filter (·.code = x.code) = [.new Code.absX 0 255] := by
  intro x c
  have hp : Pipeline.new .custom c = .ok _ := rfl
  have hmem : x ∈ c.rules.map (·.target) ++ c.regions.map (·.target) := List.mem_cons_self
  have hheeds : c.Heeds x := by
    intro entry hentry
    cases hentry
    exact .inl rfl
  obtain ⟨q, hq, hranges⟩ := axis_ranges_iff hp
  obtain ⟨axis, haxis, -, -, -, -, hsame⟩ := hranges x hmem rfl
  have hx : axis = .new Code.absX 0 255 := by
    have hspec : [AbsAxis.new Code.absX 0 255] = [axis] := haxis
    cases hspec
    rfl
  exact ⟨_, q, hp, hq, hmem, rfl, hheeds, hx ▸ haxis, hx ▸ hsame.2 hheeds⟩

/-- The only axis entry is for a key, whose number is that of the axis that a rule sends on. The
axis has the range of the key instead of the range of an axis without an entry. -/
theorem range_of_key_entry :
    let y : Channel := .abs Code.absY
    let c : Config := {
      rules := [{ source := .abs Code.absHat2Y, target := y }]
      axes := [⟨.key Code.keyEsc, 0, 255⟩] }
    ∃ p, Pipeline.new .custom c = .ok p ∧ c.axisOf? y = none ∧
      p.spec.abs = [.new Code.absY 0 255] ∧ p.spec.abs ≠ [.new Code.absY (-32768) 32767] :=
  ⟨_, rfl, rfl, rfl, by decide⟩

end Pipeline

end ControllerRemap
