import ControllerRemap.Device.Spec
import Mathlib.Tactic.Tauto

/-! The channels that a virtual device declares: those that the calls that built it named, as
far as they are keys, relative axes or absolute axes. -/

namespace ControllerRemap

/-- The types of channels that a device can declare. -/
def Kind.declarable : List Kind := [.key, .rel, .abs]

theorem Channel.eq_mk_iff {kind : Kind} {code : UInt16} {c : Channel} :
    c = ⟨kind, code⟩ ↔ c.kind = kind ∧ c.code = code := by
  cases c
  exact mk.injEq .. ▸ Iff.rfl

theorem Channel.mem_map_mk {kind : Kind} {codes : List UInt16} {c : Channel} :
    c ∈ codes.map (Channel.mk kind) ↔ c.kind = kind ∧ c.code ∈ codes := by
  rw [List.mem_map]
  constructor
  · rintro ⟨code, hcode, rfl⟩
    exact ⟨rfl, hcode⟩
  · rintro ⟨rfl, hcode⟩
    exact ⟨c.code, hcode, rfl⟩

/-- An element that is declared adds its key and no other. -/
theorem mem_map_declare {α β : Type} [BEq β] [LawfulBEq β] (key : α → β) (as : List α) (a : α)
    {b : β} : b ∈ (declare key as a).map key ↔ b ∈ as.map key ∨ b = key a := by
  rw [declare]
  split
  · next h =>
    obtain ⟨a', ha', hkey⟩ := List.any_eq_true.1 h
    have hmem : key a ∈ as.map key := eq_of_beq hkey ▸ List.mem_map_of_mem ha'
    constructor
    · exact .inl
    · rintro (hb | rfl)
      · exact hb
      · exact hmem
  · simp [eq_comm]

namespace DeviceSpec

/-- The declared channels. -/
def declared (s : DeviceSpec) : List Channel :=
  s.keys.map .key ++ s.rel.map .rel ++ (s.abs.map (·.code)).map .abs

section

variable {s : DeviceSpec} {c : Channel}

theorem mem_declared : c ∈ s.declared ↔ c.kind = .key ∧ c.code ∈ s.keys ∨
    c.kind = .rel ∧ c.code ∈ s.rel ∨ c.kind = .abs ∧ c.code ∈ s.abs.map (·.code) := by
  simp only [declared, List.mem_append, or_assoc]
  exact or_congr Channel.mem_map_mk (or_congr Channel.mem_map_mk Channel.mem_map_mk)

theorem declares_iff : s.declares c = true ↔ c ∈ s.declared := by
  have hkr : Kind.key ≠ .rel := by decide
  have hka : Kind.key ≠ .abs := by decide
  have hra : Kind.rel ≠ .abs := by decide
  rw [mem_declared, declares]
  split
  · next h => simp [h, hkr, hka]
  · split
    · next h => simp [h, hkr.symm, hra]
    · split
      · next h => simp [h, hka.symm, hra.symm]
      · next h₁ h₂ h₃ => simp [h₁, h₂, h₃]

theorem mem_declared_addKey {code : UInt16} :
    c ∈ (s.addKey code).declared ↔ c ∈ s.declared ∨ c = .key code := by
  have h := mem_map_declare id s.keys code (b := c.code)
  rw [List.map_id, List.map_id] at h
  have hc : c = .key code ↔ c.kind = .key ∧ c.code = code := Channel.eq_mk_iff
  rw [mem_declared, mem_declared, addKey, h, hc, id]
  tauto

theorem mem_declared_addRel {code : UInt16} :
    c ∈ (s.addRel code).declared ↔ c ∈ s.declared ∨ c = .rel code := by
  have h := mem_map_declare id s.rel code (b := c.code)
  rw [List.map_id, List.map_id] at h
  have hc : c = .rel code ↔ c.kind = .rel ∧ c.code = code := Channel.eq_mk_iff
  rw [mem_declared, mem_declared, addRel, h, hc, id]
  tauto

theorem mem_declared_addAbs {axis : AbsAxis} :
    c ∈ (s.addAbs axis).declared ↔ c ∈ s.declared ∨ c = .abs axis.code := by
  have hc : c = .abs axis.code ↔ c.kind = .abs ∧ c.code = axis.code := Channel.eq_mk_iff
  rw [mem_declared, mem_declared, addAbs, mem_map_declare, hc]
  tauto

/-- A channel is declared if its type can be. -/
theorem mem_declared_channel {range : UInt16 → AbsAxis} (hrange : ∀ code, (range code).code = code)
    {d : Channel} : c ∈ (s.channel range d).declared ↔
      c ∈ s.declared ∨ c = d ∧ c.kind ∈ Kind.declarable := by
  have hdeclarable : c.kind ∈ Kind.declarable ↔ c.kind = .key ∨ c.kind = .rel ∨ c.kind = .abs := by
    simp [Kind.declarable]
  obtain ⟨kind, code⟩ := d
  rw [channel, hdeclarable, Channel.eq_mk_iff]
  split
  · next h =>
    rw [mem_declared_addKey, Channel.key, Channel.eq_mk_iff, ← h]
    tauto
  · split
    · next h =>
      rw [mem_declared_addRel, Channel.rel, Channel.eq_mk_iff, ← h]
      tauto
    · split
      · next h =>
        rw [mem_declared_addAbs, Channel.abs, Channel.eq_mk_iff, ← h, hrange]
        tauto
      · next h₁ h₂ h₃ =>
        have hnone : ¬(c.kind = kind ∧ (c.kind = .key ∨ c.kind = .rel ∨ c.kind = .abs)) := by
          rintro ⟨rfl, h⟩
          tauto
        tauto

theorem mem_declared_addKeys {codes : List UInt16} :
    c ∈ (s.addKeys codes).declared ↔ c ∈ s.declared ∨ c ∈ codes.map .key := by
  induction codes generalizing s with
  | nil => simp [addKeys]
  | cons code codes ih =>
    rw [addKeys, List.foldl_cons, ← addKeys, ih, mem_declared_addKey, List.map_cons, List.mem_cons,
      or_assoc]

theorem mem_declared_addAbs_all {axes : List AbsAxis} :
    c ∈ (axes.foldl addAbs s).declared ↔ c ∈ s.declared ∨ c ∈ axes.map fun a => .abs a.code := by
  induction axes generalizing s with
  | nil => simp
  | cons axis axes ih =>
    rw [List.foldl_cons, ih, mem_declared_addAbs, List.map_cons, List.mem_cons, or_assoc]

theorem mem_declared_channels {range : UInt16 → AbsAxis}
    (hrange : ∀ code, (range code).code = code) {ds : List Channel} :
    c ∈ (s.channels range ds).declared ↔
      c ∈ s.declared ∨ c ∈ ds ∧ c.kind ∈ Kind.declarable := by
  induction ds generalizing s with
  | nil => simp [channels]
  | cons d ds ih =>
    rw [channels, List.foldl_cons, ← channels, ih, mem_declared_channel hrange, List.mem_cons]
    tauto

end

end DeviceSpec

end ControllerRemap
