import ControllerRemap.Event.Code
import ControllerRemap.Proofs.Device.Declared
import Mathlib.Data.List.Induction
import Mathlib.Data.List.Nodup

/-! Devices by the history of their declarations. Every call that builds a device declares some
keys and axes, one after the other. The device lists each key and axis where it was first declared,
and an absolute axis keeps its first range; a declaration of what is declared already changes
nothing. -/

namespace ControllerRemap

/-! ### First elements of a history -/

section Firsts

variable {α β : Type} [BEq β] [LawfulBEq β] {key : α → β} {history as : List α}

/-- An element that comes last counts if it is new. -/
theorem eraseDups_concat (ks : List β) (k : β) :
    (ks ++ [k]).eraseDups = if k ∈ ks then ks.eraseDups else ks.eraseDups ++ [k] := by
  rw [List.eraseDups_append, List.removeAll]
  by_cases h : k ∈ ks
  · simp [h]
  · simp [h, List.eraseDups_cons]

theorem nodup_eraseDups (ks : List β) : ks.eraseDups.Nodup := by
  induction ks using List.reverseRecOn with
  | nil => exact List.nodup_nil
  | append_singleton ks k ih =>
    rw [eraseDups_concat]
    split
    · exact ih
    · next hk =>
      rw [← List.mem_eraseDups] at hk
      exact List.concat_eq_append ▸ ih.concat hk

/-- A list of the first elements of every key in a history, in order. -/
structure Firsts (key : α → β) (history as : List α) : Prop where
  keys : as.map key = (history.map key).eraseDups
  first : ∀ k, as.find? (key · == k) = history.find? (key · == k)

omit [LawfulBEq β] in
theorem Firsts.nil : Firsts key [] [] := ⟨rfl, fun _ => rfl⟩

theorem Firsts.nodup (h : Firsts key history as) : (as.map key).Nodup := by
  rw [h.keys]
  exact nodup_eraseDups _

theorem Firsts.mem_keys (h : Firsts key history as) {k : β} :
    k ∈ as.map key ↔ k ∈ history.map key := by
  rw [h.keys, List.mem_eraseDups]

/-- Only an element with a new key is declared. -/
theorem declare_eq (key : α → β) (as : List α) (a : α) :
    declare key as a = if key a ∈ as.map key then as else as ++ [a] := by
  have hold : (as.any fun b => key b == key a) = true ↔ key a ∈ as.map key := by
    simp
  simp only [declare, hold]

theorem declare_of_mem {a : α} (h : key a ∈ as.map key) : declare key as a = as := by
  rw [declare_eq, if_pos h]

theorem Firsts.declare (h : Firsts key history as) (a : α) :
    Firsts key (history ++ [a]) (declare key as a) := by
  rw [declare_eq]
  split
  · next hold =>
    refine ⟨?_, fun k => ?_⟩
    · rw [List.map_append, List.map_singleton, eraseDups_concat, if_pos (h.mem_keys.1 hold), h.keys]
    · rw [List.find?_append, ← h.first]
      cases hk : as.find? (key · == k) with
      | some b => rfl
      | none =>
        have hne : ¬key a = k := by
          rintro rfl
          obtain ⟨b, hb, hkey⟩ := List.mem_map.1 hold
          have := List.find?_eq_none.1 hk b hb
          simp [hkey] at this
        simp [hne]
  · next hnew =>
    refine ⟨?_, fun k => ?_⟩
    · rw [List.map_append, List.map_append, List.map_singleton, eraseDups_concat,
        if_neg fun hold => hnew (h.mem_keys.2 hold), h.keys]
    · rw [List.find?_append, List.find?_append, h.first]

section Selected

variable {γ : Type} {f : γ → Option α} {ds : List γ} {d : γ}

omit [LawfulBEq β] in
theorem Firsts.skip (h : Firsts key (ds.filterMap f) as) (hd : f d = none) :
    Firsts key ((ds ++ [d]).filterMap f) as := by
  simpa [hd] using h

theorem Firsts.next (h : Firsts key (ds.filterMap f) as) {a : α} (hd : f d = some a) :
    Firsts key ((ds ++ [d]).filterMap f) (ControllerRemap.declare key as a) := by
  simpa [hd] using h.declare a

end Selected

/-- Each key has one element, the first of the history. -/
theorem Firsts.filter_eq (h : Firsts key history as) {k : β} {a : α}
    (ha : history.find? (key · == k) = some a) : as.filter (key · == k) = [a] := by
  have hnodup := h.nodup
  rw [← h.first] at ha
  clear h
  induction as with
  | nil => cases ha
  | cons b as ih =>
    rw [List.map_cons, List.nodup_cons] at hnodup
    cases hb : key b == k with
    | false =>
      rw [List.find?_cons_of_neg (by simp [hb])] at ha
      rw [List.filter_cons_of_neg (by simp [hb]), ih ha hnodup.2]
    | true =>
      rw [List.find?_cons_of_pos (by exact hb), Option.some_inj] at ha
      have hrest : as.filter (key · == k) = [] := by
        rw [List.filter_eq_nil_iff]
        intro b' hb' hkey
        refine hnodup.1 (List.mem_map.2 ⟨b', hb', ?_⟩)
        rw [eq_of_beq hkey, eq_of_beq hb]
      rw [List.filter_cons_of_pos (by exact hb), hrest, ha]

end Firsts

/-! ### Declarations -/

/-- A key or an axis that a device is to have. -/
inductive Declaration where
  | key (code : UInt16)
  | rel (code : UInt16)
  | abs (axis : AbsAxis)

namespace Declaration

def channel : Declaration → Channel
  | key code => .key code
  | rel code => .rel code
  | abs axis => .abs axis.code

def key? : Declaration → Option UInt16
  | key code => some code
  | _ => none

def rel? : Declaration → Option UInt16
  | rel code => some code
  | _ => none

def abs? : Declaration → Option AbsAxis
  | abs axis => some axis
  | _ => none

/-- What declares a channel, if its type can be declared. -/
def ofChannel? (range : UInt16 → AbsAxis) (c : Channel) : Option Declaration :=
  if c.kind = .key then some (key c.code)
  else if c.kind = .rel then some (rel c.code)
  else if c.kind = .abs then some (abs (range c.code))
  else none

end Declaration

namespace DeviceSpec

def add (s : DeviceSpec) : Declaration → DeviceSpec
  | .key code => s.addKey code
  | .rel code => s.addRel code
  | .abs axis => s.addAbs axis

def addAll (s : DeviceSpec) (ds : List Declaration) : DeviceSpec := ds.foldl add s

/-- A device that lists the first declarations of a history. -/
structure Lists (ds : List Declaration) (s : DeviceSpec) : Prop where
  keys : Firsts id (ds.filterMap Declaration.key?) s.keys
  rel : Firsts id (ds.filterMap Declaration.rel?) s.rel
  abs : Firsts AbsAxis.code (ds.filterMap Declaration.abs?) s.abs

section

variable {s : DeviceSpec} {ds : List Declaration} {d : Declaration} {c : Channel}

theorem Lists.add (h : s.Lists ds) (d : Declaration) : (s.add d).Lists (ds ++ [d]) := by
  obtain ⟨hkeys, hrel, habs⟩ := h
  cases d with
  | key code => exact ⟨hkeys.next rfl, hrel.skip rfl, habs.skip rfl⟩
  | rel code => exact ⟨hkeys.skip rfl, hrel.next rfl, habs.skip rfl⟩
  | abs axis => exact ⟨hkeys.skip rfl, hrel.skip rfl, habs.next rfl⟩

theorem lists_addAll (name : String) (ds : List Declaration) :
    ((named name).addAll ds).Lists ds := by
  induction ds using List.reverseRecOn with
  | nil => exact ⟨.nil, .nil, .nil⟩
  | append_singleton ds d ih =>
    rw [addAll, List.foldl_append]
    exact ih.add d

theorem mem_declared_add : c ∈ (s.add d).declared ↔ c ∈ s.declared ∨ c = d.channel := by
  cases d with
  | key code => exact mem_declared_addKey
  | rel code => exact mem_declared_addRel
  | abs axis => exact mem_declared_addAbs

theorem mem_declared_addAll :
    c ∈ (s.addAll ds).declared ↔ c ∈ s.declared ∨ c ∈ ds.map Declaration.channel := by
  induction ds generalizing s with
  | nil => simp [addAll]
  | cons d ds ih =>
    rw [addAll, List.foldl_cons, ← addAll, ih, mem_declared_add, List.map_cons, List.mem_cons,
      or_assoc]

/-- What is declared already stays as it is. -/
theorem add_of_mem_declared (h : d.channel ∈ s.declared) : s.add d = s := by
  have hcode := mem_declared.1 h
  cases d with
  | key code =>
    have hold : id code ∈ s.keys.map id := by
      simpa [Declaration.channel, Channel.key, Kind.key, Kind.rel, Kind.abs] using hcode
    rw [add, addKey, declare_of_mem hold]
  | rel code =>
    have hold : id code ∈ s.rel.map id := by
      simpa [Declaration.channel, Channel.rel, Kind.key, Kind.rel, Kind.abs] using hcode
    rw [add, addRel, declare_of_mem hold]
  | abs axis =>
    have hold : axis.code ∈ s.abs.map AbsAxis.code := by
      simpa [Declaration.channel, Channel.abs, Kind.key, Kind.rel, Kind.abs] using hcode
    rw [add, addAbs, declare_of_mem hold]

theorem addAll_of_mem_declared (h : ∀ d ∈ ds, d.channel ∈ s.declared) : s.addAll ds = s := by
  induction ds with
  | nil => rfl
  | cons d ds ih =>
    obtain ⟨hd, hds⟩ := List.forall_mem_cons.1 h
    rw [addAll, List.foldl_cons, add_of_mem_declared hd]
    exact ih hds

theorem channel_eq (range : UInt16 → AbsAxis) (s : DeviceSpec) (c : Channel) :
    s.channel range c = s.addAll (Declaration.ofChannel? range c).toList := by
  rw [channel, Declaration.ofChannel?]
  split
  · rfl
  · split
    · rfl
    · split <;> rfl

theorem channels_eq (range : UInt16 → AbsAxis) (s : DeviceSpec) (cs : List Channel) :
    s.channels range cs = s.addAll (cs.filterMap (Declaration.ofChannel? range)) := by
  induction cs generalizing s with
  | nil => rfl
  | cons c cs ih =>
    rw [channels, List.foldl_cons, ← channels, ih, channel_eq]
    cases h : Declaration.ofChannel? range c with
    | none => rw [List.filterMap_cons_none h]; rfl
    | some d => rw [List.filterMap_cons_some h]; rfl

end

/-! ### Calls -/

/-- What may be asked of a device that is being built. -/
inductive Call where
  | key (code : UInt16)
  | keys (codes : List UInt16)
  | rel (code : UInt16)
  | abs (axis : AbsAxis)
  | channel (range : UInt16 → AbsAxis) (c : Channel)

namespace Call

def apply (s : DeviceSpec) : Call → DeviceSpec
  | key code => s.addKey code
  | keys codes => s.addKeys codes
  | rel code => s.addRel code
  | abs axis => s.addAbs axis
  | channel range c => s.channel range c

/-- What a call declares, in order. -/
def declarations : Call → List Declaration
  | key code => [.key code]
  | keys codes => codes.map .key
  | rel code => [.rel code]
  | abs axis => [.abs axis]
  | channel range c => (Declaration.ofChannel? range c).toList

theorem apply_eq (s : DeviceSpec) (call : Call) : call.apply s = s.addAll call.declarations := by
  cases call with
  | keys codes => rw [declarations, addAll, List.foldl_map]; rfl
  | channel range c => exact channel_eq range s c
  | _ => rfl

/-- The channels that a call declares. -/
def declared (call : Call) : List Channel := call.declarations.map (·.channel)

end Call

/-- The device of a name that some calls build. -/
def built (name : String) (calls : List Call) : DeviceSpec := calls.foldl Call.apply (named name)

theorem built_eq (name : String) (calls : List Call) :
    built name calls = (named name).addAll (calls.flatMap Call.declarations) := by
  rw [built, addAll, List.foldl_flatMap]
  congr 1
  exact funext₂ Call.apply_eq

theorem declares_built_iff (name : String) (calls : List Call) (c : Channel) :
    (built name calls).declares c = true ↔ ∃ call ∈ calls, c ∈ call.declared := by
  have hnone : c ∉ (named name).declared := List.not_mem_nil
  rw [declares_iff, built_eq, mem_declared_addAll, or_iff_right hnone, List.map_flatMap,
    List.mem_flatMap]
  rfl

/-- A channel whose type can be declared is declared under its own code if ranges keep codes. -/
theorem declared_channel {range : UInt16 → AbsAxis} {c : Channel}
    (hrange : (range c.code).code = c.code) :
    (Call.channel range c).declared = if c.kind ∈ Kind.declarable then [c] else [] := by
  obtain ⟨kind, code⟩ := c
  rw [Call.declared, Call.declarations, Declaration.ofChannel?]
  simp only [Kind.declarable, List.mem_cons, List.not_mem_nil, or_false]
  split
  · next h => simp [h, Declaration.channel, Channel.key]
  · next hkey =>
    split
    · next h => simp [h, Declaration.channel, Channel.rel]
    · next hrel =>
      split
      · next h => simp [h, Declaration.channel, Channel.abs, hrange]
      · next habs => simp [hkey, hrel, habs]

/-- A channel whose type cannot be declared never is. -/
theorem declares_of_not_declarable {s : DeviceSpec} {c : Channel} (h : c.kind ∉ Kind.declarable) :
    s.declares c = false := by
  simp only [Kind.declarable, List.mem_cons, List.not_mem_nil, or_false, not_or] at h
  rw [declares, if_neg h.1, if_neg h.2.1, if_neg h.2.2]

/-- The device that any calls build lists every key, relative axis and absolute axis once, in the
order of first declaration. The axis of a code is the first that was declared for it. A channel
counts as declared exactly if some call declared it, and a channel of another type never does. Calls
that come again change nothing. -/
theorem first_declaration_wins (name : String) (calls : List Call) :
    let s := built name calls
    let ds := calls.flatMap Call.declarations
    (s.keys.Nodup ∧ s.keys = (ds.filterMap Declaration.key?).eraseDups) ∧
      (s.rel.Nodup ∧ s.rel = (ds.filterMap Declaration.rel?).eraseDups) ∧
      ((s.abs.map (·.code)).Nodup ∧
        s.abs.map (·.code) = ((ds.filterMap Declaration.abs?).map (·.code)).eraseDups) ∧
      (∀ code, s.abs.find? (·.code == code) =
        (ds.filterMap Declaration.abs?).find? (·.code == code)) ∧
      (∀ c, s.declares c = true ↔ ∃ call ∈ calls, c ∈ call.declared) ∧
      (∀ range c, (range c.code).code = c.code →
        (Call.channel range c).declared = if c.kind ∈ Kind.declarable then [c] else []) ∧
      (∀ c, c.kind ∉ Kind.declarable → s.declares c = false) ∧
      ∀ again ⊆ calls, built name (calls ++ again) = s := by
  intro s ds
  have hlists : s.Lists ds := by
    rw [show s = (named name).addAll ds from built_eq name calls]
    exact lists_addAll name ds
  obtain ⟨hkeys, hrel, habs⟩ := hlists
  have hlist {codes history : List UInt16} (h : Firsts id history codes) :
      codes.Nodup ∧ codes = history.eraseDups := by
    rw [← List.map_id codes, ← List.map_id history]
    exact ⟨h.nodup, h.keys⟩
  refine ⟨hlist hkeys, hlist hrel, ⟨habs.nodup, habs.keys⟩, habs.first, declares_built_iff name calls,
    fun range c => declared_channel, fun c => declares_of_not_declarable, fun again hagain => ?_⟩
  have hdeclared : ∀ d ∈ again.flatMap Call.declarations, d.channel ∈ s.declared := by
    intro d hd
    obtain ⟨call, hcall, hd⟩ := List.mem_flatMap.1 hd
    rw [← declares_iff, declares_built_iff]
    exact ⟨call, hagain hcall, List.mem_map_of_mem hd⟩
  rw [built_eq, List.flatMap_append, addAll, List.foldl_append, ← addAll, ← addAll, ← built_eq]
  exact addAll_of_mem_declared hdeclared

/-- The second key, the wheel and the range of the first axis come again and are passed over, and
synchronisation is not declared. -/
theorem first_declaration_wins_of_repeats :
    let calls : List Call := [.keys [Code.btnLeft, Code.btnRight, Code.btnLeft], .rel Code.relWheel,
      .channel .full (.syn 0), .abs (.stick Code.absX), .channel .full (.abs Code.absX),
      .channel (.new · (-1) 1) (.abs Code.absHat0X), .key Code.btnRight]
    let again : List Call := [.rel Code.relWheel, .channel .full (.abs Code.absX), .key Code.btnRight]
    let s : DeviceSpec := { name := "device", keys := [Code.btnLeft, Code.btnRight],
                            rel := [Code.relWheel],
                            abs := [.stick Code.absX, .new Code.absHat0X (-1) 1] }
    built "device" calls = s ∧ again ⊆ calls ∧ built "device" (calls ++ again) = s ∧
      s.declares (.syn 0) = false := by
  intro calls again s
  have hagain : again ⊆ calls := by simp [again, calls]
  obtain ⟨-, -, -, -, -, -, hnever, hrepeat⟩ := first_declaration_wins "device" calls
  exact ⟨rfl, hagain, hrepeat again hagain, hnever (.syn 0) (by decide)⟩

end DeviceSpec

end ControllerRemap
