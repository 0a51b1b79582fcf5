import ControllerRemap.Proofs.Profile.Hat
import ControllerRemap.Proofs.Surface.Held
import ControllerRemap.Proofs.Surface.Stroke

/-! What a step of a profile changes and where it sends. Handling an event and releasing change
gates, regions, motion and the touch of a finger; the rest of a profile is what it is when idle.
Every event that a step sends is on one of the outputs of the profile or is synchronisation. -/

namespace ControllerRemap

/-! ### Rule tables and regions -/

/-- A rule behind a shut gate. -/
def Slot.shut (s : Slot) : Slot := { s with isOpen := false }

theorem Slot.shut_settled (s : Slot) (e : Event) (live : Live) :
    (s.settled e live).shut = s.shut := by
  rw [settled]
  split <;> rfl

namespace Remapper

/-- The table with all gates shut. -/
def idle (r : Remapper) : Remapper := { r with slots := r.slots.map (·.shut) }

@[simp] theorem rules_idle (r : Remapper) : r.idle.rules = r.rules := by
  simp only [rules, idle, List.map_map]
  rfl

@[simp] theorem targets_idle (r : Remapper) : r.idle.targets = r.targets := by
  simp only [targets, idle, List.map_map]
  rfl

@[simp] theorem indexed_idle {r : Remapper} : r.idle.Indexed ↔ r.Indexed := by
  have hpositions (test : Rule → Bool) : positions (fun s => test s.rule) 0 r.idle.slots =
      positions (fun s => test s.rule) 0 r.slots := positions_map ..
  constructor
  · intro h
    exact ⟨fun c => (h.bySource c).trans (hpositions fun t => t.source = c),
      fun c => (h.byModifier c).trans (hpositions (·.gatedBy c))⟩
  · intro h
    exact ⟨fun c => (h.bySource c).trans (hpositions fun t => t.source = c).symm,
      fun c => (h.byModifier c).trans (hpositions (·.gatedBy c)).symm⟩

/-- Dispatch moves gates only. -/
theorem Indexed.idle_dispatch {r : Remapper} (h : r.Indexed) (e : Event) (live : Live) :
    (r.dispatch e live).1.idle = r.idle := by
  simp only [h.dispatch_eq, scan, idle, List.map_map]
  congr 2
  exact funext fun s => s.shut_settled e live

/-- The channels that rules send on. -/
def outputs (r : Remapper) : List Channel := r.rules.map (·.target)

@[simp] theorem outputs_idle (r : Remapper) : r.idle.outputs = r.outputs := by
  rw [outputs, rules_idle, outputs]

theorem Indexed.mem_outputs_of_dispatch {r : Remapper} (h : r.Indexed) {e o : Event} {live : Live}
    (ho : o ∈ (r.dispatch e live).2) : o.channel ∈ r.outputs := by
  obtain ⟨rule, hrule, hc⟩ := h.channel_of_dispatch ho
  rw [hc]
  exact List.mem_map_of_mem hrule

theorem mem_outputs_of_releaseFrom {seen : List Channel} {slots : List Slot} {o : Event}
    (ho : o ∈ releaseFrom seen slots) : o.channel ∈ slots.map (·.rule.target) := by
  induction slots generalizing seen with
  | nil => cases ho
  | cons s slots ih =>
    rw [releaseFrom] at ho
    split at ho
    · exact List.mem_cons_of_mem _ (ih ho)
    · rcases List.mem_cons.1 ho with rfl | ho
      · exact List.mem_cons_self
      · exact List.mem_cons_of_mem _ (ih ho)

theorem mem_outputs_of_releaseAll {r : Remapper} {o : Event} (ho : o ∈ r.releaseAll) :
    o.channel ∈ r.outputs := by
  have h := mem_outputs_of_releaseFrom ho
  rwa [outputs, rules, List.map_map]

end Remapper

namespace RegionMap

variable {α : Type}

/-- A sweep changes the answers of the regions only. -/
theorem release_sweep (now : Region α → Bool) (m : RegionMap α) :
    (m.sweep now).1.release.1 = m.release.1 := by
  simp [release, sweep, retest, Function.comp_def]

theorem release_release (m : RegionMap α) : m.release.1.release.1 = m.release.1 := release_sweep _ m

/-- The channels that the buttons of regions send on. -/
def outputs (button : α → TouchButton) (m : RegionMap α) : List Channel :=
  m.actions.map fun a => (button a).target

theorem outputs_release (button : α → TouchButton) (m : RegionMap α) :
    m.release.1.outputs button = m.outputs button := by
  rw [outputs, release, sweep_actions, outputs]

theorem mem_outputs_of_sweep (button : α → TouchButton) {now : Region α → Bool} {m : RegionMap α}
    {o : Event} (ho : o ∈ fired button (m.sweep now).2) : o.channel ∈ m.outputs button := by
  obtain ⟨y, hy, hc⟩ := TouchButton.channel_of_fireAll ho
  obtain ⟨⟨a, pressed⟩, hx, rfl⟩ := List.mem_map.1 hy
  rw [hc]
  exact List.mem_map_of_mem (mem_actions_of_sweep hx)

theorem mem_outputs_of_fireAll {now : Region TouchButton → Bool} {m : RegionMap TouchButton}
    {o : Event} (ho : o ∈ (TouchButton.fireAll (m.sweep now).2).events) :
    o.channel ∈ m.outputs id := by
  rw [← fired_id] at ho
  exact mem_outputs_of_sweep id ho

end RegionMap

/-! ### Output frames -/

namespace Event

/-- Events on some channels, and a report after them if a frame ends. -/
def Framed (sends : Channel → Prop) (ends : Bool) (es : List Event) : Prop :=
  ∃ body, (∀ o ∈ body, sends o.channel) ∧ es = body ++ if ends then [.report] else []

namespace Framed

variable {sends also : Channel → Prop} {es : List Event}

theorem unended (h : ∀ o ∈ es, sends o.channel) : Framed sends false es :=
  ⟨es, h, (List.append_nil es).symm⟩

theorem ended (h : ∀ o ∈ es, sends o.channel) : Framed sends true (es ++ [.report]) := ⟨es, h, rfl⟩

theorem nil : Framed sends false [] := unended (List.forall_mem_nil _)

theorem mono (hsends : ∀ c, sends c → also c) {ends : Bool} (h : Framed sends ends es) :
    Framed also ends es := by
  obtain ⟨body, hbody, hes⟩ := h
  exact ⟨body, fun o ho => hsends o.channel (hbody o ho), hes⟩

end Framed

end Event

/-- Whether a step ends a frame. The absolute pointer ends one whenever it sends anything, and
the other profiles do at a report and when they are released. -/
def ProfileKind.endsFrame (reports : Bool) (es : List Event) : ProfileKind → Bool
  | tablet => !es.isEmpty
  | _ => reports

/-! ### Profiles -/

namespace Profile

/-- The profile with nothing pressed, touched or in motion. -/
def idle : Profile → Profile
  | gamepad g => gamepad { g with remapper := g.remapper.idle, hat := g.hat.release.1 }
  | desktop d => desktop { d with
      remapper := d.remapper.idle, arrows := d.arrows.release.1, wheel := .standard }
  | gyroMouse g => gyroMouse { g with remapper := g.remapper.idle, mouse := .standard }
  | tablet t => tablet { t with mapper := t.mapper.release.1 }
  | custom p => custom { p with remapper := p.remapper.idle, regions := p.regions.release.1 }

/-- The channels that a profile sends on, those of synchronisation apart. -/
def outputs : Profile → List Channel
  | gamepad g => g.remapper.outputs ++ g.hat.outputs id
  | desktop d => d.remapper.outputs ++ d.arrows.outputs id ++ [.rel Code.relWheel]
  | gyroMouse g => g.remapper.outputs ++ [.rel Code.relX, .rel Code.relY]
  | tablet _ => TouchMapper.targets
  | custom p => p.remapper.outputs ++ p.regions.outputs PlacedButton.button

theorem kind_idle (p : Profile) : p.idle.kind = p.kind := by cases p <;> rfl

theorem indexed_idle {p : Profile} : p.idle.Indexed ↔ p.Indexed := by
  cases p with
  | tablet => rfl
  | _ => exact Remapper.indexed_idle

theorem outputs_idle (p : Profile) : p.idle.outputs = p.outputs := by
  cases p with
  | tablet t => rfl
  | _ => simp only [idle, outputs, Remapper.outputs_idle, RegionMap.outputs_release]

section

variable {p q : Profile}

theorem indexed_congr (h : q.idle = p.idle) : q.Indexed ↔ p.Indexed := by
  rw [← indexed_idle, h, indexed_idle]

theorem kind_congr (h : q.idle = p.idle) : q.kind = p.kind := by
  rw [← kind_idle, h, kind_idle]

theorem outputs_congr (h : q.idle = p.idle) : q.outputs = p.outputs := by
  rw [← outputs_idle, h, outputs_idle]

end

/-- Every event is on one of some channels or is synchronisation. -/
def SentOn (cs : List Channel) (es : List Event) : Prop :=
  ∀ o ∈ es, o.channel ∈ cs ∨ o.channel.kind = .syn

theorem SentOn.of_framed {cs : List Channel} {ends : Bool} {es : List Event}
    (h : Event.Framed (· ∈ cs) ends es) : SentOn cs es := by
  obtain ⟨body, hbody, rfl⟩ := h
  intro o ho
  rcases List.mem_append.1 ho with ho | ho
  · exact .inl (hbody o ho)
  · cases ends with
    | true =>
      cases List.mem_singleton.1 ho
      exact .inr rfl
    | false => cases ho

/-- What a step of a profile keeps, and where it sends. -/
structure Step (p q : Profile) (r : Response) : Prop where
  idle : q.idle = p.idle
  sent : SentOn p.outputs r.events

theorem Step.refl (p : Profile) : p.Step p {} := ⟨rfl, List.forall_mem_nil _⟩

/-- A step that sends on the outputs of a profile, and after that ends the frame or does not. -/
structure FramedStep (p q : Profile) (ends : Bool) (r : Response) : Prop where
  idle : q.idle = p.idle
  framed : Event.Framed (· ∈ p.outputs) ends r.events

theorem FramedStep.refl (p : Profile) {ends : Bool} (h : ¬ends = true) : p.FramedStep p ends {} := by
  rw [Bool.not_eq_true] at h
  rw [h]
  exact ⟨rfl, .nil⟩

theorem FramedStep.step {p q : Profile} {ends : Bool} {r : Response} (h : p.FramedStep q ends r) :
    p.Step q r :=
  ⟨h.idle, .of_framed h.framed⟩

end Profile

/-! ### Profiles as they are built -/

/-- The channels that a profile of a kind sends on. The layout decides the sources of its rules
only, so but for the custom profile they are fixed. -/
def ProfileKind.outputs (c : Config) : ProfileKind → List Channel
  | gamepad => (Gamepad.rules {}).map (·.target) ++ (Gamepad.hatButtons 0).map (·.target)
  | desktop =>
    (Desktop.rules {}).map (·.target) ++ Desktop.arrowKeys.map .key ++ [.rel Code.relWheel]
  | gyroMouse => (GyroPointer.rules {}).map (·.target) ++ [.rel Code.relX, .rel Code.relY]
  | tablet => TouchMapper.targets
  | custom => c.rules.map (·.target) ++ c.regions.map (·.target)

theorem Profile.new_outputs {kind : ProfileKind} {c : Config} {live : Live} {p : Profile}
    (h : Profile.new kind c live = .ok p) : p.outputs = kind.outputs c := by
  cases built_of_new h with
  | gamepad hg =>
    obtain ⟨-, hrules, -, hhat⟩ := Gamepad.of_new hg
    rw [outputs, Remapper.outputs, hrules, hhat]
    rfl
  | desktop hd =>
    obtain ⟨-, hrules, -, harrows⟩ := Desktop.of_new hd
    rw [outputs, Remapper.outputs, hrules, harrows]
    rfl
  | gyroMouse hg =>
    obtain ⟨-, hrules, -⟩ := GyroPointer.of_new hg
    rw [outputs, Remapper.outputs, hrules]
    rfl
  | tablet => rfl
  | custom hp =>
    obtain ⟨-, hrules, hregions⟩ := Custom.of_new hp
    rw [outputs, Remapper.outputs, hrules, RegionMap.outputs, RegionMap.actions, hregions,
      List.map_map, List.map_map, List.map_map]
    rfl

/-! ### Handling and releasing -/

section Steps

variable (e : Event) (live : Live)

open Profile

theorem Gamepad.handle_step {g : Gamepad} (h : g.remapper.Indexed) :
    (gamepad g).FramedStep (.gamepad (g.handle e live).1) e.isReport (g.handle e live).2 := by
  rw [Gamepad.handle]
  split
  · next hkind =>
    have hsyn : e.channel.kind ≠ .syn := by rcases hkind with h | h <;> rw [h] <;> decide
    rw [Event.isReport_of_ne_syn hsyn]
    refine ⟨?_, .unended fun o ho => List.mem_append_left _ (h.mem_outputs_of_dispatch ho)⟩
    simp only [idle, h.idle_dispatch]
  · split
    · next hreport =>
      obtain ⟨now, hnow⟩ := g.exists_sweepHat live
      rw [hnow, hreport]
      refine ⟨?_, .ended fun o ho => ?_⟩
      · simp only [idle, RegionMap.release_sweep]
      · exact List.mem_append_right _ (RegionMap.mem_outputs_of_fireAll ho)
    · next hreport => exact .refl _ hreport

theorem Desktop.channel_of_scroll {d : Desktop} {o : Event} (ho : o ∈ (d.scroll live).2.events) :
    o.channel = .rel Code.relWheel := by
  rw [scroll] at ho
  split at ho
  · simp only [ticks] at ho
    split at ho
    · cases ho
    · cases List.mem_singleton.1 ho
      rfl
  · cases ho

theorem Desktop.handle_step {d : Desktop} (h : d.remapper.Indexed) :
    (desktop d).FramedStep (.desktop (d.handle e live).1) e.isReport (d.handle e live).2 := by
  rw [Desktop.handle]
  split
  · next hkind =>
    rw [Event.isReport_of_ne_syn (by rw [hkind]; decide)]
    refine ⟨?_, .unended fun o ho => ?_⟩
    · simp only [idle, h.idle_dispatch]
    · exact List.mem_append_left _ (List.mem_append_left _ (h.mem_outputs_of_dispatch ho))
  · split
    · next hreport =>
      rw [hreport]
      refine ⟨?_, .ended (List.forall_mem_append.2 ⟨fun o ho => ?_, fun o ho => ?_⟩)⟩
      · simp only [idle, RegionMap.update, RegionMap.updateEach, RegionMap.release_sweep]
      · exact List.mem_append_left _ (List.mem_append_right _ (RegionMap.mem_outputs_of_fireAll ho))
      · exact List.mem_append_right _ (List.mem_singleton.2 (Desktop.channel_of_scroll live ho))
    · next hreport => exact .refl _ hreport

theorem GyroPointer.channel_of_move {magnitude code : UInt16} {n : Int32} {o : Event}
    (ho : o ∈ (move magnitude code n).events) : o.channel = .rel code := by
  rw [move] at ho
  split at ho
  · cases ho
  · cases List.mem_singleton.1 ho
    rfl

theorem GyroPointer.handle_step {g : GyroPointer} (h : g.remapper.Indexed) :
    (gyroMouse g).FramedStep (.gyroMouse (g.handle e live).1) e.isReport (g.handle e live).2 := by
  rw [GyroPointer.handle]
  split
  · next hkind =>
    rw [Event.isReport_of_ne_syn (by rw [hkind]; decide)]
    refine ⟨?_, .unended fun o ho => List.mem_append_left _ (h.mem_outputs_of_dispatch ho)⟩
    simp only [idle, h.idle_dispatch]
  · split
    · next hreport =>
      rw [hreport]
      refine ⟨rfl, .ended (List.forall_mem_append.2 ⟨fun o ho => ?_, fun o ho => ?_⟩)⟩
      · rw [channel_of_move ho]
        exact List.mem_append_right _ List.mem_cons_self
      · rw [channel_of_move ho]
        exact List.mem_append_right _ (List.mem_cons_of_mem _ List.mem_cons_self)
    · next hreport => exact .refl _ hreport

theorem Custom.handle_step {p : Custom} (h : p.remapper.Indexed) :
    (custom p).FramedStep (.custom (p.handle e live).1) e.isReport (p.handle e live).2 := by
  rw [Custom.handle]
  split
  · split
    · next hreport =>
      rw [hreport]
      refine ⟨?_, .ended fun o ho => ?_⟩
      · simp only [idle, RegionMap.updateEach, RegionMap.release_sweep]
      · exact List.mem_append_right _ (RegionMap.mem_outputs_of_sweep PlacedButton.button ho)
    · next hreport => exact .refl _ hreport
  · next hsyn =>
    rw [Event.isReport_of_ne_syn hsyn]
    refine ⟨?_, .unended fun o ho => List.mem_append_left _ (h.mem_outputs_of_dispatch ho)⟩
    simp only [idle, h.idle_dispatch]

theorem TouchMapper.update_eq_ok {m m' : TouchMapper} {x y : Float} {out : List Event}
    (h : m.update x y = .ok (m', out)) : m' = { m with touching := true } ∧ ∃ px py,
      out = (if m.touching then [] else [⟨tool, 1⟩]) ++
        [⟨.abs Code.absX, px⟩, ⟨.abs Code.absY, py⟩, .report] := by
  obtain ⟨p, -, hm, hout⟩ := position_of_update h
  exact ⟨hm, p.1, p.2, hout⟩

/-- A release of a finger that is not on the surface sends nothing. -/
theorem TouchMapper.framed_release (m : TouchMapper) :
    Event.Framed (· ∈ targets) (!m.release.2.isEmpty) m.release.2 := by
  rw [release]
  cases m.touching with
  | false => exact .nil
  | true =>
    have hlift : ∀ o ∈ [(⟨tool, 0⟩ : Event)], o.channel ∈ targets := by simp [targets]
    exact .ended hlift

theorem TouchMapper.framed_update {m m' : TouchMapper} {x y : Float} {out : List Event}
    (h : m.update x y = .ok (m', out)) : Event.Framed (· ∈ targets) (!out.isEmpty) out := by
  obtain ⟨-, px, py, rfl⟩ := update_eq_ok h
  have hstroke : ∀ o ∈ [(⟨tool, 1⟩ : Event), ⟨.abs Code.absX, px⟩, ⟨.abs Code.absY, py⟩],
      o.channel ∈ targets := by
    simp [targets]
  cases m.touching with
  | false => exact .ended hstroke
  | true => exact .ended (List.forall_mem_cons.1 hstroke).2

theorem TouchMapper.channel_of_fault {m : TouchMapper} {x y : Float} {fault : Fault}
    (h : m.update x y = .error fault) : ∀ o ∈ fault.sent, o.channel ∈ targets := by
  obtain ⟨place, hplace, hsent⟩ := sent_of_fault h
  rw [hsent, List.forall_mem_append]
  constructor
  · cases m.touching <;> simp [targets]
  · rcases hplace with rfl | ⟨px, -, rfl⟩ <;> simp [targets]

/-- The position of the finger, with the second axis growing downward. -/
def Tablet.position (t : Tablet) (live : Live) : Float × Float :=
  let y := live.number t.layout.rightPadY
  (live.number t.layout.rightPadX, if t.layout.yAxisDown then y else -y)

variable {e live}

/-- At the end of a frame the finger moves while it touches the pad. -/
theorem Tablet.handle_of_touch {t : Tablet} (he : e.isReport = true)
    (hheld : live.held t.layout.touchRight = true) :
    t.handle e live = (t.mapper.update (t.position live).1 (t.position live).2).map fun m =>
      ({ t with mapper := m.1 }, .ofEvents m.2) := by
  have hkey : e.channel.kind ≠ .key := by
    rw [Event.kind_of_isReport he]
    decide
  rw [handle, if_neg hkey, he, hheld]
  rfl

/-- Otherwise it stays, or leaves the pad. -/
theorem Tablet.handle_of_not_touch {t : Tablet}
    (h : ¬(e.isReport = true ∧ live.held t.layout.touchRight = true)) :
    t.handle e live = .ok (if e.channel.kind = .key ∧ e.channel = t.layout.touchRight ∧ e.value = 0
      then ({ t with mapper := t.mapper.release.1 }, .ofEvents t.mapper.release.2) else (t, {})) := by
  rw [← Bool.and_eq_true] at h
  rw [handle, if_neg h]
  by_cases hkey : e.channel.kind = .key
  · rw [if_pos hkey]
    by_cases hlift : e.channel = t.layout.touchRight ∧ e.value = 0
    · rw [if_pos hlift, if_pos ⟨hkey, hlift⟩]
    · rw [if_neg hlift, if_neg fun hboth => hlift hboth.2]
  · rw [if_neg hkey, if_neg fun hboth => hkey hboth.1]

theorem Tablet.handle_step {t t' : Tablet} {r : Response} (h : t.handle e live = .ok (t', r)) :
    (tablet t).FramedStep (.tablet t') (!r.events.isEmpty) r := by
  by_cases htouch : e.isReport = true ∧ live.held t.layout.touchRight = true
  · rw [handle_of_touch htouch.1 htouch.2] at h
    obtain ⟨m, hupdate, heq⟩ := exists_of_map_eq_ok h
    cases heq
    obtain ⟨hmapper, -⟩ := TouchMapper.update_eq_ok hupdate
    refine ⟨?_, TouchMapper.framed_update hupdate⟩
    rw [hmapper]
    rfl
  · rw [handle_of_not_touch htouch] at h
    split at h
    · cases h
      exact ⟨rfl, t.mapper.framed_release⟩
    · cases h
      exact .refl _ (by decide)

theorem Tablet.channel_of_fault {t : Tablet} {fault : Fault} (h : t.handle e live = .error fault) :
    ∀ o ∈ fault.sent, o.channel ∈ TouchMapper.targets := by
  by_cases htouch : e.isReport = true ∧ live.held t.layout.touchRight = true
  · rw [handle_of_touch htouch.1 htouch.2] at h
    exact TouchMapper.channel_of_fault (map_eq_error_iff.1 h)
  · rw [handle_of_not_touch htouch] at h
    cases h

/-- What is sent before a fault is on the outputs of the profile too. -/
theorem Profile.channel_of_fault {p : Profile} {fault : Fault} (h : p.handle e live = .error fault) :
    ∀ o ∈ fault.sent, o.channel ∈ p.outputs := by
  cases p with
  | tablet t => exact Tablet.channel_of_fault (map_eq_error_iff.1 h)
  | _ => cases h

variable (e live)

/-- Handling an event changes nothing but state, sends on the outputs of the profile, and ends
the frame at a report. -/
theorem Profile.handle_step {p q : Profile} {r : Response} (h : p.Indexed)
    (hq : p.handle e live = .ok (q, r)) :
    p.FramedStep q (p.kind.endsFrame e.isReport r.events) r := by
  cases p with
  | gamepad g => cases hq; exact g.handle_step e live h
  | desktop d => cases hq; exact d.handle_step e live h
  | gyroMouse g => cases hq; exact g.handle_step e live h
  | custom p => cases hq; exact p.handle_step e live h
  | tablet t =>
    rw [handle] at hq
    obtain ⟨result, ht, heq⟩ := exists_of_map_eq_ok hq
    cases heq
    exact Tablet.handle_step ht

end Steps

/-- So does a release, which ends the frame. -/
theorem Profile.release_step (p : Profile) :
    p.FramedStep p.release.1 (p.kind.endsFrame true p.release.2.events) p.release.2 := by
  have hreleased {cs : List Channel} {fired : List Event} {r : Remapper}
      (hfired : ∀ o ∈ fired, o.channel ∈ cs) (hcs : r.outputs ⊆ cs) :
      Event.Framed (· ∈ cs) true (fired ++ r.releaseAll ++ [.report]) :=
    .ended (List.forall_mem_append.2
      ⟨hfired, fun o ho => hcs (Remapper.mem_outputs_of_releaseAll ho)⟩)
  cases p with
  | gamepad g =>
    refine ⟨?_, hreleased (fun o ho => ?_) (List.subset_append_left _ _)⟩
    · simp only [idle, release, Gamepad.release, RegionMap.release_release]
    · exact List.mem_append_right _ (RegionMap.mem_outputs_of_fireAll ho)
  | desktop d =>
    refine ⟨?_, hreleased (fun o ho => ?_) ?_⟩
    · simp only [idle, release, Desktop.release, RegionMap.release_release]
    · exact List.mem_append_left _ (List.mem_append_right _ (RegionMap.mem_outputs_of_fireAll ho))
    · exact List.Subset.trans (List.subset_append_left _ _) (List.subset_append_left _ _)
  | gyroMouse g =>
    have hnothing : ∀ o ∈ ([] : List Event), o.channel ∈ (gyroMouse g).outputs :=
      List.forall_mem_nil _
    exact ⟨rfl, hreleased hnothing (List.subset_append_left _ _)⟩
  | tablet t => exact ⟨rfl, t.mapper.framed_release⟩
  | custom p =>
    refine ⟨?_, hreleased (fun o ho => ?_) (List.subset_append_left _ _)⟩
    · simp only [idle, release, Custom.release, RegionMap.release_release]
    · exact List.mem_append_right _ (RegionMap.mem_outputs_of_sweep PlacedButton.button ho)

end ControllerRemap
